import EventText.Proofs.Output.Dressing
import Mathlib.Data.List.Infix

namespace EventText

open Text (encodeChars encodeChars_append)

namespace Buffer

-- A buffer is a list of bytes to which bytes are appended. What is left in the memory behind them
-- never gets into the list, however much was reserved, moved over or filled before.

-- What was reserved for bytes is taken up by them.
theorem drop_window_reserve (b : Buffer) (n : Nat) :
    (b.reserve n).window.drop n = b.window.drop n := by
  rw [reserve, List.drop_append, List.drop_eq_nil_of_le (by simp : _ ≤ n - b.window.length),
    List.append_nil]

theorem window_write (b : Buffer) (content : Bytes) :
    (b.write content).window = b.window.drop content.length := by
  have hroom := le_length_window_reserve b content.length
  rw [write, advance, fillWindow, List.take_of_length_le hroom, List.drop_left,
    drop_window_reserve]

-- What can be done with a buffer. The pieces are those of a formatted text, and the content that is
-- put into the span is the caller's.
inductive Operation
  | write (content : Bytes)
  | writeText (text : String)
  | writeChar (c : Char)
  | writeByte (byte : UInt8)
  | fill (byte : UInt8) (count : Nat)
  | writeFormatted (pieces : List (List Char))
  | reserve (n : Nat)
  | fillSpan (content : Bytes)
  | advance (n : Nat)
  | insertSpaces (start count : Nat)
  | flush
deriving DecidableEq

def Operation.run (b : Buffer) : Operation → Buffer
  | write content => b.write content
  | writeText text => b.writeText text
  | writeChar c => b.writeChars [c]
  | writeByte byte => b.writeByte byte
  | fill byte count => b.fill byte count
  | writeFormatted pieces => pieces.foldl writeChars b
  | reserve n => b.reserve n
  | fillSpan content => b.fillWindow content
  | advance n => b.advance n
  | insertSpaces start count => b.insertSpaces start count
  | flush => b.flush

-- The bytes that were appended, and the ones that the caller has put at the front of the span.
structure Draft where
  bytes : Bytes
  staged : Bytes
deriving DecidableEq

namespace Draft

def append (d : Draft) (content : Bytes) : Draft :=
  ⟨d.bytes ++ content, d.staged.drop content.length⟩

def run (d : Draft) : Operation → Draft
  | .write content => d.append content
  | .writeText text => d.append (Text.encode text)
  | .writeChar c => d.append (String.utf8EncodeChar c)
  | .writeByte byte => d.append [byte]
  | .fill byte count => d.append (List.replicate count byte)
  | .writeFormatted pieces => d.append (encodeChars pieces.flatten)
  | .reserve _ => d
  | .fillSpan content => { d with staged := content ++ d.staged.drop content.length }
  | .advance n => d.append (d.staged.take n)
  | .insertSpaces start count =>
      ⟨d.bytes.take start ++ List.replicate count space ++ d.bytes.drop start, d.staged.drop count⟩
  | .flush => { d with staged := [] }

end Draft

-- Only bytes that the caller has filled are committed, the span has room for what is put into it,
-- and spaces are inserted where something was written.
def Operation.Allowed (b : Buffer) (d : Draft) : Operation → Prop
  | fillSpan content => content.length ≤ b.window.length
  | advance n => n ≤ d.staged.length
  | insertSpaces start _ => start ≤ d.bytes.length
  | _ => True

structure Refines (b : Buffer) (d : Draft) : Prop where
  committed : b.committed = d.bytes
  staged : d.staged <+: b.window

theorem refines_ofBytes (bytes : Bytes) : Refines (ofBytes bytes) ⟨bytes, []⟩ :=
  ⟨committed_ofBytes bytes, List.nil_prefix⟩

namespace Refines

variable {b : Buffer} {d : Draft}

theorem write (h : Refines b d) (content : Bytes) : Refines (b.write content) (d.append content) :=
  ⟨by rw [committed_write, h.committed, Draft.append],
    by rw [window_write]; exact h.staged.drop _⟩

theorem writeFormatted (h : Refines b d) (pieces : List (List Char)) :
    Refines (pieces.foldl writeChars b) (d.append (encodeChars pieces.flatten)) := by
  induction pieces generalizing b d with
  | nil =>
    have hempty : d.append [] = d := by simp [Draft.append]
    rw [List.flatten_nil, show encodeChars [] = [] from rfl, hempty]
    exact h
  | cons piece rest ih =>
    have happend : d.append (encodeChars (piece :: rest).flatten)
        = (d.append (encodeChars piece)).append (encodeChars rest.flatten) := by
      simp [Draft.append, encodeChars_append]
    rw [List.foldl_cons, happend]
    exact ih (h.write (encodeChars piece))

theorem advance (h : Refines b d) {n : Nat} (hn : n ≤ d.staged.length) :
    Refines (b.advance n) (d.append (d.staged.take n)) := by
  have htake : b.window.take n = d.staged.take n := by
    obtain ⟨back, hwindow⟩ := h.staged
    rw [← hwindow, List.take_append_of_le_length hn]
  constructor
  · rw [committed_advance, h.committed, htake, Draft.append]
  · rw [Draft.append, List.length_take, Nat.min_eq_left hn]
    exact h.staged.drop n

theorem insertSpaces (h : Refines b d) (start count : Nat) :
    Refines (b.insertSpaces start count) (d.run (.insertSpaces start count)) := by
  constructor
  · rw [committed_insertSpaces, writtenSince_eq_drop, h.committed, Draft.run]
  · rw [window_insertSpaces, drop_window_reserve]
    exact h.staged.drop count

-- What one operation does to the list is all that it does.
theorem run (h : Refines b d) {operation : Operation} (hallowed : operation.Allowed b d) :
    Refines (operation.run b) (d.run operation) := by
  cases operation with
  | write content => exact h.write content
  | writeText text => exact h.write _
  | writeChar c =>
    have hchar : encodeChars [c] = String.utf8EncodeChar c := List.append_nil _
    rw [Draft.run, ← hchar]
    exact h.write _
  | writeByte byte => exact h.write [byte]
  | fill byte count => exact h.write _
  | writeFormatted pieces => exact h.writeFormatted pieces
  | reserve n => exact ⟨h.committed, h.staged.trans (List.prefix_append _ _)⟩
  | fillSpan content =>
    refine ⟨h.committed, ?_⟩
    have hroom : content.length ≤ b.window.length := hallowed
    rw [Operation.run, fillWindow, List.take_of_length_le hroom]
    exact (List.prefix_append_right_inj content).mpr (h.staged.drop _)
  | advance n => exact h.advance hallowed
  | insertSpaces start count => exact h.insertSpaces start count
  | flush => exact ⟨h.committed, List.nil_prefix⟩

end Refines

-- Each operation is allowed where it is done.
def Permitted (b : Buffer) (d : Draft) : List Operation → Prop
  | [] => True
  | operation :: rest =>
      operation.Allowed b d ∧ Permitted (operation.run b) (d.run operation) rest

theorem Permitted.of_append {b : Buffer} {d : Draft} {front back : List Operation}
    (h : Permitted b d (front ++ back)) : Permitted b d front := by
  induction front generalizing b d with
  | nil => trivial
  | cons operation rest ih => exact ⟨h.1, ih h.2⟩

theorem Refines.foldl_run {b : Buffer} {d : Draft} {operations : List Operation}
    (h : Refines b d) (hpermitted : Permitted b d operations) :
    Refines (operations.foldl Operation.run b) (operations.foldl Draft.run d) := by
  induction operations generalizing b d with
  | nil => exact h
  | cons operation rest ih => exact ih (h.run hpermitted.1) hpermitted.2

theorem refines_appending {bytes : Bytes} {operations : List Operation}
    (h : Permitted (ofBytes bytes) ⟨bytes, []⟩ operations) :
    ∀ front, front <+: operations →
      let b := front.foldl Operation.run (ofBytes bytes)
      let d := front.foldl Draft.run ⟨bytes, []⟩
      b.bytes = d.bytes ++ b.window ∧ b.position = d.bytes.length ∧
        (∀ start, b.writtenSince start = d.bytes.drop start) ∧
        (∀ n, n ≤ (b.reserve n).window.length) ∧ b.flush.bytes = d.bytes := by
  rintro front ⟨back, rfl⟩ b d
  have hrefines : Refines b d := (refines_ofBytes bytes).foldl_run h.of_append
  refine ⟨?_, ?_, fun start => ?_, b.le_length_window_reserve, ?_⟩
  · rw [Buffer.bytes, hrefines.committed]
  · rw [← length_committed, hrefines.committed]
  · rw [writtenSince_eq_drop, hrefines.committed]
  · rw [bytes_flush, hrefines.committed]

-- The padding takes the place of the last bytes that were put into the span, and giving the span up
-- leaves the rest of it out.
theorem refines_appending_padded :
    let operations : List Operation := [.reserve 8, .fillSpan (Text.encode "abcde"), .advance 3,
      .insertSpaces 2 1, .advance 1, .fillSpan (Text.encode "zz"), .flush, .reserve 1,
      .writeFormatted [['é'], ['-', 'x']], .fill 0x2E 2]
    Permitted (ofBytes (Text.encode "> ")) ⟨Text.encode "> ", []⟩ operations ∧
      (operations.foldl Operation.run (ofBytes (Text.encode "> "))).flush.bytes
        = Text.encode ">  abceé-x.." := by
  intro operations
  have hpermitted : Permitted (ofBytes (Text.encode "> ")) ⟨Text.encode "> ", []⟩ operations := by
    simp only [operations, Permitted, Operation.Allowed]
    decide
  obtain ⟨-, -, -, -, hbytes⟩ := refines_appending hpermitted operations List.prefix_rfl
  refine ⟨hpermitted, hbytes.trans ?_⟩
  decide

end Buffer

end EventText
