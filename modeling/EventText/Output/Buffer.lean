import EventText.Number.Digits
import EventText.Text.Utf8

namespace EventText

-- An output buffer: the committed bytes, the newest of them first, and behind them a window that
-- was reserved and holds nothing yet.
structure Buffer where
  newestFirst : Bytes
  window : Bytes
deriving DecidableEq

namespace Buffer

-- Writing starts after the bytes that are already there.
def ofBytes (bytes : Bytes) : Buffer := ⟨bytes.reverse, []⟩

def empty : Buffer := ofBytes []

def position (b : Buffer) : Nat := b.newestFirst.length

def committed (b : Buffer) : Bytes := b.newestFirst.reverse

-- The committed bytes and the window, as they stand in memory.
def bytes (b : Buffer) : Bytes := b.committed ++ b.window

def writtenSince (b : Buffer) (start : Nat) : Bytes :=
  (b.newestFirst.take (b.position - start)).reverse

-- The window is extended by zero bytes until it has at least `n` of them.
def reserve (b : Buffer) (n : Nat) : Buffer :=
  { b with window := b.window ++ List.replicate (n - b.window.length) 0 }

-- Bytes of the window are replaced from its start on, as many as it holds.
def fillWindow (b : Buffer) (content : Bytes) : Buffer :=
  { b with window := content.take b.window.length ++ b.window.drop content.length }

-- The first `n` bytes of the window are committed.
def advance (b : Buffer) (n : Nat) : Buffer :=
  ⟨(b.window.take n).reverseAux b.newestFirst, b.window.drop n⟩

-- Bytes are committed behind the ones before them, over what the window held there.
def write (b : Buffer) (content : Bytes) : Buffer :=
  ((b.reserve content.length).fillWindow content).advance content.length

def writeText (b : Buffer) (text : String) : Buffer := b.write (Text.encode text)

def writeChars (b : Buffer) (chars : List Char) : Buffer :=
  b.write (chars.flatMap String.utf8EncodeChar)

def writeByte (b : Buffer) (byte : UInt8) : Buffer := b.write [byte]

def fill (b : Buffer) (byte : UInt8) (count : Nat) : Buffer :=
  b.write (List.replicate count byte)

def space : UInt8 := 0x20

-- The memory from `start` on: what was written since, and the window behind it.
def memorySince (b : Buffer) (start : Nat) : Bytes := b.writtenSince start ++ b.window

-- Other memory takes the place of the memory from `start` on. The window begins where it did.
def replaceSince (b : Buffer) (start : Nat) (memory : Bytes) : Buffer :=
  let written := b.position - start
  ⟨(memory.take written).reverseAux (b.newestFirst.drop written), memory.drop written⟩

-- Bytes are put over the ones that stand `offset` behind `start`, committed or not.
def overwrite (b : Buffer) (start offset : Nat) (content : Bytes) : Buffer :=
  let memory := b.memorySince start
  b.replaceSince start
    (memory.take offset ++ content ++ memory.drop (offset + content.length))

-- What was written since `start` is moved `count` bytes to the right, into the window, and spaces
-- fill the gap.
def insertSpaces (b : Buffer) (start count : Nat) : Buffer :=
  let reserved := b.reserve count
  let shifted := reserved.overwrite start count (reserved.writtenSince start)
  let filled := shifted.overwrite start 0 (List.replicate count space)
  filled.advance count

-- The window is given up.
def flush (b : Buffer) : Buffer := { b with window := [] }

theorem length_committed (b : Buffer) : b.committed.length = b.position :=
  List.length_reverse

theorem committed_ofBytes (bytes : Bytes) : (ofBytes bytes).committed = bytes :=
  List.reverse_reverse bytes

-- Reserving, filling the window and giving it up change no committed byte.

theorem committed_reserve (b : Buffer) (n : Nat) : (b.reserve n).committed = b.committed := rfl

theorem committed_fillWindow (b : Buffer) (content : Bytes) :
    (b.fillWindow content).committed = b.committed := rfl

theorem bytes_flush (b : Buffer) : b.flush.bytes = b.committed :=
  List.append_nil _

theorem committed_advance (b : Buffer) (n : Nat) :
    (b.advance n).committed = b.committed ++ b.window.take n := by
  simp [advance, committed, List.reverseAux_eq]

theorem le_length_window_reserve (b : Buffer) (n : Nat) : n ≤ (b.reserve n).window.length := by
  simp only [reserve, List.length_append, List.length_replicate]
  omega

-- What is put into a window stands at its start, if the window has room for it.
theorem take_fillWindow {b : Buffer} {content : Bytes} (h : content.length ≤ b.window.length) :
    (b.fillWindow content).window.take content.length = content := by
  simp only [fillWindow, List.take_of_length_le h, List.take_left']

theorem committed_write (b : Buffer) (content : Bytes) :
    (b.write content).committed = b.committed ++ content := by
  rw [write, committed_advance, committed_fillWindow, committed_reserve,
    take_fillWindow (le_length_window_reserve b content.length)]

theorem writtenSince_eq_drop (b : Buffer) (start : Nat) :
    b.writtenSince start = b.committed.drop start := by
  simp only [writtenSince, committed, position, List.reverse_take]
  by_cases h : start ≤ b.newestFirst.length
  · congr 1
    omega
  · rw [List.drop_eq_nil_of_le (by simp; omega), List.drop_eq_nil_of_le (by simp; omega)]

theorem length_writtenSince (b : Buffer) (start : Nat) :
    (b.writtenSince start).length = b.position - start := by
  rw [writtenSince_eq_drop, List.length_drop, length_committed]

theorem reverse_drop_newestFirst (b : Buffer) (start : Nat) :
    (b.newestFirst.drop (b.position - start)).reverse = b.committed.take start := by
  rw [List.reverse_drop, committed, position]
  by_cases h : start ≤ b.newestFirst.length
  · congr 1
    omega
  · rw [List.take_of_length_le (by simp; omega), List.take_of_length_le (by simp; omega)]

theorem committed_replaceSince (b : Buffer) (start : Nat) (memory : Bytes) :
    (b.replaceSince start memory).committed
      = b.committed.take start ++ memory.take (b.position - start) := by
  rw [replaceSince, committed, List.reverseAux_eq, List.reverse_append, List.reverse_reverse,
    reverse_drop_newestFirst]

-- The position stays where it was if the new memory reaches up to it.
theorem position_replaceSince {b : Buffer} {start : Nat} {memory : Bytes}
    (h : b.position - start ≤ memory.length) :
    (b.replaceSince start memory).position = b.position := by
  rw [← length_committed, committed_replaceSince, List.length_append, List.length_take,
    List.length_take, length_committed]
  omega

theorem memorySince_replaceSince (b : Buffer) (start : Nat) (memory : Bytes) :
    (b.replaceSince start memory).memorySince start = memory := by
  rw [memorySince, writtenSince_eq_drop, committed_replaceSince]
  have hbefore : (b.committed.take start ++ memory.take (b.position - start)).drop start
      = memory.take (b.position - start) := by
    by_cases hstart : start ≤ b.position
    · have hlength : (b.committed.take start).length = start := by
        rw [List.length_take, length_committed, Nat.min_eq_left hstart]
      rw [List.drop_left' hlength]
    · rw [Nat.sub_eq_zero_of_le (by omega), List.take_zero, List.append_nil]
      exact List.drop_eq_nil_of_le (by rw [List.length_take]; omega)
  rw [hbefore]
  exact List.take_append_drop _ _

theorem replaceSince_replaceSince {b : Buffer} {start : Nat} {memory other : Bytes}
    (h : b.position - start ≤ memory.length) :
    (b.replaceSince start memory).replaceSince start other = b.replaceSince start other := by
  have hbefore : (b.replaceSince start memory).newestFirst.drop (b.position - start)
      = b.newestFirst.drop (b.position - start) := by
    rw [replaceSince, List.reverseAux_eq, List.drop_left']
    rw [List.length_reverse, List.length_take, Nat.min_eq_left h]
  rw [replaceSince, position_replaceSince h, hbefore]
  rfl

-- Together, the shift and the filling put spaces before what was written since `start`, and this
-- takes up more of the window.
theorem insertSpaces_eq (b : Buffer) (start count : Nat) :
    b.insertSpaces start count = ((b.reserve count).replaceSince start
      (List.replicate count space ++ b.writtenSince start
        ++ (b.reserve count).window.drop count)).advance count := by
  have hroom : count ≤ (b.reserve count).window.length := le_length_window_reserve b count
  have hmemory : (b.reserve count).memorySince start
      = b.writtenSince start ++ (b.reserve count).window := rfl
  have hwritten : (b.reserve count).writtenSince start = b.writtenSince start := rfl
  have hlength : (b.writtenSince start).length = (b.reserve count).position - start :=
    length_writtenSince b start
  have hgap : ((b.writtenSince start ++ (b.reserve count).window).take count).length = count := by
    rw [List.length_take, List.length_append]
    omega
  have hbehind : (b.writtenSince start ++ (b.reserve count).window).drop
      (count + (b.writtenSince start).length) = (b.reserve count).window.drop count := by
    rw [Nat.add_comm, ← List.drop_drop, List.drop_left]
  simp only [insertSpaces, overwrite, hwritten, hmemory, hbehind]
  have hreaches : (b.reserve count).position - start
      ≤ ((b.writtenSince start ++ (b.reserve count).window).take count ++ b.writtenSince start
        ++ (b.reserve count).window.drop count).length := by
    simp only [List.length_append, ← hlength]
    omega
  rw [replaceSince_replaceSince hreaches, memorySince_replaceSince, List.take_zero,
    List.nil_append, List.length_replicate, Nat.zero_add, List.append_assoc (List.take _ _),
    List.drop_left' hgap, ← List.append_assoc]

private theorem length_spaced (b : Buffer) (start count : Nat) :
    (List.replicate count space ++ b.writtenSince start).length
      = (b.reserve count).position - start + count := by
  rw [List.length_append, List.length_replicate, length_writtenSince, Nat.add_comm]
  rfl

theorem committed_insertSpaces (b : Buffer) (start count : Nat) :
    (b.insertSpaces start count).committed
      = b.committed.take start ++ List.replicate count space ++ b.writtenSince start := by
  rw [insertSpaces_eq, committed_advance, committed_replaceSince, committed_reserve, replaceSince,
    List.append_assoc, ← List.take_add, List.take_left' (length_spaced b start count),
    List.append_assoc]

theorem window_insertSpaces (b : Buffer) (start count : Nat) :
    (b.insertSpaces start count).window = (b.reserve count).window.drop count := by
  rw [insertSpaces_eq, advance, replaceSince, List.drop_drop,
    List.drop_left' (length_spaced b start count)]

-- What a formatter reports that wrote more than the bound it had announced.
def exhaustedMessage (what : String) (reserved : Nat) : String :=
  "output buffer exhausted while formatting " ++ what ++ ": " ++ String.ofList (natText reserved)
    ++ " bytes reserved were not enough"

end Buffer

end EventText
