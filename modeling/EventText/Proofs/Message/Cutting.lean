import EventText.Proofs.Message.Holes
import EventText.Proofs.Template.Tokens
import Mathlib.Data.List.Chain

namespace EventText

namespace MessageTemplate

open Text (encodeChars)
open Buffer (Appends)

def isBrace (c : Char) : Bool := c == '\x7b' || c == '\x7d'

theorem isBrace_iff {c : Char} : isBrace c = true ↔ c = '\x7b' ∨ c = '\x7d' := by
  simp [isBrace]

theorem isBrace_eq_false_iff {c : Char} : isBrace c = false ↔ c ≠ '\x7b' ∧ c ≠ '\x7d' := by
  simp [isBrace]

-- A brace that is doubled.
def Pairs (c : Char) (rest : List Char) : Prop := isBrace c = true ∧ rest.head? = some c

-- A text with its doubled braces, paired from the left, as single ones.
def collapse : List Char → List Char
  | '\x7b' :: '\x7b' :: rest => '\x7b' :: collapse rest
  | '\x7d' :: '\x7d' :: rest => '\x7d' :: collapse rest
  | c :: rest => c :: collapse rest
  | [] => []

-- The text from each opening brace on that is in no pair.
def openings : List Char → List (List Char)
  | '\x7b' :: '\x7b' :: rest => openings rest
  | '\x7d' :: '\x7d' :: rest => openings rest
  | '\x7b' :: rest => ('\x7b' :: rest) :: openings rest
  | _ :: rest => openings rest
  | [] => []

def StartsHole (chars : List Char) : Prop :=
  ∃ hole : MessageHole, ∃ token, hole.IsWritten token ∧ token <+: chars

-- What a text piece is in front of the rest of its source: no brace in it is paired with one behind
-- it, and none of its single opening braces starts a hole.
structure Plain (piece later : List Char) : Prop where
  pairs : collapse (piece ++ later) = collapse piece ++ collapse later
  openings : ∀ opening ∈ openings piece, ¬ StartsHole (opening ++ later)

-- A message as tokens and the pieces of the source that they stand for. By the grammar of holes the
-- piece of a hole is its raw text.
inductive Cut : List MessageToken → List (List Char) → Prop
  | nil : Cut [] []
  | text {piece : List Char} {tokens : List MessageToken} {pieces : List (List Char)}
      (hne : piece ≠ []) (hplain : Plain piece pieces.flatten)
      (hnext : ∀ token ∈ tokens.head?, token.hole?.isSome) (rest : Cut tokens pieces) :
      Cut (.text (collapse piece) :: tokens) (piece :: pieces)
  | hole {hole : MessageHole} {piece : List Char} {tokens : List MessageToken}
      {pieces : List (List Char)} (hwritten : hole.IsWritten piece) (rest : Cut tokens pieces) :
      Cut (.hole hole :: tokens) (piece :: pieces)

-- The source with the escapes outside its holes collapsed.
def unescaped : List MessageToken → List (List Char) → List Char
  | .text _ :: tokens, piece :: pieces => collapse piece ++ unescaped tokens pieces
  | .hole _ :: tokens, piece :: pieces => piece ++ unescaped tokens pieces
  | _, _ => []

section

variable {c : Char} {rest : List Char}

theorem collapse_pair (hc : isBrace c = true) : collapse (c :: c :: rest) = c :: collapse rest := by
  rcases isBrace_iff.mp hc with rfl | rfl <;> rfl

theorem openings_pair (hc : isBrace c = true) : openings (c :: c :: rest) = openings rest := by
  rcases isBrace_iff.mp hc with rfl | rfl <;> rfl

theorem collapse_single (h : ¬ Pairs c rest) : collapse (c :: rest) = c :: collapse rest := by
  rw [collapse.eq_def (c :: rest)]
  split
  · next heq => grind [Pairs, isBrace]
  · next heq => grind [Pairs, isBrace]
  · next heq => grind
  · next heq => cases heq

theorem openings_single (h : ¬ Pairs c rest) :
    openings (c :: rest) =
      if c = '\x7b' then (c :: rest) :: openings rest else openings rest := by
  rw [openings.eq_def (c :: rest)]
  split
  · next heq => grind [Pairs, isBrace]
  · next heq => grind [Pairs, isBrace]
  · next heq => grind
  · next heq => grind
  · next heq => cases heq

end

theorem startsHole_iff {rest : List Char} :
    StartsHole ('\x7b' :: rest) ↔
      ∃ inner after hole, closing? rest = some (inner, after) ∧ readHole inner = some hole := by
  constructor
  · rintro ⟨hole, token, hwritten, after, hrest⟩
    obtain ⟨inner, rfl, hopen, hclose⟩ := hwritten.exists_inner
    refine ⟨inner, after, hole, closing?_eq_some_iff.mpr ⟨?_, hopen, hclose⟩,
      readHole_of_isWritten hwritten⟩
    simpa using hrest.symm
  · rintro ⟨inner, after, hole, hclosing, hread⟩
    obtain ⟨rfl, hopen, hclose⟩ := closing?_eq_some_iff.mp hclosing
    exact ⟨hole, _, isWritten_of_readHole hopen hclose hread, after, by simp⟩

theorem StartsHole.not_pairs {rest : List Char} (h : StartsHole ('\x7b' :: rest)) :
    ¬ Pairs '\x7b' rest := by
  rintro ⟨-, hhead⟩
  obtain ⟨inner, after, hole, hclosing, hread⟩ := startsHole_iff.mp h
  obtain ⟨rfl, hopen, -⟩ := closing?_eq_some_iff.mp hclosing
  cases inner with
  | nil => cases hhead
  | cons c inner => grind

-- One step of the reader: a pair, a hole or a character for itself.

section

variable {fuel : Nat} {literal rest : List Char} {c : Char}

theorem readFrom_nil : readFrom fuel literal [] = flush literal [] := by
  cases fuel <;> rfl

theorem readFrom_pair (hc : isBrace c = true) :
    readFrom (fuel + 1) literal (c :: c :: rest) = readFrom fuel (literal ++ [c]) rest := by
  rcases isBrace_iff.mp hc with rfl | rfl <;> rfl

theorem readFrom_open (h : ¬ Pairs '\x7b' rest) :
    readFrom (fuel + 1) literal ('\x7b' :: rest) =
      match closing? rest with
      | some (inner, after) =>
          match readHole inner with
          | some hole => flush literal (.hole hole :: readFrom fuel [] after)
          | none => readFrom fuel (literal ++ ['\x7b']) rest
      | none => readFrom fuel (literal ++ ['\x7b']) rest := by
  rewrite [readFrom]
  · rfl
  · rintro rest rfl
    exact h ⟨rfl, rfl⟩

theorem readFrom_hole {hole : MessageHole} {token after : List Char}
    (hwritten : hole.IsWritten token) :
    readFrom (fuel + 1) literal (token ++ after) =
      flush literal (.hole hole :: readFrom fuel [] after) := by
  obtain ⟨inner, rfl, hopen, hclose⟩ := hwritten.exists_inner
  have hclosing : closing? (inner ++ '\x7d' :: after) = some (inner, after) :=
    closing?_eq_some_iff.mpr ⟨rfl, hopen, hclose⟩
  have hpairs : ¬ Pairs '\x7b' (inner ++ '\x7d' :: after) :=
    StartsHole.not_pairs
      (startsHole_iff.mpr ⟨inner, after, hole, hclosing, readHole_of_isWritten hwritten⟩)
  rw [List.cons_append, List.cons_append, List.append_assoc, List.singleton_append,
    readFrom_open hpairs, hclosing]
  simp only [readHole_of_isWritten hwritten]

theorem readFrom_single (hpairs : ¬ Pairs c rest)
    (hhole : c = '\x7b' → ¬ StartsHole (c :: rest)) :
    readFrom (fuel + 1) literal (c :: rest) = readFrom fuel (literal ++ [c]) rest := by
  by_cases hopen : c = '\x7b'
  · subst hopen
    have hnone := startsHole_iff.not.mp (hhole rfl)
    rw [readFrom_open hpairs]
    split
    · next inner after hclosing =>
      split
      · next hole hread => exact absurd ⟨inner, after, hole, hclosing, hread⟩ hnone
      · rfl
    · rfl
  · rw [readFrom.eq_def]
    grind [Pairs, isBrace]

end

namespace Plain

variable {c : Char} {rest later : List Char}

theorem nil (later : List Char) : Plain [] later :=
  ⟨rfl, fun _ hmem => absurd hmem List.not_mem_nil⟩

theorem pair (hc : isBrace c = true) (h : Plain rest later) : Plain (c :: c :: rest) later where
  pairs := by
    rw [List.cons_append, List.cons_append, collapse_pair hc, collapse_pair hc, h.pairs,
      List.cons_append]
  openings := by
    rw [openings_pair hc]
    exact h.openings

theorem not_pairs_of_append (h : ¬ Pairs c (rest ++ later)) : ¬ Pairs c rest := by
  rintro ⟨hc, hhead⟩
  obtain ⟨rest, rfl⟩ := List.head?_eq_some_iff.mp hhead
  exact h ⟨hc, rfl⟩

theorem single (hpairs : ¬ Pairs c (rest ++ later))
    (hhole : c = '\x7b' → ¬ StartsHole (c :: rest ++ later)) (h : Plain rest later) :
    Plain (c :: rest) later where
  pairs := by
    rw [List.cons_append, collapse_single hpairs, collapse_single (not_pairs_of_append hpairs),
      h.pairs, List.cons_append]
  openings := by
    rw [openings_single (not_pairs_of_append hpairs)]
    split
    · next hopen => exact List.forall_mem_cons.mpr ⟨hhole hopen, h.openings⟩
    · exact h.openings

end Plain

theorem collapse_eq_nil_iff {piece : List Char} : collapse piece = [] ↔ piece = [] := by
  fun_cases collapse piece <;> simp

theorem flush_nil (tokens : List MessageToken) : flush [] tokens = tokens := rfl

theorem flush_of_ne_nil {literal : List Char} (h : literal ≠ []) (tokens : List MessageToken) :
    flush literal tokens = .text literal :: tokens :=
  if_neg (by simpa using h)

namespace Cut

variable {tokens : List MessageToken} {piece : List Char} {pieces : List (List Char)}

-- The text before a hole or the end, where there is one, is a piece of its own.
theorem flush (hplain : Plain piece pieces.flatten) (h : Cut tokens pieces)
    (hnext : ∀ token ∈ tokens.head?, token.hole?.isSome) :
    ∃ cuts, Cut (flush (collapse piece) tokens) cuts ∧ cuts.flatten = piece ++ pieces.flatten := by
  by_cases hne : piece = []
  · subst hne
    exact ⟨pieces, h, rfl⟩
  · rw [flush_of_ne_nil (collapse_eq_nil_iff.not.mpr hne)]
    exact ⟨piece :: pieces, .text hne hplain hnext h, rfl⟩

end Cut

-- What the reader makes of a text, whatever it has read since the last hole: the text piece that it
-- is in the middle of, and then tokens that start with a hole.
theorem exists_cut {fuel : Nat} {chars : List Char} (h : chars.length < fuel)
    (literal : List Char) : ∃ piece tokens pieces, chars = piece ++ pieces.flatten ∧
      Plain piece pieces.flatten ∧ Cut tokens pieces ∧ (∀ token ∈ tokens.head?, token.hole?.isSome) ∧
      readFrom fuel literal chars = flush (literal ++ collapse piece) tokens := by
  induction fuel generalizing chars literal with
  | zero => exact absurd h (Nat.not_lt_zero _)
  | succ fuel ih =>
    cases chars with
    | nil =>
      refine ⟨[], [], [], rfl, .nil _, .nil, by simp, ?_⟩
      rw [readFrom_nil, collapse, List.append_nil]
    | cons c rest =>
      by_cases hpairs : Pairs c rest
      · obtain ⟨hc, hhead⟩ := hpairs
        obtain ⟨rest, rfl⟩ := List.head?_eq_some_iff.mp hhead
        have hlength : rest.length < fuel := by
          simp only [List.length_cons] at h
          omega
        obtain ⟨piece, tokens, pieces, rfl, hplain, hcut, hnext, hread⟩ :=
          ih hlength (literal ++ [c])
        refine ⟨c :: c :: piece, tokens, pieces, rfl, hplain.pair hc, hcut, hnext, ?_⟩
        rw [readFrom_pair hc, hread, collapse_pair hc, List.append_assoc, List.singleton_append]
      · by_cases hhole : c = '\x7b' ∧ StartsHole (c :: rest)
        · obtain ⟨rfl, hole, token, hwritten, after, htoken⟩ := hhole
          have hlength : after.length < fuel := by
            have hsum := congrArg List.length htoken
            obtain ⟨inner, rfl, -⟩ := hwritten.exists_inner
            simp at hsum h
            omega
          obtain ⟨piece, tokens, pieces, rfl, hplain, hcut, hnext, hread⟩ := ih hlength []
          obtain ⟨cuts, hcuts, hflatten⟩ := hcut.flush hplain hnext
          refine ⟨[], _, token :: cuts, ?_, .nil _, .hole hwritten hcuts,
            by simp [MessageToken.hole?], ?_⟩
          · rw [List.nil_append, List.flatten_cons, hflatten, htoken]
          · rw [← htoken, readFrom_hole hwritten, hread, collapse, List.append_nil, List.nil_append]
        · have hhole (hopen : c = '\x7b') : ¬ StartsHole (c :: rest) := fun h => hhole ⟨hopen, h⟩
          obtain ⟨piece, tokens, pieces, rfl, hplain, hcut, hnext, hread⟩ :=
            ih (Nat.lt_of_succ_lt_succ h) (literal ++ [c])
          refine ⟨c :: piece, tokens, pieces, rfl, hplain.single hpairs hhole, hcut, hnext, ?_⟩
          rw [readFrom_single hpairs hhole, hread, List.append_assoc,
            collapse_single (Plain.not_pairs_of_append hpairs), List.singleton_append]

theorem exists_cut_read (text : String) : ∃ pieces, pieces.flatten = text.toList ∧
    Cut (read text) pieces := by
  obtain ⟨piece, tokens, pieces, hchars, hplain, hcut, hnext, hread⟩ :=
    exists_cut (Nat.lt_succ_self text.toList.length) []
  obtain ⟨cuts, hcuts, hflatten⟩ := hcut.flush hplain hnext
  refine ⟨cuts, hflatten.trans hchars.symm, ?_⟩
  rw [read, hread]
  exact hcuts

-- Conversely the reader finds the tokens of every cut, so that a source has only one.

namespace Plain

variable {c : Char} {rest later : List Char}

theorem of_pair (hc : isBrace c = true) (h : Plain (c :: c :: rest) later) : Plain rest later where
  pairs := by
    have hpairs := h.pairs
    rw [List.cons_append, List.cons_append, collapse_pair hc, collapse_pair hc,
      List.cons_append] at hpairs
    exact (List.cons.inj hpairs).2
  openings := by
    rw [← openings_pair hc]
    exact h.openings

theorem not_pairs (h : Plain (c :: rest) later) (hlater : later = [] ∨ StartsHole later)
    (hpairs : ¬ Pairs c rest) : ¬ Pairs c (rest ++ later) := by
  rintro ⟨hc, hhead⟩
  cases rest with
  | cons first rest => exact hpairs ⟨hc, hhead⟩
  | nil =>
    obtain ⟨later, rfl⟩ := List.head?_eq_some_iff.mp hhead
    rcases hlater with hnil | hhole
    · cases hnil
    · obtain rfl : c = '\x7b' := by
        obtain ⟨hole, token, hwritten, after, htoken⟩ := hhole
        obtain ⟨inner, rfl, -⟩ := hwritten.exists_inner
        exact (List.cons.inj htoken).1.symm
      -- A pair over the boundary is one character short.
      have hlength := congrArg List.length h.pairs
      rw [List.singleton_append, collapse_pair hc, collapse_single hpairs,
        collapse_single hhole.not_pairs, collapse] at hlength
      simp at hlength

theorem of_single (h : Plain (c :: rest) later) (hpairs : ¬ Pairs c (rest ++ later)) :
    Plain rest later ∧ (c = '\x7b' → ¬ StartsHole (c :: rest ++ later)) := by
  have hsingle := not_pairs_of_append hpairs
  have hcollapse := h.pairs
  have hopenings := h.openings
  rw [List.cons_append, collapse_single hpairs, collapse_single hsingle,
    List.cons_append] at hcollapse
  rw [openings_single hsingle] at hopenings
  split at hopenings
  · obtain ⟨hfirst, hrest⟩ := List.forall_mem_cons.mp hopenings
    exact ⟨⟨(List.cons.inj hcollapse).2, hrest⟩, fun _ => hfirst⟩
  · next hne => exact ⟨⟨(List.cons.inj hcollapse).2, hopenings⟩, fun hopen => absurd hopen hne⟩

theorem readFrom_eq {fuel : Nat} {piece : List Char} (h : Plain piece later)
    (hlater : later = [] ∨ StartsHole later) (hfuel : (piece ++ later).length < fuel)
    (literal : List Char) :
    ∃ fuel', later.length < fuel' ∧ readFrom fuel literal (piece ++ later) =
      readFrom fuel' (literal ++ collapse piece) later := by
  induction fuel generalizing piece literal with
  | zero => exact absurd hfuel (Nat.not_lt_zero _)
  | succ fuel ih =>
    cases piece with
    | nil => exact ⟨fuel + 1, hfuel, by rw [collapse, List.append_nil, List.nil_append]⟩
    | cons c rest =>
      by_cases hpairs : Pairs c rest
      · obtain ⟨hc, hhead⟩ := hpairs
        obtain ⟨rest, rfl⟩ := List.head?_eq_some_iff.mp hhead
        obtain ⟨fuel', hfuel', hread⟩ :=
          ih (h.of_pair hc) (by simp at hfuel ⊢; omega) (literal ++ [c])
        refine ⟨fuel', hfuel', ?_⟩
        rw [List.cons_append, List.cons_append, readFrom_pair hc, hread, collapse_pair hc,
          List.append_assoc, List.singleton_append]
      · have hnone := h.not_pairs hlater hpairs
        obtain ⟨hrest, hhole⟩ := h.of_single hnone
        obtain ⟨fuel', hfuel', hread⟩ :=
          ih hrest (by simp at hfuel ⊢; omega) (literal ++ [c])
        refine ⟨fuel', hfuel', ?_⟩
        rw [List.cons_append, readFrom_single hnone hhole, hread, collapse_single hpairs,
          List.append_assoc, List.singleton_append]

end Plain

namespace Cut

variable {tokens : List MessageToken} {pieces : List (List Char)}

theorem startsHole (h : Cut tokens pieces) (hnext : ∀ token ∈ tokens.head?, token.hole?.isSome) :
    pieces.flatten = [] ∨ StartsHole pieces.flatten := by
  cases h with
  | nil => exact .inl rfl
  | text hne hplain hhead rest => exact absurd (hnext _ rfl) (by simp [MessageToken.hole?])
  | hole hwritten rest => exact .inr ⟨_, _, hwritten, List.prefix_append _ _⟩

theorem readFrom_flatten {fuel : Nat} {literal : List Char} (h : Cut tokens pieces)
    (hfuel : pieces.flatten.length < fuel)
    (hliteral : literal = [] ∨ ∀ token ∈ tokens.head?, token.hole?.isSome) :
    readFrom fuel literal pieces.flatten = MessageTemplate.flush literal tokens := by
  induction h generalizing fuel literal with
  | nil => exact readFrom_nil
  | text hne hplain hnext rest ih =>
    obtain rfl : literal = [] :=
      hliteral.resolve_right fun hhole => absurd (hhole _ rfl) (by simp [MessageToken.hole?])
    rw [List.flatten_cons] at hfuel ⊢
    obtain ⟨fuel', hfuel', hread⟩ := hplain.readFrom_eq (rest.startsHole hnext) hfuel []
    rw [hread, List.nil_append, ih hfuel' (.inr hnext),
      flush_of_ne_nil (collapse_eq_nil_iff.not.mpr hne), flush_nil]
  | @hole hole token tokens pieces hwritten rest ih =>
    cases fuel with
    | zero => exact absurd hfuel (Nat.not_lt_zero _)
    | succ fuel =>
      have hlength : pieces.flatten.length < fuel := by
        obtain ⟨inner, rfl, -⟩ := hwritten.exists_inner
        simp at hfuel ⊢
        omega
      rw [List.flatten_cons, readFrom_hole hwritten, ih hlength (.inl rfl), flush_nil]

theorem read_eq {text : String} (h : Cut tokens pieces) (htext : pieces.flatten = text.toList) :
    read text = tokens := by
  rw [read, ← htext, h.readFrom_flatten (Nat.lt_succ_self _) (.inl rfl), flush_nil]

theorem nil_not_mem (h : Cut tokens pieces) : .text [] ∉ tokens := by
  induction h with
  | nil => exact List.not_mem_nil
  | text hne hplain hnext rest ih =>
    refine fun hmem => (List.mem_cons.mp hmem).elim (fun hnil => ?_) ih
    exact hne (collapse_eq_nil_iff.mp (MessageToken.text.inj hnil).symm)
  | hole hwritten rest ih =>
    exact fun hmem => (List.mem_cons.mp hmem).elim (fun hnil => by cases hnil) ih

-- Two texts never follow each other.
theorem isChain (h : Cut tokens pieces) :
    tokens.IsChain fun first second => first.hole?.isSome ∨ second.hole?.isSome := by
  induction h with
  | nil => exact .nil
  | @text piece tokens pieces hne hplain hnext rest ih =>
    exact List.isChain_cons.mpr ⟨fun token hmem => .inr (hnext token hmem), ih⟩
  | hole hwritten rest ih =>
    exact List.isChain_cons.mpr ⟨fun token hmem => .inl rfl, ih⟩

theorem text_eq_unescaped (h : Cut tokens pieces) (culture : Culture) :
    Message.text culture Properties.empty tokens = unescaped tokens pieces := by
  induction h with
  | nil => rfl
  | text hne hplain hnext rest ih =>
    rw [unescaped, ← ih]
    rfl
  | @hole hole token tokens pieces hwritten rest ih =>
    rw [unescaped, ← ih, ← hwritten.toList_raw]
    rfl

end Cut

-- Reading a message loses nothing: its source can be cut into the pieces that its tokens stand for,
-- and its tokens are the only ones for which it can. Without properties the source comes back, but
-- for the escapes in its texts.
theorem read_lossless (text : String) :
    .text [] ∉ read text ∧
      ((read text).IsChain fun first second => first.hole?.isSome ∨ second.hole?.isSome) ∧
      (∃ pieces, pieces.flatten = text.toList ∧ Cut (read text) pieces ∧
        (∀ culture, Appends
          (fun b => (Message.write ⟨Theme.none, culture⟩ Properties.empty (read text) b).1)
          (encodeChars (unescaped (read text) pieces))) ∧
        ∀ timestamp level exception,
          Event.message ⟨timestamp, level, text, Properties.empty, exception⟩ =
            String.ofList (unescaped (read text) pieces)) ∧
      ∀ tokens pieces, pieces.flatten = text.toList → Cut tokens pieces → tokens = read text := by
  obtain ⟨pieces, hpieces, hcut⟩ := exists_cut_read text
  refine ⟨hcut.nil_not_mem, hcut.isChain, ⟨pieces, hpieces, hcut, fun culture => ?_,
    fun timestamp level exception => ?_⟩, fun tokens cuts hcuts h => (h.read_eq hcuts).symm⟩
  · rw [← hcut.text_eq_unescaped culture]
    exact (Message.counts_write ⟨Theme.none, culture⟩ Properties.empty Theme.coded_none
      (read text)).shows.appends
  · rw [← hcut.text_eq_unescaped Culture.invariant, ← String.toList_inj, Event.toList_message,
      String.toList_ofList]

-- Braces in all places: a pair, a hole that is broken off by another one, one with a space in its
-- name, a stray brace.
example : MessageTemplate.read "\x7b\x7b\x7ba\x7bb\x7d\x7bc d\x7d\x7d" =
    [.text "\x7b\x7ba".toList,
      .hole { name := "b", format := none, alignment := none, raw := "\x7bb\x7d" },
      .text "\x7bc d\x7d".toList] := by
  decide +kernel

end MessageTemplate

end EventText
