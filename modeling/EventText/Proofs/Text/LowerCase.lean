import EventText.Proofs.Text.Like
import EventText.Proofs.Text.Occurrence
import EventText.Text.Case

namespace EventText.Text

-- Lower case looks around itself at one letter only, the capital sigma. Everywhere else, and there
-- as well if the surroundings agree, it can be taken piece by piece.

-- A capital sigma between the two texts stands at the end of a word.
def endsWord (front back : List Char) : Bool := meetsCased front.reverse && !meetsCased back

def lowerAt (front : List Char) (c : Char) (back : List Char) : List Char :=
  if c = '\u03A3' then if endsWord front back then ['\u03C2'] else ['\u03C3'] else lowerChar c

-- The lower case of a piece of the text `front ++ piece ++ back`.
def lowerWithin (front back : List Char) : List Char → List Char
  | [] => []
  | c :: rest => lowerAt front c (rest ++ back) ++ lowerWithin (front ++ [c]) back rest

theorem lowerFrom_eq (before chars : List Char) :
    lowerFrom before chars = lowerWithin before.reverse [] chars := by
  induction chars generalizing before with
  | nil => rfl
  | cons c rest ih =>
      simp only [lowerFrom, lowerWithin, lowerAt, endsWord, ih, List.reverse_cons,
        List.reverse_reverse, List.append_nil]

theorem lower_eq (chars : List Char) : lower chars = lowerWithin [] [] chars :=
  lowerFrom_eq [] chars

theorem lowerWithin_append (front back left right : List Char) :
    lowerWithin front back (left ++ right)
      = lowerWithin front (right ++ back) left ++ lowerWithin (front ++ left) back right := by
  induction left generalizing front with
  | nil => simp [lowerWithin]
  | cons c rest ih => simp [lowerWithin, ih]

theorem lower_append (front piece back : List Char) :
    lower (front ++ piece ++ back)
      = lowerWithin [] (piece ++ back) front ++ lowerWithin front back piece
          ++ lowerWithin (front ++ piece) [] back := by
  simp only [lower_eq, lowerWithin_append, List.nil_append, List.append_nil]

theorem length_lowerAt (front : List Char) (c : Char) (back : List Char) :
    (lowerAt front c back).length = if c = '\u0130' then 2 else 1 := by
  unfold lowerAt lowerChar
  split
  · next h =>
      subst h
      split <;> rfl
  · split <;> rfl

theorem length_lowerWithin_congr (front back front' back' chars : List Char) :
    (lowerWithin front back chars).length = (lowerWithin front' back' chars).length := by
  induction chars generalizing front front' with
  | nil => rfl
  | cons c rest ih =>
      simp only [lowerWithin, List.length_append, length_lowerAt]
      rw [ih]

-- Only the dotted capital I has a lower case of more than one character.
theorem length_lowerWithin {front back chars : List Char} (hdot : '\u0130' ∉ chars) :
    (lowerWithin front back chars).length = chars.length := by
  induction chars generalizing front with
  | nil => rfl
  | cons c rest ih =>
      obtain ⟨hc, hrest⟩ := List.ne_and_not_mem_of_not_mem_cons hdot
      rw [lowerWithin, List.length_append, length_lowerAt, if_neg (Ne.symm hc), ih hrest,
        List.length_cons, Nat.add_comm]

theorem lowerAt_eq_iff {front back front' back' : List Char} {c : Char} :
    lowerAt front c back = lowerAt front' c back'
      ↔ (c = '\u03A3' → endsWord front back = endsWord front' back') := by
  unfold lowerAt
  split
  · next h =>
      simp only [h, forall_const]
      cases endsWord front back <;> cases endsWord front' back' <;> decide
  · next h => simp [h]

-- The lower case of a piece is the same in two places if its sigmas end words in both alike.
theorem lowerWithin_eq_iff {front back front' back' piece : List Char} :
    lowerWithin front back piece = lowerWithin front' back' piece
      ↔ ∀ left right, piece = left ++ '\u03A3' :: right →
          endsWord (front ++ left) (right ++ back)
            = endsWord (front' ++ left) (right ++ back') := by
  induction piece generalizing front front' with
  | nil => simp [lowerWithin]
  | cons c rest ih =>
      have hlength : (lowerAt front c (rest ++ back)).length
          = (lowerAt front' c (rest ++ back')).length := by
        rw [length_lowerAt, length_lowerAt]
      have hsplit : lowerWithin front back (c :: rest) = lowerWithin front' back' (c :: rest)
          ↔ lowerAt front c (rest ++ back) = lowerAt front' c (rest ++ back') ∧
            lowerWithin (front ++ [c]) back rest = lowerWithin (front' ++ [c]) back' rest :=
        ⟨fun h => List.append_inj h hlength, fun h => congrArg₂ _ h.1 h.2⟩
      rw [hsplit, lowerAt_eq_iff, ih]
      constructor
      · rintro ⟨hhead, hrest⟩ left right hpiece
        cases left with
        | nil =>
            obtain ⟨rfl, rfl⟩ := List.cons.inj hpiece
            simpa using hhead rfl
        | cons d left =>
            obtain ⟨rfl, rfl⟩ := List.cons.inj hpiece
            simpa using hrest left right rfl
      · intro h
        refine ⟨?_, fun left right hpiece => ?_⟩
        · rintro rfl
          simpa using h [] rest rfl
        · simpa using h (c :: left) right (by rw [hpiece, List.cons_append])

-- The capital sigmas of a piece end words of the whole text where they end words of the piece.
def SameEnds (front piece back : List Char) : Prop :=
  ∀ left right, piece = left ++ '\u03A3' :: right →
    endsWord (front ++ left) (right ++ back) = endsWord left right

theorem lowerWithin_eq_lower_iff {front piece back : List Char} :
    lowerWithin front back piece = lower piece ↔ SameEnds front piece back := by
  rw [lower_eq, lowerWithin_eq_iff]
  simp only [SameEnds, List.nil_append, List.append_nil]

-- A piece that stands in a text in such a way that it stands there in lower case as well.

def OccursAlike (text piece : List Char) : Prop :=
  ∃ front back, text = front ++ piece ++ back ∧ SameEnds front piece back

def StartsAlike (text piece : List Char) : Prop :=
  ∃ back, text = piece ++ back ∧ SameEnds [] piece back

def EndsAlike (text piece : List Char) : Prop :=
  ∃ front, text = front ++ piece ∧ SameEnds front piece []

theorem OccursAlike.lower {text piece : List Char} (h : OccursAlike text piece) :
    contains (Text.lower text) (Text.lower piece) = true := by
  obtain ⟨front, back, rfl, hends⟩ := h
  rw [lower_append, lowerWithin_eq_lower_iff.mpr hends]
  exact contains_iff.mpr ⟨_, _, rfl⟩

-- The lower case of a piece has the same length everywhere, so that at the start and at the end of
-- a text it stands in one place only.

theorem startsWith_lower_append {piece back : List Char} :
    startsWith (lower (piece ++ back)) (lower piece) = true ↔ SameEnds [] piece back := by
  have hlower : lower (piece ++ back) = lowerWithin [] back piece ++ lowerWithin piece [] back := by
    simpa [lowerWithin] using lower_append [] piece back
  have hlength : (lowerWithin [] back piece).length = (lower piece).length := by
    rw [lower_eq, length_lowerWithin_congr]
  rw [startsWith_iff, hlower, ← lowerWithin_eq_lower_iff]
  constructor
  · rintro ⟨rest, hrest⟩
    exact (List.append_inj hrest hlength).1
  · intro h
    exact ⟨_, by rw [h]⟩

theorem endsWith_lower_append {front piece : List Char} :
    endsWith (lower (front ++ piece)) (lower piece) = true ↔ SameEnds front piece [] := by
  have hlower : lower (front ++ piece)
      = lowerWithin [] piece front ++ lowerWithin front [] piece := by
    simpa [lowerWithin] using lower_append front piece []
  have hlength : (lowerWithin front [] piece).length = (lower piece).length := by
    rw [lower_eq, length_lowerWithin_congr]
  rw [endsWith_iff, hlower, ← lowerWithin_eq_lower_iff]
  constructor
  · rintro ⟨rest, hrest⟩
    exact (List.append_inj' hrest hlength).2
  · intro h
    exact ⟨_, by rw [h]⟩

theorem startsWith_lower_iff {text piece : List Char} (h : startsWith text piece = true) :
    startsWith (lower text) (lower piece) = true ↔ StartsAlike text piece := by
  obtain ⟨back, rfl⟩ := startsWith_iff.mp h
  rw [startsWith_lower_append]
  constructor
  · intro hends
    exact ⟨back, rfl, hends⟩
  · rintro ⟨other, hother, hends⟩
    rwa [List.append_cancel_left hother]

theorem endsWith_lower_iff {text piece : List Char} (h : endsWith text piece = true) :
    endsWith (lower text) (lower piece) = true ↔ EndsAlike text piece := by
  obtain ⟨front, rfl⟩ := endsWith_iff.mp h
  rw [endsWith_lower_append]
  constructor
  · intro hends
    exact ⟨front, rfl, hends⟩
  · rintro ⟨other, hother, hends⟩
    rwa [List.append_cancel_right hother]

-- From the character with the given number on, the text is the piece if case is ignored.
def StandsAt (text piece : List Char) (n : Nat) : Prop :=
  ∃ front found back, text = front ++ found ++ back ∧ front.length = n ∧
    lowerWithin front back found = lower piece

-- Positions in a text and in its lower case are the same where each character has one in lower
-- case.
theorem standsAt_of_indexOf?_lower {text piece : List Char} {n : Nat} (hdot : '\u0130' ∉ text)
    (h : indexOf? (lower piece) (lower text) = some n) : StandsAt text piece n := by
  obtain ⟨left, right, htext, rfl⟩ := split_of_indexOf? h
  -- the text is cut at the lengths at which its lower case is cut
  have hlength : left.length + (lower piece).length ≤ text.length := by
    rw [← length_lowerWithin hdot, ← lower_eq, htext]
    simp
  obtain ⟨front, rest, rfl, hfront⟩ :
      ∃ front rest, text = front ++ rest ∧ front.length = left.length :=
    ⟨_, _, (List.take_append_drop left.length text).symm, List.length_take_of_le (by omega)⟩
  obtain ⟨found, back, rfl, hfound⟩ :
      ∃ found back, rest = found ++ back ∧ found.length = (lower piece).length :=
    ⟨_, _, (List.take_append_drop (lower piece).length rest).symm,
      List.length_take_of_le (by rw [List.length_append] at hlength; omega)⟩
  rw [← List.append_assoc] at htext hdot
  simp only [List.mem_append, not_or] at hdot
  rw [lower_append] at htext
  have hpieces := (List.append_inj (by simpa only [List.append_assoc] using htext)
    ((length_lowerWithin hdot.1.1).trans hfront)).2
  exact ⟨front, found, back, (List.append_assoc ..).symm, hfront,
    (List.append_inj hpieces ((length_lowerWithin hdot.1.2).trans hfound)).1⟩

namespace Like

-- A cut of a text by a pattern: each character of the pattern with the piece that it takes.

def cutText (cut : List (Char × List Char)) : List Char := cut.flatMap (·.2)

def cutPattern (cut : List (Char × List Char)) : List Char := cut.map (·.1)

-- No underscore takes the one letter with a longer lower case, and the sigmas of the pattern end
-- words of the text where they end words of the pattern. The text and the pattern may have begun
-- before the cut.
def Alike (before beforePattern : List Char) (cut : List (Char × List Char)) : Prop :=
  ∀ left p piece right, cut = left ++ (p, piece) :: right →
    (p = anyOne → piece ≠ ['\u0130']) ∧
      (p = '\u03A3' → endsWord (before ++ cutText left) (cutText right)
        = endsWord (beforePattern ++ cutPattern left) (cutPattern right))

def MatchesAlike (text pattern : List Char) : Prop :=
  ∃ cut : List (Char × List Char), text = cutText cut ∧ pattern = cutPattern cut ∧
    (∀ taken ∈ cut, Takes taken.1 taken.2) ∧ Alike [] [] cut

theorem Matches.append {text text' pattern pattern' : List Char} (h : Matches text pattern)
    (h' : Matches text' pattern') : Matches (text ++ text') (pattern ++ pattern') := by
  obtain ⟨pieces, rfl, hpieces⟩ := h
  obtain ⟨pieces', rfl, hpieces'⟩ := h'
  exact ⟨pieces ++ pieces', List.flatten_append.symm, List.rel_append hpieces hpieces'⟩

theorem matches_singleton {text : List Char} {p : Char} : Matches text [p] ↔ Takes p text := by
  constructor
  · rintro ⟨pieces, rfl, hpieces⟩
    obtain ⟨piece, rest, hpiece, hrest, rfl⟩ := List.forall₂_cons_left_iff.mp hpieces
    obtain rfl := List.forall₂_nil_left_iff.mp hrest
    rwa [List.flatten_singleton]
  · intro h
    exact ⟨[text], List.flatten_singleton.symm, .cons h .nil⟩

theorem takes_self (c : Char) : Takes c [c] := by
  by_cases hrun : c = anyRun
  · rw [hrun]
    exact takes_anyRun _
  · exact (takes_iff_of_ne hrun).mpr ⟨c, rfl, .inr rfl⟩

theorem matches_self (chars : List Char) : Matches chars chars := by
  induction chars with
  | nil => exact matches_nil.mpr rfl
  | cons c rest ih => exact (matches_singleton.mpr (takes_self c)).append ih

theorem lowerAt_anyRun (front back : List Char) : lowerAt front anyRun back = [anyRun] := by
  rw [lowerAt, if_neg (by decide)]
  decide

theorem lowerAt_anyOne (front back : List Char) : lowerAt front anyOne back = [anyOne] := by
  rw [lowerAt, if_neg (by decide)]
  decide

theorem Takes.lower {p : Char} {piece front back front' back' : List Char} (h : Takes p piece)
    (hone : p = anyOne → piece ≠ ['\u0130'])
    (hsigma : p = '\u03A3' → endsWord front back = endsWord front' back') :
    Matches (lowerWithin front back piece) (lowerAt front' p back') := by
  by_cases hrun : p = anyRun
  · rw [hrun, lowerAt_anyRun]
    exact matches_singleton.mpr (takes_anyRun _)
  · obtain ⟨c, rfl, hc⟩ := (takes_iff_of_ne hrun).mp h
    have hpiece : lowerWithin front back [c] = lowerAt front c back := by simp [lowerWithin]
    rw [hpiece]
    obtain rfl | rfl := hc
    · have hdot : c ≠ '\u0130' := fun hc => hone rfl (congrArg (fun d => [d]) hc)
      obtain ⟨d, hd⟩ : ∃ d, lowerAt front c back = [d] :=
        List.length_eq_one_iff.mp (by rw [length_lowerAt, if_neg hdot])
      rw [hd, lowerAt_anyOne]
      exact matches_singleton.mpr ((takes_iff_of_ne hrun).mpr ⟨d, rfl, .inl rfl⟩)
    · rw [lowerAt_eq_iff.mpr hsigma]
      exact matches_self _

-- The pieces are lowered one by one, each with what has been lowered before it in either text.
theorem matches_lowerWithin {before beforePattern : List Char} {cut : List (Char × List Char)}
    (htakes : ∀ taken ∈ cut, Takes taken.1 taken.2) (halike : Alike before beforePattern cut) :
    Matches (lowerWithin before [] (cutText cut))
      (lowerWithin beforePattern [] (cutPattern cut)) := by
  induction cut generalizing before beforePattern with
  | nil => exact matches_nil.mpr rfl
  | cons taken rest ih =>
      obtain ⟨p, piece⟩ := taken
      obtain ⟨htaken, hrest⟩ := List.forall_mem_cons.mp htakes
      obtain ⟨hone, hsigma⟩ := halike [] p piece rest rfl
      have hhead : Matches (lowerWithin before (cutText rest) piece)
          (lowerAt beforePattern p (cutPattern rest)) :=
        htaken.lower hone (by simpa [cutText, cutPattern] using hsigma)
      have htail : Alike (before ++ piece) (beforePattern ++ [p]) rest := by
        intro left q other right hcut
        have hplace := halike ((p, piece) :: left) q other right (by rw [hcut, List.cons_append])
        simpa [cutText, cutPattern] using hplace
      have htext : cutText ((p, piece) :: rest) = piece ++ cutText rest := rfl
      have hpattern : cutPattern ((p, piece) :: rest) = p :: cutPattern rest := rfl
      rw [htext, hpattern, lowerWithin_append, lowerWithin, List.append_nil, List.append_nil]
      exact hhead.append (ih hrest htail)

theorem MatchesAlike.lower {text pattern : List Char} (h : MatchesAlike text pattern) :
    like (Text.lower text) (Text.lower pattern) = true := by
  obtain ⟨cut, rfl, rfl, htakes, halike⟩ := h
  rw [lower_eq, lower_eq]
  exact (describes_rows _ _).whole.mpr (matches_lowerWithin htakes halike)

end Like

end EventText.Text
