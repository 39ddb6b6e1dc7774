import EventText.Proofs.Template.Relocation

namespace EventText

theorem Text.encodedLength_toList (text : String) :
    Text.encodedLength text.toList = text.utf8ByteSize := by
  suffices h : ∀ chars, Text.encodedLength chars = (String.ofList chars).utf8ByteSize by
    rw [h, String.ofList_toList]
  intro chars
  induction chars with
  | nil => rfl
  | cons c rest ih =>
    have hc : (String.ofList [c]).utf8ByteSize = c.utf8Size := String.utf8ByteSize_singleton
    rw [← List.singleton_append, String.ofList_append, String.utf8ByteSize_append, ← ih, hc]
    simp [Text.encodedLength]

namespace Piece

theorem shift_zero (piece : Piece) : piece.shift 0 = piece := by
  cases piece with
  | text chars => rfl
  | placeholder hole =>
    simp only [shift, Placeholder.shift, Expr.shift, Nat.add_zero, Expr.mapPositions_id]
  | directive d position =>
    cases d <;> simp only [shift, Directive.shift, Expr.shift, Nat.add_zero, Expr.mapPositions_id]

-- The pieces of two texts one after the other. Texts that meet become one.
def join : List Piece → List Piece → List Piece
  | [], back => back
  | [text front], text back :: rest => text (front ++ back) :: rest
  | piece :: front, back => piece :: join front back

@[simp] theorem nil_join (back : List Piece) : join [] back = back := rfl

theorem text_join_text (front back : List Char) (rest : List Piece) :
    join [.text front] (.text back :: rest) = .text (front ++ back) :: rest := rfl

theorem cons_join_of_ne_nil (piece : Piece) {front : List Piece} (h : front ≠ [])
    (back : List Piece) : join (piece :: front) back = piece :: join front back := by
  cases front with
  | nil => exact absurd rfl h
  | cons _ _ => cases piece <;> rfl

theorem cons_join_of_ne_text {piece : Piece} (h : ∀ chars, piece ≠ .text chars)
    (front back : List Piece) : join (piece :: front) back = piece :: join front back := by
  cases piece with
  | text chars => exact absurd rfl (h chars)
  | _ => cases front <;> rfl

@[simp] theorem join_nil (front : List Piece) : join front [] = front := by
  induction front with
  | nil => rfl
  | cons piece front ih =>
    cases front with
    | nil => cases piece <;> rfl
    | cons _ _ => rw [cons_join_of_ne_nil piece (List.cons_ne_nil _ _), ih]

theorem join_ne_nil {front : List Piece} (h : front ≠ []) (back : List Piece) :
    join front back ≠ [] := by
  cases front with
  | nil => exact absurd rfl h
  | cons piece front =>
    by_cases hfront : front = []
    · subst hfront
      cases piece with
      | text chars =>
        cases back with
        | nil => exact List.cons_ne_nil _ _
        | cons first rest => cases first <;> exact List.cons_ne_nil _ _
      | _ => exact List.cons_ne_nil _ _
    · rw [cons_join_of_ne_nil piece hfront]
      exact List.cons_ne_nil _ _

theorem join_assoc (front middle back : List Piece) :
    join (join front middle) back = join front (join middle back) := by
  induction front with
  | nil => rw [nil_join, nil_join]
  | cons piece front ih =>
    by_cases hfront : front = []
    · subst hfront
      by_cases htext : ∃ chars, piece = .text chars
      · obtain ⟨chars, rfl⟩ := htext
        match middle with
        | [] => simp only [join_nil, nil_join]
        | [.text inner] =>
          match back with
          | [] => simp only [join_nil]
          | .text last :: rest => simp only [text_join_text, List.append_assoc]
          | .placeholder _ :: _ | .directive _ _ :: _ => rfl
        | .text inner :: next :: rest =>
          have hne := List.cons_ne_nil next rest
          simp only [text_join_text, cons_join_of_ne_nil _ hne]
        | .placeholder _ :: rest | .directive _ _ :: rest => cases rest <;> rfl
      · have htext := not_exists.mp htext
        simp only [cons_join_of_ne_text htext, nil_join]
    · rw [cons_join_of_ne_nil piece hfront, cons_join_of_ne_nil piece (join_ne_nil hfront middle),
        cons_join_of_ne_nil piece hfront, ih]

theorem map_join (distance : Nat) (front back : List Piece) :
    (join front back).map (shift distance) =
      join (front.map (shift distance)) (back.map (shift distance)) := by
  induction front with
  | nil => simp only [nil_join, List.map_nil]
  | cons piece front ih =>
    by_cases hfront : front = []
    · subst hfront
      cases piece with
      | text chars =>
        cases back with
        | nil => simp only [join_nil, List.map_nil]
        | cons first _ => cases first <;> rfl
      | _ => rfl
    · have hne : front.map (shift distance) ≠ [] := by simpa using hfront
      rw [cons_join_of_ne_nil piece hfront, List.map_cons, List.map_cons, ih,
        cons_join_of_ne_nil _ hne]

end Piece

namespace TemplateReader

open Placement

-- What the reader finds at a place of the text: one character or one hole.
def step (c : Cursor) : Except TemplateError (Piece × Cursor) :=
  match c.chars with
  | [] => .ok (.text [], c)
  | '\x7b' :: '\x7b' :: _ => .ok (.text ['\x7b'], c.drop 2)
  | '\x7d' :: '\x7d' :: _ => .ok (.text ['\x7d'], c.drop 2)
  | '\x7d' :: _ => .error (.parse .strayBrace c.position)
  | '\x7b' :: _ => hole (c.drop 1) c.position
  | ch :: _ => .ok (.text [ch], c.drop 1)

section

variable {c : Cursor} {ch : Char} {rest : List Char}

theorem step_cons (h : c.chars = ch :: rest) :
    step c =
      if ch = '\x7b' then
        if rest.head? = some '\x7b' then .ok (.text ['\x7b'], c.drop 2)
        else hole (c.drop 1) c.position
      else if ch = '\x7d' then
        if rest.head? = some '\x7d' then .ok (.text ['\x7d'], c.drop 2)
        else .error (.parse .strayBrace c.position)
      else .ok (.text [ch], c.drop 1) := by
  unfold step
  split <;> grind [List.head?_eq_some_iff]

theorem step_doubleOpen (h : c.chars = '\x7b' :: '\x7b' :: rest) :
    step c = .ok (.text ['\x7b'], c.drop 2) := by
  rw [step_cons h, if_pos rfl, List.head?_cons, if_pos rfl]

theorem step_doubleClose (h : c.chars = '\x7d' :: '\x7d' :: rest) :
    step c = .ok (.text ['\x7d'], c.drop 2) := by
  rw [step_cons h, if_neg (by decide), if_pos rfl, List.head?_cons, if_pos rfl]

theorem step_open (h : c.chars = '\x7b' :: rest) (hne : rest.head? ≠ some '\x7b') :
    step c = hole (c.drop 1) c.position := by
  rw [step_cons h, if_pos rfl, if_neg hne]

theorem step_close (h : c.chars = '\x7d' :: rest) (hne : rest.head? ≠ some '\x7d') :
    step c = .error (.parse .strayBrace c.position) := by
  rw [step_cons h, if_neg (by decide), if_pos rfl, if_neg hne]

theorem step_other (h : c.chars = ch :: rest) (hopen : ch ≠ '\x7b') (hclose : ch ≠ '\x7d') :
    step c = .ok (.text [ch], c.drop 1) := by
  rw [step_cons h, if_neg hopen, if_neg hclose]

end

theorem consChar_eq_join (c : Char) (pieces : List Piece) :
    consChar c pieces = Piece.join [.text [c]] pieces := by
  cases pieces with
  | nil => rfl
  | cons piece rest => cases piece <;> rfl

theorem readFrom_nil {c : Cursor} (fuel : Nat) (h : c.chars = []) :
    readFrom (fuel + 1) c = .ok [] := by
  simp only [readFrom, h]

theorem readFrom_succ {c : Cursor} (fuel : Nat) (h : c.chars ≠ []) :
    readFrom (fuel + 1) c = do
      let (piece, rest) ← step c
      return Piece.join [piece] (← readFrom fuel rest) := by
  rw [readFrom]
  fun_cases step c with
  | case1 h' => exact absurd h' h
  | case2 _ h' =>
    simp only [h', consChar_eq_join]
    rfl
  | case3 _ h' =>
    simp only [h', consChar_eq_join]
    rfl
  | case4 _ _ h' =>
    simp only [h']
    rfl
  | case5 _ hne h' =>
    simp only [h']
    cases hhole : hole (c.drop 1) c.position with
    | error e => rfl
    | ok found =>
      have hne := hole_ne_text hhole
      simp only [bind, Except.bind, Piece.cons_join_of_ne_text hne, Piece.nil_join]
  | case6 ch _ hne₁ hne₂ hne₃ hne₄ h' =>
    simp only [h', consChar_eq_join]
    rfl

variable {p : Placement}

theorem agrees_step {c : Cursor} (h : c.chars ≠ []) :
    p.Agrees ⟨c.chars.length - 1, c.stop, True⟩ (fun r : Piece × Cursor => passed r.2)
      (Prod.map (Piece.shift p.offset) p.cursor) (step c) (step (p.cursor c)) := by
  have text (chars : List Char) (count : Nat) (hcount : count ≤ c.chars.length)
      (hpos : 0 < count) : p.Agrees ⟨c.chars.length - 1, c.stop, True⟩
        (fun r : Piece × Cursor => passed r.2) (Prod.map (Piece.shift p.offset) p.cursor)
        (.ok (.text chars, c.drop count)) (.ok (.text chars, (p.cursor c).drop count)) := by
    rw [p.drop_cursor hcount]
    refine (Agrees.ok (fun r : Piece × Cursor => passed r.2) (r := (.text chars, c.drop count))
      rfl).mono ⟨?_, c.stop_drop count, fun _ => trivial⟩
    simp only [passed, Cursor.outlook, Cursor.drop, List.length_drop]
    omega
  have within {front : List Char} (hfront : c.chars = front) :
      (p.cursor c).chars = front ++ p.behind := congrArg (· ++ p.behind) hfront
  obtain ⟨ch, rest, hchars⟩ := List.exists_cons_of_ne_nil h
  by_cases hopen : ch = '\x7b'
  · subst hopen
    by_cases hdouble : rest.head? = some '\x7b'
    · obtain ⟨rest, rfl⟩ := List.head?_eq_some_iff.mp hdouble
      rw [step_doubleOpen hchars, step_doubleOpen (within hchars)]
      exact text _ 2 (by simp [hchars]) (by decide)
    · rw [step_open hchars hdouble]
      have hhole := agrees_hole (p := p) (c.drop 1) c.position
      -- A brace that ends the source opens no hole there, whatever it does in front of more text.
      by_cases hwithin : p.behind = [] ∨ rest ≠ []
      · have hdouble : (rest ++ p.behind).head? ≠ some '\x7b' := by
          rcases hwithin with hbehind | hrest
          · rwa [hbehind, List.append_nil]
          · obtain ⟨_, _, rfl⟩ := List.exists_cons_of_ne_nil hrest
            exact hdouble
        rw [step_open (within hchars) hdouble, cursor_drop_one hchars]
        exact hhole.mono ⟨by simp [Cursor.outlook, Cursor.drop], c.stop_drop 1, fun _ => trivial⟩
      · obtain ⟨hbehind, hrest⟩ := not_or.mp hwithin
        cases hread : hole (c.drop 1) c.position with
        | error e => exact fun hnone => absurd hnone hbehind
        | ok r =>
          rw [hread] at hhole
          have hmem : '\x7d' ∈ (c.drop 1).chars := hhole.1.closed trivial
          simp [Cursor.drop, hchars, Classical.not_not.mp hrest] at hmem
  · by_cases hclose : ch = '\x7d'
    · subst hclose
      by_cases hdouble : rest.head? = some '\x7d'
      · obtain ⟨rest, rfl⟩ := List.head?_eq_some_iff.mp hdouble
        rw [step_doubleClose hchars, step_doubleClose (within hchars)]
        exact text _ 2 (by simp [hchars]) (by decide)
      · rw [step_close hchars hdouble]
        intro hbehind
        have hwithin := within hchars
        rw [hbehind, List.append_nil] at hwithin
        rw [step_close hwithin hdouble]
        rfl
    · rw [step_other hchars hopen hclose, step_other (within hchars) hopen hclose]
      exact text _ 1 (by simp [hchars]) (by decide)

-- Every step goes forward, so that any number of steps above that of the characters will do.
theorem readFrom_eq {fuel fuel' : Nat} {c : Cursor} (h : c.chars.length < fuel)
    (h' : c.chars.length < fuel') : readFrom fuel c = readFrom fuel' c := by
  induction fuel generalizing fuel' c with
  | zero => omega
  | succ fuel ih =>
    cases fuel' with
    | zero => omega
    | succ fuel' =>
      by_cases hne : c.chars = []
      · rw [readFrom_nil fuel hne, readFrom_nil fuel' hne]
      · rw [readFrom_succ fuel hne, readFrom_succ fuel' hne]
        have hstep := agrees_step (p := ⟨0, []⟩) hne
        cases hfound : step c with
        | error e => rfl
        | ok found =>
          rw [hfound] at hstep
          have hlt : found.2.chars.length ≤ c.chars.length - 1 := hstep.1.left
          have hpos := List.length_pos_iff.mpr hne
          have hrest : readFrom fuel found.2 = readFrom fuel' found.2 := ih (by omega) (by omega)
          exact congrArg (· >>= fun later => pure (Piece.join [found.1] later)) hrest

-- The pieces of what is left of a source.
def read (c : Cursor) : Except TemplateError (List Piece) := readFrom (c.chars.length + 1) c

theorem read_nil {c : Cursor} (h : c.chars = []) : read c = .ok [] := readFrom_nil _ h

theorem read_eq {c : Cursor} (h : c.chars ≠ []) :
    read c = do
      let (piece, rest) ← step c
      return Piece.join [piece] (← read rest) := by
  rw [read, readFrom_succ _ h]
  have hstep := agrees_step (p := ⟨0, []⟩) h
  cases hfound : step c with
  | error e => rfl
  | ok found =>
    rw [hfound] at hstep
    have hlt : found.2.chars.length ≤ c.chars.length - 1 := hstep.1.left
    have hpos := List.length_pos_iff.mpr h
    have hrest : readFrom c.chars.length found.2 = read found.2 :=
      readFrom_eq (by omega) (Nat.lt_succ_self _)
    exact congrArg (· >>= fun later => pure (Piece.join [found.1] later)) hrest

theorem read_cursor_ok {c : Cursor} {front : List Piece} (h : read c = .ok front) :
    read (p.cursor c) = do
      return Piece.join (front.map (Piece.shift p.offset))
        (← read ⟨p.behind, c.stop + p.offset⟩) := by
  induction hlen : c.chars.length using Nat.strongRecOn generalizing c front with
  | ind length ih =>
    by_cases hne : c.chars = []
    · have hstop : c.stop = c.position := by simp [Cursor.stop, hne, Text.encodedLength]
      rw [read_nil hne] at h
      cases h
      simp [cursor, hne, hstop]
    · have hwithin : (p.cursor c).chars ≠ [] := List.append_ne_nil_of_left_ne_nil hne _
      have hstep := agrees_step (p := p) hne
      rw [read_eq hne] at h
      obtain ⟨⟨piece, rest⟩, hfound, h⟩ := bind_eq_ok.mp h
      obtain ⟨later, hlater, h⟩ := bind_eq_ok.mp h
      obtain rfl := pure_eq_ok.mp h
      rw [hfound] at hstep
      obtain ⟨hreach, hsame⟩ := hstep
      have hlt : rest.chars.length ≤ c.chars.length - 1 := hreach.left
      have hstop : rest.stop = c.stop := hreach.stop
      have hpos := List.length_pos_iff.mpr hne
      rw [read_eq hwithin, hsame (.inr trivial)]
      show (do return Piece.join [piece.shift p.offset] (← read (p.cursor rest))) = _
      rw [ih _ (by omega) hlater rfl, hstop, Piece.map_join]
      simp [Piece.join_assoc]

theorem read_cursor_error {c : Cursor} {e : TemplateError} (hbehind : p.behind = [])
    (h : read c = .error e) : read (p.cursor c) = .error (e.shift p.offset) := by
  induction hlen : c.chars.length using Nat.strongRecOn generalizing c with
  | ind length ih =>
    by_cases hne : c.chars = []
    · rw [read_nil hne] at h
      cases h
    · have hwithin : (p.cursor c).chars ≠ [] := List.append_ne_nil_of_left_ne_nil hne _
      have hstep := agrees_step (p := p) hne
      rw [read_eq hne] at h
      rw [read_eq hwithin]
      cases hfound : step c with
      | error fault =>
        rw [hfound] at h hstep
        cases h
        rw [hstep hbehind]
        rfl
      | ok found =>
        rw [hfound] at h hstep
        obtain ⟨hreach, hsame⟩ := hstep
        have hlt : found.2.chars.length ≤ c.chars.length - 1 := hreach.left
        have hpos := List.length_pos_iff.mpr hne
        rw [hsame (.inl hbehind)]
        cases hrest : read found.2 with
        | ok later =>
          rw [show (Except.ok found >>= _) = (read found.2 >>= _) from rfl, hrest] at h
          cases h
        | error fault =>
          rw [show (Except.ok found >>= _) = (read found.2 >>= _) from rfl, hrest] at h
          cases h
          show (read (p.cursor found.2) >>= _) = _
          rw [ih _ (by omega) hrest rfl]
          rfl

end TemplateReader

-- Templates are read part by part: what stands in front never changes how the rest is read, and
-- what follows a whole part never changes how that part is read.
theorem Piece.readAll_append {s t : String} {front : List Piece} (h : Piece.readAll s = .ok front) :
    Piece.readAll (s ++ t) =
      match Piece.readAll t with
      | .ok back => .ok (Piece.join front (back.map (Piece.shift s.utf8ByteSize)))
      | .error e => .error (e.shift s.utf8ByteSize) := by
  have hwhole : Piece.readAll (s ++ t) =
      TemplateReader.read (Placement.cursor ⟨0, t.toList⟩ (Cursor.ofString s)) := by
    simp only [Piece.readAll, TemplateReader.read, Placement.cursor, Cursor.ofString,
      String.toList_append]
  have hbehind : (⟨t.toList, (Cursor.ofString s).stop + 0⟩ : Cursor) =
      Placement.cursor ⟨s.utf8ByteSize, []⟩ (Cursor.ofString t) := by
    simp [Placement.cursor, Cursor.ofString, Cursor.stop, Text.encodedLength_toList]
  rw [hwhole, TemplateReader.read_cursor_ok h, hbehind, funext shift_zero, List.map_id']
  split
  · next back hback =>
    rw [TemplateReader.read_cursor_ok (p := ⟨s.utf8ByteSize, []⟩) hback]
    simp [TemplateReader.read_nil]
  · next e hback =>
    rw [TemplateReader.read_cursor_error (p := ⟨s.utf8ByteSize, []⟩) rfl hback]
    rfl

-- Two texts that meet, behind a hole whose brace no quote after it can hide.
theorem Piece.readAll_append_quoted :
    Piece.readAll ("é{a}'" ++ "y{b+c}") =
      .ok [.text ['é'],
        .placeholder
          { expression := .property "a", format := none, alignment := none, position := 2 },
        .text ['\'', 'y'],
        .placeholder
          { expression := .binary .add (.property "b") (.property "c") false 9
            format := none, alignment := none, position := 7 }] := by
  have hfront : Piece.readAll "é{a}'" = .ok [.text ['é'],
      .placeholder
        { expression := .property "a", format := none, alignment := none, position := 2 },
      .text ['\'']] := rfl
  have hback : Piece.readAll "y{b+c}" = .ok [.text ['y'],
      .placeholder
        { expression := .binary .add (.property "b") (.property "c") false 3
          format := none, alignment := none, position := 1 }] := rfl
  rw [Piece.readAll_append hfront, hback]
  rfl

end EventText
