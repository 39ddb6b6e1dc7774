import EventText.Proofs.Number.FixedPoint

namespace EventText

-- A custom pattern: places for digits, with literal text before and after them.
structure Picture where
  before : List Char
  integer : List Char
  fraction : Option (List Char)
  after : List Char

namespace Picture

def fractionPlaces (p : Picture) : List Char := p.fraction.getD []

-- All places, with the point if there is one.
def middle (p : Picture) : List Char := p.integer ++ p.fraction.elim [] ('.' :: ·)

def text (p : Picture) : List Char := p.before ++ (p.middle ++ p.after)

structure Valid (p : Picture) : Prop where
  places : ∀ c ∈ p.integer ++ p.fractionPlaces, c ∈ ['0', '#', ',']
  literal : ∀ c ∈ p.before ++ p.after, c ∉ ['0', '#', ',', '.']
  digit : ∃ c ∈ p.integer ++ p.fractionPlaces, c ∈ ['0', '#']
  nonstandard : ∀ letter digits, p.text = letter :: digits → letter.isAlpha = true →
    ∃ c ∈ digits, c.isDigit = false

-- How many digits are written at least and at most.
def leastInteger (p : Picture) : Nat := p.integer.count '0'

def leastFraction (p : Picture) : Nat := p.fractionPlaces.count '0'

def mostFraction (p : Picture) : Nat := p.fractionPlaces.count '0' + p.fractionPlaces.count '#'

-- A comma with a place for a digit somewhere before it and somewhere after it.
def Grouped (p : Picture) : Prop :=
  ∃ left right, p.integer = left ++ ',' :: right ∧ (∃ c ∈ left, c ≠ ',') ∧ ∃ c ∈ right, c ≠ ','

-- What figures under a pattern have to show of a number.
structure Shows (p : Picture) (n : Number) (m : Figures) : Prop where
  taken : n.TakenAs n.magnitude
  magnitude_eq : m.magnitude = Number.roundAt p.mostFraction n.magnitude
  negative_iff : m.negative = true ↔ n.Negative ∧ ∃ d ∈ m.digits, d ≠ 0
  least_fraction : p.leastFraction ≤ m.fraction.length
  most_fraction : m.fraction.length ≤ p.mostFraction
  no_trailing_zero : p.leastFraction < m.fraction.length → m.fraction.getLast? ≠ some 0
  least_integer : p.leastInteger ≤ m.integer.length
  no_leading_zero : p.leastInteger < m.integer.length → m.integer.head? ≠ some 0
  groups_of_grouped : p.Grouped → Digits.InThrees m.groups
  groups_of_not_grouped : ¬p.Grouped → m.groups = [m.integer]

theorem rdropWhile_append {α : Type} {q : α → Bool} (front : List α) {back : List α}
    (h : ∃ c ∈ back, q c = false) :
    (front ++ back).rdropWhile q = front ++ back.rdropWhile q := by
  obtain ⟨c, hc, hq⟩ := h
  have hne : (back.reverse.dropWhile q).isEmpty = false := by
    rw [List.isEmpty_eq_false_iff, ne_eq, List.dropWhile_eq_nil_iff]
    exact fun hall => Bool.false_ne_true (hq.symm.trans (hall c (List.mem_reverse.mpr hc)))
  rw [List.rdropWhile, List.reverse_append, List.dropWhile_append, hne, if_neg Bool.false_ne_true,
    List.reverse_append, List.reverse_reverse, List.rdropWhile]

theorem contains_trimCommas (p : Picture) :
    (Number.trimCommas p.integer).contains ',' = true ↔ p.Grouped := by
  have htrim : Number.trimCommas p.integer
      = (p.integer.dropWhile (· == ',')).rdropWhile (· == ',') := rfl
  rw [htrim, List.contains_iff_mem]
  constructor
  · intro hmem
    obtain ⟨front, back, hsplit⟩ := List.append_of_mem hmem
    have hfirst : ∃ c ∈ front, c ≠ ',' := by
      obtain ⟨rest, hrest⟩ := List.rdropWhile_prefix (· == ',') (l := p.integer.dropWhile (· == ','))
      have hhead := List.head?_dropWhile_not (· == ',') p.integer
      rw [← hrest, hsplit] at hhead
      cases front with
      | nil => simp at hhead
      | cons c front => exact ⟨c, List.mem_cons_self, by simpa using hhead⟩
    have hlast : ∃ c ∈ back, c ≠ ',' := by
      have hnot := List.rdropWhile_last_not (· == ',') _ (List.ne_nil_of_mem hmem)
      simp only [hsplit] at hnot
      obtain rfl | ⟨back, c, rfl⟩ := List.eq_nil_or_concat back
      · simp at hnot
      · exact ⟨c, by simp, by simpa using hnot⟩
    refine ⟨p.integer.takeWhile (· == ',') ++ front,
      back ++ (p.integer.dropWhile (· == ',')).rtakeWhile (· == ','), ?_, ?_, ?_⟩
    · calc p.integer
          = p.integer.takeWhile (· == ',') ++ p.integer.dropWhile (· == ',') :=
            List.takeWhile_append_dropWhile.symm
        _ = _ := by
            conv_lhs =>
              rw [← @List.rdropWhile_append_rtakeWhile _ (· == ',') (p.integer.dropWhile (· == ',')),
                hsplit]
            simp only [List.append_assoc, List.cons_append]
    · exact hfirst.imp fun c hc => ⟨List.mem_append_right _ hc.1, hc.2⟩
    · exact hlast.imp fun c hc => ⟨List.mem_append_left _ hc.1, hc.2⟩
  · rintro ⟨left, right, hinteger, ⟨a, ha, hleft⟩, c, hc, hright⟩
    have hne : (left.dropWhile (· == ',')).isEmpty = false := by
      rw [List.isEmpty_eq_false_iff, ne_eq, List.dropWhile_eq_nil_iff]
      exact fun hall => hleft (by simpa using hall a ha)
    rw [hinteger, List.dropWhile_append, hne, if_neg Bool.false_ne_true,
      List.append_cons, rdropWhile_append _ ⟨c, hc, by simpa using hright⟩]
    simp

theorem isPlaceholder_iff {c : Char} :
    Number.isPlaceholder c = true ↔ c ∈ ['0', '#', ',', '.'] := by
  simp only [Number.isPlaceholder, Bool.or_eq_true, beq_iff_eq, List.mem_cons, List.not_mem_nil,
    or_false]
  tauto

-- The literal text in front of the places is found, and so is the one behind them, from the end.
theorem takeWhile_literal {q : Char → Bool} {front middle : List Char}
    (hfront : ∀ c ∈ front, q c = true) (hne : middle ≠ []) (hmiddle : ∀ c ∈ middle, q c = false)
    (back : List Char) :
    (front ++ (middle ++ back)).takeWhile q = front ∧
      (front ++ (middle ++ back)).dropWhile q = middle ++ back := by
  obtain ⟨c, middle, rfl⟩ := List.exists_cons_of_ne_nil hne
  have hc := hmiddle c List.mem_cons_self
  rw [List.takeWhile_append_of_pos hfront, List.dropWhile_append_of_pos hfront, List.cons_append]
  constructor
  · rw [List.takeWhile_cons_of_neg (by simp [hc]), List.append_nil]
  · rw [List.dropWhile_cons_of_neg (by simp [hc])]

variable {p : Picture}

theorem Valid.middle_ne_nil (hp : p.Valid) : p.middle ≠ [] := by
  obtain ⟨c, hc, -⟩ := hp.digit
  intro hnil
  obtain ⟨hinteger, hfraction⟩ := List.append_eq_nil_iff.mp hnil
  cases h : p.fraction with
  | none => simp [fractionPlaces, h, hinteger] at hc
  | some f => simp [h] at hfraction

theorem Valid.isPlaceholder_middle (hp : p.Valid) :
    ∀ c ∈ p.middle, Number.isPlaceholder c = true := by
  have hplace : ∀ c ∈ p.integer ++ p.fractionPlaces, c ∈ ['0', '#', ',', '.'] := fun c hc =>
    List.mem_append_left ['.'] (hp.places c hc)
  intro c hc
  rw [isPlaceholder_iff]
  rcases List.mem_append.mp hc with hc | hc
  · exact hplace c (List.mem_append_left _ hc)
  · cases h : p.fraction with
    | none => simp [h] at hc
    | some f =>
        rw [h, Option.elim_some] at hc
        rcases List.mem_cons.mp hc with rfl | hc
        · simp
        · exact hplace c (List.mem_append_right _ (by rwa [fractionPlaces, h]))

theorem Valid.split_middle (hp : p.Valid) :
    p.middle.takeWhile (· != '.') = p.integer ∧
      (p.middle.dropWhile (· != '.')).drop 1 = p.fractionPlaces := by
  have hinteger : ∀ c ∈ p.integer, (c != '.') = true := by
    intro c hc
    have hplace := hp.places c (List.mem_append_left _ hc)
    rw [bne_iff_ne]
    rintro rfl
    simp at hplace
  rw [middle, List.takeWhile_append_of_pos hinteger, List.dropWhile_append_of_pos hinteger,
    fractionPlaces]
  cases p.fraction <;> simp

theorem readPattern_text (hp : p.Valid) : Number.readPattern p.text = some
    ⟨p.before, p.after, (Number.trimCommas p.integer).contains ',', p.leastInteger,
      p.leastFraction, p.mostFraction⟩ := by
  have hmiddle : ∀ c ∈ p.middle, (!Number.isPlaceholder c) = false := fun c hc => by
    rw [hp.isPlaceholder_middle c hc, Bool.not_true]
  have hliteral : ∀ c ∈ p.before ++ p.after, (!Number.isPlaceholder c) = true := fun c hc => by
    rw [Bool.not_eq_true', ← Bool.not_eq_true, isPlaceholder_iff]
    exact hp.literal c hc
  obtain ⟨hbefore, hrest⟩ := takeWhile_literal
    (fun c hc => hliteral c (List.mem_append_left _ hc)) hp.middle_ne_nil hmiddle p.after
  obtain ⟨hafter, hplaces⟩ := @takeWhile_literal (!Number.isPlaceholder ·) p.after.reverse
    p.middle.reverse (fun c hc => hliteral c (List.mem_append_right _ (List.mem_reverse.mp hc)))
    (by simpa using hp.middle_ne_nil) (fun c hc => hmiddle c (List.mem_reverse.mp hc)) []
  rw [List.append_nil] at hafter hplaces
  have hall : ¬(p.middle = [] ∨ (!p.middle.all Number.isPlaceholder) = true) := by
    rw [List.all_eq_true.mpr hp.isPlaceholder_middle]
    simp [hp.middle_ne_nil]
  simp only [Number.readPattern, text, hbefore, hrest, List.reverse_append, hafter, hplaces,
    List.reverse_reverse, if_neg hall, hp.split_middle.1, hp.split_middle.2]
  rfl

theorem read?_text (hp : p.Valid) : Number.Format.read? p.text = some (.custom
    ⟨p.before, p.after, (Number.trimCommas p.integer).contains ',', p.leastInteger,
      p.leastFraction, p.mostFraction⟩) := by
  have hread := readPattern_text hp
  cases htext : p.text with
  | nil =>
      have hmiddle := (List.append_eq_nil_iff.mp (List.append_eq_nil_iff.mp htext).2).1
      exact absurd hmiddle hp.middle_ne_nil
  | cons letter digits =>
      have hstandard : ¬(letter.isAlpha = true ∧ digits.all Char.isDigit = true) := by
        rintro ⟨hletter, hdigits⟩
        obtain ⟨c, hc, hnot⟩ := hp.nonstandard letter digits htext hletter
        exact Bool.false_ne_true (hnot.symm.trans (List.all_eq_true.mp hdigits c hc))
      rw [htext] at hread
      rw [Number.Format.read?, if_neg hstandard, hread]
      rfl

end Picture

namespace Digits

theorem toNat_dropWhile_zeros (digits : List Digit) :
    toNat (digits.dropWhile (· == 0)) = toNat digits := by
  induction digits with
  | nil => rfl
  | cons d digits ih =>
      rw [List.dropWhile_cons]
      split
      · next hd =>
          obtain rfl : d = 0 := by simpa using hd
          rw [ih, toNat_cons]
          simp
      · rfl

theorem head?_dropWhile_zeros (digits : List Digit) :
    (digits.dropWhile (· == 0)).head? ≠ some 0 := by
  intro hzero
  have hnot := List.head?_dropWhile_not (· == 0) digits
  simp [hzero] at hnot

-- Zeros fill up to the width, and no zero stands in front where there is more than that.
theorem head?_padLeft_of_lt {width : Nat} {digits : List Digit}
    (h : width < (padLeft width digits).length) : padLeft width digits = digits := by
  rw [padLeft, List.length_append, List.length_replicate] at h
  have hzero : width - digits.length = 0 := by omega
  rw [padLeft, hzero]
  rfl

theorem exists_trimFraction (least : Nat) (digits : List Digit) :
    ∃ zeros, digits = Number.trimFraction least digits ++ List.replicate zeros 0 := by
  obtain ⟨zeros, hzeros⟩ := exists_eq_dropTrailingZeros_append (digits.drop least)
  refine ⟨zeros, ?_⟩
  rw [Number.trimFraction, List.append_assoc, ← hzeros, List.take_append_drop]

theorem le_length_trimFraction {least : Nat} {digits : List Digit} (h : least ≤ digits.length) :
    least ≤ (Number.trimFraction least digits).length := by
  rw [Number.trimFraction, List.length_append, List.length_take_of_le h]
  omega

theorem getLast?_trimFraction {least : Nat} {digits : List Digit} (h : least ≤ digits.length)
    (hmore : least < (Number.trimFraction least digits).length) :
    (Number.trimFraction least digits).getLast? ≠ some 0 := by
  have hne : dropTrailingZeros (digits.drop least) ≠ [] := by
    rw [Number.trimFraction, List.length_append, List.length_take_of_le h] at hmore
    rw [← List.length_pos_iff_ne_nil]
    omega
  rw [Number.trimFraction, List.getLast?_append_of_ne_nil _ hne, List.getLast?_eq_some_getLast hne]
  intro hzero
  exact List.rdropWhile_last_not (· == 0) (digits.drop least) hne
    (beq_iff_eq.mpr (Option.some.inj hzero))

end Digits

namespace Picture

variable {p : Picture}

-- Zeros that are left out at both ends, and zeros that are put in front, count for nothing.
theorem toNat_shown (width least : Nat) (integer fraction : List Digit) :
    (Digits.toNat (Digits.padLeft width (integer.dropWhile (· == 0))
        ++ Number.trimFraction least fraction) : ℚ)
        / 10 ^ (Number.trimFraction least fraction).length
      = Digits.toNat (integer ++ fraction) / 10 ^ fraction.length := by
  obtain ⟨zeros, hzeros⟩ := Digits.exists_trimFraction least fraction
  have hfront (kept : List Digit) : Digits.toNat (Digits.padLeft width
      (integer.dropWhile (· == 0)) ++ kept) = Digits.toNat (integer ++ kept) := by
    rw [Digits.toNat_join, Digits.toNat_padLeft, Digits.toNat_dropWhile_zeros, ← Digits.toNat_join]
  rw [hfront]
  conv_rhs =>
    rw [hzeros, ← List.append_assoc, Digits.toNat_append_zeros, List.length_append,
      List.length_replicate]
  push_cast
  rw [pow_add]
  field_simp

-- Under a pattern a number shows as many digits as the pattern asks for, and no zero more.
theorem text?_picture (hp : p.Valid) {n : Number} (hn : n.Finite) (culture : Culture) :
    ∃ m : Figures, n.text? p.text culture = some (p.before ++ m.text culture ++ p.after) ∧
      p.Shows n m := by
  generalize hdigits : n.decimal.fixed p.mostFraction = digits
  obtain ⟨m, hnegative, hinteger, hfraction, hgroups, htext⟩ := Number.exists_figures culture
    (n.isNegative && !Number.allZero
      (Digits.padLeft p.leastInteger (digits.1.dropWhile (· == 0))
        ++ Number.trimFraction p.leastFraction digits.2))
    ((Number.trimCommas p.integer).contains ',')
    (Digits.padLeft p.leastInteger (digits.1.dropWhile (· == 0)))
    (Number.trimFraction p.leastFraction digits.2)
  have hlength : digits.2.length = p.mostFraction := by
    rw [← hdigits, Decimal.length_fixed_fraction]
  have hleast : p.leastFraction ≤ digits.2.length := by
    rw [hlength]
    exact Nat.le_add_right _ _
  have hwritten : n.text? p.text culture = some (p.before ++ m.text culture ++ p.after) := by
    rw [Number.text?, Number.notFinite?_of_finite hn]
    simp only [read?_text hp, Number.customText, hdigits]
    rw [← htext]
    simp only [List.append_assoc]
  refine ⟨m, hwritten, ?_⟩
  constructor
  case taken => exact n.takenAs_magnitude
  case magnitude_eq =>
    rw [Figures.magnitude, Figures.digits, hinteger, hfraction, toNat_shown, hlength, ← hdigits,
      Number.toNat_fixed hn]
  case negative_iff =>
    rw [hnegative, Bool.and_eq_true, Number.isNegative_iff hn, Bool.not_eq_true',
      ← Bool.not_eq_true, Digits.allZero_iff, Digits.toNat_eq_zero_iff, Figures.digits, hinteger,
      hfraction]
    simp only [not_forall, exists_prop, ne_eq]
  case least_fraction =>
    rw [hfraction]
    exact Digits.le_length_trimFraction hleast
  case most_fraction =>
    obtain ⟨zeros, hzeros⟩ := Digits.exists_trimFraction p.leastFraction digits.2
    rw [hfraction, ← hlength]
    conv_rhs => rw [hzeros, List.length_append]
    exact Nat.le_add_right _ _
  case no_trailing_zero =>
    rw [hfraction]
    exact Digits.getLast?_trimFraction hleast
  case least_integer =>
    rw [hinteger]
    exact Digits.le_length_padLeft _ _
  case no_leading_zero =>
    intro hmore
    rw [hinteger] at hmore ⊢
    rw [Digits.head?_padLeft_of_lt hmore]
    exact Digits.head?_dropWhile_zeros _
  case groups_of_grouped =>
    intro hgrouped
    rwa [if_pos (p.contains_trimCommas.mpr hgrouped)] at hgroups
  case groups_of_not_grouped =>
    intro hgrouped
    rwa [if_neg fun h => hgrouped (p.contains_trimCommas.mp h)] at hgroups

-- `$#,##0.0# net` writes a number that a carry takes to four integer digits.

private def price : Picture :=
  ⟨['$'], ['#', ',', '#', '#', '0'], some ['0', '#'], [' ', 'n', 'e', 't']⟩

theorem text?_picture_price :
    (price.Valid ∧ (Number.float (-999.996)).Finite) ∧
      ∃ m : Figures, price.before ++ m.text Culture.invariant ++ price.after
          = "$-1,000.0 net".toList ∧
        price.Shows (.float (-999.996)) m := by
  have hvalid : price.Valid := by
    refine ⟨by simp [price, fractionPlaces], by simp [price],
      ⟨'#', List.mem_append_left _ List.mem_cons_self, by decide⟩,
      fun letter digits htext hletter => ?_⟩
    obtain ⟨rfl, -⟩ := List.cons.inj htext
    exact absurd hletter (by decide)
  have hfinite : (Number.float (-999.996)).Finite := by
    unfold Number.Finite
    decide +kernel
  have hwritten : (Number.float (-999.996)).text? price.text Culture.invariant
      = some "$-1,000.0 net".toList := by
    decide +kernel
  obtain ⟨m, htext, hshows⟩ := text?_picture hvalid hfinite Culture.invariant
  exact ⟨⟨hvalid, hfinite⟩, m, Option.some.inj (htext.symm.trans hwritten), hshows⟩

end Picture

end EventText
