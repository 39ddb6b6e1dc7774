import EventText.Number.Format
import EventText.Proofs.Number.Digits
import Mathlib

namespace EventText

-- A number in figures: a sign, integer digits in groups, and the digits of a fraction.
structure Figures where
  negative : Bool
  groups : List (List Digit)
  fraction : List Digit

namespace Figures

def integer (n : Figures) : List Digit := n.groups.flatten

def digits (n : Figures) : List Digit := n.integer ++ n.fraction

-- What the digits denote, the point where it stands.
def magnitude (n : Figures) : ℚ := Digits.toNat n.digits / 10 ^ n.fraction.length

def signText (n : Figures) : List Char := if n.negative then ['-'] else []

-- A separator stands between two groups.
def integerText (culture : Culture) (n : Figures) : List Char :=
  culture.groupSeparator.toList.intercalate (n.groups.map Digits.text)

-- The point stands in front of a fraction only.
def fractionText (culture : Culture) (n : Figures) : List Char :=
  if n.fraction = [] then [] else culture.decimalSeparator.toList ++ Digits.text n.fraction

def text (culture : Culture) (n : Figures) : List Char :=
  n.signText ++ n.integerText culture ++ n.fractionText culture

-- The same figures without groups.
def joined (n : Figures) : Figures := { n with groups := [n.integer] }

end Figures

namespace Digits

theorem text_append (front back : List Digit) : text (front ++ back) = text front ++ text back :=
  List.map_append

-- Three digits behind each separator, and one to three in front of the first.
def InThrees : List (List Digit) → Prop
  | [] => True
  | first :: rest => first ≠ [] ∧ first.length ≤ 3 ∧ ∀ group ∈ rest, group.length = 3

theorem InThrees.ne_nil {groups : List (List Digit)} (h : InThrees groups) :
    ∀ group ∈ groups, group ≠ [] := by
  cases groups with
  | nil => nofun
  | cons first rest =>
      obtain ⟨hfirst, -, hrest⟩ := h
      refine List.forall_mem_cons.mpr ⟨hfirst, fun group hgroup hnil => ?_⟩
      have hthree := hrest group hgroup
      rw [hnil] at hthree
      cases hthree

theorem InThrees.length_mod (first : List Digit) {rest : List (List Digit)}
    (h : ∀ group ∈ rest, group.length = 3) :
    (first :: rest).flatten.length % 3 = first.length % 3 := by
  induction rest generalizing first with
  | nil => simp
  | cons second rest ih =>
      obtain ⟨hsecond, hrest⟩ := List.forall_mem_cons.mp h
      have hmod := ih (first ++ second) hrest
      simp only [List.flatten_cons, List.length_append] at hmod ⊢
      omega

-- Grouping from the left, by how many digits are still to come, is grouping from the right.
theorem exists_groups (separator : List Char) (digits : List Digit) :
    ∃ groups, InThrees groups ∧ groups.flatten = digits ∧
      Number.grouped separator (text digits) = separator.intercalate (groups.map text) := by
  induction digits with
  | nil => exact ⟨[], trivial, rfl, rfl⟩
  | cons d digits ih =>
      obtain ⟨groups, hthrees, rfl, htext⟩ := ih
      cases groups with
      | nil => exact ⟨[[d]], ⟨List.cons_ne_nil _ _, Nat.le_add_left 1 2, nofun⟩, rfl, rfl⟩
      | cons first rest =>
          obtain ⟨hfirst, hlength, hrest⟩ := hthrees
          have hmod := InThrees.length_mod first hrest
          have hpos := List.length_pos_iff_ne_nil.mpr hfirst
          have hne : text (first :: rest).flatten ≠ [] := by simp [text, hfirst]
          have hfull : text (first :: rest).flatten ≠ [] ∧
              (text (first :: rest).flatten).length % 3 = 0 ↔ first.length = 3 := by
            rw [and_iff_right hne, length_text, hmod]
            omega
          have hstep : Number.grouped separator (text (d :: (first :: rest).flatten))
              = if first.length = 3
                then d.toChar :: separator ++ separator.intercalate ((first :: rest).map text)
                else d.toChar :: separator.intercalate ((first :: rest).map text) := by
            rw [← htext, ← if_congr hfull rfl rfl]
            rfl
          rw [hstep]
          split
          · next hthree =>
              refine ⟨[d] :: first :: rest, ⟨List.cons_ne_nil _ _, Nat.le_add_left 1 2, ?_⟩, rfl, rfl⟩
              exact List.forall_mem_cons.mpr ⟨hthree, hrest⟩
          · next hfewer =>
              refine ⟨(d :: first) :: rest, ⟨List.cons_ne_nil _ _, ?_, hrest⟩, rfl, ?_⟩
              · rw [List.length_cons]
                omega
              · cases rest <;> rfl

end Digits

namespace Culture

-- The separators can be told from digits, from a sign and from each other.
structure Readable (culture : Culture) : Prop where
  decimal_ne : culture.decimalSeparator.toList ≠ []
  group_ne : culture.groupSeparator.toList ≠ []
  distinct : culture.decimalSeparator ≠ culture.groupSeparator
  decimal_clear : ∀ c ∈ culture.decimalSeparator.toList, c.isDigit = false ∧ c ≠ '-'
  group_clear : ∀ c ∈ culture.groupSeparator.toList, c.isDigit = false ∧ c ≠ '-'

-- The runs of digits in a text and what stands between them.
def runs (text : List Char) : List (List Char) := text.splitBy fun a b => a.isDigit == b.isDigit

-- A text without its group separators.
def ungroup (culture : Culture) (text : List Char) : List Char :=
  ((runs text).filter (· ≠ culture.groupSeparator.toList)).flatten

theorem runs_append {run rest : List Char} {digit : Bool} (hne : run ≠ [])
    (hrun : ∀ c ∈ run, c.isDigit = digit) (hrest : ∀ c ∈ rest.head?, c.isDigit = !digit) :
    runs (run ++ rest) = run :: runs rest := by
  have hchain : run.IsChain fun a b => (a.isDigit == b.isDigit) = true := by
    refine List.Pairwise.isChain (List.pairwise_of_forall_mem_list fun a ha b hb => ?_)
    rw [hrun a ha, hrun b hb, beq_self_eq_true]
  have hsplit : ∀ a ∈ run.getLast?, ∀ b ∈ rest.head?, (a.isDigit == b.isDigit) = false := by
    intro a ha b hb
    rw [hrun a (List.mem_of_mem_getLast? ha), hrest b hb]
    cases digit <;> rfl
  rw [runs, List.splitBy_append hsplit, List.splitBy_of_isChain hne hchain]
  rfl

variable {culture : Culture}

theorem ungroup_kept {run rest : List Char} {digit : Bool} (hne : run ≠ [])
    (hrun : ∀ c ∈ run, c.isDigit = digit) (hrest : ∀ c ∈ rest.head?, c.isDigit = !digit)
    (hkept : run ≠ culture.groupSeparator.toList) :
    culture.ungroup (run ++ rest) = run ++ culture.ungroup rest := by
  rw [ungroup, runs_append hne hrun hrest, List.filter_cons_of_pos (by simpa using hkept),
    List.flatten_cons, ← ungroup]

theorem ungroup_separator (h : culture.Readable) {rest : List Char}
    (hrest : ∀ c ∈ rest.head?, c.isDigit = true) :
    culture.ungroup (culture.groupSeparator.toList ++ rest) = culture.ungroup rest := by
  have hrun : ∀ c ∈ culture.groupSeparator.toList, c.isDigit = false :=
    fun c hc => (h.group_clear c hc).1
  rw [ungroup, runs_append h.group_ne hrun hrest, List.filter_cons_of_neg (by simp), ← ungroup]

theorem ungroup_digits (h : culture.Readable) {digits : List Digit} (hne : digits ≠ [])
    {rest : List Char} (hrest : ∀ c ∈ rest.head?, c.isDigit = false) :
    culture.ungroup (Digits.text digits ++ rest) = Digits.text digits ++ culture.ungroup rest := by
  have hrun : ∀ c ∈ Digits.text digits, c.isDigit = true := by
    intro c hc
    obtain ⟨d, -, rfl⟩ := List.mem_map.mp hc
    exact d.isDigit_toChar
  have htext : Digits.text digits ≠ [] := by simpa [Digits.text] using hne
  refine ungroup_kept htext hrun hrest fun heq => ?_
  obtain ⟨c, hc⟩ := List.exists_mem_of_ne_nil _ htext
  have hdigit := hrun c hc
  rw [heq] at hc
  rw [(h.group_clear c hc).1] at hdigit
  cases hdigit

end Culture

namespace Figures

open Culture

variable {culture : Culture} {n : Figures}

theorem isDigit_head {digits : List Digit} (hne : digits ≠ []) (rest : List Char) :
    ∀ c ∈ (Digits.text digits ++ rest).head?, c.isDigit = true := by
  cases digits with
  | nil => exact absurd rfl hne
  | cons d digits =>
      intro c hc
      obtain rfl := Option.some.inj hc
      exact d.isDigit_toChar

theorem isDigit_head_groups {first : List Digit} (hne : first ≠ []) (others : List (List Digit))
    (rest : List Char) :
    ∀ c ∈ (culture.groupSeparator.toList.intercalate ((first :: others).map Digits.text)
      ++ rest).head?, c.isDigit = true := by
  cases others with
  | nil =>
      rw [List.map_cons, List.map_nil, List.intercalate_singleton]
      exact isDigit_head hne rest
  | cons second others =>
      rw [List.map_cons, List.map_cons, List.intercalate_cons_cons, List.append_assoc,
        List.append_assoc]
      exact isDigit_head hne _

theorem isDigit_head_fractionText (h : culture.Readable) :
    ∀ c ∈ (n.fractionText culture).head?, c.isDigit = false := by
  intro c hc
  unfold fractionText at hc
  split at hc
  · cases hc
  · rw [List.head?_append_of_ne_nil _ h.decimal_ne] at hc
    exact (h.decimal_clear c (List.mem_of_mem_head? hc)).1

theorem ungroup_fractionText (h : culture.Readable) :
    culture.ungroup (n.fractionText culture) = n.fractionText culture := by
  unfold fractionText
  split
  · rfl
  · next hfraction =>
      have hdigits := @ungroup_digits culture h n.fraction hfraction [] nofun
      have hpoint : culture.decimalSeparator.toList ≠ culture.groupSeparator.toList :=
        fun heq => h.distinct (String.toList_injective heq)
      have hhead := isDigit_head hfraction []
      rw [List.append_nil] at hdigits hhead
      rw [ungroup_kept h.decimal_ne (fun c hc => (h.decimal_clear c hc).1) hhead hpoint, hdigits]
      exact congrArg _ (List.append_nil _)

theorem ungroup_integerText (h : culture.Readable) {groups : List (List Digit)}
    (hne : groups ≠ []) (hgroups : ∀ group ∈ groups, group ≠ []) {rest : List Char}
    (hrest : ∀ c ∈ rest.head?, c.isDigit = false) :
    culture.ungroup (culture.groupSeparator.toList.intercalate (groups.map Digits.text) ++ rest)
      = Digits.text groups.flatten ++ culture.ungroup rest := by
  induction groups with
  | nil => exact absurd rfl hne
  | cons first others ih =>
      obtain ⟨hfirst, hothers⟩ := List.forall_mem_cons.mp hgroups
      cases others with
      | nil =>
          simp only [List.map_cons, List.map_nil, List.intercalate_singleton, List.flatten_singleton]
          exact ungroup_digits h hfirst hrest
      | cons second others =>
          have hnext := ih (List.cons_ne_nil _ _) hothers
          have hsecond := @isDigit_head_groups culture second (hothers second List.mem_cons_self)
            others rest
          have hseparator : ∀ c ∈ (culture.groupSeparator.toList ++
              (culture.groupSeparator.toList.intercalate
                ((second :: others).map Digits.text) ++ rest)).head?, c.isDigit = false := by
            intro c hc
            rw [List.head?_append_of_ne_nil _ h.group_ne] at hc
            exact (h.group_clear c (List.mem_of_mem_head? hc)).1
          rw [List.map_cons, List.map_cons, List.intercalate_cons_cons, ← List.map_cons,
            List.append_assoc, List.append_assoc, ungroup_digits h hfirst hseparator,
            ungroup_separator h hsecond, hnext, @List.flatten_cons _ first, Digits.text_append,
            List.append_assoc]

theorem ungroup_text (h : culture.Readable) (hne : n.groups ≠ [])
    (hgroups : ∀ group ∈ n.groups, group ≠ []) :
    culture.ungroup (n.text culture) = n.joined.text culture := by
  have hbody : culture.ungroup (n.integerText culture ++ n.fractionText culture)
      = Digits.text n.integer ++ n.fractionText culture := by
    rw [integerText, ungroup_integerText h hne hgroups (isDigit_head_fractionText h),
      ungroup_fractionText h, integer]
  have hjoined : n.joined.text culture
      = n.signText ++ (Digits.text n.integer ++ n.fractionText culture) := by
    rw [text, List.append_assoc, integerText, joined, List.map_singleton,
      List.intercalate_singleton]
    rfl
  rw [hjoined, text, List.append_assoc, ← hbody, signText]
  split
  · have hdigit : ∀ c ∈ (n.integerText culture ++ n.fractionText culture).head?,
        c.isDigit = true := by
      obtain ⟨first, others, hcons⟩ := List.exists_cons_of_ne_nil hne
      rw [integerText, hcons]
      exact isDigit_head_groups (hgroups first (hcons ▸ List.mem_cons_self)) others _
    have hsign : ∀ c ∈ ['-'], c.isDigit = false := List.forall_mem_singleton.mpr rfl
    refine ungroup_kept (List.cons_ne_nil _ _) hsign hdigit fun heq => ?_
    exact (h.group_clear '-' (heq ▸ List.mem_cons_self)).2 rfl
  · rfl

end Figures

end EventText
