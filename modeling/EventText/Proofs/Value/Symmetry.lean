import EventText.Expr.Operators
import EventText.Proofs.Value.Members
import EventText.Proofs.Value.Parts
import Mathlib

namespace EventText

-- Equality of records and dictionaries looks from the left to the right only, and counts. If no
-- entry on the right is met twice then counting is enough, and all of them are met.
theorem exists_of_length_le {α β : Type} {Meets : α → β → Prop} {xs : List α} {ys : List β}
    (hlength : ys.length ≤ xs.length)
    (hapart : xs.Pairwise fun a b => ∀ y, Meets a y → ¬ Meets b y)
    (h : ∀ x ∈ xs, ∃ y ∈ ys, Meets x y) : ∀ y ∈ ys, ∃ x ∈ xs, Meets x y := by
  induction xs generalizing ys with
  | nil =>
      obtain rfl := List.eq_nil_of_length_eq_zero (Nat.le_zero.mp hlength)
      nofun
  | cons x xs ih =>
      obtain ⟨hx, hxs⟩ := List.pairwise_cons.mp hapart
      obtain ⟨met, hmet, hmeets⟩ := h x List.mem_cons_self
      obtain ⟨front, back, rfl⟩ := List.append_of_mem hmet
      have hothers : ∀ other ∈ xs, ∃ y ∈ front ++ back, Meets other y := by
        intro other hother
        obtain ⟨y, hy, hmeets'⟩ := h other (List.mem_cons_of_mem _ hother)
        have hne : y ≠ met := by
          rintro rfl
          exact hx other hother y hmeets hmeets'
        exact ⟨y, by simpa [hne] using hy, hmeets'⟩
      have hshort : (front ++ back).length ≤ xs.length := by
        simp only [List.length_append, List.length_cons] at hlength ⊢
        omega
      have hback := ih hshort hxs hothers
      intro y hy
      by_cases hne : y = met
      · exact ⟨x, List.mem_cons_self, hne ▸ hmeets⟩
      · obtain ⟨other, hother, hmeets'⟩ := hback y (by simpa [hne] using hy)
        exact ⟨other, List.mem_cons_of_mem _ hother, hmeets'⟩

theorem Scalar.equal_comm (ignoreCase : Bool) (a b : Scalar) :
    a.equal ignoreCase b = b.equal ignoreCase a := by
  cases a <;> cases b <;> simp only [Scalar.equal, Timestamp.sameMoment, BEq.comm]

namespace Value

variable {ignoreCase : Bool}

theorem equalItems_symm {left right : List Value}
    (back : ∀ a ∈ left, ∀ b : Value, a.equal ignoreCase b = true → b.equal ignoreCase a = true)
    (h : equalItems ignoreCase left right = true) : equalItems ignoreCase right left = true := by
  induction left generalizing right with
  | nil => cases right <;> simp_all [equalItems]
  | cons a left ih =>
      cases right with
      | nil => simp [equalItems] at h
      | cons b right =>
          rw [equalItems, Bool.and_eq_true] at h ⊢
          exact ⟨back a List.mem_cons_self b h.1,
            ih (fun other hother => back other (List.mem_cons_of_mem _ hother)) h.2⟩

theorem membersWithin_iff {left right : List (String × Value)} :
    membersWithin ignoreCase right left = true ↔ ∀ member ∈ left, ∃ other,
      Members.get? right member.1 = some other ∧ member.2.equal ignoreCase other = true := by
  induction left with
  | nil => simp [membersWithin]
  | cons member left ih =>
      obtain ⟨name, value⟩ := member
      rw [membersWithin, Bool.and_eq_true, ih, List.forall_mem_cons]
      cases Members.get? right name <;> simp

theorem entriesWithin_iff {left right : List (Scalar × Value)} :
    entriesWithin ignoreCase right left = true ↔ ∀ entry ∈ left, ∃ other ∈ right,
      entry.1.equal ignoreCase other.1 = true ∧ entry.2.equal ignoreCase other.2 = true := by
  induction left with
  | nil => simp [entriesWithin]
  | cons entry left ih =>
      obtain ⟨key, value⟩ := entry
      rw [entriesWithin, Bool.and_eq_true, ih, List.forall_mem_cons, List.any_eq_true]
      simp only [Bool.and_eq_true]

-- A name stands for one member, and no scalar is equal to two keys. Keys that differ are not
-- enough for that: two large integers can be equal to the same float.
def OneEntryEach (ignoreCase : Bool) : Value → Prop
  | .record members _ => (Members.names members).Nodup
  | .dictionary entries => entries.Pairwise fun a b => ∀ key : Scalar,
      a.1.equal ignoreCase key = true → ¬ b.1.equal ignoreCase key = true
  | _ => True

def Keyed (ignoreCase : Bool) (v : Value) : Prop := v.Everywhere (OneEntryEach ignoreCase)

theorem membersWithin_symm {left right : List (String × Value)}
    (hnodup : (Members.names left).Nodup) (hlength : right.length ≤ left.length)
    (back : ∀ c ∈ left.map (·.2), ∀ d, c.equal ignoreCase d = true → d.equal ignoreCase c = true)
    (h : membersWithin ignoreCase right left = true) :
    membersWithin ignoreCase left right = true := by
  rw [membersWithin_iff] at h ⊢
  have hmeets : ∀ member ∈ left, ∃ other ∈ right, member.1 = other.1 ∧
      member.2.equal ignoreCase other.2 = true := by
    intro member hmember
    obtain ⟨found, hfound, hequal⟩ := h member hmember
    exact ⟨(member.1, found), Members.mem_of_get? hfound, rfl, hequal⟩
  have hapart : left.Pairwise fun a b => ∀ other : String × Value,
      (a.1 = other.1 ∧ a.2.equal ignoreCase other.2 = true) →
        ¬ (b.1 = other.1 ∧ b.2.equal ignoreCase other.2 = true) :=
    (List.pairwise_map.mp hnodup).imp fun hne other ha hb => hne (ha.1.trans hb.1.symm)
  intro other hother
  obtain ⟨member, hmember, hname, hequal⟩ :=
    exists_of_length_le hlength hapart hmeets other hother
  refine ⟨member.2, ?_, back _ (List.mem_map_of_mem hmember) _ hequal⟩
  rw [← hname]
  exact Members.get?_of_mem hnodup hmember

theorem entriesWithin_symm {left right : List (Scalar × Value)}
    (hkeys : left.Pairwise fun a b => ∀ key : Scalar,
      a.1.equal ignoreCase key = true → ¬ b.1.equal ignoreCase key = true)
    (hlength : right.length ≤ left.length)
    (back : ∀ c ∈ left.map (·.2), ∀ d, c.equal ignoreCase d = true → d.equal ignoreCase c = true)
    (h : entriesWithin ignoreCase right left = true) :
    entriesWithin ignoreCase left right = true := by
  rw [entriesWithin_iff] at h ⊢
  have hapart : left.Pairwise fun a b => ∀ other : Scalar × Value,
      (a.1.equal ignoreCase other.1 = true ∧ a.2.equal ignoreCase other.2 = true) →
        ¬ (b.1.equal ignoreCase other.1 = true ∧ b.2.equal ignoreCase other.2 = true) :=
    hkeys.imp fun hapart other ha hb => hapart other.1 ha.1 hb.1
  intro other hother
  obtain ⟨entry, hentry, hkey, hequal⟩ := exists_of_length_le hlength hapart h other hother
  refine ⟨entry, hentry, ?_, back _ (List.mem_map_of_mem hentry) _ hequal⟩
  rw [Scalar.equal_comm]
  exact hkey

-- What is equal to a value on the right is equal to it on the left, if the value itself has no
-- entry twice. Nothing has to be known of the other side.
theorem Keyed.equal_symm {v w : Value} (hkeyed : v.Keyed ignoreCase)
    (h : v.equal ignoreCase w = true) : w.equal ignoreCase v = true := by
  induction v using childInduction generalizing w with
  | step v ih =>
      have back : ∀ c ∈ v.children, ∀ d, c.equal ignoreCase d = true →
          d.equal ignoreCase c = true := fun c hc d => ih c hc (hkeyed.child hc)
      have hself := hkeyed.self
      cases v with
      | scalar a =>
          cases w with
          | scalar b =>
              rw [equal] at h ⊢
              rw [Scalar.equal_comm]
              exact h
          | _ => simp [equal] at h
      | sequence items =>
          cases w with
          | sequence others =>
              rw [equal] at h ⊢
              exact equalItems_symm back h
          | _ => simp [equal] at h
      | record members tag =>
          cases w with
          | record others otherTag =>
              simp only [equal, Bool.and_eq_true, beq_iff_eq] at h ⊢
              obtain ⟨⟨htag, hlength⟩, hwithin⟩ := h
              exact ⟨⟨htag.symm, hlength.symm⟩,
                membersWithin_symm hself hlength.ge back hwithin⟩
          | _ => simp [equal] at h
      | dictionary entries =>
          cases w with
          | dictionary others =>
              simp only [equal, Bool.and_eq_true, beq_iff_eq] at h ⊢
              obtain ⟨hlength, hwithin⟩ := h
              exact ⟨hlength.symm, entriesWithin_symm hself hlength.ge back hwithin⟩
          | _ => simp [equal] at h

end Value

namespace Outcome

-- Where every name and every key stands for one entry, equality does not depend on which side a
-- value stands.
theorem equal_comm_of_keyed (ignoreCase : Bool) {a b : Outcome}
    (ha : ∀ v ∈ a.value?, v.Keyed ignoreCase) (hb : ∀ v ∈ b.value?, v.Keyed ignoreCase) :
    BinaryOp.equal.apply ignoreCase a b = BinaryOp.equal.apply ignoreCase b a ∧
      BinaryOp.notEqual.apply ignoreCase a b = BinaryOp.notEqual.apply ignoreCase b a := by
  have hequal : a.equal ignoreCase b = b.equal ignoreCase a := by
    cases a <;> cases b <;> try rfl
    next v w =>
    have hsame : v.equal ignoreCase w = w.equal ignoreCase v :=
      Bool.eq_iff_iff.mpr ⟨(ha v rfl).equal_symm, (hb w rfl).equal_symm⟩
    exact congrArg bool hsame
  exact ⟨hequal, congrArg not hequal⟩

-- `{A: {x: null, y: 2}, b: [1]}` and, with an unsigned number, `{B: [1], a: {y: 2, x: null}}`.

private def ordered : Value := .dictionary
  [(.string "A", .record [("x", .null), ("y", .scalar (.int 2))] none),
    (.string "b", .sequence [.scalar (.int 1)])]

private def reordered : Value := .dictionary
  [(.string "B", .sequence [.scalar (.int 1)]),
    (.string "a", .record [("y", .scalar (.uint 2)), ("x", .null)] none)]

private theorem lower_a : Text.lower ['A'] = Text.lower ['a'] := by decide

private theorem lower_b : Text.lower ['B'] = Text.lower ['b'] := by decide

private theorem keyed_scalar (ignoreCase : Bool) (s : Scalar) :
    (Value.scalar s).Keyed ignoreCase := .of_children trivial nofun

private theorem keyed_dictionary {ignoreCase : Bool} {first second : String} {v w : Value}
    (hne : Scalar.equal ignoreCase (.string first) (.string second) = false)
    (hv : v.Keyed ignoreCase) (hw : w.Keyed ignoreCase) :
    (Value.dictionary [(.string first, v), (.string second, w)]).Keyed ignoreCase := by
  refine .of_children (List.pairwise_pair.mpr fun key hfirst hsecond => ?_) ?_
  · cases key with
    | string text => cases ignoreCase <;> simp_all [Scalar.equal]
    | _ => simp [Scalar.equal] at hfirst
  · simp only [Value.children, List.map_cons, List.map_nil, List.forall_mem_cons]
    exact ⟨hv, hw, List.forall_mem_nil _⟩

private theorem keyed_ordered : ordered.Keyed true := by
  refine keyed_dictionary (by decide) (.of_children ?_ ?_) (.of_children trivial ?_)
  · exact (by decide : ["x", "y"].Nodup)
  · simp only [Value.children, List.map_cons, List.map_nil, List.forall_mem_cons]
    exact ⟨keyed_scalar true _, keyed_scalar true _, List.forall_mem_nil _⟩
  · simp only [Value.children, List.forall_mem_cons]
    exact ⟨keyed_scalar true _, List.forall_mem_nil _⟩

private theorem keyed_reordered : reordered.Keyed true := by
  refine keyed_dictionary (by decide) (.of_children trivial ?_) (.of_children ?_ ?_)
  · simp only [Value.children, List.forall_mem_cons]
    exact ⟨keyed_scalar true _, List.forall_mem_nil _⟩
  · exact (by decide : ["y", "x"].Nodup)
  · simp only [Value.children, List.map_cons, List.map_nil, List.forall_mem_cons]
    exact ⟨keyed_scalar true _, keyed_scalar true _, List.forall_mem_nil _⟩

theorem equal_comm_reordered :
    (ordered.Keyed true ∧ reordered.Keyed true) ∧
      (BinaryOp.equal.apply true (.value ordered) (.value reordered)
          = BinaryOp.equal.apply true (.value reordered) (.value ordered) ∧
        BinaryOp.notEqual.apply true (.value ordered) (.value reordered)
          = BinaryOp.notEqual.apply true (.value reordered) (.value ordered)) ∧
      BinaryOp.equal.apply true (.value reordered) (.value ordered) = .bool true := by
  refine ⟨⟨keyed_ordered, keyed_reordered⟩, equal_comm_of_keyed true ?_ ?_, ?_⟩
  · rintro v ⟨⟩
    exact keyed_ordered
  · rintro v ⟨⟩
    exact keyed_reordered
  · simp [BinaryOp.apply, Outcome.equal, ordered, reordered, Value.equal, Value.entriesWithin,
      Value.equalItems, Value.membersWithin, Scalar.equal, Members.get?, Value.null, lower_a,
      lower_b]

-- Without regard to case `A` and `a` are one key, although they are two keys of a dictionary. So
-- `{A: 1, a: 1}` counts as equal to `{a: 1, b: 2}`, but not the other way round.

private def twoCases : Value :=
  .dictionary [(.string "A", .scalar (.int 1)), (.string "a", .scalar (.int 1))]

private def twoLetters : Value :=
  .dictionary [(.string "a", .scalar (.int 1)), (.string "b", .scalar (.int 2))]

theorem equal_one_sided :
    (twoCases.Keyed false ∧ twoLetters.Keyed false) ∧
      (BinaryOp.equal.apply true (.value twoCases) (.value twoLetters) = .bool true ∧
        BinaryOp.equal.apply true (.value twoLetters) (.value twoCases) = .bool false) ∧
      BinaryOp.notEqual.apply true (.value twoCases) (.value twoLetters) = .bool false ∧
        BinaryOp.notEqual.apply true (.value twoLetters) (.value twoCases) = .bool true := by
  have hforth : twoCases.equal true twoLetters = true := by
    simp [twoCases, twoLetters, Value.equal, Value.entriesWithin, Scalar.equal, lower_a]
  have hback : twoLetters.equal true twoCases = false := by
    simp [twoCases, twoLetters, Value.equal, Value.entriesWithin, Scalar.equal, lower_a]
  refine ⟨⟨?_, ?_⟩, ⟨congrArg bool hforth, congrArg bool hback⟩, ?_, ?_⟩
  · exact keyed_dictionary (by decide) (keyed_scalar false _) (keyed_scalar false _)
  · exact keyed_dictionary (by decide) (keyed_scalar false _) (keyed_scalar false _)
  · exact congrArg (fun b => (bool b).not) hforth
  · exact congrArg (fun b => (bool b).not) hback

end Outcome

end EventText
