import EventText.Value.Basic

namespace EventText

namespace Value

-- The values directly inside a value, in order.
def children : Value → List Value
  | .scalar _ => []
  | .sequence items => items
  | .record members _ => members.map (·.2)
  | .dictionary entries => entries.map (·.2)

theorem sizeOf_child {c v : Value} (h : c ∈ v.children) : sizeOf c < sizeOf v := by
  cases v with
  | scalar s => cases h
  | sequence items =>
    have := List.sizeOf_lt_of_mem (show c ∈ items from h)
    simp only [sequence.sizeOf_spec]
    omega
  | record members tag =>
    obtain ⟨member, hmember, rfl⟩ := List.mem_map.mp h
    have := List.sizeOf_lt_of_mem hmember
    obtain ⟨name, content⟩ := member
    simp only [record.sizeOf_spec, Prod.mk.sizeOf_spec] at this ⊢
    omega
  | dictionary entries =>
    obtain ⟨entry, hentry, rfl⟩ := List.mem_map.mp h
    have := List.sizeOf_lt_of_mem hentry
    obtain ⟨key, content⟩ := entry
    simp only [dictionary.sizeOf_spec, Prod.mk.sizeOf_spec] at this ⊢
    omega

-- Values are nested through lists, so that what is shown of all children is shown of the whole.
@[elab_as_elim]
theorem childInduction {P : Value → Prop} (step : ∀ v, (∀ c ∈ v.children, P c) → P v)
    (v : Value) : P v :=
  step v fun c h =>
    have := sizeOf_child h
    childInduction step c
termination_by sizeOf v

-- A value that stands anywhere in another one, or is that one.
inductive Occurs (w : Value) : Value → Prop
  | here : Occurs w w
  | inside {c v : Value} (child : c ∈ v.children) (deeper : Occurs w c) : Occurs w v

def Everywhere (P : Value → Prop) (v : Value) : Prop := ∀ w, Occurs w v → P w

namespace Everywhere

variable {P : Value → Prop} {v : Value}

theorem self (h : v.Everywhere P) : P v := h v .here

theorem child (h : v.Everywhere P) {c : Value} (hc : c ∈ v.children) : c.Everywhere P :=
  fun w hw => h w (.inside hc hw)

theorem of_children (hself : P v) (h : ∀ c ∈ v.children, c.Everywhere P) : v.Everywhere P :=
  fun _ hw => match hw with
    | .here => hself
    | .inside hc deeper => h _ hc _ deeper

end Everywhere

def NoFloats (v : Value) : Prop := v.Everywhere fun w => ∀ x, w ≠ .scalar (.float x)

mutual

-- How many sequences, records and dictionaries stand around the innermost one.
def depth : Value → Nat
  | .scalar _ => 0
  | .sequence items => depthItems items + 1
  | .record members _ => depthMembers members + 1
  | .dictionary entries => depthEntries entries + 1

def depthItems : List Value → Nat
  | [] => 0
  | item :: rest => max item.depth (depthItems rest)

def depthMembers : List (String × Value) → Nat
  | [] => 0
  | (_, member) :: rest => max member.depth (depthMembers rest)

def depthEntries : List (Scalar × Value) → Nat
  | [] => 0
  | (_, entry) :: rest => max entry.depth (depthEntries rest)

end

theorem depthMembers_eq (members : List (String × Value)) :
    depthMembers members = depthItems (members.map (·.2)) := by
  induction members with
  | nil => rfl
  | cons member rest ih => rw [depthMembers, ih, List.map_cons, depthItems]

theorem depthEntries_eq (entries : List (Scalar × Value)) :
    depthEntries entries = depthItems (entries.map (·.2)) := by
  induction entries with
  | nil => rfl
  | cons entry rest ih => rw [depthEntries, ih, List.map_cons, depthItems]

theorem depth_le_depthItems {c : Value} {items : List Value} (h : c ∈ items) :
    c.depth ≤ depthItems items := by
  induction items with
  | nil => cases h
  | cons item rest ih =>
    rw [depthItems]
    rcases List.mem_cons.mp h with rfl | h
    · exact Nat.le_max_left _ _
    · exact Nat.le_trans (ih h) (Nat.le_max_right _ _)

theorem depthItems_le {items : List Value} {bound : Nat} (h : ∀ c ∈ items, c.depth ≤ bound) :
    depthItems items ≤ bound := by
  induction items with
  | nil => exact Nat.zero_le bound
  | cons item rest ih =>
    rw [depthItems]
    exact Nat.max_le.mpr ⟨h item List.mem_cons_self, ih fun c hc => h c (List.mem_cons_of_mem _ hc)⟩

theorem depth_child {c v : Value} (h : c ∈ v.children) : c.depth < v.depth := by
  cases v with
  | scalar s => cases h
  | sequence items => exact Nat.lt_succ_of_le (depth_le_depthItems h)
  | record members tag =>
    rw [depth, depthMembers_eq]
    exact Nat.lt_succ_of_le (depth_le_depthItems h)
  | dictionary entries =>
    rw [depth, depthEntries_eq]
    exact Nat.lt_succ_of_le (depth_le_depthItems h)

end Value

end EventText
