import EventText.Value.Basic

namespace EventText.Members

-- Association lists that are built by putting in one member after the other.

variable {α : Type}

theorem put_of_not_mem {members : List (String × α)} {name : String} (value : α)
    (h : name ∉ names members) : put members name value = members ++ [(name, value)] := by
  induction members with
  | nil => rfl
  | cons member rest ih =>
    have hname : (member.1 == name) = false :=
      beq_false_of_ne fun heq => h (heq ▸ List.mem_cons_self)
    rw [put, hname, ih fun hmem => h (List.mem_cons_of_mem _ hmem)]
    rfl

theorem names_put_of_mem {members : List (String × α)} {name : String} (value : α)
    (h : name ∈ names members) : names (put members name value) = names members := by
  induction members with
  | nil => cases h
  | cons member rest ih =>
    cases hname : member.1 == name with
    | true =>
      rw [put, hname]
      rfl
    | false =>
      have hrest : name ∈ names rest :=
        (List.mem_cons.mp h).resolve_left fun heq => ne_of_beq_false hname heq.symm
      rw [put, hname]
      exact congrArg (member.1 :: ·) (ih hrest)

-- Members of distinct names come to stand as they are put in.
theorem foldl_put_of_nodup {front back : List (String × α)} (h : (names (front ++ back)).Nodup) :
    back.foldl (fun members member => put members member.1 member.2) front = front ++ back := by
  induction back generalizing front with
  | nil => exact (List.append_nil front).symm
  | cons member back ih =>
    have hfresh : member.1 ∉ names front := by
      rw [names, List.map_append, List.nodup_append] at h
      exact fun hmem => h.2.2 _ hmem _ List.mem_cons_self rfl
    have hsplit : front ++ [(member.1, member.2)] ++ back = front ++ member :: back := by simp
    rw [List.foldl_cons, put_of_not_mem _ hfresh, ih (hsplit ▸ h), hsplit]

theorem get?_cons (member : String × α) (rest : List (String × α)) (name : String) :
    get? (member :: rest) name = if member.1 == name then some member.2 else get? rest name := by
  cases h : member.1 == name <;> simp [get?, h]

theorem get?_put (members : List (String × α)) (name other : String) (value : α) :
    get? (put members name value) other =
      if name == other then some value else get? members other := by
  induction members with
  | nil => exact get?_cons (name, value) [] other
  | cons member rest ih =>
    cases hname : member.1 == name with
    | true =>
      obtain rfl := eq_of_beq hname
      rw [put, hname, if_pos rfl, get?_cons, get?_cons]
      cases member.1 == other <;> rfl
    | false =>
      rw [put, hname, if_neg Bool.false_ne_true, get?_cons, ih, get?_cons]
      cases hother : member.1 == other with
      | true =>
        obtain rfl := eq_of_beq hother
        rw [beq_false_of_ne (ne_of_beq_false hname).symm]
        rfl
      | false => rfl

theorem get?_of_not_mem {members : List (String × α)} {name : String} (h : name ∉ names members) :
    get? members name = none := by
  have hnone : ∀ member ∈ members, ¬ (member.1 == name) = true :=
    fun member hmember heq => h (eq_of_beq heq ▸ List.mem_map_of_mem hmember)
  rw [get?, List.find?_eq_none.mpr hnone]
  rfl

theorem mem_of_get? {members : List (String × α)} {name : String} {value : α}
    (h : get? members name = some value) : (name, value) ∈ members := by
  obtain ⟨member, hmember, rfl⟩ := Option.map_eq_some_iff.mp h
  have hname : member.1 = name := by simpa using List.find?_some hmember
  exact hname ▸ List.mem_of_find?_eq_some hmember

theorem get?_of_mem {members : List (String × α)} (hnodup : (names members).Nodup)
    {member : String × α} (h : member ∈ members) : get? members member.1 = some member.2 := by
  induction members with
  | nil => cases h
  | cons first rest ih =>
    obtain ⟨hfirst, hrest⟩ := List.nodup_cons.mp hnodup
    rw [get?_cons]
    rcases List.mem_cons.mp h with rfl | h
    · rw [beq_self_eq_true, if_pos rfl]
    · have hne : (first.1 == member.1) = false :=
        beq_false_of_ne fun heq => hfirst (List.mem_map.mpr ⟨member, h, heq.symm⟩)
      rw [hne]
      exact ih hrest h

end EventText.Members
