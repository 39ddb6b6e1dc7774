import EventText.Proofs.Expr.Questions

namespace EventText

def Question.isRemaining : Question → Bool
  | remaining _ => true
  | _ => false

theorem Names.slot?_eq_none {names : Names} {name : String} :
    names.slot? name = none ↔ name ∉ names.map (·.name) := by
  simp [Names.slot?]

namespace Expr

variable {excluded captured : List String}

-- Binding takes away the questions for the names that it captures, and leaves all others.

private theorem ownQuestions?_bind {names : Names} {e : Expr}
    (h : e.ownQuestions? excluded (names.map (·.name)) = none) :
    (e.bind names).ownQuestions? excluded [] = none := by
  cases e with
  | property name => cases h
  | builtin p => cases h
  | call name arguments ignoreCase position =>
      have hrest : Surroundings.isRest name arguments ignoreCase = false := by
        simpa [ownQuestions?] using h
      rw [bind]
      exact ownQuestions?_call ((isRest_bindAll name arguments ignoreCase).trans hrest) position
  | member target name =>
      rw [bind]
      refine ownQuestions?_member (fun heq => ?_) name
      obtain rfl := bind_eq_builtin.mp heq
      cases h
  | index target key =>
      rw [bind]
      refine ownQuestions?_index fun name heq hkey => ?_
      obtain rfl := bind_eq_builtin.mp heq
      obtain rfl := bind_eq_constant.mp hkey
      cases h
  | conditional condition consequent alternative => cases alternative <;> rfl
  | _ => simp [bind, ownQuestions?]

theorem questions_bind (names : Names) (e : Expr) :
    (e.bind names).questions excluded [] = e.questions excluded (names.map (·.name)) := by
  induction e using questionInduction excluded (names.map (·.name)) with
  | own e questions h =>
      rw [questions_of_own h]
      obtain ⟨name, rfl, rfl⟩ | ⟨p, rfl, rfl⟩ | ⟨name, rfl | rfl, rfl⟩ |
        ⟨name, ignoreCase, position, rfl, hrest, rfl⟩ := ownQuestions?_eq_some h
      · rw [bind]
        cases hslot : names.slot? name with
        | none =>
            rw [if_neg (Names.slot?_eq_none.mp hslot)]
            exact questions_of_own rfl
        | some n =>
            have hcaptured : name ∈ names.map (·.name) := by
              obtain ⟨bound, hbound, hname, -⟩ := Names.exists_of_slot? hslot
              exact List.mem_map.mpr ⟨bound, hbound, hname⟩
            rw [if_pos hcaptured]
            exact questions_slot n
      · exact questions_of_own rfl
      · exact questions_of_own rfl
      · exact questions_of_own rfl
      · exact questions_of_own (if_pos hrest)
  | inner e h ih =>
      rw [questions_of_children h, questions_of_children (ownQuestions?_bind h), children_bind,
        List.flatMap_map, List.flatMap_def, List.flatMap_def, List.map_congr_left ih]

-- The names that a bound template leaves out of `rest()` are those that it asks for.

private theorem referencesAll_eq (es : List Expr) : referencesAll es = es.flatMap references := by
  induction es with
  | nil => simp [referencesAll]
  | cons e rest ih => simp [referencesAll, ih]

private theorem referencesElements_eq (elements : List (Element Expr)) :
    referencesElements elements = (elements.map Element.content).flatMap references := by
  induction elements with
  | nil => simp [referencesElements]
  | cons element rest ih => cases element <;> simp [referencesElements, Element.content, ih]

private theorem referencesMembers_eq (members : List (Member Expr)) :
    referencesMembers members = (members.map Member.content).flatMap references := by
  induction members with
  | nil => simp [referencesMembers]
  | cons member rest ih => cases member <;> simp [referencesMembers, Member.content, ih]

theorem references_eq (e : Expr) :
    e.references = e.ownReference ++ e.children.flatMap references := by
  cases e with
  | call name arguments ignoreCase position => simp [references, children, referencesAll_eq]
  | array elements => simp [references, children, referencesElements_eq]
  | object members => simp [references, children, referencesMembers_eq]
  | conditional condition consequent alternative =>
      cases alternative <;> simp [references, children]
  | _ => simp [references, children]

theorem ownReference_eq_nil {e : Expr} (h : e.ownQuestions? excluded captured = none) :
    e.ownReference = [] := by
  unfold ownReference
  split <;> first | rfl | cases h

theorem mem_references {name : String} {e : Expr} :
    name ∈ e.references ↔ Question.property name ∈ e.questions excluded [] := by
  induction e using questionInduction excluded [] with
  | own e questions h =>
      rw [references_eq, questions_of_own h]
      obtain ⟨other, rfl, rfl⟩ | ⟨p, rfl, rfl⟩ | ⟨other, rfl | rfl, rfl⟩ |
        ⟨other, ignoreCase, position, rfl, hrest, rfl⟩ := ownQuestions?_eq_some h
      all_goals simp [ownReference, children, references_eq]
  | inner e h ih =>
      rw [references_eq, ownReference_eq_nil h, questions_of_children h, List.nil_append,
        List.mem_flatMap, List.mem_flatMap]
      exact exists_congr fun c => and_congr_right (ih c)

-- An expression names a property by a plain name that is not captured, or as a member of `@p`
-- whose name is written out.
def Mentions (captured : List String) (name : String) (e : Expr) : Prop :=
  (name ∉ captured ∧ (Expr.property name).Occurs e) ∨
    (Expr.member (.builtin .properties) name).Occurs e ∨
    (Expr.index (.builtin .properties) (.constant (.string name))).Occurs e

private theorem occurs_leaf {f e : Expr} (h : e.children = []) : f.Occurs e ↔ f = e := by
  rw [occurs_iff, h]
  simp

private theorem mentions_iff_children {e : Expr} {name : String}
    (h : e.ownQuestions? excluded captured = none) :
    e.Mentions captured name ↔ ∃ c ∈ e.children, c.Mentions captured name := by
  have hplain : Expr.property name ≠ e := by
    rintro rfl
    cases h
  have hmember : Expr.member (.builtin .properties) name ≠ e := by
    rintro rfl
    cases h
  have hindex : Expr.index (.builtin .properties) (.constant (.string name)) ≠ e := by
    rintro rfl
    cases h
  constructor
  · rintro (⟨hfree, hoccurs⟩ | hoccurs | hoccurs)
    · obtain ⟨c, hc, hdeep⟩ := hoccurs.exists_child hplain
      exact ⟨c, hc, .inl ⟨hfree, hdeep⟩⟩
    · obtain ⟨c, hc, hdeep⟩ := hoccurs.exists_child hmember
      exact ⟨c, hc, .inr (.inl hdeep)⟩
    · obtain ⟨c, hc, hdeep⟩ := hoccurs.exists_child hindex
      exact ⟨c, hc, .inr (.inr hdeep)⟩
  · rintro ⟨c, hc, ⟨hfree, hdeep⟩ | hdeep | hdeep⟩
    · exact .inl ⟨hfree, .inside hc hdeep⟩
    · exact .inr (.inl (.inside hc hdeep))
    · exact .inr (.inr (.inside hc hdeep))

theorem property_mem_questions {name : String} {e : Expr} :
    Question.property name ∈ e.questions excluded captured ↔ e.Mentions captured name := by
  induction e using questionInduction excluded captured with
  | own e questions h =>
      rw [questions_of_own h]
      obtain ⟨other, rfl, rfl⟩ | ⟨p, rfl, rfl⟩ | ⟨other, rfl | rfl, rfl⟩ |
        ⟨other, ignoreCase, position, rfl, hrest, rfl⟩ := ownQuestions?_eq_some h
      · have hleaf {f : Expr} := @occurs_leaf f (.property other) rfl
        by_cases hname : name = other
        · subst hname
          by_cases hcaptured : name ∈ captured <;> simp [Mentions, hleaf, hcaptured]
        · have hnone : Question.property name ∉
              if other ∈ captured then [] else [Question.property other] := by
            split <;> simp [hname]
          simp [Mentions, hleaf, hname, hnone]
      · simp [Mentions, @occurs_leaf _ (.builtin p) rfl]
      · simp [Mentions, @occurs_iff _ (.member (.builtin .properties) other), children,
          @occurs_leaf _ (.builtin .properties) rfl]
      · simp [Mentions, children, @occurs_leaf _ (.builtin .properties) rfl,
          @occurs_iff _ (.index (.builtin .properties) (.constant (.string other))),
          @occurs_leaf _ (.constant (.string other)) rfl]
      · simp [Mentions, @occurs_leaf _ (.call other [] ignoreCase position) rfl]
  | inner e h ih =>
      rw [questions_of_children h, mentions_iff_children h, List.mem_flatMap]
      exact exists_congr fun c => and_congr_right (ih c)

-- Every question comes from some part of an expression that asks it itself.
theorem exists_own_of_mem_questions {q : Question} {e : Expr}
    (h : q ∈ e.questions excluded captured) :
    ∃ (f : Expr) (questions : List Question), f.Occurs e ∧
      f.ownQuestions? excluded captured = some questions ∧ q ∈ questions := by
  induction e using questionInduction excluded captured with
  | own e questions hown =>
      rw [questions_of_own hown] at h
      exact ⟨e, questions, .here, hown, h⟩
  | inner e hown ih =>
      rw [questions_of_children hown] at h
      obtain ⟨c, hc, hdeep⟩ := List.mem_flatMap.mp h
      obtain ⟨f, questions, hoccurs, hquestions⟩ := ih c hc hdeep
      exact ⟨f, questions, .inside hc hoccurs, hquestions⟩

theorem builtin_occurs {p : BuiltinProperty} {e : Expr}
    (h : Question.builtin p ∈ e.questions excluded captured) : (Expr.builtin p).Occurs e := by
  obtain ⟨f, questions, hoccurs, hown, hq⟩ := exists_own_of_mem_questions h
  obtain ⟨name, rfl, rfl⟩ | ⟨other, rfl, rfl⟩ | ⟨name, -, rfl⟩ |
    ⟨name, ignoreCase, position, rfl, hrest, rfl⟩ := ownQuestions?_eq_some hown
  · split at hq <;> simp at hq
  · obtain rfl : p = other := by simpa using hq
    exact hoccurs
  · simp at hq
  · simp at hq

theorem rest_occurs {names : List String} {e : Expr}
    (h : Question.remaining names ∈ e.questions excluded captured) :
    names = excluded ∧ ∃ name ignoreCase position,
      (Expr.call name [] ignoreCase position).Occurs e ∧
        Surroundings.isRest name [] ignoreCase = true := by
  obtain ⟨f, questions, hoccurs, hown, hq⟩ := exists_own_of_mem_questions h
  obtain ⟨name, rfl, rfl⟩ | ⟨other, rfl, rfl⟩ | ⟨name, -, rfl⟩ |
    ⟨name, ignoreCase, position, rfl, hrest, rfl⟩ := ownQuestions?_eq_some hown
  · split at hq <;> simp at hq
  · simp at hq
  · simp at hq
  · obtain rfl : names = excluded := by simpa using hq
    exact ⟨rfl, name, ignoreCase, position, hoccurs, hrest⟩

-- `@p` is used as a whole: it stands somewhere else than before a name that is written out.
inductive UsesWhole : Expr → Prop
  | here : UsesWhole (.builtin .properties)
  | inside {c e : Expr} (child : c ∈ e.children) (other : e.ownReference = [])
      (deeper : UsesWhole c) : UsesWhole e

theorem usesWhole_of_mem_questions {e : Expr}
    (h : Question.builtin .properties ∈ e.questions excluded captured) : e.UsesWhole := by
  induction e using questionInduction excluded captured with
  | own e questions hown =>
      rw [questions_of_own hown] at h
      obtain ⟨name, rfl, rfl⟩ | ⟨other, rfl, rfl⟩ | ⟨name, -, rfl⟩ |
        ⟨name, ignoreCase, position, rfl, hrest, rfl⟩ := ownQuestions?_eq_some hown
      · split at h <;> simp at h
      · obtain rfl : .properties = other := by simpa using h
        exact .here
      · simp at h
      · simp at h
  | inner e hown ih =>
      rw [questions_of_children hown] at h
      obtain ⟨c, hc, hdeep⟩ := List.mem_flatMap.mp h
      exact .inside hc (ownReference_eq_nil hown) (ih c hc hdeep)

def isRestCall : Expr → Bool
  | .call name arguments ignoreCase _ => Surroundings.isRest name arguments ignoreCase
  | _ => false

-- How often an expression calls `rest()`.
def restCalls (e : Expr) : Nat :=
  (if e.isRestCall then 1 else 0) + (e.children.attach.map fun c => restCalls c.1).sum
termination_by e.size
decreasing_by exact size_child c.2

theorem restCalls_eq (e : Expr) :
    e.restCalls = (if e.isRestCall then 1 else 0) + (e.children.map restCalls).sum := by
  rw [restCalls]
  simp

theorem isRestCall_eq_false {e : Expr} (h : e.ownQuestions? excluded captured = none) :
    e.isRestCall = false := by
  cases e with
  | call name arguments ignoreCase position => simpa [ownQuestions?, isRestCall] using h
  | _ => rfl

theorem countP_questions (e : Expr) :
    (e.questions excluded captured).countP Question.isRemaining = e.restCalls := by
  induction e using questionInduction excluded captured with
  | own e questions h =>
      rw [questions_of_own h]
      obtain ⟨name, rfl, rfl⟩ | ⟨p, rfl, rfl⟩ | ⟨name, rfl | rfl, rfl⟩ |
        ⟨name, ignoreCase, position, rfl, hrest, rfl⟩ := ownQuestions?_eq_some h
      · split <;> simp [restCalls_eq, children, isRestCall, Question.isRemaining]
      · simp [restCalls_eq, children, isRestCall, Question.isRemaining]
      · simp [restCalls_eq, children, isRestCall, Question.isRemaining]
      · simp [restCalls_eq, children, isRestCall, Question.isRemaining]
      · simp [restCalls_eq, children, isRestCall, Question.isRemaining, hrest]
  | inner e h ih =>
      have hcounts : e.children.map (fun c =>
          (c.questions excluded captured).countP Question.isRemaining)
            = e.children.map restCalls := List.map_congr_left ih
      rw [questions_of_children h, List.countP_flatMap, restCalls_eq, isRestCall_eq_false h]
      simp only [Function.comp_def, hcounts, Bool.false_eq_true, if_false, Nat.zero_add]

end Expr

end EventText
