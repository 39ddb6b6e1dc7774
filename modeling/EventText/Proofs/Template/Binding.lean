import EventText.Proofs.Expr.Allotting
import EventText.Proofs.Template.Flat

namespace EventText

-- Names that have all slots from one on up to another, in ascending order.
def Names.Cover (names : Names) (next after : Nat) : Prop :=
  next ≤ after ∧ names.map (·.slot) = List.range' next (after - next)

theorem Names.cover_nil (next : Nat) : Names.Cover [] next next := by
  simp [Names.Cover]

theorem Names.Cover.consecutive {names : Names} {next after : Nat} (h : names.Cover next after) :
    Consecutive next after (names.map (·.slot)) := h

theorem Names.Cover.append {xs ys : Names} {next middle after : Nat} (hx : xs.Cover next middle)
    (hy : ys.Cover middle after) : Names.Cover (xs ++ ys) next after := by
  have hslots := hx.consecutive.append hy.consecutive
  rw [← List.map_append] at hslots
  exact hslots

namespace Block

theorem cover_freshNames {first : String} {second : Option String} {next opened : Nat}
    {boundFirst : BoundName} {boundSecond : Option BoundName}
    (h : freshNames first second next = (boundFirst, boundSecond, opened)) :
    Names.Cover (boundFirst :: boundSecond.toList) next opened := by
  unfold freshNames at h
  split at h <;> cases h <;> simp [Names.Cover, List.range']

-- Fresh slots lie between the next free one before and the next free one after.
theorem slot_freshNames {first : String} {second : Option String} {next opened : Nat}
    {boundFirst : BoundName} {boundSecond : Option BoundName}
    (h : freshNames first second next = (boundFirst, boundSecond, opened)) {n : Nat}
    (hn : n ∈ boundFirst.slot :: (boundSecond.map (·.slot)).toList) : next ≤ n ∧ n < opened := by
  have hmem : n ∈ (boundFirst :: boundSecond.toList).map (·.slot) := by
    cases boundSecond <;> simpa using hn
  exact (cover_freshNames h).consecutive.mem_iff.mp hmem

theorem names_freshNames {first : String} {second : Option String} {next opened : Nat}
    {boundFirst : BoundName} {boundSecond : Option BoundName}
    (h : freshNames first second next = (boundFirst, boundSecond, opened)) :
    boundFirst.name = first ∧ boundSecond.map (·.name) = second := by
  unfold freshNames at h
  split at h <;> cases h <;> simp

theorem slot?_visible (first : BoundName) (second : Option BoundName) (names : Names)
    (name : String) :
    (visible first second names).slot? name
      = if second.map (·.name) = some name then second.map (·.slot)
        else if first.name = name then some first.slot else names.slot? name := by
  cases second with
  | none => by_cases h : first.name = name <;> simp [visible, Names.slot?, h]
  | some second =>
      by_cases hsecond : second.name = name
      · simp [visible, Names.slot?, hsecond]
      · by_cases hfirst : first.name = name <;> simp [visible, Names.slot?, hsecond, hfirst]

theorem mem_visible {first bound : BoundName} {second : Option BoundName} {names : Names}
    (h : bound ∈ visible first second names) :
    bound.slot ∈ first.slot :: (second.map (·.slot)).toList ∨ bound ∈ names := by
  rcases List.mem_append.mp h with hsecond | hrest
  · obtain rfl := Option.mem_toList.mp hsecond
    exact .inl (by simp)
  · exact (List.mem_cons.mp hrest).imp_left fun hfirst => by simp [hfirst]

theorem names_lt_visible {names : Names} {first : String} {second : Option String}
    {boundFirst : BoundName} {boundSecond : Option BoundName} {next opened : Nat}
    (hnames : ∀ bound ∈ names, bound.slot < next)
    (fresh : freshNames first second next = (boundFirst, boundSecond, opened)) :
    ∀ bound ∈ visible boundFirst boundSecond names, bound.slot < opened := by
  intro bound hbound
  rcases mem_visible hbound with hfresh | hnamed
  · exact (slot_freshNames fresh hfresh).2
  · exact Nat.lt_of_lt_of_le (hnames bound hnamed) (cover_freshNames fresh).1

-- All that binding does, for blocks that are bound one after the other. The branches of a choice
-- are taken off one by one, and a section is the choice that has nothing else.
inductive Binds : Names → Nat → List (Block String) → List (Block BoundName) → Nat → Prop
  | nil {names next} : Binds names next [] [] next
  | cons {names block bound rest bounds next middle after}
      (first : Binds names next [block] [bound] middle)
      (others : Binds names middle rest bounds after) :
      Binds names next (block :: rest) (bound :: bounds) after
  | text {names chars next} : Binds names next [.text chars] [.text chars] next
  | placeholder {names hole next} :
      Binds names next [.placeholder hole]
        [.placeholder { hole with expression := hole.expression.bind names }] next
  | nothing {names position next} :
      Binds names next [.choice [] none position] [.choice [] none position] next
  | otherwise {names blocks bounds position next after}
      (inner : Binds names next blocks bounds after) :
      Binds names next [.choice [] (some blocks) position] [.choice [] (some bounds) position] after
  | branch {names condition blocks bounds branches boundBranches otherwise boundOtherwise position
        next middle after}
      (inner : Binds names next blocks bounds middle)
      (others : Binds names middle [.choice branches otherwise position]
        [.choice boundBranches boundOtherwise position] after) :
      Binds names next [.choice ((condition, blocks) :: branches) otherwise position]
        [.choice ((condition.bind names, bounds) :: boundBranches) boundOtherwise position] after
  | iteration {names first second boundFirst boundSecond collection body boundBody delimiter
        boundDelimiter alternative boundAlternative position next opened filled between after}
      (fresh : freshNames first second next = (boundFirst, boundSecond, opened))
      (inner : Binds (visible boundFirst boundSecond names) opened body boundBody filled)
      (middle : Binds (visible boundFirst boundSecond names) filled [.choice [] delimiter 0]
        [.choice [] boundDelimiter 0] between)
      (last : Binds names between [.choice [] alternative 0] [.choice [] boundAlternative 0] after) :
      Binds names next [.iteration first second collection body delimiter alternative position]
        [.iteration boundFirst boundSecond (collection.bind names) boundBody boundDelimiter
          boundAlternative position] after

private theorem binds_section {names : Names} {next : Nat} {part : Option (List (Block String))}
    (h : ∀ blocks ∈ part, ∀ names next,
      Binds names next blocks (bindAll names next blocks).1 (bindAll names next blocks).2)
    (position : Nat) :
    Binds names next [.choice [] part position]
      [.choice [] (bindSection names next part).1 position] (bindSection names next part).2 := by
  cases part with
  | none => exact .nothing
  | some blocks => exact .otherwise (h blocks rfl names next)

private theorem binds_choice {names : Names} {next : Nat}
    {branches : List (Expr × List (Block String))} {otherwise : Option (List (Block String))}
    (hbranches : ∀ branch ∈ branches, ∀ names next,
      Binds names next branch.2 (bindAll names next branch.2).1 (bindAll names next branch.2).2)
    (hotherwise : ∀ blocks ∈ otherwise, ∀ names next,
      Binds names next blocks (bindAll names next blocks).1 (bindAll names next blocks).2)
    (position : Nat) :
    Binds names next [.choice branches otherwise position]
      [(bind names next (.choice branches otherwise position)).1]
      (bind names next (.choice branches otherwise position)).2 := by
  induction branches generalizing next with
  | nil =>
      simp only [bind, bindBranches]
      exact binds_section hotherwise position
  | cons branch rest ih =>
      obtain ⟨condition, blocks⟩ := branch
      have hfirst := hbranches (condition, blocks) List.mem_cons_self names next
      have hrest := @ih (bindAll names next blocks).2 fun other hother =>
        hbranches other (List.mem_cons_of_mem _ hother)
      simp only [bind, bindBranches] at hrest ⊢
      exact .branch hfirst hrest

theorem binds_bindAll (names : Names) (next : Nat) (blocks : List (Block String)) :
    Binds names next blocks (bindAll names next blocks).1 (bindAll names next blocks).2 := by
  induction blocks using blocksInduction generalizing names next with
  | nil => exact .nil
  | text chars rest ih => exact .cons .text (ih names next)
  | placeholder hole rest ih => exact .cons .placeholder (ih names next)
  | choice branches otherwise position rest hbranches hotherwise hrest =>
      exact .cons (binds_choice hbranches hotherwise position) (hrest names _)
  | iteration first second collection body delimiter alternative position rest hbody hdelimiter
      halternative hrest =>
      refine .cons ?_ (hrest names _)
      exact .iteration rfl (hbody _ _) (binds_section hdelimiter 0) (binds_section halternative 0)

end Block

end EventText
