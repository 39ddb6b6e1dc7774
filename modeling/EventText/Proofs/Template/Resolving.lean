import EventText.Proofs.Expr.Resolving
import EventText.Proofs.Template.Compiling

namespace EventText

namespace Block

-- The calls of all expressions of a nested template.
def callsAll (blocks : List (Block String)) : List Call :=
  (expressionsAll blocks).flatMap Expr.calls

theorem callsAll_cons (block : Block String) (rest : List (Block String)) :
    callsAll (block :: rest) = callsAll [block] ++ callsAll rest := by
  rw [callsAll, expressionsAll_cons, List.flatMap_append]
  rfl

@[simp] theorem callsAll_placeholder (hole : Placeholder) :
    callsAll [.placeholder hole] = hole.expression.calls := by
  simp [callsAll]

@[simp] theorem callsAll_otherwise (blocks : List (Block String)) (position : Nat) :
    callsAll [.choice [] (some blocks) position] = callsAll blocks := by
  simp [callsAll]

@[simp] theorem callsAll_branch (condition : Expr) (blocks : List (Block String))
    (branches : List (Expr × List (Block String))) (otherwise : Option (List (Block String)))
    (position : Nat) :
    callsAll [.choice ((condition, blocks) :: branches) otherwise position]
      = condition.calls ++ (callsAll blocks ++ callsAll [.choice branches otherwise position]) := by
  simp [callsAll]

@[simp] theorem callsAll_iteration (first : String) (second : Option String) (collection : Expr)
    (body : List (Block String)) (delimiter alternative : Option (List (Block String)))
    (position : Nat) :
    callsAll [.iteration first second collection body delimiter alternative position]
      = collection.calls ++ (callsAll body ++ (callsAll [.choice [] delimiter 0]
        ++ callsAll [.choice [] alternative 0])) := by
  simp [callsAll]

end Block

namespace Surroundings

variable {within : Surroundings}

theorem reported_of_lowerPlaceholder {hole : Placeholder} {free : Nat} {failed : TemplateError}
    (h : within.lowerPlaceholder hole free = .error failed) :
    Call.Reported within.resolver hole.expression.calls failed := by
  unfold lowerPlaceholder at h
  split at h
  · cases h
  · cases h
  · cases h
  · cases h
  · rcases bind_eq_error.mp h with hlower | ⟨_, -, h⟩
    · exact reported_of_lower hlower
    · cases h

theorem lowerBlocks_singleton_error {free : Nat} {bound : Block BoundName}
    {failed : TemplateError} :
    within.lowerBlocks free [bound] = .error failed
      ↔ within.lowerBlock free bound = .error failed := by
  constructor
  · intro h
    rcases bind_eq_error.mp h with hblock | ⟨_, -, h⟩
    · exact hblock
    · rcases bind_eq_error.mp h with hrest | ⟨_, -, h⟩
      · cases hrest
      · cases h
  · exact fun h => bind_eq_error.mpr (.inl h)

-- A section fails as the choice does that has nothing else.
theorem lowerBlock_section_error {free : Nat} {part : Option (List (Block BoundName))}
    {failed : TemplateError} (position : Nat) (h : within.lowerSection free part = .error failed) :
    within.lowerBlocks free [.choice [] part position] = .error failed :=
  lowerBlocks_singleton_error.mpr
    (bind_eq_error.mpr (.inr ⟨([], free), rfl, bind_eq_error.mpr (.inl h)⟩))

-- A template that is nested can only fail to compile at a call that does not resolve.
theorem reported_of_binds {names : Names} {next after : Nat} {blocks : List (Block String)}
    {bounds : List (Block BoundName)} (hbinds : Block.Binds names next blocks bounds after)
    {free : Nat} {failed : TemplateError} (h : within.lowerBlocks free bounds = .error failed) :
    Call.Reported within.resolver (Block.callsAll blocks) failed := by
  induction hbinds generalizing free with
  | nil => cases h
  | cons _ _ ihfirst ihothers =>
      rw [Block.callsAll_cons]
      rcases bind_eq_error.mp h with hfirst | ⟨_, -, h⟩
      · have hreported := ihfirst (lowerBlocks_singleton_error.mpr hfirst)
        exact hreported.left _
      · rcases bind_eq_error.mp h with hothers | ⟨_, -, h⟩
        · exact (ihothers hothers).right _
        · cases h
  | text => cases lowerBlocks_singleton_error.mp h
  | placeholder =>
      have hreported := reported_of_lowerPlaceholder (lowerBlocks_singleton_error.mp h)
      rw [Expr.calls_bind] at hreported
      rw [Block.callsAll_placeholder]
      exact hreported
  | nothing => cases lowerBlocks_singleton_error.mp h
  | otherwise _ ih =>
      rw [Block.callsAll_otherwise]
      rcases bind_eq_error.mp (lowerBlocks_singleton_error.mp h) with hnone | ⟨_, hnone, h⟩
      · cases hnone
      · cases hnone
        rcases bind_eq_error.mp h with hpart | ⟨_, -, h⟩
        · rcases bind_eq_error.mp hpart with hinner | ⟨_, -, hpart⟩
          · exact ih hinner
          · cases hpart
        · cases h
  | @branch _ _ _ _ _ boundBranches _ boundOtherwise position _ _ _ _ _ ihinner ihothers =>
      rw [Block.callsAll_branch]
      have others {free : Nat}
          (h : within.lowerBlock free (.choice boundBranches boundOtherwise position)
            = .error failed) := ihothers (lowerBlocks_singleton_error.mpr h)
      rcases bind_eq_error.mp (lowerBlocks_singleton_error.mp h) with hbranches | ⟨_, hbranches, h⟩
      · rcases bind_eq_error.mp hbranches with htested | ⟨_, -, hbranches⟩
        · have hreported := reported_of_lower htested
          rw [Expr.calls_bind] at hreported
          exact hreported.left _
        · rcases bind_eq_error.mp hbranches with hinner | ⟨_, -, hbranches⟩
          · exact ((ihinner hinner).left _).right _
          · rcases bind_eq_error.mp hbranches with hothers | ⟨_, -, hbranches⟩
            · exact ((others (bind_eq_error.mpr (.inl hothers))).right _).right _
            · cases hbranches
      · obtain ⟨_, -, hbranches⟩ := bind_eq_ok.mp hbranches
        obtain ⟨_, -, hbranches⟩ := bind_eq_ok.mp hbranches
        obtain ⟨⟨rest, _⟩, hothers, hbranches⟩ := bind_eq_ok.mp hbranches
        cases hbranches
        rcases bind_eq_error.mp h with hpart | ⟨_, -, h⟩
        · have hfailed : within.lowerBlock _ (.choice boundBranches boundOtherwise position)
              = .error failed :=
            bind_eq_error.mpr (.inr ⟨_, hothers, bind_eq_error.mpr (.inl hpart)⟩)
          exact ((others hfailed).right _).right _
        · cases h
  | iteration _ _ _ _ ihinner ihmiddle ihlast =>
      rw [Block.callsAll_iteration]
      rcases bind_eq_error.mp (lowerBlocks_singleton_error.mp h) with hranged | ⟨_, -, h⟩
      · have hreported := reported_of_lower hranged
        rw [Expr.calls_bind] at hreported
        exact hreported.left _
      · rcases bind_eq_error.mp h with hinner | ⟨_, -, h⟩
        · exact ((ihinner hinner).left _).right _
        · rcases bind_eq_error.mp h with hdelimiter | ⟨_, -, h⟩
          · have hreported := ihmiddle (lowerBlock_section_error 0 hdelimiter)
            exact ((hreported.left _).right _).right _
          · rcases bind_eq_error.mp h with halternative | ⟨_, -, h⟩
            · have hreported := ihlast (lowerBlock_section_error 0 halternative)
              exact ((hreported.right _).right _).right _
            · cases h

end Surroundings

namespace BoundTemplate

variable {pieces : List Piece} {bound : BoundTemplate} {resolver : Resolver}

-- The calls of a template are those of its pieces.
theorem reported_of_lower {failed : TemplateError} (hbound : ofPieces pieces = .ok bound)
    (h : bound.lower resolver = .error failed) :
    Call.Reported resolver ((pieces.filterMap Piece.expression?).flatMap Expr.calls) failed := by
  obtain ⟨blocks, hnest, hbound⟩ := bind_eq_ok.mp hbound
  cases hbound
  rw [← Block.expressionsAll_nest hnest]
  rcases bind_eq_error.mp h with hblocks | ⟨_, -, h⟩
  · exact Surroundings.reported_of_binds (Block.binds_bindAll [] 0 blocks) hblocks
  · cases h

end BoundTemplate

end EventText
