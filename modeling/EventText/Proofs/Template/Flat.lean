import EventText.Proofs.Failure
import EventText.Template.Binding

namespace EventText

namespace Piece

-- The positions that a nested template does not keep are left out.
def bare : Piece → Piece
  | .directive (.elseIf condition) _ => .directive (.elseIf condition) 0
  | .directive .otherwise _ => .directive .otherwise 0
  | .directive .delimit _ => .directive .delimit 0
  | .directive .close _ => .directive .close 0
  | piece => piece

def expression? : Piece → Option Expr
  | .placeholder hole => some hole.expression
  | .directive (.openIf condition) _ | .directive (.elseIf condition) _ => some condition
  | .directive (.openEach _ _ collection) _ => some collection
  | _ => none

theorem expression?_bare (piece : Piece) : piece.bare.expression? = piece.expression? := by
  cases piece with
  | directive d position => cases d <;> rfl
  | _ => rfl

end Piece

namespace Block

private theorem sizeOf_branch_lt {ν : Type} {branch : Expr × List (Block ν)}
    {branches : List (Expr × List (Block ν))} (h : branch ∈ branches) :
    sizeOf branch.2 < sizeOf branches := by
  have hbranch := List.sizeOf_lt_of_mem h
  obtain ⟨condition, blocks⟩ := branch
  simp only [Prod.mk.sizeOf_spec] at hbranch
  simp only
  omega

private theorem sizeOf_section_lt {ν : Type} {inner : List (Block ν)}
    {section' : Option (List (Block ν))} (h : inner ∈ section') :
    sizeOf inner < sizeOf section' := by
  obtain rfl := Option.mem_def.mp h
  simp

-- Blocks are nested through lists, options and pairs. A property of all lists of blocks is shown
-- by the first block and the sections in it.
@[elab_as_elim]
theorem blocksInduction {ν : Type} {P : List (Block ν) → Prop} (nil : P [])
    (text : ∀ chars rest, P rest → P (.text chars :: rest))
    (placeholder : ∀ hole rest, P rest → P (.placeholder hole :: rest))
    (choice : ∀ branches otherwise position rest,
      (∀ branch ∈ branches, P branch.2) → (∀ blocks ∈ otherwise, P blocks) → P rest →
        P (.choice branches otherwise position :: rest))
    (iteration : ∀ first second collection body delimiter alternative position rest,
      P body → (∀ blocks ∈ delimiter, P blocks) → (∀ blocks ∈ alternative, P blocks) → P rest →
        P (.iteration first second collection body delimiter alternative position :: rest))
    (blocks : List (Block ν)) : P blocks :=
  match blocks with
  | [] => nil
  | .text chars :: rest =>
      text chars rest (blocksInduction nil text placeholder choice iteration rest)
  | .placeholder hole :: rest =>
      placeholder hole rest (blocksInduction nil text placeholder choice iteration rest)
  | .choice branches otherwise position :: rest =>
      choice branches otherwise position rest
        (fun branch h =>
          have := sizeOf_branch_lt h
          blocksInduction nil text placeholder choice iteration branch.2)
        (fun inner h =>
          have := sizeOf_section_lt h
          blocksInduction nil text placeholder choice iteration inner)
        (blocksInduction nil text placeholder choice iteration rest)
  | .iteration first second collection body delimiter alternative position :: rest =>
      iteration first second collection body delimiter alternative position rest
        (blocksInduction nil text placeholder choice iteration body)
        (fun inner h =>
          have := sizeOf_section_lt h
          blocksInduction nil text placeholder choice iteration inner)
        (fun inner h =>
          have := sizeOf_section_lt h
          blocksInduction nil text placeholder choice iteration inner)
        (blocksInduction nil text placeholder choice iteration rest)
termination_by sizeOf blocks
decreasing_by all_goals simp_wf <;> omega

mutual

-- The pieces of a nested template in the order of its source.
def flatten : Block String → List Piece
  | .text chars => [.text chars]
  | .placeholder hole => [.placeholder hole]
  | .choice branches otherwise position =>
      flattenBranches (fun condition => .directive (.openIf condition) position) branches
        ++ flattenSection .otherwise otherwise ++ [.directive .close 0]
  | .iteration first second collection body delimiter alternative position =>
      .directive (.openEach first second collection) position :: flattenAll body
        ++ flattenSection .delimit delimiter ++ flattenSection .otherwise alternative
        ++ [.directive .close 0]

def flattenAll : List (Block String) → List Piece
  | [] => []
  | block :: rest => flatten block ++ flattenAll rest

def flattenSection (heading : Directive) : Option (List (Block String)) → List Piece
  | none => []
  | some blocks => .directive heading 0 :: flattenAll blocks

-- The first branch has a heading of its own.
def flattenBranches (heading : Expr → Piece) : List (Expr × List (Block String)) → List Piece
  | [] => []
  | (condition, blocks) :: rest =>
      heading condition :: flattenAll blocks
        ++ flattenBranches (fun condition => .directive (.elseIf condition) 0) rest

end

theorem flattenAll_append (xs ys : List (Block String)) :
    flattenAll (xs ++ ys) = flattenAll xs ++ flattenAll ys := by
  induction xs with
  | nil => simp [flattenAll]
  | cons x rest ih => simp [flattenAll, ih]

theorem flattenBranches_append (heading : Expr → Piece)
    (done : List (Expr × List (Block String))) (condition : Expr) (blocks : List (Block String)) :
    flattenBranches heading (done ++ [(condition, blocks)])
      = flattenBranches heading done
        ++ (if done = [] then heading condition else .directive (.elseIf condition) 0)
          :: flattenAll blocks := by
  induction done generalizing heading with
  | nil => simp [flattenBranches]
  | cons branch rest ih =>
      obtain ⟨first, inner⟩ := branch
      rw [List.cons_append, flattenBranches, ih, flattenBranches]
      cases rest <;> simp

-- The expressions of a nested template, in the order of its source.
def expressionsAll (blocks : List (Block String)) : List Expr :=
  (flattenAll blocks).filterMap Piece.expression?

def expressionsSection (part : Option (List (Block String))) : List Expr :=
  part.toList.flatMap expressionsAll

def expressionsBranches (branches : List (Expr × List (Block String))) : List Expr :=
  branches.flatMap fun branch => branch.1 :: expressionsAll branch.2

@[simp] theorem expressionsSection_none : expressionsSection none = [] := rfl

@[simp] theorem expressionsSection_some (blocks : List (Block String)) :
    expressionsSection (some blocks) = expressionsAll blocks := by
  simp [expressionsSection]

@[simp] theorem expressionsBranches_nil : expressionsBranches [] = [] := rfl

@[simp] theorem expressionsBranches_cons (condition : Expr) (blocks : List (Block String))
    (rest : List (Expr × List (Block String))) :
    expressionsBranches ((condition, blocks) :: rest)
      = condition :: expressionsAll blocks ++ expressionsBranches rest := by
  simp [expressionsBranches]

theorem filterMap_flattenSection {heading : Directive} (h : ∀ position,
    (Piece.directive heading position).expression? = none) (part : Option (List (Block String))) :
    (flattenSection heading part).filterMap Piece.expression? = expressionsSection part := by
  cases part <;> simp [flattenSection, expressionsAll, h]

theorem filterMap_flattenBranches {heading : Expr → Piece}
    (h : ∀ condition, (heading condition).expression? = some condition)
    (branches : List (Expr × List (Block String))) :
    (flattenBranches heading branches).filterMap Piece.expression?
      = expressionsBranches branches := by
  induction branches generalizing heading with
  | nil => rfl
  | cons branch rest ih =>
      obtain ⟨condition, blocks⟩ := branch
      have hrest := @ih (fun condition => .directive (.elseIf condition) 0) fun _ => rfl
      simp [flattenBranches, expressionsAll, h, hrest]

@[simp] theorem expressionsAll_nil : expressionsAll [] = [] := rfl

theorem expressionsAll_cons (block : Block String) (rest : List (Block String)) :
    expressionsAll (block :: rest) = expressionsAll [block] ++ expressionsAll rest := by
  simp [expressionsAll, flattenAll]

@[simp] theorem expressionsAll_placeholder (hole : Placeholder) :
    expressionsAll [.placeholder hole] = [hole.expression] := rfl

@[simp] theorem expressionsAll_choice (branches : List (Expr × List (Block String)))
    (otherwise : Option (List (Block String))) (position : Nat) :
    expressionsAll [.choice branches otherwise position]
      = expressionsBranches branches ++ expressionsSection otherwise := by
  have hbranches := @filterMap_flattenBranches
    (fun condition => .directive (.openIf condition) position) (fun _ => rfl) branches
  have hotherwise := @filterMap_flattenSection .otherwise (fun _ => rfl) otherwise
  simp [expressionsAll, flattenAll, flatten, hbranches, hotherwise, Piece.expression?]

@[simp] theorem expressionsAll_iteration (first : String) (second : Option String)
    (collection : Expr) (body : List (Block String))
    (delimiter alternative : Option (List (Block String))) (position : Nat) :
    expressionsAll [.iteration first second collection body delimiter alternative position]
      = collection :: expressionsAll body ++ expressionsSection delimiter
        ++ expressionsSection alternative := by
  have hdelimiter := @filterMap_flattenSection .delimit (fun _ => rfl) delimiter
  have halternative := @filterMap_flattenSection .otherwise (fun _ => rfl) alternative
  simp [expressionsAll, flattenAll, flatten, hdelimiter, halternative, Piece.expression?]

-- What is true of all expressions of a template, by its blocks. A section is the choice that has
-- nothing else.

section

variable {P : Expr → Prop} {blocks : List (Block String)} {position : Nat}

theorem forall_expressions_cons {block : Block String} {rest : List (Block String)} :
    (∀ e ∈ expressionsAll (block :: rest), P e) ↔
      (∀ e ∈ expressionsAll [block], P e) ∧ ∀ e ∈ expressionsAll rest, P e := by
  rw [expressionsAll_cons, List.forall_mem_append]

theorem forall_expressions_otherwise :
    (∀ e ∈ expressionsAll [.choice [] (some blocks) position], P e) ↔
      ∀ e ∈ expressionsAll blocks, P e := by
  simp

theorem forall_expressions_branch {condition : Expr}
    {branches : List (Expr × List (Block String))} {otherwise : Option (List (Block String))} :
    (∀ e ∈ expressionsAll [.choice ((condition, blocks) :: branches) otherwise position], P e) ↔
      P condition ∧ (∀ e ∈ expressionsAll blocks, P e) ∧
        ∀ e ∈ expressionsAll [.choice branches otherwise position], P e := by
  simp only [expressionsAll_choice, expressionsBranches_cons, List.cons_append, List.append_assoc,
    List.forall_mem_cons, List.forall_mem_append]

theorem forall_expressions_iteration {first : String} {second : Option String}
    {collection : Expr} {delimiter alternative : Option (List (Block String))} :
    (∀ e ∈ expressionsAll
        [.iteration first second collection blocks delimiter alternative position], P e) ↔
      P collection ∧ (∀ e ∈ expressionsAll blocks, P e) ∧
        (∀ e ∈ expressionsAll [.choice [] delimiter 0], P e) ∧
        ∀ e ∈ expressionsAll [.choice [] alternative 0], P e := by
  simp only [expressionsAll_iteration, expressionsAll_choice, expressionsBranches_nil,
    List.nil_append, List.cons_append, List.append_assoc, List.forall_mem_cons,
    List.forall_mem_append]

end

end Block

namespace Frame

-- What was read of an open block, up to the heading of the section that is being filled.
def flatten : Frame → List Piece
  | branch position done condition =>
      Block.flattenBranches (fun condition => .directive (.openIf condition) position) done
        ++ [if done = [] then .directive (.openIf condition) position
          else .directive (.elseIf condition) 0]
  | otherwise position done =>
      Block.flattenBranches (fun condition => .directive (.openIf condition) position) done
        ++ [.directive .otherwise 0]
  | body head => [.directive (.openEach head.first head.second head.collection) head.position]
  | delimiter head before =>
      .directive (.openEach head.first head.second head.collection) head.position
        :: Block.flattenAll before ++ [.directive .delimit 0]
  | alternative head before between =>
      .directive (.openEach head.first head.second head.collection) head.position
        :: Block.flattenAll before ++ Block.flattenSection .delimit between
        ++ [.directive .otherwise 0]

theorem flatten_close (frame : Frame) (last : List (Block String)) :
    Block.flatten (frame.close last)
      = frame.flatten ++ Block.flattenAll last ++ [Piece.directive .close 0] := by
  cases frame <;>
    simp [close, EachHead.block, flatten, Block.flatten, Block.flattenSection,
      Block.flattenBranches_append]

end Frame

namespace Nesting

def flattenStack : List (Frame × List (Block String)) → List Piece
  | [] => []
  | (frame, before) :: rest => flattenStack rest ++ Block.flattenAll before ++ frame.flatten

-- All that was read up to a place.
def flatten (n : Nesting) : List Piece := flattenStack n.stack ++ Block.flattenAll n.current

theorem flatten_push (n : Nesting) (block : Block String) :
    (n.push block).flatten = n.flatten ++ Block.flatten block := by
  simp [push, flatten, Block.flattenAll_append, Block.flattenAll]

theorem flatten_directive {n n' : Nesting} {position : Nat} {d : Directive}
    (h : n.directive position d = .ok n') :
    n'.flatten = n.flatten ++ [(Piece.directive d position).bare] := by
  cases d with
  | openIf condition =>
      cases h
      simp [enter, flatten, flattenStack, Frame.flatten, Block.flattenAll, Block.flattenBranches,
        Piece.bare]
  | elseIf condition =>
      simp only [directive, elseIf] at h
      split at h <;> cases h
      rename_i hstack
      simp [flatten, hstack, flattenStack, Frame.flatten, Block.flattenAll,
        Block.flattenBranches_append, Piece.bare]
  | otherwise =>
      simp only [directive, otherwise] at h
      split at h <;> cases h
      all_goals
        rename_i hstack
        simp [flatten, hstack, flattenStack, Frame.flatten, Block.flattenAll,
          Block.flattenSection, Block.flattenBranches_append, Piece.bare]
  | openEach first second collection =>
      simp only [directive, openEach] at h
      split at h <;> cases h
      simp [enter, flatten, flattenStack, Frame.flatten, Block.flattenAll, Piece.bare]
  | delimit =>
      simp only [directive, delimit] at h
      split at h <;> cases h
      rename_i hstack
      simp [flatten, hstack, flattenStack, Frame.flatten, Block.flattenAll, Piece.bare]
  | close =>
      simp only [directive, close] at h
      split at h <;> cases h
      rename_i hstack
      simp [flatten, hstack, flattenStack, Frame.flatten_close, Block.flattenAll_append,
        Block.flattenAll, Piece.bare]

-- Every piece is kept in its place.
theorem flatten_step {n n' : Nesting} {piece : Piece} (h : n.step piece = .ok n') :
    n'.flatten = n.flatten ++ [piece.bare] := by
  cases piece with
  | text chars =>
      cases h
      exact flatten_push n _
  | placeholder hole =>
      cases h
      exact flatten_push n _
  | directive d position => exact flatten_directive (mapError_eq_ok.mp h)

theorem flatten_steps {n n' : Nesting} {pieces : List Piece}
    (h : pieces.foldlM step n = .ok n') : n'.flatten = n.flatten ++ pieces.map Piece.bare := by
  induction pieces generalizing n with
  | nil =>
      cases h
      simp
  | cons piece rest ih =>
      rw [List.foldlM_cons] at h
      obtain ⟨middle, hstep, hrest⟩ := bind_eq_ok.mp h
      rw [ih hrest, flatten_step hstep]
      simp

end Nesting

-- Nesting loses no piece and moves none.
theorem Block.flattenAll_nest {pieces : List Piece} {blocks : List (Block String)}
    (h : Block.nest pieces = .ok blocks) : Block.flattenAll blocks = pieces.map Piece.bare := by
  obtain ⟨n, hsteps, hfinish⟩ := bind_eq_ok.mp h
  have hflat := Nesting.flatten_steps hsteps
  unfold Nesting.finish at hfinish
  split at hfinish <;> cases hfinish
  rename_i hstack
  simpa [Nesting.flatten, hstack, Nesting.flattenStack, Nesting.start, Block.flattenAll]
    using hflat

theorem Block.expressionsAll_nest {pieces : List Piece} {blocks : List (Block String)}
    (h : Block.nest pieces = .ok blocks) :
    Block.expressionsAll blocks = pieces.filterMap Piece.expression? := by
  rw [Block.expressionsAll, Block.flattenAll_nest h, List.filterMap_map]
  exact congrArg (List.filterMap · pieces) (funext Piece.expression?_bare)

end EventText
