import EventText.Proofs.Template.Flat
import EventText.Proofs.Template.Grammar
import EventText.Proofs.Template.Joining

namespace EventText

namespace Block

mutual

-- The same block in a source that has so many more bytes in front of it.
def shift (distance : Nat) : Block String → Block String
  | .text chars => .text chars
  | .placeholder hole => .placeholder (hole.shift distance)
  | .choice branches otherwise position =>
      .choice (shiftBranches distance branches) (shiftSection distance otherwise)
        (position + distance)
  | .iteration first second collection body delimiter alternative position =>
      .iteration first second (collection.shift distance) (shiftAll distance body)
        (shiftSection distance delimiter) (shiftSection distance alternative) (position + distance)

def shiftAll (distance : Nat) : List (Block String) → List (Block String)
  | [] => []
  | block :: rest => shift distance block :: shiftAll distance rest

def shiftSection (distance : Nat) :
    Option (List (Block String)) → Option (List (Block String))
  | none => none
  | some blocks => some (shiftAll distance blocks)

def shiftBranches (distance : Nat) :
    List (Expr × List (Block String)) → List (Expr × List (Block String))
  | [] => []
  | (condition, blocks) :: rest =>
      (condition.shift distance, shiftAll distance blocks) :: shiftBranches distance rest

end

@[simp] theorem shiftAll_append (distance : Nat) (xs ys : List (Block String)) :
    shiftAll distance (xs ++ ys) = shiftAll distance xs ++ shiftAll distance ys := by
  induction xs with
  | nil => rfl
  | cons x rest ih => rw [List.cons_append, shiftAll, shiftAll, ih, List.cons_append]

@[simp] theorem shiftBranches_append (distance : Nat) (xs ys : List (Expr × List (Block String))) :
    shiftBranches distance (xs ++ ys)
      = shiftBranches distance xs ++ shiftBranches distance ys := by
  induction xs with
  | nil => rfl
  | cons x rest ih => rw [List.cons_append, shiftBranches, shiftBranches, ih, List.cons_append]

private theorem shiftSection_zero {part : Option (List (Block String))}
    (h : ∀ blocks ∈ part, shiftAll 0 blocks = blocks) : shiftSection 0 part = part := by
  cases part with
  | none => rfl
  | some blocks => rw [shiftSection, h blocks rfl]

private theorem shiftBranches_zero {branches : List (Expr × List (Block String))}
    (h : ∀ branch ∈ branches, shiftAll 0 branch.2 = branch.2) :
    shiftBranches 0 branches = branches := by
  induction branches with
  | nil => rfl
  | cons branch rest ih =>
      have hrest := ih fun other hother => h other (List.mem_cons_of_mem _ hother)
      simp only [shiftBranches, h branch List.mem_cons_self, hrest, Expr.shift, Nat.add_zero,
        Expr.mapPositions_id]

theorem shiftAll_zero (blocks : List (Block String)) : shiftAll 0 blocks = blocks := by
  induction blocks using blocksInduction with
  | nil => rfl
  | text chars rest ih => rw [shiftAll, ih, shift]
  | placeholder hole rest ih =>
      simp only [shiftAll, shift, ih, Placeholder.shift, Expr.shift, Nat.add_zero,
        Expr.mapPositions_id]
  | choice branches otherwise position rest hbranches hotherwise hrest =>
      rw [shiftAll, hrest, shift, shiftBranches_zero hbranches, shiftSection_zero hotherwise,
        Nat.add_zero]
  | iteration first second collection body delimiter alternative position rest hbody hdelimiter
      halternative hrest =>
      simp only [shiftAll, hrest, shift, hbody, shiftSection_zero hdelimiter,
        shiftSection_zero halternative, Expr.shift, Nat.add_zero, Expr.mapPositions_id]

end Block

open Block (shiftAll shiftSection shiftBranches)

def EachHead.shift (distance : Nat) (head : EachHead) : EachHead :=
  { head with
    collection := head.collection.shift distance
    position := head.position + distance }

namespace Frame

def shift (distance : Nat) : Frame → Frame
  | branch position done condition =>
      .branch (position + distance) (shiftBranches distance done) (condition.shift distance)
  | otherwise position done => .otherwise (position + distance) (shiftBranches distance done)
  | body head => .body (head.shift distance)
  | delimiter head before => .delimiter (head.shift distance) (shiftAll distance before)
  | alternative head before between =>
      .alternative (head.shift distance) (shiftAll distance before) (shiftSection distance between)

theorem close_shift (distance : Nat) (frame : Frame) (last : List (Block String)) :
    (frame.shift distance).close (shiftAll distance last)
      = (frame.close last).shift distance := by
  cases frame <;>
    simp [shift, close, Block.shift, EachHead.block, EachHead.shift, shiftSection, shiftBranches]

end Frame

namespace Nesting

variable {front : List (Block String)} {distance : Nat}

-- Blocks that have these open blocks around them. Only those at the bottom stand behind others.
def settle (front : List (Block String)) (distance : Nat)
    (outer : List (Frame × List (Block String))) (blocks : List (Block String)) :
    List (Block String) :=
  match outer with
  | [] => front ++ shiftAll distance blocks
  | _ :: _ => shiftAll distance blocks

def behindStack (front : List (Block String)) (distance : Nat) :
    List (Frame × List (Block String)) → List (Frame × List (Block String))
  | [] => []
  | (frame, before) :: rest =>
      (frame.shift distance, settle front distance rest before) :: behindStack front distance rest

-- The same place in a source that has other blocks in front of it, complete ones.
def behind (front : List (Block String)) (distance : Nat) (n : Nesting) : Nesting :=
  ⟨behindStack front distance n.stack, settle front distance n.stack n.current⟩

theorem settle_append (outer : List (Frame × List (Block String))) (xs ys : List (Block String)) :
    settle front distance outer (xs ++ ys)
      = settle front distance outer xs ++ shiftAll distance ys := by
  cases outer <;> simp [settle]

theorem behind_push (n : Nesting) (block : Block String) :
    (n.push block).behind front distance
      = (n.behind front distance).push (block.shift distance) := by
  simp only [push, behind, settle_append, shiftAll]

theorem directive_behind {n n' : Nesting} {position : Nat} {d : Directive}
    (h : n.directive position d = .ok n') :
    (n.behind front distance).directive (position + distance) (d.shift distance)
      = .ok (n'.behind front distance) := by
  cases d with
  | openIf condition =>
      cases h
      rfl
  | elseIf condition =>
      simp only [directive, elseIf] at h
      split at h <;> cases h
      rename_i hstack
      simp [behind, hstack, behindStack, settle, Directive.shift, directive, elseIf, Frame.shift,
        shiftBranches, shiftAll]
  | otherwise =>
      simp only [directive, otherwise] at h
      split at h <;> cases h
      all_goals
        rename_i hstack
        simp [behind, hstack, behindStack, settle, Directive.shift, directive, otherwise,
          Frame.shift, shiftBranches, shiftAll, shiftSection]
  | openEach first second collection =>
      simp only [directive, openEach] at h
      split at h <;> cases h
      rename_i hdistinct
      simp only [Directive.shift, directive, openEach, if_neg hdistinct]
      rfl
  | delimit =>
      simp only [directive, delimit] at h
      split at h <;> cases h
      rename_i hstack
      simp [behind, hstack, behindStack, settle, Directive.shift, directive, delimit, Frame.shift,
        shiftAll]
  | close =>
      simp only [directive, close] at h
      split at h <;> cases h
      rename_i hstack
      simp only [behind, hstack, behindStack, settle_append, Directive.shift, directive, close]
      simp only [settle, Frame.close_shift, shiftAll]

theorem step_behind {n n' : Nesting} {piece : Piece} (h : n.step piece = .ok n') :
    (n.behind front distance).step (piece.shift distance) = .ok (n'.behind front distance) := by
  cases piece with
  | text chars =>
      cases h
      rw [behind_push]
      rfl
  | placeholder hole =>
      cases h
      rw [behind_push]
      rfl
  | directive d position => exact mapError_eq_ok.mpr (directive_behind (mapError_eq_ok.mp h))

-- What was read behind nothing is read in the same way behind other blocks.
theorem Runs.behind {n n' : Nesting} {pieces : List Piece} (h : Runs n pieces n')
    (front : List (Block String)) (distance : Nat) :
    Runs (n.behind front distance) (pieces.map (Piece.shift distance))
      (n'.behind front distance) := by
  induction pieces generalizing n with
  | nil =>
      cases h
      exact Runs.nil _
  | cons piece rest ih =>
      rw [Runs, List.foldlM_cons] at h
      obtain ⟨middle, hstep, hrest⟩ := bind_eq_ok.mp h
      exact .cons (step_behind hstep) (ih hrest)

theorem runs_append {n n' : Nesting} {xs ys : List Piece} :
    Runs n (xs ++ ys) n' ↔ ∃ middle, Runs n xs middle ∧ Runs middle ys n' := by
  rw [Runs, List.foldlM_append]
  exact bind_eq_ok

theorem runs_start_behind {pieces : List Piece} {blocks : List (Block String)}
    (h : Runs start pieces ⟨[], blocks⟩) (front : List (Block String)) (distance : Nat) :
    Runs ⟨[], front⟩ (pieces.map (Piece.shift distance))
      ⟨[], front ++ shiftAll distance blocks⟩ := by
  have hruns := h.behind front distance
  simpa only [Nesting.behind, start, behindStack, settle, shiftAll, List.append_nil] using hruns

end Nesting

namespace Block

open Nesting (Runs)

-- A template is nested if its pieces can be read to the end with no block left open.
theorem nest_eq_ok {pieces : List Piece} {blocks : List (Block String)} :
    nest pieces = .ok blocks ↔ Runs Nesting.start pieces ⟨[], blocks⟩ := by
  constructor
  · intro h
    obtain ⟨⟨stack, current⟩, hsteps, hfinish⟩ := bind_eq_ok.mp h
    unfold Nesting.finish at hfinish
    split at hfinish <;> cases hfinish
    rename_i hstack
    cases hstack
    exact hsteps
  · exact fun h => bind_eq_ok.mpr ⟨_, h, rfl⟩

-- The blocks of two templates one after the other. Texts that meet become one.
inductive Joins (distance : Nat) :
    List (Block String) → List (Block String) → List (Block String) → Prop
  | apart (xs ys : List (Block String)) : Joins distance xs ys (xs ++ shiftAll distance ys)
  | merged (xs ys : List (Block String)) (first second : List Char) :
      Joins distance (xs ++ [Block.text first]) (.text second :: ys)
        (xs ++ Block.text (first ++ second) :: shiftAll distance ys)

end Block

theorem Piece.join_cases (front back : List Piece) :
    (∃ before first second behind, front = before ++ [Piece.text first] ∧
      back = .text second :: behind ∧
      join front back = before ++ Piece.text (first ++ second) :: behind) ∨
    join front back = front ++ back := by
  induction front with
  | nil => exact .inr (nil_join back)
  | cons piece rest ih =>
      by_cases hmeet : rest = [] ∧ ∃ first second behind, piece = .text first ∧
          back = .text second :: behind
      · obtain ⟨rfl, first, second, behind, rfl, rfl⟩ := hmeet
        exact .inl ⟨[], first, second, behind, rfl, rfl, rfl⟩
      · have hjoin : join (piece :: rest) back = piece :: join rest back := by
          rw [join]
          rintro first second behind ⟨⟩ rfl hrest
          exact hmeet ⟨hrest, first, second, behind, rfl, rfl⟩
        rcases ih with ⟨before, first, second, behind, rfl, rfl, heq⟩ | heq
        · exact .inl ⟨piece :: before, first, second, behind, rfl, rfl, by rw [hjoin, heq]; rfl⟩
        · exact .inr (by rw [hjoin, heq]; rfl)

open Block (Joins) in
-- The pieces of two templates that can be nested are nested one behind the other.
theorem Block.nest_join {front back : List Piece} {xs ys : List (Block String)}
    (hfront : nest front = .ok xs) (hback : nest back = .ok ys) (distance : Nat) :
    ∃ blocks, nest (Piece.join front (back.map (Piece.shift distance))) = .ok blocks ∧
      Joins distance xs ys blocks := by
  have hxs := nest_eq_ok.mp hfront
  have hys := nest_eq_ok.mp hback
  rcases Piece.join_cases front (back.map (Piece.shift distance)) with
    ⟨before, first, second, behind, rfl, hmap, heq⟩ | heq
  · obtain ⟨cut, rest, rfl, hcut, rfl⟩ := List.map_eq_cons_iff.mp hmap
    obtain rfl : cut = .text second := by
      cases cut <;> simp_all [Piece.shift]
    obtain ⟨⟨stack, inner⟩, hbefore, hlast⟩ := Nesting.runs_append.mp hxs
    cases hlast
    have hbalanced : Balanced rest := by
      cases Block.exists_nest_iff.mp ⟨ys, hback⟩ with
      | text after => exact after
    obtain ⟨others, hothers⟩ := Block.exists_nest_iff.mpr hbalanced
    have hrest := nest_eq_ok.mp hothers
    obtain rfl : ys = .text second :: others := by
      have hsame := Nesting.runs_start_behind hrest [.text second] 0
      rw [funext Piece.shift_zero, List.map_id', shiftAll_zero] at hsame
      cases hys.symm.trans hsame
      rfl
    rw [heq]
    refine ⟨_, nest_eq_ok.mpr (hbefore.append (.cons rfl ?_)), .merged inner others first second⟩
    have hbehind := Nesting.runs_start_behind hrest (inner ++ [Block.text (first ++ second)])
      distance
    rw [List.append_assoc] at hbehind
    exact hbehind
  · rw [heq]
    exact ⟨_, nest_eq_ok.mpr (hxs.append (Nesting.runs_start_behind hys xs distance)), .apart xs ys⟩

end EventText
