import EventText.Proofs.Failure
import EventText.Template.Block

namespace EventText

-- What stands behind a heading inside a block, with the heading's place in the source.
structure Section where
  position : Nat
  body : List Piece

def Section.pieces (heading : Directive) (part : Section) : List Piece :=
  .directive heading part.position :: part.body

def elseIfPieces (clauses : List (Expr × Section)) : List Piece :=
  clauses.flatMap fun clause => clause.2.pieces (.elseIf clause.1)

def optionalPieces (heading : Directive) (part : Option Section) : List Piece :=
  part.toList.flatMap (Section.pieces heading)

-- The grammar of balanced templates:
--   blocks = block*
--   block  = text | placeholder
--          | `#if` blocks (`#else if` blocks)* [`#else` blocks] `#end`
--          | `#each` blocks [`#delimit` blocks] [`#else` blocks] `#end`
-- where the two names of an iteration are different.
inductive Balanced : List Piece → Prop
  | nil : Balanced []
  | text {chars rest} (after : Balanced rest) : Balanced (.text chars :: rest)
  | placeholder {hole rest} (after : Balanced rest) : Balanced (.placeholder hole :: rest)
  | choice {condition position body rest} {clauses : List (Expr × Section)}
      {otherwise : Option Section} {closing : Nat} (first : Balanced body)
      (others : ∀ clause ∈ clauses, Balanced clause.2.body)
      (last : ∀ part ∈ otherwise, Balanced part.body) (after : Balanced rest) :
      Balanced (.directive (.openIf condition) position :: body ++ elseIfPieces clauses
        ++ optionalPieces .otherwise otherwise ++ .directive .close closing :: rest)
  | iteration {first second collection position body rest}
      {delimiter alternative : Option Section} {closing : Nat}
      (distinct : second ≠ some first) (inner : Balanced body)
      (between : ∀ part ∈ delimiter, Balanced part.body)
      (last : ∀ part ∈ alternative, Balanced part.body) (after : Balanced rest) :
      Balanced (.directive (.openEach first second collection) position :: body
        ++ optionalPieces .delimit delimiter ++ optionalPieces .otherwise alternative
        ++ .directive .close closing :: rest)

namespace Nesting

-- How a block can go on behind the section that is being filled, up to its end.
inductive Ends : Frame → List Piece → Prop
  | branch {start done condition} {clauses : List (Expr × Section)} {otherwise : Option Section}
      {closing : Nat} (others : ∀ clause ∈ clauses, Balanced clause.2.body)
      (last : ∀ part ∈ otherwise, Balanced part.body) :
      Ends (.branch start done condition)
        (elseIfPieces clauses ++ optionalPieces .otherwise otherwise ++ [.directive .close closing])
  | otherwise {start done} {closing : Nat} :
      Ends (.otherwise start done) [.directive .close closing]
  | body {head} {delimiter alternative : Option Section} {closing : Nat}
      (between : ∀ part ∈ delimiter, Balanced part.body)
      (last : ∀ part ∈ alternative, Balanced part.body) :
      Ends (.body head) (optionalPieces .delimit delimiter
        ++ optionalPieces .otherwise alternative ++ [.directive .close closing])
  | delimiter {head before} {alternative : Option Section} {closing : Nat}
      (last : ∀ part ∈ alternative, Balanced part.body) :
      Ends (.delimiter head before)
        (optionalPieces .otherwise alternative ++ [.directive .close closing])
  | alternative {head before between} {closing : Nat} :
      Ends (.alternative head before between) [.directive .close closing]

-- How a template can go on behind a place: the open section, then the open blocks from the
-- inside to the outside.
inductive Completes : List (Frame × List (Block String)) → List Piece → Prop
  | outside {pieces} (blocks : Balanced pieces) : Completes [] pieces
  | inside {frame rest body tail after} (before : List (Block String)) (blocks : Balanced body)
      (ends : Ends frame tail) (outer : Completes rest after) :
      Completes ((frame, before) :: rest) (body ++ tail ++ after)

-- What is balanced on its own can stand in front of everything else.
theorem Completes.prepend {stack : List (Frame × List (Block String))} {pieces : List Piece}
    (h : Completes stack pieces) (block : List Piece)
    (hblock : ∀ rest, Balanced rest → Balanced (block ++ rest)) :
    Completes stack (block ++ pieces) := by
  cases h with
  | outside blocks => exact .outside (hblock _ blocks)
  | inside before blocks ends outer =>
      rw [← List.append_assoc, ← List.append_assoc]
      exact .inside before (hblock _ blocks) ends outer

-- A directive that heads the next section of a block stands before what goes on in that section.
theorem Completes.heading {frame frame' : Frame} {before' : List (Block String)}
    {stack : List (Frame × List (Block String))} {pieces : List Piece} {piece : Piece}
    (h : Completes ((frame', before') :: stack) pieces) (before : List (Block String))
    (hends : ∀ body tail, Balanced body → Ends frame' tail → Ends frame (piece :: body ++ tail)) :
    Completes ((frame, before) :: stack) (piece :: pieces) := by
  cases h with
  | inside _ blocks ends outer =>
      have hall := Completes.inside before .nil (hends _ _ blocks ends) outer
      simpa using hall

-- A directive that opens a block stands before what goes on in the block's first section.
theorem Completes.opening {frame : Frame} {before : List (Block String)}
    {stack : List (Frame × List (Block String))} {pieces : List Piece} {piece : Piece}
    (h : Completes ((frame, before) :: stack) pieces)
    (hblock : ∀ body tail rest, Balanced body → Ends frame tail → Balanced rest →
      Balanced (piece :: body ++ tail ++ rest)) : Completes stack (piece :: pieces) := by
  cases h with
  | @inside _ _ body tail _ _ blocks ends outer =>
      have hall := outer.prepend (piece :: body ++ tail) fun rest =>
        hblock body tail rest blocks ends
      simpa using hall

section Headings

variable {body tail rest : List Piece} {start position : Nat} {condition previous : Expr}
  {done done' : List (Expr × List (Block String))} {head : EachHead}
  {filled : List (Block String)} {between : Option (List (Block String))}

theorem balanced_openIf (blocks : Balanced body) (ends : Ends (.branch start done condition) tail)
    (after : Balanced rest) :
    Balanced (.directive (.openIf condition) position :: body ++ tail ++ rest) := by
  cases ends with
  | branch others last => simpa using Balanced.choice blocks others last after

theorem balanced_openEach {first : String} {second : Option String} {collection : Expr}
    (distinct : second ≠ some first) (blocks : Balanced body) (ends : Ends (.body head) tail)
    (after : Balanced rest) :
    Balanced (.directive (.openEach first second collection) position :: body ++ tail ++ rest) := by
  cases ends with
  | body between last => simpa using Balanced.iteration distinct blocks between last after

theorem ends_elseIf (blocks : Balanced body) (ends : Ends (.branch start done' condition) tail) :
    Ends (.branch start done previous)
      (.directive (.elseIf condition) position :: body ++ tail) := by
  cases ends with
  | @branch _ _ _ clauses otherwise closing others last =>
      have hclauses : ∀ clause ∈ (condition, (⟨position, body⟩ : Section)) :: clauses,
          Balanced clause.2.body := List.forall_mem_cons.mpr ⟨blocks, others⟩
      have hends : Ends (.branch start done previous)
          (elseIfPieces ((condition, ⟨position, body⟩) :: clauses)
            ++ optionalPieces .otherwise otherwise ++ [.directive .close closing]) :=
        .branch hclauses last
      simpa [elseIfPieces, Section.pieces] using hends

theorem ends_otherwise_of_branch (blocks : Balanced body)
    (ends : Ends (.otherwise start done') tail) :
    Ends (.branch start done condition) (.directive .otherwise position :: body ++ tail) := by
  cases ends with
  | @otherwise _ _ closing =>
      have hends : Ends (.branch start done condition)
          (elseIfPieces [] ++ optionalPieces .otherwise (some ⟨position, body⟩)
            ++ [.directive .close closing]) := .branch nofun (by simpa using blocks)
      simpa [elseIfPieces, optionalPieces, Section.pieces] using hends

theorem ends_otherwise_of_body (blocks : Balanced body)
    (ends : Ends (.alternative head filled between) tail) :
    Ends (.body head) (.directive .otherwise position :: body ++ tail) := by
  cases ends with
  | @alternative _ _ _ closing =>
      have hends : Ends (.body head) (optionalPieces .delimit none
          ++ optionalPieces .otherwise (some ⟨position, body⟩) ++ [.directive .close closing]) :=
        .body nofun (by simpa using blocks)
      simpa [optionalPieces, Section.pieces] using hends

theorem ends_otherwise_of_delimiter {inner : List (Block String)} (blocks : Balanced body)
    (ends : Ends (.alternative head filled between) tail) :
    Ends (.delimiter head inner) (.directive .otherwise position :: body ++ tail) := by
  cases ends with
  | @alternative _ _ _ closing =>
      have hends : Ends (.delimiter head inner)
          (optionalPieces .otherwise (some ⟨position, body⟩) ++ [.directive .close closing]) :=
        .delimiter (by simpa using blocks)
      simpa [optionalPieces, Section.pieces] using hends

theorem ends_delimit (blocks : Balanced body) (ends : Ends (.delimiter head filled) tail) :
    Ends (.body head) (.directive .delimit position :: body ++ tail) := by
  cases ends with
  | @delimiter _ _ alternative closing last =>
      have hends : Ends (.body head) (optionalPieces .delimit (some ⟨position, body⟩)
          ++ optionalPieces .otherwise alternative ++ [.directive .close closing]) :=
        .body (by simpa using blocks) last
      simpa [optionalPieces, Section.pieces] using hends

theorem ends_close (frame : Frame) (position : Nat) : Ends frame [.directive .close position] := by
  cases frame with
  | branch start done condition => exact @Ends.branch start done condition [] none _ nofun nofun
  | otherwise start done => exact .otherwise
  | body head => exact @Ends.body head none none _ nofun nofun
  | delimiter head inner => exact @Ends.delimiter head inner none _ nofun
  | alternative head inner between => exact .alternative

end Headings

-- A directive is read at a place from which the template can be completed only if the template can
-- be completed with it.
theorem completes_of_directive {n n' : Nesting} {position : Nat} {d : Directive}
    {pieces : List Piece} (hstep : n.directive position d = .ok n')
    (h : Completes n'.stack pieces) : Completes n.stack (.directive d position :: pieces) := by
  cases d with
  | openIf condition =>
      cases hstep
      exact h.opening fun _ _ _ => balanced_openIf
  | elseIf condition =>
      simp only [directive, elseIf] at hstep
      split at hstep <;> cases hstep
      rename_i start done previous before rest hstack
      rw [hstack]
      exact h.heading before fun _ _ => ends_elseIf
  | otherwise =>
      simp only [directive, otherwise] at hstep
      split at hstep <;> cases hstep
      · rename_i start done previous before rest hstack
        rw [hstack]
        exact h.heading before fun _ _ => ends_otherwise_of_branch
      · rename_i head before rest hstack
        rw [hstack]
        exact h.heading before fun _ _ => ends_otherwise_of_body
      · rename_i head inner before rest hstack
        rw [hstack]
        exact h.heading before fun _ _ => ends_otherwise_of_delimiter
  | openEach first second collection =>
      simp only [directive, openEach] at hstep
      split at hstep <;> cases hstep
      rename_i hdistinct
      exact h.opening fun _ _ _ => balanced_openEach hdistinct
  | delimit =>
      simp only [directive, delimit] at hstep
      split at hstep <;> cases hstep
      rename_i head before rest hstack
      rw [hstack]
      exact h.heading before fun _ _ => ends_delimit
  | close =>
      simp only [directive, close] at hstep
      split at hstep <;> cases hstep
      rename_i frame before rest hstack
      rw [hstack]
      exact Completes.inside before .nil (ends_close frame position) h

theorem completes_of_step {n n' : Nesting} {piece : Piece} {pieces : List Piece}
    (hstep : n.step piece = .ok n') (h : Completes n'.stack pieces) :
    Completes n.stack (piece :: pieces) := by
  cases piece with
  | text chars =>
      cases hstep
      exact h.prepend [.text chars] fun _ => .text
  | placeholder hole =>
      cases hstep
      exact h.prepend [.placeholder hole] fun _ => .placeholder
  | directive d position => exact completes_of_directive (mapError_eq_ok.mp hstep) h

theorem completes_of_steps {n n' : Nesting} {pieces : List Piece}
    (hsteps : pieces.foldlM step n = .ok n') (hstack : n'.stack = []) :
    Completes n.stack pieces := by
  induction pieces generalizing n with
  | nil =>
      cases hsteps
      rw [hstack]
      exact .outside .nil
  | cons piece rest ih =>
      rw [List.foldlM_cons] at hsteps
      obtain ⟨middle, hstep, hrest⟩ := bind_eq_ok.mp hsteps
      exact completes_of_step hstep (ih hrest)

-- Reading pieces from one place to another.
def Runs (n : Nesting) (pieces : List Piece) (n' : Nesting) : Prop :=
  pieces.foldlM step n = .ok n'

theorem Runs.nil (n : Nesting) : Runs n [] n := rfl

theorem Runs.cons {n middle n' : Nesting} {piece : Piece} {pieces : List Piece}
    (hstep : n.step piece = .ok middle) (h : Runs middle pieces n') :
    Runs n (piece :: pieces) n' := by
  rw [Runs, List.foldlM_cons]
  exact bind_eq_ok.mpr ⟨middle, hstep, h⟩

theorem Runs.append {n middle n' : Nesting} {xs ys : List Piece} (hx : Runs n xs middle)
    (hy : Runs middle ys n') : Runs n (xs ++ ys) n' := by
  rw [Runs, List.foldlM_append]
  exact bind_eq_ok.mpr ⟨middle, hx, hy⟩

-- Pieces that can be read anywhere and leave all open blocks as they are.
def Neutral (pieces : List Piece) : Prop :=
  ∀ n : Nesting, ∃ blocks, Runs n pieces ⟨n.stack, n.current ++ blocks⟩

private theorem runs_clauses {clauses : List (Expr × Section)}
    (h : ∀ clause ∈ clauses, Neutral clause.2.body) (start : Nat)
    (done : List (Expr × List (Block String))) (condition : Expr) (before : List (Block String))
    (rest : List (Frame × List (Block String))) (current : List (Block String)) :
    ∃ done' condition' current',
      Runs ⟨(.branch start done condition, before) :: rest, current⟩ (elseIfPieces clauses)
        ⟨(.branch start done' condition', before) :: rest, current'⟩ := by
  induction clauses generalizing done condition current with
  | nil => exact ⟨done, condition, current, Runs.nil _⟩
  | cons clause others ih =>
      obtain ⟨next, part⟩ := clause
      obtain ⟨blocks, hbody⟩ := h (next, part) List.mem_cons_self
        ⟨(.branch start (done ++ [(condition, current)]) next, before) :: rest, []⟩
      obtain ⟨done', condition', current', hothers⟩ :=
        ih (fun other hother => h other (List.mem_cons_of_mem _ hother))
          (done ++ [(condition, current)]) next ([] ++ blocks)
      refine ⟨done', condition', current', ?_⟩
      rw [elseIfPieces, List.flatMap_cons]
      exact .append (.cons rfl hbody) hothers

-- Open blocks in which `#else` can stand.
private def AcceptsElse (frame : Frame) : Prop :=
  ∀ before rest current position, ∃ frame',
    directive ⟨(frame, before) :: rest, current⟩ position .otherwise
      = .ok ⟨(frame', before) :: rest, []⟩

private theorem acceptsElse_branch (start : Nat) (done : List (Expr × List (Block String)))
    (condition : Expr) : AcceptsElse (.branch start done condition) :=
  fun _ _ _ _ => ⟨_, rfl⟩

private theorem acceptsElse_body (head : EachHead) : AcceptsElse (.body head) :=
  fun _ _ _ _ => ⟨_, rfl⟩

private theorem acceptsElse_delimiter (head : EachHead) (before : List (Block String)) :
    AcceptsElse (.delimiter head before) := fun _ _ _ _ => ⟨_, rfl⟩

private theorem runs_otherwise {part : Option Section} (h : ∀ inner ∈ part, Neutral inner.body)
    {frame : Frame} (haccepts : AcceptsElse frame) (before : List (Block String))
    (rest : List (Frame × List (Block String))) (current : List (Block String)) :
    ∃ frame' current', Runs ⟨(frame, before) :: rest, current⟩ (optionalPieces .otherwise part)
      ⟨(frame', before) :: rest, current'⟩ := by
  cases part with
  | none => exact ⟨frame, current, Runs.nil _⟩
  | some inner =>
      obtain ⟨frame', hheading⟩ := haccepts before rest current inner.position
      obtain ⟨blocks, hbody⟩ := h inner rfl ⟨(frame', before) :: rest, []⟩
      refine ⟨frame', [] ++ blocks, ?_⟩
      rw [optionalPieces, Option.toList_some, List.flatMap_singleton]
      exact .cons (mapError_eq_ok.mpr hheading) hbody

private theorem runs_delimiter {part : Option Section} (h : ∀ inner ∈ part, Neutral inner.body)
    (head : EachHead) (before : List (Block String)) (rest : List (Frame × List (Block String)))
    (current : List (Block String)) :
    ∃ frame' current', AcceptsElse frame' ∧
      Runs ⟨(.body head, before) :: rest, current⟩ (optionalPieces .delimit part)
        ⟨(frame', before) :: rest, current'⟩ := by
  cases part with
  | none => exact ⟨.body head, current, acceptsElse_body head, Runs.nil _⟩
  | some inner =>
      obtain ⟨blocks, hbody⟩ := h inner rfl ⟨(.delimiter head current, before) :: rest, []⟩
      refine ⟨.delimiter head current, [] ++ blocks, acceptsElse_delimiter head current, ?_⟩
      rw [optionalPieces, Option.toList_some, List.flatMap_singleton]
      exact .cons rfl hbody

theorem neutral_of_balanced {pieces : List Piece} (h : Balanced pieces) : Neutral pieces := by
  induction h with
  | nil => exact fun n => ⟨[], by simpa using Runs.nil n⟩
  | @text chars rest after ih =>
      intro n
      obtain ⟨blocks, hrest⟩ := ih (n.push (.text chars))
      exact ⟨.text chars :: blocks, .cons rfl (by simpa [push] using hrest)⟩
  | @placeholder hole rest after ih =>
      intro n
      obtain ⟨blocks, hrest⟩ := ih (n.push (.placeholder hole))
      exact ⟨.placeholder hole :: blocks, .cons rfl (by simpa [push] using hrest)⟩
  | @choice condition position body rest clauses otherwise closing _ _ _ _ hfirst hothers hlast
      hafter =>
      intro n
      obtain ⟨blocks, hbody⟩ := hfirst (n.enter (.branch position [] condition))
      obtain ⟨done, last, current, hclauses⟩ := runs_clauses hothers position [] condition
        n.current n.stack ([] ++ blocks)
      obtain ⟨frame, filled, hotherwise⟩ := runs_otherwise hlast
        (acceptsElse_branch position done last) n.current n.stack current
      obtain ⟨more, hrest⟩ := hafter ⟨n.stack, n.current ++ [frame.close filled]⟩
      refine ⟨frame.close filled :: more, ?_⟩
      have hopen : n.step (.directive (.openIf condition) position)
          = .ok (n.enter (.branch position [] condition)) := rfl
      have hclose : step ⟨(frame, n.current) :: n.stack, filled⟩ (.directive .close closing)
          = .ok ⟨n.stack, n.current ++ [frame.close filled]⟩ := rfl
      have hall := (((Runs.cons hopen hbody).append hclauses).append hotherwise).append
        (Runs.cons hclose hrest)
      simpa using hall
  | @iteration first second collection position body rest delimiter alternative closing distinct _
      _ _ _ hinner hbetween hlast hafter =>
      intro n
      obtain ⟨blocks, hbody⟩ := hinner (n.enter (.body ⟨first, second, collection, position⟩))
      obtain ⟨frame, current, haccepts, hdelimiter⟩ := runs_delimiter hbetween
        ⟨first, second, collection, position⟩ n.current n.stack ([] ++ blocks)
      obtain ⟨frame', filled, hotherwise⟩ := runs_otherwise hlast haccepts n.current n.stack current
      obtain ⟨more, hrest⟩ := hafter ⟨n.stack, n.current ++ [frame'.close filled]⟩
      refine ⟨frame'.close filled :: more, ?_⟩
      have hopen : n.step (.directive (.openEach first second collection) position)
          = .ok (n.enter (.body ⟨first, second, collection, position⟩)) := by
        simp only [step, directive, openEach, if_neg distinct]
        rfl
      have hclose : step ⟨(frame', n.current) :: n.stack, filled⟩ (.directive .close closing)
          = .ok ⟨n.stack, n.current ++ [frame'.close filled]⟩ := rfl
      have hall := (((Runs.cons hopen hbody).append hdelimiter).append hotherwise).append
        (Runs.cons hclose hrest)
      simpa using hall

end Nesting

-- Exactly the balanced templates can be nested.
theorem Block.exists_nest_iff {pieces : List Piece} :
    (∃ blocks, Block.nest pieces = .ok blocks) ↔ Balanced pieces := by
  constructor
  · rintro ⟨blocks, h⟩
    obtain ⟨n, hsteps, hfinish⟩ := bind_eq_ok.mp h
    unfold Nesting.finish at hfinish
    split at hfinish <;> cases hfinish
    rename_i hstack
    cases Nesting.completes_of_steps hsteps hstack with
    | outside blocks => exact blocks
  · intro h
    obtain ⟨blocks, hruns⟩ := Nesting.neutral_of_balanced h Nesting.start
    exact ⟨[] ++ blocks, bind_eq_ok.mpr ⟨_, hruns, rfl⟩⟩

end EventText
