import EventText.Error
import EventText.Template.Piece

namespace EventText

-- A template with its directives nested. The names of iterations are of type `ν`: as they are
-- written, or with the slots that they are bound to.
inductive Block (ν : Type)
  | text (chars : List Char)
  | placeholder (hole : Placeholder)
  | choice (branches : List (Expr × List (Block ν))) (otherwise : Option (List (Block ν)))
      (position : Nat)
  | iteration (first : ν) (second : Option ν) (collection : Expr) (body : List (Block ν))
      (delimiter alternative : Option (List (Block ν))) (position : Nat)

-- The opening of an iteration.
structure EachHead where
  first : String
  second : Option String
  collection : Expr
  position : Nat

def EachHead.block (head : EachHead) (body : List (Block String))
    (delimiter alternative : Option (List (Block String))) : Block String :=
  .iteration head.first head.second head.collection body delimiter alternative head.position

-- A block that is still open, by the section that is being filled, with the sections before it.
inductive Frame
  | branch (position : Nat) (done : List (Expr × List (Block String))) (condition : Expr)
  | otherwise (position : Nat) (done : List (Expr × List (Block String)))
  | body (head : EachHead)
  | delimiter (head : EachHead) (body : List (Block String))
  | alternative (head : EachHead) (body : List (Block String))
      (delimiter : Option (List (Block String)))

namespace Frame

-- The block when its last section is complete.
def close (last : List (Block String)) : Frame → Block String
  | branch position done condition => .choice (done ++ [(condition, last)]) none position
  | otherwise position done => .choice done (some last) position
  | body head => head.block last none none
  | delimiter head before => head.block before (some last) none
  | alternative head before between => head.block before between (some last)

def unclosed : Frame → TemplateError
  | branch position _ _ | otherwise position _ => .bind .unclosedIf position
  | body head | delimiter head _ | alternative head _ _ => .bind .unclosedEach head.position

end Frame

-- A place in a nested template: the open blocks, innermost first, each with what stands before
-- it, and what the innermost open section holds so far.
structure Nesting where
  stack : List (Frame × List (Block String))
  current : List (Block String)

namespace Nesting

def start : Nesting := ⟨[], []⟩

def push (n : Nesting) (block : Block String) : Nesting :=
  { n with current := n.current ++ [block] }

def enter (n : Nesting) (frame : Frame) : Nesting := ⟨(frame, n.current) :: n.stack, []⟩

def elseIf (n : Nesting) (condition : Expr) : Except BindFault Nesting :=
  match n.stack with
  | (.branch position done previous, before) :: rest =>
      .ok ⟨(.branch position (done ++ [(previous, n.current)]) condition, before) :: rest, []⟩
  | (.otherwise _ _, _) :: _ => .error .elseIfAfterElse
  | _ => .error .elseIfOutsideIf

def otherwise (n : Nesting) : Except BindFault Nesting :=
  match n.stack with
  | (.branch position done previous, before) :: rest =>
      .ok ⟨(.otherwise position (done ++ [(previous, n.current)]), before) :: rest, []⟩
  | (.body head, before) :: rest => .ok ⟨(.alternative head n.current none, before) :: rest, []⟩
  | (.delimiter head body, before) :: rest =>
      .ok ⟨(.alternative head body (some n.current), before) :: rest, []⟩
  | [] => .error .elseOutsideBlock
  | _ => .error .repeatedElse

def openEach (n : Nesting) (head : EachHead) : Except BindFault Nesting :=
  if head.second = some head.first then .error (.repeatedName head.first)
  else .ok (n.enter (.body head))

def delimit (n : Nesting) : Except BindFault Nesting :=
  match n.stack with
  | (.body head, before) :: rest => .ok ⟨(.delimiter head n.current, before) :: rest, []⟩
  | (.delimiter _ _, _) :: _ | (.alternative _ _ _, _) :: _ => .error .misplacedDelimit
  | _ => .error .delimitOutsideEach

def close (n : Nesting) : Except BindFault Nesting :=
  match n.stack with
  | (frame, before) :: rest => .ok ⟨rest, before ++ [frame.close n.current]⟩
  | [] => .error .endWithoutBlock

def directive (n : Nesting) (position : Nat) : Directive → Except BindFault Nesting
  | .openIf condition => .ok (n.enter (.branch position [] condition))
  | .elseIf condition => n.elseIf condition
  | .otherwise => n.otherwise
  | .openEach first second collection => n.openEach { first, second, collection, position }
  | .delimit => n.delimit
  | .close => n.close

def step (n : Nesting) : Piece → Except TemplateError Nesting
  | .text chars => .ok (n.push (.text chars))
  | .placeholder hole => .ok (n.push (.placeholder hole))
  | .directive d position =>
      (n.directive position d).mapError fun fault => .bind fault position

-- All blocks have to be closed at the end.
def finish (n : Nesting) : Except TemplateError (List (Block String)) :=
  match n.stack with
  | [] => .ok n.current
  | (frame, _) :: _ => .error frame.unclosed

end Nesting

-- Nests the directives of a flat template.
def Block.nest (pieces : List Piece) : Except TemplateError (List (Block String)) := do
  (← pieces.foldlM Nesting.step Nesting.start).finish

end EventText
