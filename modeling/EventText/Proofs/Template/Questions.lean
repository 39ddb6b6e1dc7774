import EventText.Proofs.Expr.Mentioning
import EventText.Proofs.Template.Reference

namespace EventText

namespace Block

mutual

-- The expressions of a template in the order of its source, each with the names that iterations
-- around it capture. The delimiter counts as inside of its iteration, as it does for the binder.
def places (captured : List String) : Block String → List (Expr × List String)
  | .text _ => []
  | .placeholder hole => [(hole.expression, captured)]
  | .choice branches otherwise _ =>
      placesBranches captured branches ++ placesSection captured otherwise
  | .iteration first second collection body delimiter alternative _ =>
      let inside := second.toList ++ first :: captured
      (collection, captured) :: placesAll inside body ++ placesSection inside delimiter
        ++ placesSection captured alternative

def placesAll (captured : List String) : List (Block String) → List (Expr × List String)
  | [] => []
  | block :: rest => places captured block ++ placesAll captured rest

def placesSection (captured : List String) :
    Option (List (Block String)) → List (Expr × List String)
  | none => []
  | some blocks => placesAll captured blocks

def placesBranches (captured : List String) :
    List (Expr × List (Block String)) → List (Expr × List String)
  | [] => []
  | (condition, blocks) :: rest =>
      (condition, captured) :: placesAll captured blocks ++ placesBranches captured rest

end

-- Every expression of the source has its place.
theorem map_placesAll (captured : List String) (blocks : List (Block String)) :
    (placesAll captured blocks).map (·.1) = expressionsAll blocks := by
  have hsection {part : Option (List (Block String))} {captured : List String}
      (h : ∀ blocks ∈ part, ∀ captured,
        (placesAll captured blocks).map (·.1) = expressionsAll blocks) :
      (placesSection captured part).map (·.1) = expressionsSection part := by
    cases part with
    | none => rfl
    | some blocks =>
        rw [expressionsSection_some]
        exact h blocks rfl captured
  have hbranches {branches : List (Expr × List (Block String))} {captured : List String}
      (h : ∀ branch ∈ branches, ∀ captured,
        (placesAll captured branch.2).map (·.1) = expressionsAll branch.2) :
      (placesBranches captured branches).map (·.1) = expressionsBranches branches := by
    induction branches with
    | nil => rfl
    | cons branch rest ih =>
        obtain ⟨condition, blocks⟩ := branch
        have hfirst := h (condition, blocks) List.mem_cons_self captured
        have hrest := ih fun other hother => h other (List.mem_cons_of_mem _ hother)
        simp only [placesBranches, List.map_append, List.map_cons, hfirst, hrest,
          expressionsBranches_cons]
  induction blocks using blocksInduction generalizing captured with
  | nil => rfl
  | text chars rest ih =>
      rw [expressionsAll_cons, ← ih captured]
      rfl
  | placeholder hole rest ih =>
      rw [expressionsAll_cons, ← ih captured]
      rfl
  | choice branches otherwise position rest ihbranches ihotherwise ih =>
      rw [expressionsAll_cons, expressionsAll_choice, ← ih captured, ← hbranches ihbranches,
        ← hsection ihotherwise, placesAll, places, List.map_append, List.map_append]
  | iteration first second collection body delimiter alternative position rest ihbody ihdelimiter
      ihalternative ih =>
      rw [expressionsAll_cons, expressionsAll_iteration, ← ih captured,
        ← ihbody (second.toList ++ first :: captured), ← hsection ihdelimiter,
        ← hsection ihalternative, placesAll, places, List.map_append, List.map_append,
        List.map_append, List.map_cons]

def questions (excluded : List String) (places : List (Expr × List String)) : List Question :=
  places.flatMap fun place => place.1.questions excluded place.2

theorem questions_append (excluded : List String) (xs ys : List (Expr × List String)) :
    questions excluded (xs ++ ys) = questions excluded xs ++ questions excluded ys :=
  List.flatMap_append

theorem questions_cons (excluded captured : List String) (e : Expr)
    (rest : List (Expr × List String)) :
    questions excluded ((e, captured) :: rest)
      = e.questions excluded captured ++ questions excluded rest := List.flatMap_cons

-- A template names a property at some place where no iteration captures the name.
def Mentioned (name : String) (places : List (Expr × List String)) : Prop :=
  ∃ place ∈ places, place.1.Mentions place.2 name

theorem mentioned_append {name : String} {xs ys : List (Expr × List String)} :
    Mentioned name (xs ++ ys) ↔ Mentioned name xs ∨ Mentioned name ys := by
  simp only [Mentioned, List.mem_append, or_and_right, exists_or]

theorem mentioned_cons {name : String} {e : Expr} {captured : List String}
    {rest : List (Expr × List String)} :
    Mentioned name ((e, captured) :: rest) ↔ e.Mentions captured name ∨ Mentioned name rest := by
  simp [Mentioned]

theorem not_mentioned_nil {name : String} : ¬ Mentioned name [] := by
  simp [Mentioned]

theorem property_mem_questions {excluded : List String} {name : String}
    {places : List (Expr × List String)} :
    Question.property name ∈ questions excluded places ↔ Mentioned name places := by
  rw [questions, List.mem_flatMap]
  exact exists_congr fun place => and_congr_right fun _ => Expr.property_mem_questions

theorem map_visible {first : String} {second : Option String} {next opened : Nat}
    {boundFirst : BoundName} {boundSecond : Option BoundName} {names : Names}
    (h : freshNames first second next = (boundFirst, boundSecond, opened)) :
    (visible boundFirst boundSecond names).map (·.name)
      = second.toList ++ first :: names.map (·.name) := by
  obtain ⟨rfl, rfl⟩ := names_freshNames h
  cases boundSecond <;> rfl

private theorem mem_references_bind {names : Names} {e : Expr} {name : String} :
    name ∈ (e.bind names).references ↔ e.Mentions (names.map (·.name)) name := by
  rw [@Expr.mem_references [], Expr.questions_bind]
  exact Expr.property_mem_questions

-- The names that are collected from a bound template are those that its source mentions.
theorem Binds.mem_referencesAll {names : Names} {next after : Nat} {blocks : List (Block String)}
    {bounds : List (Block BoundName)} (h : Binds names next blocks bounds after) {name : String} :
    name ∈ referencesAll bounds ↔ Mentioned name (placesAll (names.map (·.name)) blocks) := by
  induction h with
  | nil => simp [referencesAll, placesAll, not_mentioned_nil]
  | cons first others ihfirst ihothers =>
      simp only [referencesAll, placesAll, List.append_nil] at ihfirst ⊢
      rw [List.mem_append, mentioned_append, ihfirst, ihothers]
  | text => simp [referencesAll, references, placesAll, places, not_mentioned_nil]
  | placeholder =>
      simp only [referencesAll, references, placesAll, places, List.append_nil]
      rw [mem_references_bind, mentioned_cons]
      simp [not_mentioned_nil]
  | nothing =>
      simp [referencesAll, references, referencesBranches, referencesSection, placesAll, places,
        placesBranches, placesSection, not_mentioned_nil]
  | otherwise inner ih =>
      simp only [referencesAll, references, referencesBranches, referencesSection, placesAll,
        places, placesBranches, placesSection, List.append_nil, List.nil_append]
      exact ih
  | branch inner others ihinner ihothers =>
      simp only [referencesAll, references, referencesBranches, placesAll, places, placesBranches,
        List.append_nil, List.append_assoc, List.cons_append] at ihothers ⊢
      rw [List.mem_append, List.mem_append, mentioned_cons, mentioned_append,
        mem_references_bind, ihinner, ihothers]
  | iteration fresh inner middle last ihinner ihmiddle ihlast =>
      rw [map_visible fresh] at ihinner ihmiddle
      simp only [referencesAll, references, referencesBranches, placesAll, places, placesBranches,
        List.append_nil, List.nil_append, List.append_assoc, List.cons_append]
        at ihmiddle ihlast ⊢
      rw [List.mem_append, List.mem_append, List.mem_append, mentioned_cons, mentioned_append,
        mentioned_append, mem_references_bind, ihinner, ihmiddle, ihlast]

end Block

namespace Node

mutual

-- What writing a node can ask an event for.
def questions : Node → List Question
  | .literal _ => []
  | .expression plan _ _ => plan.questions
  | .level _ _ => [.builtin .level]
  | .timestamp _ _ => [.builtin .timestamp]
  | .message _ => [.builtin .message]
  | .exception => [.builtin .exception]
  | .sequence nodes => questionsAll nodes
  | .choice branches otherwise => questionsBranches branches ++ questionsSection otherwise
  | .iteration collection _ _ body delimiter alternative =>
      collection.questions ++ body.questions ++ questionsSection delimiter
        ++ questionsSection alternative

def questionsAll : List Node → List Question
  | [] => []
  | node :: rest => node.questions ++ questionsAll rest

def questionsSection : Option Node → List Question
  | none => []
  | some node => node.questions

def questionsBranches : List (Plan × Node) → List Question
  | [] => []
  | (condition, node) :: rest =>
      condition.questions ++ node.questions ++ questionsBranches rest

end

theorem questions_ofList (nodes : List Node) : (ofList nodes).questions = questionsAll nodes := by
  unfold ofList
  split
  · simp [questionsAll]
  · simp [questions]

end Node

namespace Surroundings

variable {within : Surroundings}

theorem questions_lowerPlaceholder {hole : Placeholder} {free freeAfter : Nat} {node : Node}
    (h : within.lowerPlaceholder hole free = .ok (node, freeAfter)) :
    node.questions.Perm (hole.expression.questions within.referenced []) := by
  unfold lowerPlaceholder at h
  split at h
  · next hexpression =>
    cases h
    rw [hexpression, Expr.questions_of_own rfl, Node.questions]
  · next hexpression =>
    cases h
    rw [hexpression, Expr.questions_of_own rfl, Node.questions]
  · next hexpression =>
    cases h
    rw [hexpression, Expr.questions_of_own rfl, Node.questions]
  · next hexpression =>
    cases h
    rw [hexpression, Expr.questions_of_own rfl, Node.questions]
  · obtain ⟨⟨plan, last⟩, hplan, h⟩ := bind_eq_ok.mp h
    cases h
    rw [Node.questions]
    exact questions_lower hplan

-- Compiling loses no question of the source, adds none and repeats none.
theorem Compiles.questions_perm {names : Names} {next free after freeAfter : Nat}
    {blocks : List (Block String)} {nodes : List Node}
    (h : within.Compiles names next free blocks nodes after freeAfter) :
    (Node.questionsAll nodes).Perm
      (Block.questions within.referenced (Block.placesAll (names.map (·.name)) blocks)) := by
  induction h with
  | nil => exact .nil
  | cons first others ihfirst ihothers =>
      simp only [Node.questionsAll, Block.placesAll, List.append_nil] at ihfirst ⊢
      rw [Block.questions_append]
      exact ihfirst.append ihothers
  | text => simp [Node.questionsAll, Node.questions, Block.placesAll, Block.places, Block.questions]
  | placeholder shown =>
      have hshown := questions_lowerPlaceholder shown
      rw [Expr.questions_bind] at hshown
      simp only [Node.questionsAll, Block.placesAll, Block.places, List.append_nil]
      rw [Block.questions_cons, Block.questions, List.flatMap_nil, List.append_nil]
      exact hshown
  | nothing =>
      simp [Node.questionsAll, Node.questions, Node.questionsBranches, Node.questionsSection,
        Block.placesAll, Block.places, Block.placesBranches, Block.placesSection, Block.questions]
  | otherwise inner ih =>
      simp only [Node.questionsAll, Node.questions, Node.questionsBranches, Node.questionsSection,
        Node.questions_ofList, Block.placesAll, Block.places, Block.placesBranches,
        Block.placesSection, List.append_nil, List.nil_append]
      exact ih
  | branch tested inner others ihinner ihothers =>
      have htested := questions_lower tested
      rw [Expr.questions_bind] at htested
      simp only [Node.questionsAll, Node.questions, Node.questionsBranches,
        Node.questions_ofList, Block.placesAll, Block.places, Block.placesBranches,
        List.append_nil, List.append_assoc, List.cons_append, Block.questions_append,
        Block.questions_cons] at ihothers ⊢
      exact htested.append (ihinner.append ihothers)
  | iteration fresh ranged inner middle last ihinner ihmiddle ihlast =>
      have hranged := questions_lower ranged
      rw [Expr.questions_bind] at hranged
      rw [Block.map_visible fresh] at ihinner ihmiddle
      simp only [Node.questionsAll, Node.questions, Node.questionsBranches, Node.questions_ofList,
        Block.placesAll, Block.places, Block.placesBranches, List.append_nil, List.nil_append,
        List.append_assoc, List.cons_append, Block.questions_append, Block.questions_cons]
        at ihmiddle ihlast ⊢
      exact hranged.append (ihinner.append (ihmiddle.append ihlast))

end Surroundings

-- What a template asks for when it renders is what its source asks for. `rest()` leaves out what is
-- collected from all of it.
theorem Template.questions_perm {source : String} {look : Look} {resolver : Resolver}
    {template : Template} (h : Template.read source look resolver = .ok template) :
    ∃ pieces blocks, Piece.readAll source = .ok pieces ∧ Block.nest pieces = .ok blocks ∧
      template.root.questions.Perm (Block.questions
        (Block.referencesAll (Block.bindAll [] 0 blocks).1) (Block.placesAll [] blocks)) := by
  obtain ⟨pieces, blocks, nodes, after, freeAfter, hpieces, hnest, rfl, hcompiles⟩ :=
    Template.compiles_collected h
  refine ⟨pieces, blocks, hpieces, hnest, ?_⟩
  rw [Node.questions_ofList]
  exact hcompiles.questions_perm

end EventText
