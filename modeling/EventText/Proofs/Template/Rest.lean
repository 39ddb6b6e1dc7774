import EventText.Proofs.Template.Questions

namespace EventText

-- What a property of an event is left to: the message, the rest of the template, or `rest()`.
inductive Share
  | message
  | template
  | rest
deriving DecidableEq

namespace Event

-- The message comes first. The names are those that the template mentions.
def share (event : Event) (named : List String) (name : String) : Share :=
  if name ∈ event.messageHoles.map (·.name) then .message
  else if name ∈ named then .template
  else .rest

theorem share_eq_rest {event : Event} {named : List String} {name : String} :
    event.share named name = .rest ↔
      name ∉ event.messageHoles.map (·.name) ∧ name ∉ named := by
  unfold share
  split
  · next hmessage => simp [hmessage]
  · next hmessage =>
    split
    · next hnamed => simp [hnamed]
    · next hnamed => simp [hmessage, hnamed]

-- The properties of one share, in the order of the event.
def ofShare (event : Event) (named : List String) (share : Share) : List (String × Value) :=
  event.properties.entries.filter fun entry => event.share named entry.1 = share

-- Every property belongs to one share.
theorem perm_shares (event : Event) (named : List String) :
    (event.ofShare named .message ++ event.ofShare named .template
      ++ event.ofShare named .rest).Perm event.properties.entries := by
  rw [ofShare, ofShare, ofShare, List.append_assoc]
  induction event.properties.entries with
  | nil => exact .nil
  | cons entry rest ih =>
      have hentry := ih.cons entry
      cases hshare : event.share named entry.1 with
      | message => simpa [hshare] using hentry
      | template => simpa [hshare] using List.perm_middle.trans hentry
      | rest =>
          rw [← List.append_assoc] at hentry
          simpa [hshare] using List.perm_middle.trans hentry

theorem remainingProperties_eq (event : Event) (named : List String) :
    event.remainingProperties named = .record (event.ofShare named .rest) none := by
  have hfilter : (fun entry : String × Value => !named.contains entry.1 &&
      !(event.messageHoles.map (·.name)).contains entry.1)
        = fun entry => decide (event.share named entry.1 = .rest) := by
    funext entry
    rw [Bool.eq_iff_iff, decide_eq_true_iff, share_eq_rest]
    simp [and_comm]
  rw [remainingProperties, ofShare, ← hfilter]

end Event

theorem Surroundings.lower_rest {within : Surroundings} {name : String} {ignoreCase : Bool}
    (h : isRest name [] ignoreCase = true) (position next : Nat) :
    within.lower (.call name [] ignoreCase position) next
      = .ok (.remaining within.referenced, next) := by
  rw [lower_call rfl, if_pos h]
  rfl

-- Every call of `rest()` in a template gives a record of the properties that are left: in the order
-- of the event, those that neither its message shows nor the template names.
theorem Template.rest_completes {source : String} {look : Look} {resolver : Resolver}
    {template : Template} (h : Template.read source look resolver = .ok template) :
    ∃ pieces blocks named, Piece.readAll source = .ok pieces ∧ Block.nest pieces = .ok blocks ∧
      named = Block.referencesAll (Block.bindAll [] 0 blocks).1 ∧
      (∀ name, name ∈ named ↔ Block.Mentioned name (Block.placesAll [] blocks)) ∧
      (∀ name ignoreCase position next, Surroundings.isRest name [] ignoreCase = true →
        (Surroundings.mk resolver named).lower (.call name [] ignoreCase position) next
          = .ok (.remaining named, next)) ∧
      template.root.questions.filter Question.isRemaining
        = List.replicate ((Block.expressionsAll blocks).map Expr.restCalls).sum
          (.remaining named) ∧
      ∀ scope : Scope,
        (Plan.remaining named).eval scope
          = .value (.record (scope.event.ofShare named .rest) none) ∧
        (scope.event.ofShare named .message ++ scope.event.ofShare named .template
          ++ scope.event.ofShare named .rest).Perm scope.event.properties.entries := by
  obtain ⟨pieces, blocks, hpieces, hnest, hperm⟩ := questions_perm h
  refine ⟨pieces, blocks, _, hpieces, hnest, rfl, fun name =>
    (Block.binds_bindAll [] 0 blocks).mem_referencesAll, ?_, ?_, fun scope => ⟨?_, ?_⟩⟩
  · exact fun name ignoreCase position next hrest => Surroundings.lower_rest hrest position next
  · refine List.eq_replicate_iff.mpr ⟨?_, fun q hq => ?_⟩
    · have hcounts : (Block.placesAll [] blocks).map (fun place =>
          (place.1.questions (Block.referencesAll (Block.bindAll [] 0 blocks).1)
            place.2).countP Question.isRemaining)
          = (Block.expressionsAll blocks).map Expr.restCalls := by
        rw [← Block.map_placesAll [] blocks, List.map_map]
        exact List.map_congr_left fun place _ => Expr.countP_questions place.1
      rw [← List.countP_eq_length_filter, hperm.countP_eq, Block.questions, List.countP_flatMap]
      exact congrArg List.sum hcounts
    · obtain ⟨hq, hremaining⟩ := List.mem_filter.mp hq
      obtain ⟨place, -, hasked⟩ := List.mem_flatMap.mp (hperm.mem_iff.mp hq)
      cases q with
      | remaining names => rw [(Expr.rest_occurs hasked).1]
      | _ => cases hremaining
  · rw [Plan.eval, Event.remainingProperties_eq]
  · exact Event.perm_shares _ _

-- `{#each x in Xs}{x}{rest()}{#end}`

private def leftSource : String :=
  "\x7b#each x in Xs\x7d\x7bx\x7d\x7brest()\x7d\x7b#end\x7d"

private def leftPieces : List Piece :=
  [.directive (.openEach "x" none (.property "Xs")) 0,
    .placeholder ⟨.property "x", none, none, 15⟩,
    .placeholder ⟨.call "rest" [] false 19, none, none, 18⟩, .directive .close 26]

private def leftBlocks : List (Block String) :=
  [.iteration "x" none (.property "Xs") [.placeholder ⟨.property "x", none, none, 15⟩,
    .placeholder ⟨.call "rest" [] false 19, none, none, 18⟩] none none 0]

private def leftBound : BoundTemplate :=
  ⟨[.iteration ⟨"x", 0⟩ none (.property "Xs") [.placeholder ⟨.slot 0, none, none, 15⟩,
    .placeholder ⟨.call "rest" [] false 19, none, none, 18⟩] none none 0], 1⟩

private def leftRoot : Node :=
  .iteration (.property "Xs") 0 none (.sequence [.expression (.slot 0) none none,
    .expression (.remaining ["Xs"]) none none]) none none

private def leftEvent : Event :=
  { timestamp := midday, level := .information, messageTemplate := "\x7bCount\x7d left"
    exception := none
    properties := .ofList [("Xs", .sequence [.ofString "a"]), ("x", .ofString "P"),
      ("Count", .scalar (.uint 3))] }

private theorem isRest_left : Surroundings.isRest "rest" [] false = true := by decide

private theorem read_left :
    Template.read leftSource Look.plain Resolver.empty = .ok ⟨leftRoot, Look.plain⟩ := by
  have hpieces : Piece.readAll leftSource = .ok leftPieces := rfl
  have hbound : BoundTemplate.ofPieces leftPieces = .ok leftBound := rfl
  have hroot : leftBound.lower Resolver.empty = .ok leftRoot := by
    have hcollected : Block.referencesAll leftBound.blocks = ["Xs"] := rfl
    rw [BoundTemplate.lower, hcollected]
    simp [leftBound, leftRoot, Surroundings.lower_rest isRest_left]
  exact Template.read_eq_ok.mpr ⟨_, _, _, hpieces, hbound, hroot, rfl⟩

theorem Template.rest_of_captured_name :
    ∃ template named, Template.read leftSource Look.plain Resolver.empty = .ok template ∧
      template.root.questions.filter Question.isRemaining = [.remaining named] ∧
      (Plan.remaining named).eval (Scope.ofEvent leftEvent midday)
        = .value (.record [("x", .ofString "P")] none) := by
  obtain ⟨pieces, blocks, named, hpieces, hnest, hnamed, -, -, hcalls, hrest⟩ :=
    rest_completes read_left
  obtain rfl : pieces = leftPieces := Except.ok.inj (hpieces.symm.trans rfl)
  obtain rfl : blocks = leftBlocks := Except.ok.inj (hnest.symm.trans rfl)
  obtain rfl : named = ["Xs"] := hnamed.trans rfl
  have hexpressions : Block.expressionsAll leftBlocks
      = [.property "Xs", .property "x", .call "rest" [] false 19] := rfl
  have hcount : ((Block.expressionsAll leftBlocks).map Expr.restCalls).sum = 1 := by
    simp [hexpressions, Expr.restCalls_eq, Expr.children, Expr.isRestCall, isRest_left]
  have hleft : leftEvent.ofShare ["Xs"] .rest = [("x", .ofString "P")] := rfl
  refine ⟨_, ["Xs"], read_left, ?_, ?_⟩
  · rw [hcalls, hcount]
    rfl
  · rw [(hrest _).1]
    exact congrArg (fun members => Outcome.value (.record members none)) hleft

end EventText
