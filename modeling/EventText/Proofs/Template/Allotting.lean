import EventText.Proofs.Template.Compiling

namespace EventText

namespace Node

mutual

-- The slots that are bound inside of a node: by iterations, and by quantifiers in its expressions.
def boundSlots : Node → List Nat
  | .expression plan _ _ => plan.boundSlots
  | .sequence nodes => boundSlotsAll nodes
  | .choice branches otherwise => boundSlotsBranches branches ++ boundSlotsSection otherwise
  | .iteration collection first second body delimiter alternative =>
      first :: second.toList ++ (collection.boundSlots ++ (body.boundSlots
        ++ (boundSlotsSection delimiter ++ boundSlotsSection alternative)))
  | _ => []

def boundSlotsAll : List Node → List Nat
  | [] => []
  | node :: rest => node.boundSlots ++ boundSlotsAll rest

def boundSlotsSection : Option Node → List Nat
  | none => []
  | some node => node.boundSlots

def boundSlotsBranches : List (Plan × Node) → List Nat
  | [] => []
  | (condition, node) :: rest =>
      condition.boundSlots ++ (node.boundSlots ++ boundSlotsBranches rest)

end

theorem boundSlots_ofList (nodes : List Node) :
    (ofList nodes).boundSlots = boundSlotsAll nodes := by
  unfold ofList
  split
  · simp [boundSlotsAll]
  · simp [boundSlots]

end Node

-- Slots that are handed out by two counters at once, to names and to wildcards, in any order.
def Allots (next free after freeAfter : Nat) (slots : List Nat) : Prop :=
  ∃ named ranged, Consecutive next after named ∧ Consecutive free freeAfter ranged ∧
    slots.Perm (named ++ ranged)

namespace Allots

variable {next free middle freeMiddle after freeAfter : Nat} {slots others : List Nat}

theorem nil (next free : Nat) : Allots next free next free [] :=
  ⟨[], [], .nil next, .nil free, .nil⟩

theorem names (h : Consecutive next after slots) (free : Nat) :
    Allots next free after free slots :=
  ⟨slots, [], h, .nil free, by rw [List.append_nil]⟩

theorem wildcards (h : Consecutive free freeAfter slots) (next : Nat) :
    Allots next free next freeAfter slots :=
  ⟨[], slots, .nil next, h, .refl _⟩

theorem append (h : Allots next free middle freeMiddle slots)
    (hothers : Allots middle freeMiddle after freeAfter others) :
    Allots next free after freeAfter (slots ++ others) := by
  obtain ⟨named, ranged, hnamed, hranged, hperm⟩ := h
  obtain ⟨named', ranged', hnamed', hranged', hperm'⟩ := hothers
  refine ⟨named ++ named', ranged ++ ranged', hnamed.append hnamed', hranged.append hranged', ?_⟩
  calc (slots ++ others).Perm ((named ++ ranged) ++ (named' ++ ranged')) := hperm.append hperm'
    _ = named ++ (ranged ++ (named' ++ ranged')) := List.append_assoc _ _ _
    List.Perm _ (named ++ (named' ++ (ranged ++ ranged'))) :=
      (List.perm_append_comm_assoc _ _ _).append_left _
    _ = (named ++ named') ++ (ranged ++ ranged') := (List.append_assoc _ _ _).symm

-- Counters that do not meet hand out no slot twice.
theorem nodup (h : Allots next free after freeAfter slots) (hle : after ≤ free) :
    slots.Nodup := by
  obtain ⟨named, ranged, hnamed, hranged, hperm⟩ := h
  refine hperm.nodup_iff.mpr (List.nodup_append.mpr ⟨hnamed.nodup, hranged.nodup, ?_⟩)
  intro m hm n hn
  have hbefore := hnamed.mem_iff.mp hm
  have hbehind := hranged.mem_iff.mp hn
  omega

end Allots

theorem Block.allots_freshNames {first : String} {second : Option String} {next opened : Nat}
    {boundFirst : BoundName} {boundSecond : Option BoundName}
    (h : freshNames first second next = (boundFirst, boundSecond, opened)) (free : Nat) :
    Allots next free opened free (boundFirst.slot :: (boundSecond.map (·.slot)).toList) := by
  rw [Option.toList_map, ← List.map_cons]
  exact .names (cover_freshNames h).consecutive free

namespace Surroundings

variable {within : Surroundings}

theorem allots_lower {e : Expr} {free freeAfter : Nat} {plan : Plan}
    (h : within.lower e free = .ok (plan, freeAfter)) (next : Nat) :
    Allots next free next freeAfter plan.boundSlots := by
  have hslots := (lowers_of_lower h).consecutive
  rw [List.flatMap_singleton] at hslots
  exact .wildcards hslots next

theorem allots_lowerPlaceholder {hole : Placeholder} {free freeAfter : Nat} {node : Node}
    (h : within.lowerPlaceholder hole free = .ok (node, freeAfter)) (next : Nat) :
    Allots next free next freeAfter node.boundSlots := by
  unfold lowerPlaceholder at h
  split at h
  · cases h
    exact .nil next free
  · cases h
    exact .nil next free
  · cases h
    exact .nil next free
  · cases h
    exact .nil next free
  · obtain ⟨⟨plan, last⟩, hplan, h⟩ := bind_eq_ok.mp h
    cases h
    exact allots_lower hplan next

-- Compiling binds each slot that it hands out in one place.
theorem Compiles.allots {names : Names} {next free after freeAfter : Nat}
    {blocks : List (Block String)} {nodes : List Node}
    (h : within.Compiles names next free blocks nodes after freeAfter) :
    Allots next free after freeAfter (Node.boundSlotsAll nodes) := by
  induction h with
  | nil | text | nothing => exact .nil _ _
  | cons _ _ ihfirst ihothers =>
      simp only [Node.boundSlotsAll, List.append_nil] at ihfirst ⊢
      exact ihfirst.append ihothers
  | placeholder shown =>
      simp only [Node.boundSlotsAll, List.append_nil]
      exact allots_lowerPlaceholder shown _
  | otherwise _ ih =>
      simp only [Node.boundSlotsAll, Node.boundSlots, Node.boundSlotsBranches,
        Node.boundSlotsSection, Node.boundSlots_ofList, List.nil_append, List.append_nil]
      exact ih
  | branch tested _ _ ihinner ihothers =>
      simp only [Node.boundSlotsAll, Node.boundSlots, Node.boundSlotsBranches,
        Node.boundSlots_ofList, List.append_nil, List.append_assoc] at ihothers ⊢
      exact (allots_lower tested _).append (ihinner.append ihothers)
  | iteration fresh ranged _ _ _ ihinner ihmiddle ihlast =>
      simp only [Node.boundSlotsAll, Node.boundSlots, Node.boundSlotsBranches,
        Node.boundSlots_ofList, List.nil_append, List.append_nil] at ihmiddle ihlast ⊢
      exact (Block.allots_freshNames fresh _).append ((allots_lower ranged _).append
        (ihinner.append (ihmiddle.append ihlast)))

end Surroundings

-- Neither iterations nor quantifiers of a template share a slot.
theorem Template.boundSlots_nodup {source : String} {look : Look} {resolver : Resolver}
    {template : Template} (h : Template.read source look resolver = .ok template) :
    template.root.boundSlots.Nodup := by
  obtain ⟨pieces, blocks, referenced, nodes, after, freeAfter, -, -, rfl, hcompiles⟩ :=
    compiles_of_read h
  rw [Node.boundSlots_ofList]
  exact hcompiles.allots.nodup (Nat.le_refl after)

namespace Surroundings

-- Lowering an expression whose slots are all taken fails at a call that does not resolve, or else
-- makes one quantifier of every wildcard. These bind the slots from the first free one on, each
-- around all places where it stands, and no slot is bound twice in a template.
theorem lower_allots {e : Expr} {first : Nat} (h : e.SlotsBelow first) (within : Surroundings) :
    ((∃ call ∈ e.calls, call.isRest = false ∧ ∃ fault,
        Function.resolve? within.resolver call.name call.arity call.ignoreCase = .error fault ∧
        within.lower e first = .error (.resolution fault call.name call.arity call.position)) ∨
      ∃ plan after, within.lower e first = .ok (plan, after) ∧
        (plan.quantifiers.map (·.1)).Perm e.wildcards ∧
        after = first + e.wildcards.length ∧
        plan.boundSlots = List.range' first e.wildcards.length ∧
        ∀ n, first ≤ n → ¬ plan.Free n) ∧
      ∀ source look resolver template, Template.read source look resolver = .ok template →
        template.root.boundSlots.Nodup := by
  refine ⟨?_, fun source look resolver template hread => Template.boundSlots_nodup hread⟩
  cases hlower : within.lower e first with
  | error failed =>
      obtain ⟨call, hcall, fault, hfault, rfl⟩ := reported_of_lower hlower
      obtain ⟨hrest, hresolve⟩ := Call.target_eq_error.mp hfault
      exact .inl ⟨call, hcall, hrest, fault, hresolve, rfl⟩
  | ok lowered =>
      obtain ⟨plan, after⟩ := lowered
      have hlowers := lowers_of_lower hlower
      have hkinds := hlowers.kinds_perm
      have hslots := hlowers.consecutive
      simp only [List.flatMap_singleton] at hkinds hslots
      have hlength : (plan.quantifiers.map (·.2)).length = e.wildcards.length := by
        rw [List.length_map, ← hkinds.length_eq, List.length_map]
      have hafter := hslots.after_eq
      rw [hlength] at hafter
      refine .inr ⟨plan, after, rfl, hkinds, hafter, ?_, ?_⟩
      · have hrange := hslots.2
        rw [hafter, Nat.add_sub_cancel_left] at hrange
        exact hrange
      · intro n hn hfree
        obtain ⟨c, hc, hoccurs⟩ := hlowers.occurs_of_free List.mem_cons_self hfree
        obtain rfl := List.mem_singleton.mp hc
        exact Nat.not_lt.mpr hn (h n hoccurs)

-- `x[?][y[*]] = Items[*].Name`, and the same inside of `{#each x, y in Xs}`: wildcards in a path,
-- in a key and in the second operand.

private def crossedWritten : Expr :=
  .binary .equal
    (.index (.wildcard (.property "x") .any) (.wildcard (.property "y") .all))
    (.member (.wildcard (.property "Items") .all) "Name") false 30

private def crossed : Expr :=
  .binary .equal (.index (.wildcard (.slot 0) .any) (.wildcard (.slot 1) .all))
    (.member (.wildcard (.property "Items") .all) "Name") false 30

private def crossedPlan : Plan :=
  .quantified .any (.slot 0) 2 (.quantified .all (.property "Items") 3
    (.binary .equal (.index (.slot 2) (.quantified .all (.slot 1) 4 (.slot 4)))
      (.member (.slot 3) "Name") false))

private def crossedSource : String :=
  "\x7b#each x, y in Xs\x7d\x7bx[?][y[*]] = Items[*].Name\x7d\x7b#end\x7d"

private def crossedPieces : List Piece :=
  [.directive (.openEach "x" (some "y") (.property "Xs")) 0,
    .placeholder ⟨crossedWritten, none, none, 18⟩, .directive .close 46]

private def crossedBound : BoundTemplate :=
  ⟨[.iteration ⟨"x", 0⟩ (some ⟨"y", 1⟩) (.property "Xs") [.placeholder ⟨crossed, none, none, 18⟩]
    none none 0], 2⟩

private def crossedRoot : Node :=
  .iteration (.property "Xs") 0 (some 1) (.expression crossedPlan none none) none none

private theorem lower_crossed (within : Surroundings) :
    within.lower crossed 2 = .ok (crossedPlan, 5) := by
  simp [crossed, crossedPlan, lower_of_ranging, Expr.ranging, lower, Expr.pullEither, Expr.pull,
    Expr.Pulled.map]

private theorem readAll_crossed : Piece.readAll crossedSource = .ok crossedPieces := rfl

private theorem read_crossed :
    Template.read crossedSource Look.plain Resolver.empty = .ok ⟨crossedRoot, Look.plain⟩ := by
  have hbound : BoundTemplate.ofPieces crossedPieces = .ok crossedBound := rfl
  have hroot : crossedBound.lower Resolver.empty = .ok crossedRoot := by
    have hinner (within : Surroundings) (free : Nat) : within.lowerPlaceholder
        ⟨crossed, none, none, 18⟩ free = (do
          let lowered ← within.lower crossed free
          return (.expression lowered.1 none none, lowered.2)) := rfl
    simp [crossedBound, crossedRoot, -lowerPlaceholder, hinner, lower_crossed]
  exact Template.read_eq_ok.mpr ⟨_, _, _, readAll_crossed, hbound, hroot, rfl⟩

theorem lower_allots_crossed :
    crossed.SlotsBelow 2 ∧
      (∃ plan, (Surroundings.mk Resolver.empty []).lower crossed 2 = .ok (plan, 5) ∧
        (plan.quantifiers.map (·.1)).Perm [.any, .all, .all] ∧ plan.boundSlots = [2, 3, 4] ∧
        ∀ n, 2 ≤ n → ¬ plan.Free n) ∧
      ∃ template, Template.read crossedSource Look.plain Resolver.empty = .ok template ∧
        template.root.boundSlots.Nodup := by
  have hwritten : crossedWritten.Slotless :=
    Piece.slotless_readAll readAll_crossed _ (List.mem_cons_of_mem _ List.mem_cons_self) _ rfl
  have hnames : ∀ bound ∈ ([⟨"y", 1⟩, ⟨"x", 0⟩] : Names), bound.slot < 2 := by decide
  have hbelow : crossed.SlotsBelow 2 := Expr.slotsBelow_bind hnames hwritten
  have hcalls : crossed.calls = [] := by
    simp [crossed, Expr.calls_eq, Expr.ownCalls, Expr.children]
  have hwildcards : crossed.wildcards = [.any, .all, .all] := by
    simp [crossed, Expr.wildcards_eq, Expr.ownWildcards, Expr.children]
  obtain ⟨hlower, htemplates⟩ := lower_allots hbelow ⟨Resolver.empty, []⟩
  refine ⟨hbelow, ?_, _, read_crossed, htemplates _ _ _ _ read_crossed⟩
  rcases hlower with ⟨call, hcall, -⟩ | ⟨plan, after, hplan, hkinds, rfl, hslots, hfree⟩
  · rw [hcalls] at hcall
    cases hcall
  · rw [hwildcards] at hplan hkinds hslots
    exact ⟨plan, hplan, hkinds, hslots, hfree⟩

end Surroundings

end EventText
