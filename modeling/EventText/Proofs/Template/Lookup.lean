import EventText.Proofs.Expr.Lookup
import EventText.Proofs.Template.Mention

namespace EventText

-- A slot that is looked up while a template is rendered: in which scope, and the slots of the
-- iterations whose delimiters are being written at that moment.
structure Lookup where
  slot : Nat
  scope : Scope
  between : List Nat

namespace Node

-- The rounds of an iteration.
def rounds (collection : Plan) (scope : Scope) : List (Outcome × Outcome) :=
  ((collection.eval scope).value?.map Value.rounds).getD []

-- Writing a node in a scope makes a lookup. `between` is as in `Lookup`, on the way into the node.
inductive Looks (lookup : Lookup) : Node → Scope → List Nat → Prop
  | expression {plan format alignment scope}
      (inner : plan.Looks lookup.slot lookup.scope scope) :
      Looks lookup (.expression plan format alignment) scope lookup.between
  | sequence {node nodes scope between} (hnode : node ∈ nodes)
      (inner : Looks lookup node scope between) : Looks lookup (.sequence nodes) scope between
  | condition {condition node branches otherwise scope}
      (inner : condition.Looks lookup.slot lookup.scope scope) :
      Looks lookup (.choice ((condition, node) :: branches) otherwise) scope lookup.between
  | branch {condition node branches otherwise scope between}
      (hcondition : (condition.eval scope).isTrue = true) (inner : Looks lookup node scope between) :
      Looks lookup (.choice ((condition, node) :: branches) otherwise) scope between
  | others {condition node branches otherwise scope between}
      (hcondition : (condition.eval scope).isTrue = false)
      (inner : Looks lookup (.choice branches otherwise) scope between) :
      Looks lookup (.choice ((condition, node) :: branches) otherwise) scope between
  | otherwise {node scope between} (inner : Looks lookup node scope between) :
      Looks lookup (.choice [] (some node)) scope between
  | collection {collection first second body delimiter alternative scope}
      (inner : collection.Looks lookup.slot lookup.scope scope) :
      Looks lookup (.iteration collection first second body delimiter alternative) scope
        lookup.between
  | body {collection first second body delimiter alternative scope between round}
      (hround : round ∈ rounds collection scope)
      (inner : Looks lookup body (bindRound scope first second round) between) :
      Looks lookup (.iteration collection first second body delimiter alternative) scope between
  | delimiter {collection first second body delimiter alternative scope between}
      (hrounds : 2 ≤ (rounds collection scope).length)
      (inner : Looks lookup delimiter scope (first :: second.toList ++ between)) :
      Looks lookup (.iteration collection first second body (some delimiter) alternative) scope
        between
  | alternative {collection first second body delimiter alternative scope between}
      (hrounds : rounds collection scope = [])
      (inner : Looks lookup alternative scope between) :
      Looks lookup (.iteration collection first second body delimiter (some alternative)) scope
        between

theorem Looks.exists_mem {lookup : Lookup} {nodes : List Node} {scope : Scope}
    {between : List Nat} (h : Looks lookup (ofList nodes) scope between) :
    ∃ node ∈ nodes, Looks lookup node scope between := by
  unfold ofList at h
  split at h
  · exact ⟨_, List.mem_cons_self, h⟩
  · cases h with
    | sequence hnode inner => exact ⟨_, hnode, inner⟩

theorem binds_bindRound {scope : Scope} {first n : Nat} {second : Option Nat}
    {round : Outcome × Outcome} :
    (bindRound scope first second round).Binds n ↔
      n ∈ first :: second.toList ∨ scope.Binds n := by
  cases second with
  | none => simp [bindRound, Scope.binds_bind]
  | some second =>
      simp only [bindRound, Scope.binds_bind, Option.toList_some, List.mem_cons, List.not_mem_nil,
        or_false]
      grind

end Node

-- What is known of the scope at a place of a template: which of the visible names have values, and
-- that the slots from `next` on are not in use yet.
structure Bounded (names : Names) (next : Nat) (scope : Scope) (between : List Nat) : Prop where
  visible : ∀ bound ∈ names, (scope.Binds bound.slot ↔ bound.slot ∉ between)
  names_lt : ∀ bound ∈ names, bound.slot < next
  scope_lt : ∀ n, scope.Binds n → n < next
  between_lt : ∀ n ∈ between, n < next

namespace Bounded

variable {names : Names} {next : Nat} {scope : Scope} {between : List Nat}

theorem start (event : Event) (clock : Timestamp) :
    Bounded [] 0 (Scope.ofEvent event clock) [] where
  visible := nofun
  names_lt := nofun
  scope_lt := by
    rintro n ⟨o, h⟩
    cases h
  between_lt := nofun

theorem mono (h : Bounded names next scope between) {later : Nat} (hle : next ≤ later) :
    Bounded names later scope between where
  visible := h.visible
  names_lt := fun bound hbound => Nat.lt_of_lt_of_le (h.names_lt bound hbound) hle
  scope_lt := fun n hn => Nat.lt_of_lt_of_le (h.scope_lt n hn) hle
  between_lt := fun n hn => Nat.lt_of_lt_of_le (h.between_lt n hn) hle

variable {first : String} {second : Option String} {boundFirst : BoundName}
  {boundSecond : Option BoundName} {opened : Nat}

-- In a round the names of the iteration have values.
theorem body (h : Bounded names next scope between)
    (fresh : Block.freshNames first second next = (boundFirst, boundSecond, opened))
    (round : Outcome × Outcome) :
    Bounded (Block.visible boundFirst boundSecond names) opened
      (Node.bindRound scope boundFirst.slot (boundSecond.map (·.slot)) round) between where
  visible := by
    intro bound hbound
    rw [Node.binds_bindRound]
    rcases Block.mem_visible hbound with hfresh | hnamed
    · have hnew := Block.slot_freshNames fresh hfresh
      refine iff_of_true (.inl hfresh) fun hmem => ?_
      have := h.between_lt bound.slot hmem
      omega
    · rw [← h.visible bound hnamed]
      refine or_iff_right fun hfresh => ?_
      have hnew := Block.slot_freshNames fresh hfresh
      have := h.names_lt bound hnamed
      omega
  names_lt := Block.names_lt_visible h.names_lt fresh
  scope_lt := by
    intro n hn
    rcases Node.binds_bindRound.mp hn with hfresh | hn
    · exact (Block.slot_freshNames fresh hfresh).2
    · exact Nat.lt_of_lt_of_le (h.scope_lt n hn) (Block.cover_freshNames fresh).1
  between_lt := fun n hn =>
    Nat.lt_of_lt_of_le (h.between_lt n hn) (Block.cover_freshNames fresh).1

-- Between the rounds they are visible as well, but have none.
theorem delimiter (h : Bounded names next scope between)
    (fresh : Block.freshNames first second next = (boundFirst, boundSecond, opened)) :
    Bounded (Block.visible boundFirst boundSecond names) opened scope
      (boundFirst.slot :: (boundSecond.map (·.slot)).toList ++ between) where
  visible := by
    intro bound hbound
    rw [List.mem_append]
    rcases Block.mem_visible hbound with hfresh | hnamed
    · have hnew := Block.slot_freshNames fresh hfresh
      refine iff_of_false (fun hbinds => ?_) fun hnot => hnot (.inl hfresh)
      have := h.scope_lt bound.slot hbinds
      omega
    · rw [h.visible bound hnamed]
      refine not_congr (or_iff_right fun hfresh => ?_).symm
      have hnew := Block.slot_freshNames fresh hfresh
      have := h.names_lt bound hnamed
      omega
  names_lt := Block.names_lt_visible h.names_lt fresh
  scope_lt := fun n hn => Nat.lt_of_lt_of_le (h.scope_lt n hn) (Block.cover_freshNames fresh).1
  between_lt := by
    intro n hn
    rcases List.mem_append.mp hn with hfresh | hn
    · exact (Block.slot_freshNames fresh hfresh).2
    · exact Nat.lt_of_lt_of_le (h.between_lt n hn) (Block.cover_freshNames fresh).1

end Bounded

namespace Surroundings

variable {within : Surroundings}

-- An expression of the template finds the slots of the names that it uses, unless it stands
-- between the rounds of their iteration.
theorem looks_bind {names : Names} {next free freeAfter : Nat} {scope : Scope}
    {between : List Nat} (h : Bounded names next scope between) (hle : next ≤ free) {e : Expr}
    (hs : e.Slotless) {plan : Plan}
    (hlower : within.lower (e.bind names) free = .ok (plan, freeAfter)) {n : Nat}
    {reached : Scope} (hlooks : plan.Looks n reached scope) :
    reached.Binds n ↔ n ∉ between := by
  have hbelow : ∀ f ∈ [e.bind names], f.SlotsBelow free :=
    List.forall_mem_singleton.mpr ((Expr.slotsBelow_bind h.names_lt hs).mono hle)
  rcases (lowers_of_lower hlower).looks hbelow List.mem_cons_self hlooks with
    ⟨⟨f, hf, hn⟩, hbinds⟩ | ⟨hn, hbinds⟩
  · obtain rfl := List.mem_singleton.mp hf
    obtain ⟨name, -, hslot⟩ := Expr.exists_property_of_slot_bind hs hn
    obtain ⟨bound, hbound, -, rfl⟩ := Names.exists_of_slot? hslot
    rw [hbinds, h.visible bound hbound]
  · refine iff_of_true hbinds fun hmem => ?_
    have := h.between_lt n hmem
    omega

theorem looks_placeholder {hole : Placeholder} {free freeAfter : Nat} {node : Node}
    (hshown : within.lowerPlaceholder hole free = .ok (node, freeAfter)) {lookup : Lookup}
    {scope : Scope} {between : List Nat} (hlooks : node.Looks lookup scope between) :
    ∃ plan, within.lower hole.expression free = .ok (plan, freeAfter) ∧
      plan.Looks lookup.slot lookup.scope scope ∧ between = lookup.between := by
  unfold lowerPlaceholder at hshown
  split at hshown
  · cases hshown
    cases hlooks
  · cases hshown
    cases hlooks
  · cases hshown
    cases hlooks
  · cases hshown
    cases hlooks
  · obtain ⟨⟨plan, after⟩, hplan, hnode⟩ := bind_eq_ok.mp hshown
    cases hnode
    cases hlooks with
    | expression inner => exact ⟨plan, hplan, inner, rfl⟩

theorem Compiles.looks {names : Names} {next free after freeAfter : Nat}
    {blocks : List (Block String)} {nodes : List Node}
    (h : within.Compiles names next free blocks nodes after freeAfter)
    (hs : ∀ e ∈ Block.expressionsAll blocks, e.Slotless) (hle : after ≤ free) {scope : Scope}
    {between : List Nat} (hbounded : Bounded names next scope between) {lookup : Lookup}
    {node : Node} (hnode : node ∈ nodes) (hlooks : node.Looks lookup scope between) :
    lookup.scope.Binds lookup.slot ↔ lookup.slot ∉ lookup.between := by
  induction h generalizing scope between node with
  | nil => cases hnode
  | cons first others ihfirst ihothers =>
      obtain ⟨hsFirst, hsOthers⟩ := Block.forall_expressions_cons.mp hs
      obtain ⟨hleFirst, hleOthers⟩ := first.cons_le others hle
      rcases List.mem_cons.mp hnode with rfl | hrest
      · exact ihfirst hsFirst hleFirst hbounded List.mem_cons_self hlooks
      · exact ihothers hsOthers hleOthers (hbounded.mono first.next_le) hrest hlooks
  | text =>
      obtain rfl := List.mem_singleton.mp hnode
      cases hlooks
  | nothing =>
      obtain rfl := List.mem_singleton.mp hnode
      cases hlooks
  | placeholder shown =>
      obtain rfl := List.mem_singleton.mp hnode
      obtain ⟨plan, hplan, hinner, rfl⟩ := looks_placeholder shown hlooks
      exact looks_bind hbounded hle (hs _ (by simp)) hplan hinner
  | otherwise inner ih =>
      obtain rfl := List.mem_singleton.mp hnode
      rw [Block.forall_expressions_otherwise] at hs
      cases hlooks with
      | otherwise hlooks =>
          obtain ⟨node, hmem, hlooks⟩ := hlooks.exists_mem
          exact ih hs hle hbounded hmem hlooks
  | branch tested inner others ihinner ihothers =>
      obtain rfl := List.mem_singleton.mp hnode
      obtain ⟨hsCondition, hsInner, hsOthers⟩ := Block.forall_expressions_branch.mp hs
      obtain ⟨hleFree, hleInner, hleOthers⟩ := Compiles.branch_le tested inner others hle
      cases hlooks with
      | condition hlooks => exact looks_bind hbounded hleFree hsCondition tested hlooks
      | branch _ hlooks =>
          obtain ⟨node, hmem, hlooks⟩ := hlooks.exists_mem
          exact ihinner hsInner hleInner hbounded hmem hlooks
      | others _ hlooks =>
          exact ihothers hsOthers hleOthers (hbounded.mono inner.next_le) List.mem_cons_self hlooks
  | iteration fresh ranged inner middle last ihinner ihmiddle ihlast =>
      obtain rfl := List.mem_singleton.mp hnode
      obtain ⟨hsCollection, hsInner, hsMiddle, hsLast⟩ :=
        Block.forall_expressions_iteration.mp hs
      obtain ⟨hleFree, hleInner, hleMiddle, hleLast, hnext⟩ :=
        Compiles.iteration_le (Block.cover_freshNames fresh).1 ranged inner middle last hle
      cases hlooks with
      | collection hlooks => exact looks_bind hbounded hleFree hsCollection ranged hlooks
      | body _ hlooks =>
          obtain ⟨node, hmem, hlooks⟩ := hlooks.exists_mem
          exact ihinner hsInner hleInner (hbounded.body fresh _) hmem hlooks
      | delimiter _ hlooks =>
          exact ihmiddle hsMiddle hleMiddle ((hbounded.delimiter fresh).mono inner.next_le)
            List.mem_cons_self (.otherwise hlooks)
      | alternative _ hlooks =>
          exact ihlast hsLast hleLast (hbounded.mono hnext) List.mem_cons_self
            (.otherwise hlooks)

-- The names that blocks use for something outside of them have values in the scope.
structure Supplied (names : Names) (next : Nat) (blocks : List (Block String)) (scope : Scope) :
    Prop where
  mentioned : ∀ name n, Block.Mentions name blocks → names.slot? name = some n → scope.Binds n
  names_lt : ∀ bound ∈ names, bound.slot < next

theorem Supplied.start (blocks : List (Block String)) (scope : Scope) :
    Supplied [] 0 blocks scope where
  mentioned := by
    intro name n _ hslot
    cases hslot
  names_lt := by
    intro bound hbound
    cases hbound

theorem Supplied.part {names : Names} {next later : Nat} {blocks inner : List (Block String)}
    {scope : Scope} (h : Supplied names next blocks scope) (hle : next ≤ later)
    (hinner : ∀ name, Block.Mentions name inner → Block.Mentions name blocks) :
    Supplied names later inner scope where
  mentioned := fun name n hname => h.mentioned name n (hinner name hname)
  names_lt := fun bound hbound => Nat.lt_of_lt_of_le (h.names_lt bound hbound) hle

theorem Supplied.looks_bind {names : Names} {next free freeAfter : Nat}
    {blocks : List (Block String)} {scope : Scope} (h : Supplied names next blocks scope)
    (hle : next ≤ free) {e : Expr} (hs : e.Slotless)
    (he : ∀ name, (Expr.property name).Occurs e → Block.Mentions name blocks) {plan : Plan}
    (hlower : within.lower (e.bind names) free = .ok (plan, freeAfter)) {n : Nat}
    {reached : Scope} (hlooks : plan.Looks n reached scope) : reached.Binds n := by
  have hbelow : ∀ f ∈ [e.bind names], f.SlotsBelow free :=
    List.forall_mem_singleton.mpr ((Expr.slotsBelow_bind h.names_lt hs).mono hle)
  rcases (lowers_of_lower hlower).looks hbelow List.mem_cons_self hlooks with
    ⟨⟨f, hf, hn⟩, hbinds⟩ | ⟨-, hbinds⟩
  · obtain rfl := List.mem_singleton.mp hf
    obtain ⟨name, hname, hslot⟩ := Expr.exists_property_of_slot_bind hs hn
    exact hbinds.mpr (h.mentioned name n (he name hname) hslot)
  · exact hbinds

section

variable {names : Names} {next opened : Nat} {scope : Scope} {first : String}
  {second : Option String} {boundFirst : BoundName} {boundSecond : Option BoundName}
  {collection : Expr} {inner : List (Block String)}
  {between alternative : Option (List (Block String))} {position : Nat}

theorem Supplied.body
    (h : Supplied names next
      [.iteration first second collection inner between alternative position] scope)
    (fresh : Block.freshNames first second next = (boundFirst, boundSecond, opened))
    (round : Outcome × Outcome) :
    Supplied (Block.visible boundFirst boundSecond names) opened inner
      (Node.bindRound scope boundFirst.slot (boundSecond.map (·.slot)) round) where
  mentioned := by
    intro name n hname hslot
    obtain ⟨hfirst, hsecond⟩ := Block.names_freshNames fresh
    rw [Block.slot?_visible, hfirst, hsecond] at hslot
    rw [Node.binds_bindRound]
    split at hslot
    · exact .inl (List.mem_cons_of_mem _ (Option.mem_toList.mpr hslot))
    · split at hslot
      · cases hslot
        exact .inl List.mem_cons_self
      · rename_i hsecond hfirst
        exact .inr (h.mentioned name n (.body hfirst hsecond hname) hslot)
  names_lt := Block.names_lt_visible h.names_lt fresh

theorem Supplied.delimiter
    (h : Supplied names next
      [.iteration first second collection inner between alternative position] scope)
    (huntangled : ¬ Block.Entangled
      [.iteration first second collection inner between alternative position])
    (fresh : Block.freshNames first second next = (boundFirst, boundSecond, opened)) :
    Supplied (Block.visible boundFirst boundSecond names) opened [.choice [] between 0] scope where
  mentioned := by
    intro name n hname hslot
    obtain ⟨_, rfl, hinside⟩ := hname.exists_section
    obtain ⟨hfirst, hsecond⟩ := Block.names_freshNames fresh
    rw [Block.slot?_visible, hfirst, hsecond] at hslot
    split at hslot
    · rename_i hsecond
      exact absurd (.own (.inr hsecond.symm) hinside) huntangled
    · split at hslot
      · rename_i hfirst
        exact absurd (.own (.inl hfirst.symm) hinside) huntangled
      · exact h.mentioned name n (.delimiter hinside) hslot
  names_lt := Block.names_lt_visible h.names_lt fresh

end

theorem Compiles.binds_of_looks {names : Names} {next free after freeAfter : Nat}
    {blocks : List (Block String)} {nodes : List Node}
    (h : within.Compiles names next free blocks nodes after freeAfter)
    (hs : ∀ e ∈ Block.expressionsAll blocks, e.Slotless) (hle : after ≤ free)
    (huntangled : ¬ Block.Entangled blocks) {scope : Scope}
    (hsupplied : Supplied names next blocks scope) {between : List Nat} {lookup : Lookup}
    {node : Node} (hnode : node ∈ nodes) (hlooks : node.Looks lookup scope between) :
    lookup.scope.Binds lookup.slot := by
  induction h generalizing scope between node with
  | nil => cases hnode
  | cons first others ihfirst ihothers =>
      obtain ⟨hsFirst, hsOthers⟩ := Block.forall_expressions_cons.mp hs
      obtain ⟨hleFirst, hleOthers⟩ := first.cons_le others hle
      rcases List.mem_cons.mp hnode with rfl | hrest
      · exact ihfirst hsFirst hleFirst (fun h => huntangled h.first)
          (hsupplied.part (Nat.le_refl _) fun _ => .first)
          List.mem_cons_self hlooks
      · exact ihothers hsOthers hleOthers (fun h => huntangled (.later h))
          (hsupplied.part first.next_le fun _ => .later) hrest
          hlooks
  | text =>
      obtain rfl := List.mem_singleton.mp hnode
      cases hlooks
  | nothing =>
      obtain rfl := List.mem_singleton.mp hnode
      cases hlooks
  | placeholder shown =>
      obtain rfl := List.mem_singleton.mp hnode
      obtain ⟨plan, hplan, hinner, -⟩ := looks_placeholder shown hlooks
      exact hsupplied.looks_bind hle (hs _ (by simp)) (fun _ => .placeholder) hplan hinner
  | otherwise inner ih =>
      obtain rfl := List.mem_singleton.mp hnode
      rw [Block.forall_expressions_otherwise] at hs
      cases hlooks with
      | otherwise hlooks =>
          obtain ⟨node, hmem, hlooks⟩ := hlooks.exists_mem
          exact ih hs hle (fun h => huntangled (.otherwise h))
            (hsupplied.part (Nat.le_refl _) fun _ => .otherwise) hmem hlooks
  | branch tested inner others ihinner ihothers =>
      obtain rfl := List.mem_singleton.mp hnode
      obtain ⟨hsCondition, hsInner, hsOthers⟩ := Block.forall_expressions_branch.mp hs
      obtain ⟨hleFree, hleInner, hleOthers⟩ := Compiles.branch_le tested inner others hle
      cases hlooks with
      | condition hlooks =>
          exact hsupplied.looks_bind hleFree hsCondition
            (fun _ => .condition List.mem_cons_self) tested hlooks
      | branch _ hlooks =>
          obtain ⟨node, hmem, hlooks⟩ := hlooks.exists_mem
          exact ihinner hsInner hleInner (fun h => huntangled (.branch List.mem_cons_self h))
            (hsupplied.part (Nat.le_refl _) fun _ => .branch List.mem_cons_self) hmem hlooks
      | others _ hlooks =>
          exact ihothers hsOthers hleOthers (fun h => huntangled h.otherBranches)
            (hsupplied.part inner.next_le fun _ => .otherBranches) List.mem_cons_self hlooks
  | iteration fresh ranged inner middle last ihinner ihmiddle ihlast =>
      obtain rfl := List.mem_singleton.mp hnode
      obtain ⟨hsCollection, hsInner, hsMiddle, hsLast⟩ :=
        Block.forall_expressions_iteration.mp hs
      obtain ⟨hleFree, hleInner, hleMiddle, hleLast, hnext⟩ :=
        Compiles.iteration_le (Block.cover_freshNames fresh).1 ranged inner middle last hle
      cases hlooks with
      | collection hlooks =>
          exact hsupplied.looks_bind hleFree hsCollection (fun _ => .collection) ranged hlooks
      | body _ hlooks =>
          obtain ⟨node, hmem, hlooks⟩ := hlooks.exists_mem
          exact ihinner hsInner hleInner (fun h => huntangled (.body h))
            (hsupplied.body fresh _) hmem hlooks
      | delimiter _ hlooks =>
          exact ihmiddle hsMiddle hleMiddle (fun h => huntangled h.ofDelimiter)
            ((hsupplied.delimiter huntangled fresh).part inner.next_le fun _ => id)
            List.mem_cons_self (.otherwise hlooks)
      | alternative _ hlooks =>
          exact ihlast hsLast hleLast (fun h => huntangled h.ofAlternative)
            (hsupplied.part hnext fun _ => .ofAlternative) List.mem_cons_self
            (.otherwise hlooks)

end Surroundings

-- A slot that is looked up while a template is rendered has a value there, except between the
-- rounds of the iteration whose name it stands for. Where no delimiter uses the names of its own
-- iteration, every slot has one.
theorem Template.looks_bound {source : String} {look : Look} {resolver : Resolver}
    {template : Template} (h : Template.read source look resolver = .ok template) :
    ∃ pieces blocks, Piece.readAll source = .ok pieces ∧ Block.nest pieces = .ok blocks ∧
      ∀ event clock lookup, template.root.Looks lookup (Scope.ofEvent event clock) [] →
        (lookup.scope.Binds lookup.slot ↔ lookup.slot ∉ lookup.between) ∧
        (¬ Block.Entangled blocks → lookup.scope.Binds lookup.slot) := by
  obtain ⟨pieces, blocks, referenced, nodes, after, freeAfter, hpieces, hnest, rfl, hcompiles⟩ :=
    Template.compiles_of_read h
  refine ⟨pieces, blocks, hpieces, hnest, fun event clock lookup hlooks => ?_⟩
  have hs := Block.slotless_nest (Piece.slotless_readAll hpieces) hnest
  obtain ⟨node, hnode, hlooks⟩ := hlooks.exists_mem
  have hsupplied := Surroundings.Supplied.start blocks (Scope.ofEvent event clock)
  exact ⟨hcompiles.looks hs (Nat.le_refl _) (Bounded.start event clock) hnode hlooks,
    fun huntangled =>
      hcompiles.binds_of_looks hs (Nat.le_refl _) huntangled hsupplied hnode hlooks⟩

private def twoItems : Event :=
  { timestamp := midday, level := .information, messageTemplate := "", exception := none
    properties := .ofList
      [("Xs", .sequence [.scalar (.int 1), .scalar (.int 2)]), ("x", .ofString "P")] }

-- `{#each x in Xs}{x}{#delimit}, {#end}`: the name is used in the body only.

private def separatedSource : String :=
  "\x7b#each x in Xs\x7d\x7bx\x7d\x7b#delimit\x7d, \x7b#end\x7d"

private def separatedPieces : List Piece :=
  [.directive (.openEach "x" none (.property "Xs")) 0,
    .placeholder ⟨.property "x", none, none, 15⟩, .directive .delimit 18, .text [',', ' '],
    .directive .close 30]

private def separatedBlocks : List (Block String) :=
  [.iteration "x" none (.property "Xs") [.placeholder ⟨.property "x", none, none, 15⟩]
    (some [.text [',', ' ']]) none 0]

private def separatedBound : BoundTemplate :=
  ⟨[.iteration ⟨"x", 0⟩ none (.property "Xs") [.placeholder ⟨.slot 0, none, none, 15⟩]
    (some [.text [',', ' ']]) none 0], 1⟩

private def separatedRoot : Node :=
  .iteration (.property "Xs") 0 none (.expression (.slot 0) none none) (some (.literal [',', ' ']))
    none

private theorem readAll_separated : Piece.readAll separatedSource = .ok separatedPieces := rfl

private theorem nest_separated : Block.nest separatedPieces = .ok separatedBlocks := rfl

private theorem read_separated :
    Template.read separatedSource Look.plain Resolver.empty = .ok ⟨separatedRoot, Look.plain⟩ := by
  have hbound : BoundTemplate.ofPieces separatedPieces = .ok separatedBound := rfl
  have hroot : separatedBound.lower Resolver.empty = .ok separatedRoot := by
    simp [separatedBound, separatedRoot]
  exact bind_eq_ok.mpr ⟨_, readAll_separated, bind_eq_ok.mpr ⟨_, hbound,
    bind_eq_ok.mpr ⟨_, hroot, rfl⟩⟩⟩

private theorem separated_untangled : ¬ Block.Entangled separatedBlocks := by
  intro h
  cases h with
  | own _ found =>
      cases found with
      | later deeper => cases deeper
  | later deeper => cases deeper
  | body deeper =>
      cases deeper with
      | later deeper => cases deeper
  | delimiter deeper =>
      cases deeper with
      | later deeper => cases deeper

theorem Template.separated_looks_bound :
    ∃ template, Template.read separatedSource Look.plain Resolver.empty = .ok template ∧
      ∀ lookup, template.root.Looks lookup (Scope.ofEvent twoItems midday) [] →
        lookup.scope.Binds lookup.slot := by
  obtain ⟨pieces, blocks, hpieces, hnest, hbound⟩ := looks_bound read_separated
  obtain rfl : pieces = separatedPieces := Except.ok.inj (hpieces.symm.trans readAll_separated)
  obtain rfl : blocks = separatedBlocks := Except.ok.inj (hnest.symm.trans nest_separated)
  exact ⟨_, read_separated, fun lookup hlooks =>
    (hbound twoItems midday lookup hlooks).2 separated_untangled⟩

-- `{#each x in Xs}{x}{#delimit}{x}{#end}`: the name is used in the delimiter too, where it has no
-- value.

private def entangledSource : String :=
  "\x7b#each x in Xs\x7d\x7bx\x7d\x7b#delimit\x7d\x7bx\x7d\x7b#end\x7d"

private def entangledPieces : List Piece :=
  [.directive (.openEach "x" none (.property "Xs")) 0,
    .placeholder ⟨.property "x", none, none, 15⟩, .directive .delimit 18,
    .placeholder ⟨.property "x", none, none, 28⟩, .directive .close 31]

private def entangledBound : BoundTemplate :=
  ⟨[.iteration ⟨"x", 0⟩ none (.property "Xs") [.placeholder ⟨.slot 0, none, none, 15⟩]
    (some [.placeholder ⟨.slot 0, none, none, 28⟩]) none 0], 1⟩

private def entangledRoot : Node :=
  .iteration (.property "Xs") 0 none (.expression (.slot 0) none none)
    (some (.expression (.slot 0) none none)) none

private theorem read_entangled :
    Template.read entangledSource Look.plain Resolver.empty = .ok ⟨entangledRoot, Look.plain⟩ := by
  have hpieces : Piece.readAll entangledSource = .ok entangledPieces := rfl
  have hbound : BoundTemplate.ofPieces entangledPieces = .ok entangledBound := rfl
  have hroot : entangledBound.lower Resolver.empty = .ok entangledRoot := by
    simp [entangledBound, entangledRoot]
  exact Template.read_eq_ok.mpr ⟨_, _, _, hpieces, hbound, hroot, rfl⟩

theorem Template.delimiter_looks_unbound :
    ∃ template lookup,
      Template.read entangledSource Look.plain Resolver.empty = .ok template ∧
      template.root.Looks lookup (Scope.ofEvent twoItems midday) [] ∧
      ¬ lookup.scope.Binds lookup.slot := by
  have hrounds : (Node.rounds (.property "Xs") (Scope.ofEvent twoItems midday)).length = 2 :=
    rfl
  refine ⟨_, ⟨0, Scope.ofEvent twoItems midday, [0]⟩, read_entangled, ?_, ?_⟩
  · exact .delimiter (Nat.le_of_eq hrounds.symm) (.expression .slot)
  · rintro ⟨o, h⟩
    cases h

end EventText
