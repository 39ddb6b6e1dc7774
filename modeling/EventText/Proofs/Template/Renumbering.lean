import EventText.Proofs.Expr.Moving
import EventText.Proofs.Template.Chaining
import EventText.Proofs.Template.Reference
import EventText.Proofs.Template.Resolving

namespace EventText

open Block (shiftAll shiftSection shiftBranches)

theorem Expr.RestFree.mapPositions {e : Expr} (h : e.RestFree) (f : Nat → Nat) :
    (e.mapPositions f).RestFree := by
  intro name arguments ignoreCase position hcall
  obtain ⟨here, hhere, heq⟩ := exists_occurs_of_mapPositions hcall
  cases here with
  | call name' arguments' ignoreCase' position' =>
      simp only [Expr.mapPositions, mapPositionsAll_eq_map, call.injEq] at heq
      obtain ⟨rfl, rfl, rfl, rfl⟩ := heq
      have hfree := h _ _ _ _ hhere
      cases arguments' <;> exact hfree
  | conditional condition consequent alternative => cases alternative <;> simp at heq
  | _ => simp [Expr.mapPositions] at heq

theorem Block.renderPlaceholder_shift (look : Look) (resolver : Resolver) (distance : Nat)
    (hole : Placeholder) (env : Environment) (b : Buffer) :
    renderPlaceholder look resolver (hole.shift distance) env b
      = renderPlaceholder look resolver hole env b := by
  have hvalue : valueOf resolver (hole.expression.shift distance) env
      = valueOf resolver hole.expression env := Expr.meaning_mapPositions _ _ _ _
  unfold renderPlaceholder
  cases hole with
  | mk expression format alignment position =>
    simp only [Placeholder.shift] at hvalue ⊢
    cases expression with
    | builtin p => cases p <;> simp_all [Expr.mapPositions]
    | conditional condition consequent alternative => simp_all
    | _ => simp_all [Expr.mapPositions]

namespace Scope

-- The scope shows the environment, and slots that have not been handed out hold nothing.
structure Presents (scope : Scope) (names : Names) (next : Nat) (blocks : List (Block String))
    (env : Environment) : Prop where
  shows : scope.Shows names next blocks env
  unbound : ∀ n, next ≤ n → scope.slot n = .undefined

namespace Presents

variable {scope : Scope} {names : Names} {next : Nat} {blocks : List (Block String)}
  {env : Environment}

theorem ofEvent (event : Event) (clock : Timestamp) (blocks : List (Block String)) :
    (Scope.ofEvent event clock).Presents [] 0 blocks (Environment.ofEvent event clock) :=
  ⟨.ofEvent event clock blocks, fun _ _ => rfl⟩

theorem part (h : scope.Presents names next blocks env) {later : Nat} (hle : next ≤ later)
    {inner : List (Block String)}
    (hinner : ∀ name, Block.Mentions name inner → Block.Mentions name blocks) :
    scope.Presents names later inner env :=
  ⟨h.shows.part hle hinner, fun n hn => h.unbound n (Nat.le_trans hle hn)⟩

section

variable {first : String} {second : Option String} {boundFirst : BoundName}
  {boundSecond : Option BoundName} {opened : Nat} {collection : Expr} {body : List (Block String)}
  {delimiter alternative : Option (List (Block String))} {position : Nat}

theorem round
    (h : scope.Presents names next
      [.iteration first second collection body delimiter alternative position] env)
    (fresh : Block.freshNames first second next = (boundFirst, boundSecond, opened))
    (round : Outcome × Outcome) :
    (Node.bindRound scope boundFirst.slot (boundSecond.map (·.slot)) round).Presents
      (Block.visible boundFirst boundSecond names) opened body
      (env.bindRound first second round) where
  shows := h.shows.round fresh round
  unbound := by
    intro n hn
    have hopened := (Block.cover_freshNames fresh).1
    have hfree := h.unbound n (Nat.le_trans hopened hn)
    have hfresh : n ∉ boundFirst.slot :: (boundSecond.map (·.slot)).toList := fun hmem =>
      absurd (Block.slot_freshNames fresh hmem).2 (by omega)
    cases boundSecond <;> simp_all [Node.bindRound, Scope.slot_bind]

-- Between the rounds the names of the iteration are visible, but have no values.
theorem between
    (h : scope.Presents names next
      [.iteration first second collection body delimiter alternative position] env)
    (fresh : Block.freshNames first second next = (boundFirst, boundSecond, opened)) :
    scope.Presents (Block.visible boundFirst boundSecond names) opened [.choice [] delimiter 0]
      (env.bindRound first second (.undefined, .undefined)) where
  shows := {
    event := by cases second <;> exact h.shows.event
    clock := by cases second <;> exact h.shows.clock
    mentioned := by
      intro name hname
      obtain ⟨_, rfl, hinside⟩ := hname.exists_section
      have houter := h.shows.mentioned name (.delimiter hinside)
      have hslot : ∀ n ∈ boundFirst.slot :: (boundSecond.map (·.slot)).toList,
          scope.environment.slot n = .undefined := fun n hn =>
        h.unbound n (Block.slot_freshNames fresh hn).1
      cases second with
      | none =>
          cases fresh
          by_cases hfirst : first = name <;>
            simp_all [Environment.lookup, Block.slot?_visible, Environment.bindRound,
              Environment.bindName, Ne.symm]
      | some second =>
          cases fresh
          by_cases hsecond : second = name <;> by_cases hfirst : first = name <;>
            simp_all [Environment.lookup, Block.slot?_visible, Environment.bindRound,
              Environment.bindName, Ne.symm]
    names_lt := Block.names_lt_visible h.shows.names_lt fresh }
  unbound := fun n hn => h.unbound n (Nat.le_trans (Block.cover_freshNames fresh).1 hn)

end

end Presents

-- An expression that was compiled elsewhere has the value that it has by its names.
theorem Shows.eval_shift {scope : Scope} {names : Names} {next : Nat} {blocks : List (Block String)}
    {env : Environment} (h : scope.Shows names next blocks env) {free freeAfter : Nat}
    (hle : next ≤ free) {e : Expr} (hs : e.Slotless) (hrest : e.RestFree)
    (he : ∀ name, (Expr.property name).Occurs e → Block.Mentions name blocks)
    {within : Surroundings} {plan : Plan} {distance : Nat}
    (hlower : within.lower ((e.shift distance).bind names) free = .ok (plan, freeAfter)) :
    plan.eval scope = Block.valueOf within.resolver e env := by
  have hvalue := h.eval_eq_valueOf hle (hs.mapPositions _) (hrest.mapPositions _)
    (fun name hname => he name (Expr.occurs_property_mapPositions hname)) hlower
  exact hvalue.trans (Expr.meaning_mapPositions _ _ _ _)

end Scope

theorem Block.freshNames_renumber {first : String} {second : Option String} {next opened : Nat}
    {boundFirst : BoundName} {boundSecond : Option BoundName}
    (h : freshNames first second next = (boundFirst, boundSecond, opened)) (next' : Nat) :
    ∃ boundFirst' boundSecond' opened',
      freshNames first second next' = (boundFirst', boundSecond', opened') ∧
        opened' + next = opened + next' := by
  cases second <;> cases h <;> exact ⟨_, _, _, rfl, by omega⟩

namespace Surroundings

variable {within other : Surroundings}

theorem resolves_of_lowerPlaceholder {hole : Placeholder} {free freeAfter : Nat} {node : Node}
    (h : within.lowerPlaceholder hole free = .ok (node, freeAfter)) :
    ∀ call ∈ hole.expression.calls, ∃ target, call.target within.resolver = .ok target := by
  have builtin {p : BuiltinProperty} (hexpression : hole.expression = .builtin p) :
      hole.expression.calls = [] := by
    rw [hexpression]
    exact Expr.calls_of_leaf rfl rfl
  unfold lowerPlaceholder at h
  split at h
  case h_5 =>
    obtain ⟨⟨plan, _⟩, hplan, -⟩ := bind_eq_ok.mp h
    exact resolves_of_lower hplan
  all_goals
    rename_i hexpression
    rw [builtin hexpression]
    exact List.forall_mem_nil _

theorem exists_lowerPlaceholder (hresolver : other.resolver = within.resolver)
    {hole : Placeholder} (moved : Placeholder) {distance : Nat}
    (hmoved : moved.expression = hole.expression.shift distance) {names : Names}
    {free freeAfter : Nat} {node : Node}
    (h : within.lowerPlaceholder { hole with expression := hole.expression.bind names } free
      = .ok (node, freeAfter)) (names' : Names) (free' : Nat) :
    ∃ node' freeAfter',
      other.lowerPlaceholder { moved with expression := moved.expression.bind names' } free'
        = .ok (node', freeAfter') := by
  have hresolves := resolves_of_lowerPlaceholder h
  rw [Expr.calls_bind] at hresolves
  cases hlower : other.lowerPlaceholder
      { moved with expression := moved.expression.bind names' } free' with
  | ok lowered => exact ⟨lowered.1, lowered.2, rfl⟩
  | error failed =>
      obtain ⟨call, hcall, fault, hfault, -⟩ := reported_of_lowerPlaceholder hlower
      rw [Expr.calls_bind, hmoved, Expr.calls_mapPositions] at hcall
      obtain ⟨here, hhere, rfl⟩ := List.mem_map.mp hcall
      obtain ⟨target, htarget⟩ := hresolves here hhere
      rw [Call.target_mapPosition, hresolver, htarget] at hfault
      cases hfault

theorem exists_lower_shift (hresolver : other.resolver = within.resolver) {e : Expr}
    (hs : e.Slotless) (hrest : e.RestFree) {names : Names} {next free freeAfter : Nat}
    (hle : next ≤ free) {plan : Plan}
    (h : within.lower (e.bind names) free = .ok (plan, freeAfter)) (distance : Nat)
    (names' : Names) {next' free' : Nat} (hle' : next' ≤ free') :
    ∃ plan' freeAfter', free' ≤ freeAfter' ∧
      other.lower ((e.shift distance).bind names') free' = .ok (plan', freeAfter') ∧
      ∀ (scope scope' : Scope) (blocks : List (Block String)) (env : Environment),
        (∀ name, (Expr.property name).Occurs e → Block.Mentions name blocks) →
        scope.Presents names next blocks env → scope'.Presents names' next' blocks env →
          plan'.eval scope' = plan.eval scope := by
  obtain ⟨plan', freeAfter', hlower⟩ :=
    exists_lower_mapPositions hresolver h (· + distance) names' free'
  refine ⟨plan', freeAfter', (lowers_of_lower hlower).next_le, hlower, ?_⟩
  intro scope scope' blocks env he hscope hscope'
  have hvalue := hscope.shows.eval_eq_valueOf hle hs hrest he h
  have hvalue' := hscope'.shows.eval_shift hle' hs hrest he hlower
  rw [hvalue', hvalue, hresolver]

-- Blocks that compile to these nodes also compile elsewhere in a source, with other names around
-- them and with other slots, but as many. Where both scopes show the same environment, both write
-- the same.
def Renumbers (other : Surroundings) (distance : Nat) (names : Names) (next : Nat)
    (blocks : List (Block String)) (nodes : List Node) (after : Nat) : Prop :=
  ∀ names' next' free', after + next' ≤ free' + next →
    ∃ nodes' after' freeAfter', after' + next = after + next' ∧
      other.Compiles names' next' free' (shiftAll distance blocks) nodes' after' freeAfter' ∧
      ∀ look scope scope' env b, scope.Presents names next blocks env →
        scope'.Presents names' next' blocks env →
          Node.writeAll look nodes' scope' b = Node.writeAll look nodes scope b

namespace Renumbers

variable {distance : Nat} {names : Names} {next opened middle filled between after position : Nat}
  {free freeAfter : Nat} {block : Block String} {blocks rest : List (Block String)} {node : Node}
  {nodes others : List Node}

theorem nil : other.Renumbers distance names next [] [] next := by
  intro names' next' free' _
  exact ⟨[], next', free', Nat.add_comm _ _, .nil, fun _ _ _ _ _ _ _ => by simp [Node.writeAll]⟩

theorem text (chars : List Char) :
    other.Renumbers distance names next [.text chars] [.literal chars] next := by
  intro names' next' free' _
  exact ⟨[.literal chars], next', free', Nat.add_comm _ _, .text, fun _ _ _ _ _ _ _ => by
    simp [Node.writeAll, Node.write]⟩

theorem nothing : other.Renumbers distance names next [.choice [] none position]
    [.choice [] none] next := by
  intro names' next' free' _
  exact ⟨[.choice [] none], next', free', Nat.add_comm _ _, .nothing, fun _ _ _ _ _ _ _ => by
    simp [Node.writeAll, Node.write, Node.writeChoice, Node.writeSection]⟩

theorem cons (hfirst : other.Renumbers distance names next [block] [node] middle)
    (hothers : other.Renumbers distance names middle rest others after) (hle : next ≤ middle)
    (hle' : middle ≤ after) :
    other.Renumbers distance names next (block :: rest) (node :: others) after := by
  intro names' next' free' hfits
  obtain ⟨_, middle', freeMiddle', heqMiddle, hfirst, hwriteFirst⟩ :=
    hfirst names' next' free' (by omega)
  have hfree := hfirst.free_le
  obtain ⟨rest', after', freeAfter', heqAfter, hothers, hwriteOthers⟩ :=
    hothers names' middle' freeMiddle' (by omega)
  obtain ⟨node', _, _, _, rfl, hnode, hnil⟩ := hfirst.uncons
  cases hnil
  refine ⟨node' :: rest', after', freeAfter', by omega, .cons hnode hothers, ?_⟩
  intro look scope scope' env b h h'
  have hwrite := hwriteFirst look scope scope' env b (h.part (Nat.le_refl _) fun _ => .first)
    (h'.part (Nat.le_refl _) fun _ => .first)
  simp only [Node.writeAll] at hwrite ⊢
  rw [hwrite]
  exact hwriteOthers look scope scope' env _ (h.part hle fun _ => .later)
    (h'.part hnode.next_le fun _ => .later)

theorem placeholder (hresolver : other.resolver = within.resolver) {hole : Placeholder}
    (hs : hole.expression.Slotless) (hrest : hole.expression.RestFree) (hle : next ≤ free)
    (shown : within.lowerPlaceholder { hole with expression := hole.expression.bind names } free
      = .ok (node, freeAfter)) :
    other.Renumbers distance names next [.placeholder hole] [node] next := by
  intro names' next' free' hfits
  have hle' : next' ≤ free' := by omega
  obtain ⟨node', freeAfter', hshown⟩ :=
    exists_lowerPlaceholder hresolver (hole.shift distance) rfl shown names' free'
  refine ⟨[node'], next', freeAfter', Nat.add_comm _ _, .placeholder hshown, ?_⟩
  intro look scope scope' env b h h'
  have hwrite := write_placeholder shown h.shows.event
    (fun plan hplan => h.shows.eval_eq_valueOf hle hs hrest (fun _ => .placeholder) hplan) look b
  have hwrite' := write_placeholder hshown h'.shows.event (fun plan hplan =>
    (h'.shows.eval_shift hle' hs hrest (fun _ => .placeholder) hplan).trans
      (Expr.meaning_mapPositions _ _ _ _).symm) look b
  simp only [Node.writeAll]
  rw [hwrite', Block.renderPlaceholder_shift, hresolver, hwrite]

theorem otherwise (hinner : other.Renumbers distance names next blocks nodes after) :
    other.Renumbers distance names next [.choice [] (some blocks) position]
      [.choice [] (some (Node.ofList nodes))] after := by
  intro names' next' free' hfits
  obtain ⟨nodes', after', freeAfter', heq, hinner, hwrite⟩ := hinner names' next' free' hfits
  refine ⟨_, after', freeAfter', heq, .otherwise hinner, ?_⟩
  intro look scope scope' env b h h'
  simp only [Node.writeAll, Node.write, Node.writeChoice, Node.writeSection, Node.write_ofList]
  exact hwrite look scope scope' env b (h.part (Nat.le_refl _) fun _ => .otherwise)
    (h'.part (Nat.le_refl _) fun _ => .otherwise)

theorem branch (hresolver : other.resolver = within.resolver) {condition : Expr} {plan : Plan}
    {branches : List (Expr × List (Block String))} {otherwise : Option (List (Block String))}
    {nodeBranches : List (Plan × Node)} {nodeOtherwise : Option Node} (hs : condition.Slotless)
    (hrest : condition.RestFree) (hle : next ≤ free)
    (tested : within.lower (condition.bind names) free = .ok (plan, freeAfter))
    (hinner : other.Renumbers distance names next blocks nodes middle)
    (hothers : other.Renumbers distance names middle [.choice branches otherwise position]
      [.choice nodeBranches nodeOtherwise] after) (hleInner : next ≤ middle)
    (hleOthers : middle ≤ after) :
    other.Renumbers distance names next
      [.choice ((condition, blocks) :: branches) otherwise position]
      [.choice ((plan, Node.ofList nodes) :: nodeBranches) nodeOtherwise] after := by
  intro names' next' free' hfits
  have hle' : next' ≤ free' := by omega
  obtain ⟨plan', freeFirst', hfirst, htested, hvalue⟩ :=
    exists_lower_shift hresolver hs hrest hle tested distance names' hle'
  obtain ⟨nodes', middle', freeMiddle', heqMiddle, hinner, hwriteInner⟩ :=
    hinner names' next' freeFirst' (by omega)
  have hfree := hinner.free_le
  obtain ⟨_, after', freeAfter', heqAfter, hothers, hwriteOthers⟩ :=
    hothers names' middle' freeMiddle' (by omega)
  obtain ⟨branches', otherwise', rfl, -, hchoice⟩ := hothers.choice_at (position + distance)
  refine ⟨_, after', freeAfter', by omega, .branch htested hinner hchoice, ?_⟩
  intro look scope scope' env b h h'
  have htest := hvalue scope scope' _ env (fun _ => .condition List.mem_cons_self) h h'
  have hwrite := hwriteInner look scope scope' env b
    (h.part (Nat.le_refl _) fun _ => .branch List.mem_cons_self)
    (h'.part (Nat.le_refl _) fun _ => .branch List.mem_cons_self)
  have hwriteRest := hwriteOthers look scope scope' env b
    (h.part hleInner fun _ => .otherBranches) (h'.part hinner.next_le fun _ => .otherBranches)
  simp only [Node.writeAll, Node.write, Node.writeChoice, Node.write_ofList, htest]
    at hwriteRest ⊢
  rw [hwrite, hwriteRest]

-- Between the rounds no fresh slot has a value, whatever its number is.
theorem iteration (hresolver : other.resolver = within.resolver) {first : String}
    {second : Option String} {boundFirst : BoundName} {boundSecond : Option BoundName}
    {collection : Expr} {plan : Plan} {delimiter alternative : Option (List (Block String))}
    {nodeDelimiter nodeAlternative : Option Node} (hs : collection.Slotless)
    (hrest : collection.RestFree) (hle : next ≤ free)
    (fresh : Block.freshNames first second next = (boundFirst, boundSecond, opened))
    (ranged : within.lower (collection.bind names) free = .ok (plan, freeAfter))
    (hinner : other.Renumbers distance (Block.visible boundFirst boundSecond names) opened blocks
      nodes filled)
    (hmiddle : other.Renumbers distance (Block.visible boundFirst boundSecond names) filled
      [.choice [] delimiter 0] [.choice [] nodeDelimiter] between)
    (hlast : other.Renumbers distance names between [.choice [] alternative 0]
      [.choice [] nodeAlternative] after)
    (hleInner : opened ≤ filled) (hleMiddle : filled ≤ between) (hleLast : between ≤ after) :
    other.Renumbers distance names next
      [.iteration first second collection blocks delimiter alternative position]
      [.iteration plan boundFirst.slot (boundSecond.map (·.slot)) (Node.ofList nodes)
        nodeDelimiter nodeAlternative] after := by
  intro names' next' free' hfits
  have hopened := (Block.cover_freshNames fresh).1
  obtain ⟨boundFirst', boundSecond', opened', fresh', heqOpened⟩ :=
    Block.freshNames_renumber fresh next'
  have hopened' := (Block.cover_freshNames fresh').1
  have hle' : next' ≤ free' := by omega
  obtain ⟨plan', freeFirst', hfirst, hranged, hvalue⟩ :=
    exists_lower_shift hresolver hs hrest hle ranged distance names' hle'
  obtain ⟨nodes', filled', freeBody', heqFilled, hinner, hwriteInner⟩ :=
    hinner (Block.visible boundFirst' boundSecond' names') opened' freeFirst' (by omega)
  have hfreeBody := hinner.free_le
  have hfilled' := hinner.next_le
  obtain ⟨_, between', freeBetween', heqBetween, hmiddle, hwriteMiddle⟩ :=
    hmiddle (Block.visible boundFirst' boundSecond' names') filled' freeBody' (by omega)
  have hfreeBetween := hmiddle.free_le
  have hbetween' := hmiddle.next_le
  obtain ⟨_, after', freeAfter', heqAfter, hlast, hwriteLast⟩ :=
    hlast names' between' freeBetween' (by omega)
  obtain ⟨_, delimiter', rfl, hnone, hmiddle⟩ := hmiddle.choice_at 0
  obtain rfl := List.eq_nil_of_length_eq_zero hnone
  obtain ⟨_, alternative', rfl, hnone, hlast⟩ := hlast.choice_at 0
  obtain rfl := List.eq_nil_of_length_eq_zero hnone
  refine ⟨_, after', freeAfter', by omega, .iteration fresh' hranged hinner hmiddle hlast, ?_⟩
  intro look scope scope' env b h h'
  have hcollection := hvalue scope scope' _ env (fun _ => .collection) h h'
  have hround (round : Outcome × Outcome) := funext fun b =>
    hwriteInner look _ _ _ b (h.round fresh round) (h'.round fresh' round)
  have hbetween := funext fun b => hwriteMiddle look scope scope' _ b
    ((h.between fresh).part hleInner fun _ => id)
    ((h'.between fresh').part hfilled' fun _ => id)
  have hinstead := hwriteLast look scope scope' env b
    (h.part (by omega) fun _ => .ofAlternative) (h'.part (by omega) fun _ => .ofAlternative)
  simp only [Node.writeAll, Node.write, Node.writeChoice] at hbetween hinstead
  simp only [Node.writeAll, Node.write, hcollection, funext (Node.write_ofList look _ _), hround,
    hbetween, hinstead]

end Renumbers

-- Everything that compiles does so, block by block.
theorem Compiles.renumbers {names : Names} {next free after freeAfter : Nat}
    {blocks : List (Block String)} {nodes : List Node}
    (h : within.Compiles names next free blocks nodes after freeAfter)
    (hs : ∀ e ∈ Block.expressionsAll blocks, e.Slotless)
    (hrest : ∀ e ∈ Block.expressionsAll blocks, e.RestFree) (hle : after ≤ free)
    (other : Surroundings) (hresolver : other.resolver = within.resolver) (distance : Nat) :
    other.Renumbers distance names next blocks nodes after := by
  induction h with
  | nil => exact .nil
  | text => exact .text _
  | nothing => exact .nothing
  | cons first others ihfirst ihothers =>
      obtain ⟨hsFirst, hsOthers⟩ := Block.forall_expressions_cons.mp hs
      obtain ⟨hrestFirst, hrestOthers⟩ := Block.forall_expressions_cons.mp hrest
      obtain ⟨hleFirst, hleOthers⟩ := first.cons_le others hle
      exact .cons (ihfirst hsFirst hrestFirst hleFirst) (ihothers hsOthers hrestOthers hleOthers)
        first.next_le others.next_le
  | placeholder shown =>
      exact .placeholder hresolver (hs _ (by simp)) (hrest _ (by simp)) hle shown
  | otherwise inner ih =>
      rw [Block.forall_expressions_otherwise] at hs hrest
      exact .otherwise (ih hs hrest hle)
  | branch tested inner others ihinner ihothers =>
      obtain ⟨hsCondition, hsInner, hsOthers⟩ := Block.forall_expressions_branch.mp hs
      obtain ⟨hrestCondition, hrestInner, hrestOthers⟩ := Block.forall_expressions_branch.mp hrest
      obtain ⟨hleFree, hleInner, hleOthers⟩ := Compiles.branch_le tested inner others hle
      exact .branch hresolver hsCondition hrestCondition hleFree tested
        (ihinner hsInner hrestInner hleInner) (ihothers hsOthers hrestOthers hleOthers)
        inner.next_le others.next_le
  | iteration fresh ranged inner middle last ihinner ihmiddle ihlast =>
      obtain ⟨hsCollection, hsInner, hsMiddle, hsLast⟩ :=
        Block.forall_expressions_iteration.mp hs
      obtain ⟨hrestCollection, hrestInner, hrestMiddle, hrestLast⟩ :=
        Block.forall_expressions_iteration.mp hrest
      obtain ⟨hleFree, hleInner, hleMiddle, hleLast, hnext⟩ :=
        Compiles.iteration_le (Block.cover_freshNames fresh).1 ranged inner middle last hle
      exact .iteration hresolver hsCollection hrestCollection hleFree fresh ranged
        (ihinner hsInner hrestInner hleInner) (ihmiddle hsMiddle hrestMiddle hleMiddle)
        (ihlast hsLast hrestLast hleLast) inner.next_le middle.next_le last.next_le

end Surroundings

end EventText
