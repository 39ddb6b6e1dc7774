import EventText.Proofs.Expr.Evaluation
import EventText.Proofs.Output.Extends
import EventText.Proofs.Template.Mention

namespace EventText

-- In a round the names of an iteration stand for what the round binds.
def Environment.bindRound (env : Environment) (first : String) (second : Option String)
    (round : Outcome × Outcome) : Environment :=
  let env := env.bindName first round.1
  match second with
  | some name => env.bindName name round.2
  | none => env

-- One after the other.
def Buffer.writeEach (parts : List (Buffer → Buffer)) (b : Buffer) : Buffer :=
  parts.foldl (fun b part => part b) b

namespace Block

variable (look : Look) (resolver : Resolver)

def valueOf (e : Expr) (env : Environment) : Outcome := e.meaning ⟨resolver, []⟩ env

def renderPlaceholder (hole : Placeholder) (env : Environment) (b : Buffer) : Buffer :=
  match hole.expression with
  | .builtin .timestamp =>
      Node.writeTimestamp look hole.format hole.alignment env.event.timestamp b
  | .builtin .level => Node.writeLevel look hole.format hole.alignment env.event.level b
  | .builtin .message => Node.writeMessage look hole.alignment env.event b
  | .builtin .exception => Node.writeException look env.event.exception b
  | e => Node.writeExpression look hole.format hole.alignment (valueOf resolver e env) b

mutual

-- Renders a nested template as it reads: names are looked up by name, nothing is bound to slots,
-- and nothing is compiled. The delimiter and the alternative of an iteration stand outside of its
-- rounds.
def render : Block String → Environment → Buffer → Buffer
  | .text chars, _, b =>
      Node.writeStyledBy (look.theme.style .tertiaryText) (Buffer.writeChars · chars) b
  | .placeholder hole, env, b => renderPlaceholder look resolver hole env b
  | .choice branches otherwise _, env, b =>
      renderChoice branches (renderSection otherwise env) env b
  | .iteration first second collection body delimiter alternative _, env, b =>
      match ((valueOf resolver collection env).value?.map Value.rounds).getD [] with
      | [] => renderSection alternative env b
      | rounds =>
          Buffer.writeEach ((rounds.map fun round => renderAll body (env.bindRound first second round))
            |>.intersperse (renderSection delimiter env)) b

def renderAll : List (Block String) → Environment → Buffer → Buffer
  | [], _, b => b
  | block :: rest, env, b => renderAll rest env (render block env b)

-- The first branch whose condition is true, or else what is rendered otherwise.
def renderChoice : List (Expr × List (Block String)) → (Buffer → Buffer) → Environment → Buffer →
    Buffer
  | [], otherwise, _, b => otherwise b
  | (condition, blocks) :: rest, otherwise, env, b =>
      if (valueOf resolver condition env).isTrue then renderAll blocks env b
      else renderChoice rest otherwise env b

def renderSection : Option (List (Block String)) → Environment → Buffer → Buffer
  | none, _, b => b
  | some blocks, env, b => renderAll blocks env b

end

end Block

-- No `rest()` anywhere in an expression.
def Expr.RestFree (e : Expr) : Prop :=
  ∀ name arguments ignoreCase position,
    (Expr.call name arguments ignoreCase position).Occurs e →
      Surroundings.isRest name arguments ignoreCase = false

theorem Expr.RestFree.agreeOn {e : Expr} (h : e.RestFree) (within : Surroundings) :
    within.AgreeOn ⟨within.resolver, []⟩ e where
  resolver := rfl
  referenced := fun name arguments ignoreCase position hrest hcall => by
    rw [h name arguments ignoreCase position hcall] at hrest
    cases hrest

namespace Node

theorem write_ofList (look : Look) (nodes : List Node) (scope : Scope) (b : Buffer) :
    (ofList nodes).write look scope b = writeAll look nodes scope b := by
  unfold ofList
  split
  · simp [writeAll]
  · simp [write]

-- Writing rounds is writing their bodies with the delimiter between them.
theorem writeRounds_eq_writeEach (body : Outcome × Outcome → Buffer → Buffer)
    (between : Buffer → Buffer) (rounds : List (Outcome × Outcome)) (b : Buffer) :
    writeRounds body between rounds b
      = Buffer.writeEach ((rounds.map body).intersperse between) b := by
  fun_induction writeRounds body between rounds b with
  | case1 b => rfl
  | case2 round b => rfl
  | case3 round rest b hrest ih =>
      cases rest with
      | nil => exact absurd rfl hrest
      | cons next others => exact ih

end Node

-- As far as blocks can tell, the names of an environment stand for what the slots of a scope hold.
structure Scope.Shows (scope : Scope) (names : Names) (next : Nat) (blocks : List (Block String))
    (env : Environment) : Prop where
  event : env.event = scope.event
  clock : env.clock = scope.clock
  mentioned : ∀ name, Block.Mentions name blocks →
    env.plain name = scope.environment.lookup names name
  names_lt : ∀ bound ∈ names, bound.slot < next

namespace Scope.Shows

variable {scope : Scope} {names : Names} {next : Nat} {blocks : List (Block String)}
  {env : Environment}

theorem ofEvent (event : Event) (clock : Timestamp) (blocks : List (Block String)) :
    (Scope.ofEvent event clock).Shows [] 0 blocks (Environment.ofEvent event clock) :=
  ⟨rfl, rfl, fun _ _ => rfl, nofun⟩

theorem part (h : scope.Shows names next blocks env) {later : Nat} (hle : next ≤ later)
    {inner : List (Block String)}
    (hinner : ∀ name, Block.Mentions name inner → Block.Mentions name blocks) :
    scope.Shows names later inner env where
  event := h.event
  clock := h.clock
  mentioned := fun name hname => h.mentioned name (hinner name hname)
  names_lt := fun bound hbound => Nat.lt_of_lt_of_le (h.names_lt bound hbound) hle

-- An expression that was bound and lowered has the value that it has by its names.
theorem eval_eq_valueOf (h : scope.Shows names next blocks env) {free freeAfter : Nat}
    (hle : next ≤ free) {e : Expr} (hs : e.Slotless) (hrest : e.RestFree)
    (he : ∀ name, (Expr.property name).Occurs e → Block.Mentions name blocks)
    {within : Surroundings} {plan : Plan}
    (hlower : within.lower (e.bind names) free = .ok (plan, freeAfter)) :
    plan.eval scope = Block.valueOf within.resolver e env := by
  have hbelow : (e.bind names).SlotsBelow free := (Expr.slotsBelow_bind h.names_lt hs).mono hle
  have hrepresents : scope.environment.Represents env names e :=
    { event := h.event.symm
      clock := h.clock.symm
      plain := fun name hname => h.mentioned name (he name hname)
      slot := fun n hn => absurd hn (hs n) }
  rw [Surroundings.eval_lower hlower hbelow]
  exact Expr.pass_bind (hrest.agreeOn within) hrepresents id

section

variable {first : String} {second : Option String} {boundFirst : BoundName}
  {boundSecond : Option BoundName} {opened : Nat} {collection : Expr} {body : List (Block String)}
  {delimiter alternative : Option (List (Block String))} {position : Nat}

-- The fresh slots of an iteration cover up no slot of another name.
theorem lookup_bindRound (scope : Scope) (hlt : ∀ bound ∈ names, bound.slot < next)
    (fresh : Block.freshNames first second next = (boundFirst, boundSecond, opened))
    (round : Outcome × Outcome) (name : String) :
    (Node.bindRound scope boundFirst.slot (boundSecond.map (·.slot)) round).environment.lookup
      names name = scope.environment.lookup names name := by
  unfold Environment.lookup
  split
  · rename_i n hslot
    obtain ⟨bound, hbound, -, rfl⟩ := Names.exists_of_slot? hslot
    have hbelow := hlt bound hbound
    have hfresh : bound.slot ∉ boundFirst.slot :: (boundSecond.map (·.slot)).toList := fun hn =>
      absurd (Block.slot_freshNames fresh hn).1 (by omega)
    cases boundSecond <;> simp_all [Node.bindRound, Scope.environment, Scope.slot_bind]
  · cases boundSecond <;> rfl

theorem round
    (h : scope.Shows names next
      [.iteration first second collection body delimiter alternative position] env)
    (fresh : Block.freshNames first second next = (boundFirst, boundSecond, opened))
    (round : Outcome × Outcome) :
    (Node.bindRound scope boundFirst.slot (boundSecond.map (·.slot)) round).Shows
      (Block.visible boundFirst boundSecond names) opened body
      (env.bindRound first second round) where
  event := by
    rw [show (env.bindRound first second round).event = env.event by cases second <;> rfl, h.event]
    cases boundSecond <;> rfl
  clock := by
    rw [show (env.bindRound first second round).clock = env.clock by cases second <;> rfl, h.clock]
    cases boundSecond <;> rfl
  mentioned := by
    intro name hname
    have hothers := lookup_bindRound scope h.names_lt fresh round name
    obtain ⟨hfirst, hsecond⟩ := Block.names_freshNames fresh
    by_cases hown : first = name ∨ second = some name
    · cases second with
      | none =>
          cases fresh
          simp_all [Environment.lookup, Block.slot?_visible, Environment.bindRound,
            Environment.bindName, Node.bindRound, Scope.environment, Scope.slot_bind]
      | some second =>
          cases fresh
          by_cases hcover : second = name
          · simp_all [Environment.lookup, Block.slot?_visible, Environment.bindRound,
              Environment.bindName, Node.bindRound, Scope.environment, Scope.slot_bind]
          · simp_all [Environment.lookup, Block.slot?_visible, Environment.bindRound,
              Environment.bindName, Node.bindRound, Scope.environment, Scope.slot_bind, Ne.symm]
    · obtain ⟨hnotFirst, hnotSecond⟩ := not_or.mp hown
      have houter := h.mentioned name (.body hnotFirst hnotSecond hname)
      unfold Environment.lookup
      rw [Block.slot?_visible, hfirst, hsecond, if_neg hnotSecond, if_neg hnotFirst]
      refine Eq.trans ?_ (houter.trans hothers.symm)
      cases second <;> simp_all [Environment.bindRound, Environment.bindName, Ne.symm]
  names_lt := Block.names_lt_visible h.names_lt fresh

theorem between
    (h : scope.Shows names next
      [.iteration first second collection body delimiter alternative position] env)
    (huntangled : ¬ Block.Entangled
      [.iteration first second collection body delimiter alternative position])
    (fresh : Block.freshNames first second next = (boundFirst, boundSecond, opened)) :
    scope.Shows (Block.visible boundFirst boundSecond names) opened [.choice [] delimiter 0]
      env where
  event := h.event
  clock := h.clock
  mentioned := by
    intro name hname
    obtain ⟨_, rfl, hinside⟩ := hname.exists_section
    obtain ⟨hfirst, hsecond⟩ := Block.names_freshNames fresh
    have hnotFirst : first ≠ name := fun hown => huntangled (.own (.inl hown.symm) hinside)
    have hnotSecond : second ≠ some name := fun hown =>
      huntangled (.own (.inr hown.symm) hinside)
    rw [h.mentioned name (.delimiter hinside), Environment.lookup, Environment.lookup,
      Block.slot?_visible, hfirst, hsecond, if_neg hnotSecond, if_neg hnotFirst]
  names_lt := Block.names_lt_visible h.names_lt fresh

end

end Scope.Shows

namespace Surroundings

variable {within : Surroundings}

-- A hole shows the value of its expression, but for the event's own properties, which have ways of
-- their own.
theorem write_placeholder {hole : Placeholder} {names : Names} {free freeAfter : Nat} {node : Node}
    (hshown : within.lowerPlaceholder { hole with expression := hole.expression.bind names } free
      = .ok (node, freeAfter)) {scope : Scope} {env : Environment} (hevent : env.event = scope.event)
    (hvalue : ∀ plan, within.lower (hole.expression.bind names) free = .ok (plan, freeAfter) →
      plan.eval scope = Block.valueOf within.resolver hole.expression env)
    (look : Look) (b : Buffer) :
    node.write look scope b = Block.renderPlaceholder look within.resolver hole env b := by
  unfold lowerPlaceholder at hshown
  unfold Block.renderPlaceholder
  split at hshown
  · rename_i hbuiltin
    rw [Expr.bind_eq_builtin.mp hbuiltin, hevent]
    cases hshown
    simp [Node.write]
  · rename_i hbuiltin
    rw [Expr.bind_eq_builtin.mp hbuiltin, hevent]
    cases hshown
    simp [Node.write]
  · rename_i hbuiltin
    rw [Expr.bind_eq_builtin.mp hbuiltin, hevent]
    cases hshown
    simp [Node.write]
  · rename_i hbuiltin
    rw [Expr.bind_eq_builtin.mp hbuiltin, hevent]
    cases hshown
    simp [Node.write]
  · rename_i htimestamp hlevel hmessage hexception
    obtain ⟨⟨plan, last⟩, hplan, hnode⟩ := bind_eq_ok.mp hshown
    cases hnode
    rw [Node.write, hvalue plan hplan]
    split
    · rename_i hbuiltin
      exact absurd (Expr.bind_eq_builtin.mpr hbuiltin) htimestamp
    · rename_i hbuiltin
      exact absurd (Expr.bind_eq_builtin.mpr hbuiltin) hlevel
    · rename_i hbuiltin
      exact absurd (Expr.bind_eq_builtin.mpr hbuiltin) hmessage
    · rename_i hbuiltin
      exact absurd (Expr.bind_eq_builtin.mpr hbuiltin) hexception
    · rfl

theorem Compiles.writeAll_eq {names : Names} {next free after freeAfter : Nat}
    {blocks : List (Block String)} {nodes : List Node}
    (h : within.Compiles names next free blocks nodes after freeAfter)
    (hs : ∀ e ∈ Block.expressionsAll blocks, e.Slotless)
    (hrest : ∀ e ∈ Block.expressionsAll blocks, e.RestFree) (hle : after ≤ free)
    (huntangled : ¬ Block.Entangled blocks) {scope : Scope} {env : Environment}
    (hshows : scope.Shows names next blocks env) (look : Look) (b : Buffer) :
    Node.writeAll look nodes scope b = Block.renderAll look within.resolver blocks env b := by
  induction h generalizing scope env b with
  | nil => simp [Node.writeAll, Block.renderAll]
  | cons first others ihfirst ihothers =>
      obtain ⟨hsFirst, hsOthers⟩ := Block.forall_expressions_cons.mp hs
      obtain ⟨hrestFirst, hrestOthers⟩ := Block.forall_expressions_cons.mp hrest
      obtain ⟨hleFirst, hleOthers⟩ := first.cons_le others hle
      have hfirst := ihfirst hsFirst hrestFirst hleFirst (fun h => huntangled h.first)
        (hshows.part (Nat.le_refl _) fun _ => .first) b
      simp only [Node.writeAll, Block.renderAll] at hfirst ⊢
      rw [hfirst]
      exact ihothers hsOthers hrestOthers hleOthers (fun h => huntangled (.later h))
        (hshows.part first.next_le fun _ => .later) _
  | text => simp [Node.writeAll, Block.renderAll, Node.write, Block.render]
  | nothing =>
      simp [Node.writeAll, Block.renderAll, Node.write, Block.render, Node.writeChoice,
        Block.renderChoice, Node.writeSection, Block.renderSection]
  | placeholder shown =>
      simp only [Node.writeAll, Block.renderAll, Block.render]
      exact write_placeholder shown hshows.event (fun plan hplan =>
        hshows.eval_eq_valueOf hle (hs _ (by simp)) (hrest _ (by simp)) (fun _ => .placeholder)
          hplan) look b
  | otherwise inner ih =>
      rw [Block.forall_expressions_otherwise] at hs hrest
      simp only [Node.writeAll, Block.renderAll, Node.write, Block.render, Node.writeChoice,
        Block.renderChoice, Node.writeSection, Block.renderSection, Node.write_ofList]
      exact ih hs hrest hle (fun h => huntangled (.otherwise h))
        (hshows.part (Nat.le_refl _) fun _ => .otherwise) b
  | branch tested inner others ihinner ihothers =>
      obtain ⟨hsCondition, hsInner, hsOthers⟩ := Block.forall_expressions_branch.mp hs
      obtain ⟨hrestCondition, hrestInner, hrestOthers⟩ := Block.forall_expressions_branch.mp hrest
      obtain ⟨hleFree, hleInner, hleOthers⟩ := Compiles.branch_le tested inner others hle
      have hcondition := hshows.eval_eq_valueOf hleFree hsCondition hrestCondition
        (fun _ => .condition List.mem_cons_self) tested
      have hinner := ihinner hsInner hrestInner hleInner
        (fun h => huntangled (.branch List.mem_cons_self h))
        (hshows.part (Nat.le_refl _) fun _ => .branch List.mem_cons_self) b
      have hothers := ihothers hsOthers hrestOthers hleOthers (fun h => huntangled h.otherBranches)
        (hshows.part inner.next_le fun _ => .otherBranches) b
      simp only [Node.writeAll, Block.renderAll, Node.write, Block.render, Node.writeChoice,
        Block.renderChoice, hcondition, Node.write_ofList] at hothers ⊢
      rw [hinner, hothers]
  | iteration fresh ranged inner middle last ihinner ihmiddle ihlast =>
      obtain ⟨hsCollection, hsInner, hsMiddle, hsLast⟩ :=
        Block.forall_expressions_iteration.mp hs
      obtain ⟨hrestCollection, hrestInner, hrestMiddle, hrestLast⟩ :=
        Block.forall_expressions_iteration.mp hrest
      obtain ⟨hleFree, hleInner, hleMiddle, hleLast, hnext⟩ :=
        Compiles.iteration_le (Block.cover_freshNames fresh).1 ranged inner middle last hle
      have hvalue := hshows.eval_eq_valueOf hleFree hsCollection hrestCollection
        (fun _ => .collection) ranged
      have hround := fun round => funext fun b => (Node.write_ofList look _ _ b).trans
        (ihinner hsInner hrestInner hleInner (fun h => huntangled (.body h))
          (hshows.round fresh round) b)
      have hbetween := ihmiddle hsMiddle hrestMiddle hleMiddle (fun h => huntangled h.ofDelimiter)
        ((hshows.between huntangled fresh).part inner.next_le fun _ => id)
      have hinstead := ihlast hsLast hrestLast hleLast (fun h => huntangled h.ofAlternative)
        (hshows.part hnext fun _ => .ofAlternative) b
      simp only [Node.writeAll, Block.renderAll, Node.write, Block.render, Node.writeChoice,
        Block.renderChoice] at hbetween hinstead
      simp only [Node.writeAll, Block.renderAll, Node.write, Block.render, hvalue]
      cases ((Block.valueOf within.resolver _ env).value?.map Value.rounds).getD [] with
      | nil => exact hinstead
      | cons round rounds =>
          simp only [Node.writeRounds_eq_writeEach, hround, funext hbetween]

end Surroundings

namespace Block

variable {look : Look} {resolver : Resolver}

theorem extends_renderPlaceholder (hole : Placeholder) (env : Environment) (b : Buffer) :
    b.Extends (renderPlaceholder look resolver hole env b) := by
  unfold renderPlaceholder
  split
  · exact Node.extends_writeTimestamp ..
  · exact Node.extends_writeLevel ..
  · exact Node.extends_writeMessage ..
  · exact Node.extends_writeException ..
  · exact Node.extends_writeExpression ..

private theorem extends_renderSection {part : Option (List (Block String))}
    (h : ∀ blocks ∈ part, ∀ env (b : Buffer), b.Extends (renderAll look resolver blocks env b))
    (env : Environment) (b : Buffer) : b.Extends (renderSection look resolver part env b) := by
  cases part with
  | none =>
      rw [renderSection]
      exact .refl b
  | some blocks =>
      rw [renderSection]
      exact h blocks rfl env b

private theorem extends_renderChoice {branches : List (Expr × List (Block String))}
    (h : ∀ branch ∈ branches, ∀ env (b : Buffer),
      b.Extends (renderAll look resolver branch.2 env b))
    {otherwise : Buffer → Buffer} (hotherwise : ∀ b : Buffer, b.Extends (otherwise b))
    (env : Environment) (b : Buffer) :
    b.Extends (renderChoice look resolver branches otherwise env b) := by
  induction branches with
  | nil =>
      rw [renderChoice]
      exact hotherwise b
  | cons branch rest ih =>
      rw [renderChoice]
      split
      · exact h branch List.mem_cons_self env b
      · exact ih fun other hother => h other (List.mem_cons_of_mem _ hother)

-- Rendering appends.
theorem extends_renderAll (look : Look) (resolver : Resolver) (blocks : List (Block String))
    (env : Environment) (b : Buffer) : b.Extends (renderAll look resolver blocks env b) := by
  induction blocks using blocksInduction generalizing env b with
  | nil =>
      rw [renderAll]
      exact .refl b
  | text chars rest ih =>
      rw [renderAll, render]
      exact (Node.extends_writeStyledBy (fun b => b.extends_write _) _ b).trans (ih env _)
  | placeholder hole rest ih =>
      rw [renderAll, render]
      exact (extends_renderPlaceholder hole env b).trans (ih env _)
  | choice branches otherwise position rest hbranches hotherwise hrest =>
      rw [renderAll, render]
      exact (extends_renderChoice hbranches (extends_renderSection hotherwise env) env b).trans
        (hrest env _)
  | iteration first second collection body delimiter alternative position rest hbody hdelimiter
      halternative hrest =>
      rw [renderAll, render]
      refine Buffer.Extends.trans ?_ (hrest env _)
      split
      · exact extends_renderSection halternative env b
      · rw [← Node.writeRounds_eq_writeEach]
        exact Node.extends_writeRounds (fun round => hbody _)
          (extends_renderSection hdelimiter env) _ b

end Block

-- Reading, binding and compiling a template and then evaluating it appends just what rendering its
-- nested source appends.
theorem Template.format_eq_render {source : String} {look : Look} {resolver : Resolver}
    {template : Template} (h : Template.read source look resolver = .ok template) :
    ∃ pieces blocks, Piece.readAll source = .ok pieces ∧ Block.nest pieces = .ok blocks ∧
      ((∀ e ∈ Block.expressionsAll blocks, e.RestFree) → ¬ Block.Entangled blocks →
        ∀ clock event output,
          template.format clock event output = output ++
            (Block.renderAll look resolver blocks (Environment.ofEvent event clock)
              (Buffer.ofBytes output)).writtenSince output.length) := by
  obtain ⟨pieces, blocks, referenced, nodes, after, freeAfter, hpieces, hnest, rfl, hcompiles⟩ :=
    Template.compiles_of_read h
  refine ⟨pieces, blocks, hpieces, hnest, fun hrest huntangled clock event output => ?_⟩
  have hs := Block.slotless_nest (Piece.slotless_readAll hpieces) hnest
  have hshows := Scope.Shows.ofEvent event clock blocks
  have happended := (Block.extends_renderAll look resolver blocks (Environment.ofEvent event clock)
    (Buffer.ofBytes output)).committed_eq
  have hlength : (Buffer.ofBytes output).position = output.length := List.length_reverse
  rw [Buffer.committed_ofBytes, hlength] at happended
  rw [Template.format, Buffer.bytes_flush, Node.write_ofList,
    hcompiles.writeAll_eq hs hrest (Nat.le_refl _) huntangled hshows]
  exact happended

-- `{#each x in Xs}{x}{#delimit}{y}{#end}`

private def listedSource : String :=
  "\x7b#each x in Xs\x7d\x7bx\x7d\x7b#delimit\x7d\x7by\x7d\x7b#end\x7d"

private def listedPieces : List Piece :=
  [.directive (.openEach "x" none (.property "Xs")) 0,
    .placeholder ⟨.property "x", none, none, 15⟩, .directive .delimit 18,
    .placeholder ⟨.property "y", none, none, 28⟩, .directive .close 31]

private def listedBlocks : List (Block String) :=
  [.iteration "x" none (.property "Xs") [.placeholder ⟨.property "x", none, none, 15⟩]
    (some [.placeholder ⟨.property "y", none, none, 28⟩]) none 0]

private def listedBound : BoundTemplate :=
  ⟨[.iteration ⟨"x", 0⟩ none (.property "Xs") [.placeholder ⟨.slot 0, none, none, 15⟩]
    (some [.placeholder ⟨.property "y", none, none, 28⟩]) none 0], 1⟩

private def listedRoot : Node :=
  .iteration (.property "Xs") 0 none (.expression (.slot 0) none none)
    (some (.expression (.property "y") none none)) none

private def listedEvent : Event :=
  { timestamp := midday, level := .information, messageTemplate := "", exception := none
    properties := .ofList
      [("Xs", .sequence [.ofString "a", .ofString "b"]), ("x", .ofString "P"),
        ("y", .ofString "-")] }

private theorem readAll_listed : Piece.readAll listedSource = .ok listedPieces := rfl

private theorem nest_listed : Block.nest listedPieces = .ok listedBlocks := rfl

private theorem read_listed :
    Template.read listedSource Look.plain Resolver.empty = .ok ⟨listedRoot, Look.plain⟩ := by
  have hbound : BoundTemplate.ofPieces listedPieces = .ok listedBound := rfl
  have hroot : listedBound.lower Resolver.empty = .ok listedRoot := by
    simp [listedBound, listedRoot]
  exact bind_eq_ok.mpr ⟨_, readAll_listed, bind_eq_ok.mpr ⟨_, hbound,
    bind_eq_ok.mpr ⟨_, hroot, rfl⟩⟩⟩

private theorem render_listed :
    (Block.renderAll Look.plain Resolver.empty listedBlocks
      (Environment.ofEvent listedEvent midday) (Buffer.ofBytes [])).writtenSince 0
      = Text.encode "a-b" := rfl

private theorem listed_restFree : ∀ e ∈ Block.expressionsAll listedBlocks, e.RestFree := by
  intro e he name arguments ignoreCase position hcall
  have hnames : e = .property "Xs" ∨ e = .property "x" ∨ e = .property "y" := by
    simpa [listedBlocks] using he
  rcases hnames with rfl | rfl | rfl <;> rcases hcall with _ | ⟨hchild, -⟩ <;> cases hchild

private theorem listed_untangled : ¬ Block.Entangled listedBlocks := by
  intro h
  cases h with
  | own hname found =>
      cases found with
      | later deeper => cases deeper
      | placeholder found =>
          rcases found with _ | ⟨hchild, -⟩
          · simp at hname
          · cases hchild
  | later deeper => cases deeper
  | body deeper =>
      cases deeper with
      | later deeper => cases deeper
  | delimiter deeper =>
      cases deeper with
      | later deeper => cases deeper

theorem Template.format_delimited_items :
    ∃ template, Template.read listedSource Look.plain Resolver.empty = .ok template ∧
      template.format midday listedEvent [] = Text.encode "a-b" := by
  obtain ⟨pieces, blocks, hpieces, hnest, hformat⟩ := format_eq_render read_listed
  obtain rfl : pieces = listedPieces := Except.ok.inj (hpieces.symm.trans readAll_listed)
  obtain rfl : blocks = listedBlocks := Except.ok.inj (hnest.symm.trans nest_listed)
  exact ⟨_, read_listed, (hformat listed_restFree listed_untangled midday listedEvent []).trans
    render_listed⟩

end EventText
