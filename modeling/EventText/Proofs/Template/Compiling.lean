import EventText.Proofs.Expr.Lowering
import EventText.Proofs.Template.Binding
import EventText.Proofs.Template.Written
import EventText.Template.Render

namespace EventText

-- A template that is written out is lowered by these equations, down to its expressions.
attribute [simp] BoundTemplate.lower Surroundings.lowerBlocks Surroundings.lowerBlock
  Surroundings.lowerSection Surroundings.lowerBranches Surroundings.lowerPlaceholder Node.ofList

namespace Surroundings

variable (within : Surroundings)

-- All that compiling a nested template does: binding, which hands out slots from `next` on, and
-- lowering, which hands out more of them from `free` on. The branches of a choice are taken off one
-- by one, and a section is the choice that has nothing else.
inductive Compiles : Names → Nat → Nat → List (Block String) → List Node → Nat → Nat → Prop
  | nil {names next free} : Compiles names next free [] [] next free
  | cons {names block node rest nodes next free middle freeMiddle after freeAfter}
      (first : Compiles names next free [block] [node] middle freeMiddle)
      (others : Compiles names middle freeMiddle rest nodes after freeAfter) :
      Compiles names next free (block :: rest) (node :: nodes) after freeAfter
  | text {names chars next free} :
      Compiles names next free [.text chars] [.literal chars] next free
  | placeholder {names hole node next free freeAfter}
      (shown : within.lowerPlaceholder { hole with expression := hole.expression.bind names } free
        = .ok (node, freeAfter)) :
      Compiles names next free [.placeholder hole] [node] next freeAfter
  | nothing {names position next free} :
      Compiles names next free [.choice [] none position] [.choice [] none] next free
  | otherwise {names blocks nodes position next free after freeAfter}
      (inner : Compiles names next free blocks nodes after freeAfter) :
      Compiles names next free [.choice [] (some blocks) position]
        [.choice [] (some (Node.ofList nodes))] after freeAfter
  | branch {names condition plan blocks nodes branches nodeBranches otherwise nodeOtherwise position
        next free freeFirst middle freeMiddle after freeAfter}
      (tested : within.lower (condition.bind names) free = .ok (plan, freeFirst))
      (inner : Compiles names next freeFirst blocks nodes middle freeMiddle)
      (others : Compiles names middle freeMiddle [.choice branches otherwise position]
        [.choice nodeBranches nodeOtherwise] after freeAfter) :
      Compiles names next free [.choice ((condition, blocks) :: branches) otherwise position]
        [.choice ((plan, Node.ofList nodes) :: nodeBranches) nodeOtherwise] after freeAfter
  | iteration {names first second boundFirst boundSecond collection plan body nodes delimiter
        nodeDelimiter alternative nodeAlternative position next opened filled between after free
        freeFirst freeBody freeBetween freeAfter}
      (fresh : Block.freshNames first second next = (boundFirst, boundSecond, opened))
      (ranged : within.lower (collection.bind names) free = .ok (plan, freeFirst))
      (inner : Compiles (Block.visible boundFirst boundSecond names) opened freeFirst body nodes
        filled freeBody)
      (middle : Compiles (Block.visible boundFirst boundSecond names) filled freeBody
        [.choice [] delimiter 0] [.choice [] nodeDelimiter] between freeBetween)
      (last : Compiles names between freeBetween [.choice [] alternative 0]
        [.choice [] nodeAlternative] after freeAfter) :
      Compiles names next free
        [.iteration first second collection body delimiter alternative position]
        [.iteration plan boundFirst.slot (boundSecond.map (·.slot)) (Node.ofList nodes)
          nodeDelimiter nodeAlternative] after freeAfter

variable {within}

theorem lowerBlocks_singleton {free freeAfter : Nat} {bound : Block BoundName}
    {nodes : List Node} :
    within.lowerBlocks free [bound] = .ok (nodes, freeAfter) ↔
      ∃ node, nodes = [node] ∧ within.lowerBlock free bound = .ok (node, freeAfter) := by
  constructor
  · intro h
    obtain ⟨⟨node, middle⟩, hnode, h⟩ := bind_eq_ok.mp h
    obtain ⟨⟨rest, last⟩, hrest, h⟩ := bind_eq_ok.mp h
    cases hrest
    cases h
    exact ⟨node, rfl, hnode⟩
  · rintro ⟨node, rfl, hnode⟩
    exact bind_eq_ok.mpr ⟨(node, freeAfter), hnode, rfl⟩

theorem lowerBlock_section {free freeAfter : Nat} {part : Option (List (Block BoundName))}
    {node : Option Node} (position : Nat)
    (h : within.lowerSection free part = .ok (node, freeAfter)) :
    within.lowerBlock free (.choice [] part position) = .ok (.choice [] node, freeAfter) :=
  bind_eq_ok.mpr ⟨([], free), rfl, bind_eq_ok.mpr ⟨(node, freeAfter), h, rfl⟩⟩

theorem compiles_of_binds {names : Names} {next after : Nat} {blocks : List (Block String)}
    {bounds : List (Block BoundName)} (hbinds : Block.Binds names next blocks bounds after)
    {free freeAfter : Nat} {nodes : List Node}
    (hlower : within.lowerBlocks free bounds = .ok (nodes, freeAfter)) :
    within.Compiles names next free blocks nodes after freeAfter := by
  induction hbinds generalizing free freeAfter nodes with
  | nil =>
      cases hlower
      exact .nil
  | cons _ _ ihfirst ihothers =>
      obtain ⟨⟨node, middle⟩, hnode, hlower⟩ := bind_eq_ok.mp hlower
      obtain ⟨⟨rest, last⟩, hrest, hlower⟩ := bind_eq_ok.mp hlower
      cases hlower
      exact .cons (ihfirst (lowerBlocks_singleton.mpr ⟨node, rfl, hnode⟩)) (ihothers hrest)
  | text =>
      obtain ⟨node, rfl, hnode⟩ := lowerBlocks_singleton.mp hlower
      cases hnode
      exact .text
  | placeholder =>
      obtain ⟨node, rfl, hnode⟩ := lowerBlocks_singleton.mp hlower
      exact .placeholder hnode
  | nothing =>
      obtain ⟨node, rfl, hnode⟩ := lowerBlocks_singleton.mp hlower
      cases hnode
      exact .nothing
  | otherwise _ ih =>
      obtain ⟨node, rfl, hnode⟩ := lowerBlocks_singleton.mp hlower
      obtain ⟨⟨branches, middle⟩, hbranches, hnode⟩ := bind_eq_ok.mp hnode
      cases hbranches
      obtain ⟨⟨part, last⟩, hpart, hnode⟩ := bind_eq_ok.mp hnode
      cases hnode
      obtain ⟨⟨inner, _⟩, hinner, hpart⟩ := bind_eq_ok.mp hpart
      cases hpart
      exact .otherwise (ih hinner)
  | branch _ _ ihinner ihothers =>
      obtain ⟨node, rfl, hnode⟩ := lowerBlocks_singleton.mp hlower
      obtain ⟨⟨branches, middle⟩, hbranches, hnode⟩ := bind_eq_ok.mp hnode
      obtain ⟨⟨part, last⟩, hpart, hnode⟩ := bind_eq_ok.mp hnode
      cases hnode
      obtain ⟨⟨plan, _⟩, hplan, hbranches⟩ := bind_eq_ok.mp hbranches
      obtain ⟨⟨inner, _⟩, hinner, hbranches⟩ := bind_eq_ok.mp hbranches
      obtain ⟨⟨others, _⟩, hothers, hbranches⟩ := bind_eq_ok.mp hbranches
      cases hbranches
      refine .branch hplan (ihinner hinner) (ihothers ?_)
      refine lowerBlocks_singleton.mpr ⟨_, rfl, bind_eq_ok.mpr ⟨_, hothers, ?_⟩⟩
      exact bind_eq_ok.mpr ⟨_, hpart, rfl⟩
  | iteration fresh _ _ _ ihinner ihmiddle ihlast =>
      obtain ⟨node, rfl, hnode⟩ := lowerBlocks_singleton.mp hlower
      obtain ⟨⟨plan, _⟩, hplan, hnode⟩ := bind_eq_ok.mp hnode
      obtain ⟨⟨inner, _⟩, hinner, hnode⟩ := bind_eq_ok.mp hnode
      obtain ⟨⟨delimiter, _⟩, hdelimiter, hnode⟩ := bind_eq_ok.mp hnode
      obtain ⟨⟨alternative, _⟩, halternative, hnode⟩ := bind_eq_ok.mp hnode
      cases hnode
      have hmiddle := ihmiddle (lowerBlocks_singleton.mpr ⟨_, rfl, lowerBlock_section 0 hdelimiter⟩)
      have hlast := ihlast (lowerBlocks_singleton.mpr ⟨_, rfl, lowerBlock_section 0 halternative⟩)
      exact .iteration fresh hplan (ihinner hinner) hmiddle hlast

theorem lowerSection_of_lowerBlock {free freeAfter : Nat} {part : Option (List (Block BoundName))}
    {position : Nat} {node : Option Node}
    (h : within.lowerBlock free (.choice [] part position) = .ok (.choice [] node, freeAfter)) :
    within.lowerSection free part = .ok (node, freeAfter) := by
  obtain ⟨⟨branches, _⟩, hbranches, h⟩ := bind_eq_ok.mp h
  cases hbranches
  obtain ⟨⟨part, _⟩, hpart, h⟩ := bind_eq_ok.mp h
  cases h
  exact hpart

-- Conversely, what compiles is bound and lowered in just that way.
theorem lowerBlocks_of_compiles {names : Names} {next free after freeAfter : Nat}
    {blocks : List (Block String)} {nodes : List Node}
    (h : within.Compiles names next free blocks nodes after freeAfter) :
    (Block.bindAll names next blocks).2 = after ∧
      within.lowerBlocks free (Block.bindAll names next blocks).1 = .ok (nodes, freeAfter) := by
  have single {names : Names} {next free freeAfter : Nat} {block : Block String} {node : Node} :
      within.lowerBlocks free (Block.bindAll names next [block]).1 = .ok ([node], freeAfter) ↔
        within.lowerBlock free (Block.bind names next block).1 = .ok (node, freeAfter) := by
    refine lowerBlocks_singleton.trans ⟨?_, fun h => ⟨node, rfl, h⟩⟩
    rintro ⟨_, hnode, h⟩
    cases hnode
    exact h
  have singleNext (names : Names) (next : Nat) (block : Block String) :
      (Block.bindAll names next [block]).2 = (Block.bind names next block).2 := rfl
  induction h with
  | nil => exact ⟨rfl, rfl⟩
  | cons first others ihfirst ihothers =>
      rw [single, singleNext] at ihfirst
      obtain ⟨rfl, hlower⟩ := ihfirst
      obtain ⟨rfl, hrest⟩ := ihothers
      exact ⟨rfl, bind_eq_ok.mpr ⟨_, hlower, bind_eq_ok.mpr ⟨_, hrest, rfl⟩⟩⟩
  | text => exact ⟨rfl, rfl⟩
  | nothing => exact ⟨rfl, rfl⟩
  | placeholder shown => exact ⟨rfl, single.mpr shown⟩
  | otherwise inner ih =>
      obtain ⟨rfl, hlower⟩ := ih
      exact ⟨rfl, single.mpr (lowerBlock_section _ (bind_eq_ok.mpr ⟨_, hlower, rfl⟩))⟩
  | branch tested inner others ihinner ihothers =>
      obtain ⟨rfl, hlower⟩ := ihinner
      obtain ⟨rfl, hrest⟩ := ihothers
      obtain ⟨⟨branches, _⟩, hbranches, hrest⟩ := bind_eq_ok.mp (single.mp hrest)
      obtain ⟨⟨part, _⟩, hpart, hnode⟩ := bind_eq_ok.mp hrest
      cases hnode
      exact ⟨rfl, single.mpr (bind_eq_ok.mpr ⟨_, bind_eq_ok.mpr ⟨_, tested, bind_eq_ok.mpr
        ⟨_, hlower, bind_eq_ok.mpr ⟨_, hbranches, rfl⟩⟩⟩, bind_eq_ok.mpr ⟨_, hpart, rfl⟩⟩)⟩
  | iteration fresh ranged inner middle last ihinner ihmiddle ihlast =>
      obtain ⟨rfl, hlower⟩ := ihinner
      obtain ⟨rfl, hmiddle⟩ := ihmiddle
      obtain ⟨rfl, hlast⟩ := ihlast
      have hbetween := lowerSection_of_lowerBlock (single.mp hmiddle)
      have hinstead := lowerSection_of_lowerBlock (single.mp hlast)
      rw [single]
      simp only [Block.bindAll, Block.bind, fresh]
      exact ⟨rfl, bind_eq_ok.mpr ⟨_, ranged, bind_eq_ok.mpr ⟨_, hlower, bind_eq_ok.mpr
        ⟨_, hbetween, bind_eq_ok.mpr ⟨_, hinstead, rfl⟩⟩⟩⟩⟩

-- Blocks one after the other are compiled one after the other.

theorem Compiles.append {names : Names} {next free middle freeMiddle after freeAfter : Nat}
    {xs ys : List (Block String)} {nodes others : List Node}
    (hx : within.Compiles names next free xs nodes middle freeMiddle)
    (hy : within.Compiles names middle freeMiddle ys others after freeAfter) :
    within.Compiles names next free (xs ++ ys) (nodes ++ others) after freeAfter := by
  induction hx with
  | nil => exact hy
  | cons first rest _ ih => exact .cons first (ih hy)
  | text => exact .cons .text hy
  | placeholder shown => exact .cons (.placeholder shown) hy
  | nothing => exact .cons .nothing hy
  | otherwise inner _ => exact .cons (.otherwise inner) hy
  | branch tested inner others _ _ => exact .cons (.branch tested inner others) hy
  | iteration fresh ranged inner between last _ _ _ =>
      exact .cons (.iteration fresh ranged inner between last) hy

theorem Compiles.uncons {names : Names} {next free after freeAfter : Nat} {block : Block String}
    {rest : List (Block String)} {nodes : List Node}
    (h : within.Compiles names next free (block :: rest) nodes after freeAfter) :
    ∃ node others middle freeMiddle, nodes = node :: others ∧
      within.Compiles names next free [block] [node] middle freeMiddle ∧
      within.Compiles names middle freeMiddle rest others after freeAfter := by
  cases h with
  | cons first others => exact ⟨_, _, _, _, rfl, first, others⟩
  | text => exact ⟨_, _, _, _, rfl, .text, .nil⟩
  | placeholder shown => exact ⟨_, _, _, _, rfl, .placeholder shown, .nil⟩
  | nothing => exact ⟨_, _, _, _, rfl, .nothing, .nil⟩
  | otherwise inner => exact ⟨_, _, _, _, rfl, .otherwise inner, .nil⟩
  | branch tested inner rest => exact ⟨_, _, _, _, rfl, .branch tested inner rest, .nil⟩
  | iteration fresh ranged inner between last =>
      exact ⟨_, _, _, _, rfl, .iteration fresh ranged inner between last, .nil⟩

theorem Compiles.split {names : Names} {next free after freeAfter : Nat}
    {xs ys : List (Block String)} {nodes : List Node}
    (h : within.Compiles names next free (xs ++ ys) nodes after freeAfter) :
    ∃ front back middle freeMiddle, nodes = front ++ back ∧
      within.Compiles names next free xs front middle freeMiddle ∧
      within.Compiles names middle freeMiddle ys back after freeAfter := by
  induction xs generalizing next free nodes with
  | nil => exact ⟨[], nodes, next, free, rfl, .nil, h⟩
  | cons block rest ih =>
      obtain ⟨node, others, _, _, rfl, hfirst, hrest⟩ := h.uncons
      obtain ⟨front, back, middle, freeMiddle, rfl, hfront, hback⟩ := ih hrest
      exact ⟨node :: front, back, middle, freeMiddle, rfl, .cons hfirst hfront, hback⟩

-- A choice becomes a choice, and it does not matter where it stands.
theorem Compiles.choice_at {names : Names} {next free after freeAfter : Nat}
    {branches : List (Expr × List (Block String))} {otherwise : Option (List (Block String))}
    {position : Nat} {nodes : List Node}
    (h : within.Compiles names next free [.choice branches otherwise position] nodes after
      freeAfter)
    (other : Nat) :
    ∃ nodeBranches nodeOtherwise, nodes = [.choice nodeBranches nodeOtherwise] ∧
      nodeBranches.length = branches.length ∧
      within.Compiles names next free [.choice branches otherwise other]
        [.choice nodeBranches nodeOtherwise] after freeAfter := by
  generalize hblocks : [Block.choice branches otherwise position] = blocks at h
  induction h generalizing branches with
  | cons first others ihfirst ihothers =>
      cases hblocks
      cases others
      exact ihfirst rfl
  | nothing =>
      cases hblocks
      exact ⟨_, _, rfl, rfl, .nothing⟩
  | otherwise inner =>
      cases hblocks
      exact ⟨_, _, rfl, rfl, .otherwise inner⟩
  | branch tested inner others ihinner ihothers =>
      cases hblocks
      obtain ⟨nodeBranches, nodeOtherwise, heq, hlength, hothers⟩ := ihothers rfl
      cases heq
      exact ⟨_, _, rfl, congrArg (· + 1) hlength, .branch tested inner hothers⟩
  | _ => cases hblocks

theorem Compiles.next_le {names : Names} {next free after freeAfter : Nat}
    {blocks : List (Block String)} {nodes : List Node}
    (h : within.Compiles names next free blocks nodes after freeAfter) : next ≤ after := by
  induction h with
  | nil | text | placeholder | nothing => exact Nat.le_refl _
  | otherwise _ ih => exact ih
  | cons _ _ hfirst hothers => exact Nat.le_trans hfirst hothers
  | branch _ _ _ hinner hothers => exact Nat.le_trans hinner hothers
  | iteration fresh _ _ _ _ hinner hmiddle hlast =>
      have hopened := (Block.cover_freshNames fresh).1
      omega

theorem lowerPlaceholder_next_le {hole : Placeholder} {free freeAfter : Nat} {node : Node}
    (h : within.lowerPlaceholder hole free = .ok (node, freeAfter)) : free ≤ freeAfter := by
  unfold lowerPlaceholder at h
  split at h
  · cases h
    exact Nat.le_refl _
  · cases h
    exact Nat.le_refl _
  · cases h
    exact Nat.le_refl _
  · cases h
    exact Nat.le_refl _
  · obtain ⟨⟨plan, after⟩, hplan, h⟩ := bind_eq_ok.mp h
    cases h
    exact (lowers_of_lower hplan).next_le

theorem Compiles.free_le {names : Names} {next free after freeAfter : Nat}
    {blocks : List (Block String)} {nodes : List Node}
    (h : within.Compiles names next free blocks nodes after freeAfter) : free ≤ freeAfter := by
  induction h with
  | nil | text | nothing => exact Nat.le_refl _
  | placeholder shown => exact lowerPlaceholder_next_le shown
  | otherwise _ ih => exact ih
  | cons _ _ hfirst hothers => exact Nat.le_trans hfirst hothers
  | branch tested _ _ hinner hothers =>
      have htested := (lowers_of_lower tested).next_le
      omega
  | iteration _ ranged _ _ _ hinner hmiddle hlast =>
      have hranged := (lowers_of_lower ranged).next_le
      omega

-- Slots for wildcards are handed out behind all slots for names. That stays so inside of blocks.

section

variable {names inside : Names} {blocks rest : List (Block String)} {nodes others : List Node}
  {next opened middle after free freeFirst freeMiddle freeAfter : Nat}

theorem Compiles.cons_le (hfirst : within.Compiles names next free blocks nodes middle freeMiddle)
    (hothers : within.Compiles names middle freeMiddle rest others after freeAfter)
    (hle : after ≤ free) : middle ≤ free ∧ after ≤ freeMiddle := by
  have hfree := hfirst.free_le
  have hnext := hothers.next_le
  omega

theorem Compiles.branch_le {e : Expr} {plan : Plan}
    (tested : within.lower e free = .ok (plan, freeFirst))
    (hinner : within.Compiles names next freeFirst blocks nodes middle freeMiddle)
    (hothers : within.Compiles names middle freeMiddle rest others after freeAfter)
    (hle : after ≤ free) : next ≤ free ∧ middle ≤ freeFirst ∧ after ≤ freeMiddle := by
  have htested := (lowers_of_lower tested).next_le
  have hinnerNext := hinner.next_le
  have hinnerFree := hinner.free_le
  have hothersNext := hothers.next_le
  omega

theorem Compiles.iteration_le {e : Expr} {plan : Plan} {between alternative : List (Block String)}
    {betweenNodes alternativeNodes : List Node} {filled freeBody freeBetween : Nat}
    (hopened : next ≤ opened) (ranged : within.lower e free = .ok (plan, freeFirst))
    (hinner : within.Compiles inside opened freeFirst blocks nodes filled freeBody)
    (hmiddle : within.Compiles inside filled freeBody between betweenNodes middle freeBetween)
    (hlast : within.Compiles names middle freeBetween alternative alternativeNodes after freeAfter)
    (hle : after ≤ free) :
    next ≤ free ∧ filled ≤ freeFirst ∧ middle ≤ freeBody ∧ after ≤ freeBetween ∧
      next ≤ middle := by
  have hranged := (lowers_of_lower ranged).next_le
  have hinnerNext := hinner.next_le
  have hinnerFree := hinner.free_le
  have hmiddleNext := hmiddle.next_le
  have hmiddleFree := hmiddle.free_le
  have hlastNext := hlast.next_le
  omega

end

end Surroundings

-- A source is read in three passes. The look plays no part in them.
theorem Template.read_eq_ok {source : String} {look : Look} {resolver : Resolver}
    {template : Template} :
    Template.read source look resolver = .ok template ↔
      ∃ pieces bound root, Piece.readAll source = .ok pieces ∧
        BoundTemplate.ofPieces pieces = .ok bound ∧ bound.lower resolver = .ok root ∧
        template = ⟨root, look⟩ := by
  constructor
  · intro h
    obtain ⟨pieces, hpieces, h⟩ := bind_eq_ok.mp h
    obtain ⟨bound, hbound, h⟩ := bind_eq_ok.mp h
    obtain ⟨root, hroot, h⟩ := bind_eq_ok.mp h
    exact ⟨pieces, bound, root, hpieces, hbound, hroot, (Except.ok.inj h).symm⟩
  · rintro ⟨pieces, bound, root, hpieces, hbound, hroot, rfl⟩
    refine bind_eq_ok.mpr ⟨pieces, hpieces, bind_eq_ok.mpr ⟨bound, hbound, ?_⟩⟩
    exact bind_eq_ok.mpr ⟨root, hroot, rfl⟩

-- A template that could be read was nested, and its nested form compiled. What `rest()` leaves out
-- was collected from all of its bound form before that.
theorem Template.compiles_collected {source : String} {look : Look} {resolver : Resolver}
    {template : Template} (h : Template.read source look resolver = .ok template) :
    ∃ pieces blocks nodes after freeAfter,
      Piece.readAll source = .ok pieces ∧ Block.nest pieces = .ok blocks ∧
      template = ⟨Node.ofList nodes, look⟩ ∧
      (Surroundings.mk resolver (Block.referencesAll (Block.bindAll [] 0 blocks).1)).Compiles
        [] 0 after blocks nodes after freeAfter := by
  obtain ⟨pieces, bound, root, hpieces, hbound, hroot, rfl⟩ := read_eq_ok.mp h
  obtain ⟨blocks, hnest, hbound⟩ := bind_eq_ok.mp hbound
  cases hbound
  obtain ⟨⟨nodes, freeAfter⟩, hnodes, hroot⟩ := bind_eq_ok.mp hroot
  cases hroot
  exact ⟨pieces, blocks, nodes, _, freeAfter, hpieces, hnest, rfl,
    Surroundings.compiles_of_binds (Block.binds_bindAll [] 0 blocks) hnodes⟩

-- Conversely, a source can be read if it is nested and its nested form compiles.
theorem Template.read_of_compiles {source : String} {resolver : Resolver} {pieces : List Piece}
    {blocks : List (Block String)} {nodes : List Node} {after freeAfter : Nat}
    (hpieces : Piece.readAll source = .ok pieces) (hnest : Block.nest pieces = .ok blocks)
    (hcompiles : (Surroundings.mk resolver
        (Block.referencesAll (Block.bindAll [] 0 blocks).1)).Compiles
      [] 0 after blocks nodes after freeAfter) (look : Look) :
    Template.read source look resolver = .ok ⟨Node.ofList nodes, look⟩ := by
  obtain ⟨rfl, hlower⟩ := Surroundings.lowerBlocks_of_compiles hcompiles
  exact read_eq_ok.mpr ⟨pieces, _, _, hpieces, bind_eq_ok.mpr ⟨blocks, hnest, rfl⟩,
    bind_eq_ok.mpr ⟨_, hlower, rfl⟩, rfl⟩

theorem Template.compiles_of_read {source : String} {look : Look} {resolver : Resolver}
    {template : Template} (h : Template.read source look resolver = .ok template) :
    ∃ pieces blocks referenced nodes after freeAfter,
      Piece.readAll source = .ok pieces ∧ Block.nest pieces = .ok blocks ∧
      template = ⟨Node.ofList nodes, look⟩ ∧
      (Surroundings.mk resolver referenced).Compiles [] 0 after blocks nodes after freeAfter := by
  obtain ⟨pieces, blocks, nodes, after, freeAfter, hpieces, hnest, htemplate, hcompiles⟩ :=
    compiles_collected h
  exact ⟨pieces, blocks, _, nodes, after, freeAfter, hpieces, hnest, htemplate, hcompiles⟩

end EventText
