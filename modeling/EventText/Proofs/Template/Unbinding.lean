import EventText.Proofs.Expr.Binding
import EventText.Proofs.Template.Binding
import EventText.Proofs.Template.Grammar
import EventText.Proofs.Template.Written
import Mathlib.Data.List.Nodup

namespace EventText

-- The name that a slot was declared for.
def Names.name? (names : Names) (n : Nat) : Option String :=
  (names.find? fun bound => bound.slot == n).map (·.name)

namespace Expr

mutual

-- Slots become the names again that they were declared for.
def unbind (declared : Names) : Expr → Expr
  | .slot n =>
      match declared.name? n with
      | some name => .property name
      | none => .slot n
  | .constant s => .constant s
  | .property name => .property name
  | .builtin p => .builtin p
  | .member target name => .member (target.unbind declared) name
  | .index target key => .index (target.unbind declared) (key.unbind declared)
  | .wildcard target q => .wildcard (target.unbind declared) q
  | .call name arguments ignoreCase position =>
      .call name (unbindAll declared arguments) ignoreCase position
  | .unary op operand => .unary op (operand.unbind declared)
  | .binary op left right ignoreCase position =>
      .binary op (left.unbind declared) (right.unbind declared) ignoreCase position
  | .conditional condition consequent none =>
      .conditional (condition.unbind declared) (consequent.unbind declared) none
  | .conditional condition consequent (some alternative) =>
      .conditional (condition.unbind declared) (consequent.unbind declared)
        (some (alternative.unbind declared))
  | .array elements => .array (unbindElements declared elements)
  | .object members => .object (unbindMembers declared members)

def unbindAll (declared : Names) : List Expr → List Expr
  | [] => []
  | e :: rest => e.unbind declared :: unbindAll declared rest

def unbindElements (declared : Names) : List (Element Expr) → List (Element Expr)
  | [] => []
  | .item e :: rest => .item (e.unbind declared) :: unbindElements declared rest
  | .spread e :: rest => .spread (e.unbind declared) :: unbindElements declared rest

def unbindMembers (declared : Names) : List (Member Expr) → List (Member Expr)
  | [] => []
  | .named name e :: rest => .named name (e.unbind declared) :: unbindMembers declared rest
  | .spread e :: rest => .spread (e.unbind declared) :: unbindMembers declared rest

end

variable {names declared : Names}

private theorem unbindAll_bindAll {es : List Expr}
    (h : ∀ e ∈ es, (e.bind names).unbind declared = e) :
    unbindAll declared (bindAll names es) = es := by
  induction es with
  | nil => rfl
  | cons e rest ih =>
      have hrest := ih fun other hother => h other (List.mem_cons_of_mem _ hother)
      rw [bindAll, unbindAll, h e List.mem_cons_self, hrest]

private theorem unbindElements_bindElements {elements : List (Element Expr)}
    (h : ∀ e ∈ elements.map Element.content, (e.bind names).unbind declared = e) :
    unbindElements declared (bindElements names elements) = elements := by
  induction elements with
  | nil => rfl
  | cons element rest ih =>
      have hfirst := h element.content List.mem_cons_self
      have hrest := ih fun other hother => h other (List.mem_cons_of_mem _ hother)
      cases element <;>
        simp only [Element.content] at hfirst <;>
        simp only [bindElements, unbindElements, hfirst, hrest]

private theorem unbindMembers_bindMembers {members : List (Member Expr)}
    (h : ∀ e ∈ members.map Member.content, (e.bind names).unbind declared = e) :
    unbindMembers declared (bindMembers names members) = members := by
  induction members with
  | nil => rfl
  | cons member rest ih =>
      have hfirst := h member.content List.mem_cons_self
      have hrest := ih fun other hother => h other (List.mem_cons_of_mem _ hother)
      cases member <;>
        simp only [Member.content] at hfirst <;>
        simp only [bindMembers, unbindMembers, hfirst, hrest]

-- A visible name is found again if its slot was declared for it.
theorem unbind_bind (hnames : ∀ bound ∈ names, declared.name? bound.slot = some bound.name)
    {e : Expr} (hs : e.Slotless) : (e.bind names).unbind declared = e := by
  induction e using childInduction with
  | step e ih =>
      have inner : ∀ c ∈ e.children, (c.bind names).unbind declared = c :=
        fun c hc => ih c hc (hs.child hc)
      cases e with
      | property name =>
          unfold bind
          split
          · rename_i n hn
            obtain ⟨bound, hbound, hname, rfl⟩ := Names.exists_of_slot? hn
            rw [unbind, hnames bound hbound, hname]
          · rfl
      | slot n => exact absurd .here (hs n)
      | call name arguments ignoreCase position =>
          have harguments : unbindAll declared (bindAll names arguments) = arguments :=
            unbindAll_bindAll inner
          simp only [bind, unbind, harguments]
      | array elements => simp only [bind, unbind, unbindElements_bindElements inner]
      | object members => simp only [bind, unbind, unbindMembers_bindMembers inner]
      | conditional condition consequent alternative =>
          cases alternative <;> simp_all [children, bind, unbind]
      | _ => simp_all [children, bind, unbind]

end Expr

namespace Block

mutual

def unbind (declared : Names) : Block BoundName → Block String
  | .text chars => .text chars
  | .placeholder hole => .placeholder { hole with expression := hole.expression.unbind declared }
  | .choice branches otherwise position =>
      .choice (unbindBranches declared branches) (unbindSection declared otherwise) position
  | .iteration first second collection body delimiter alternative position =>
      .iteration first.name (second.map (·.name)) (collection.unbind declared)
        (unbindAll declared body) (unbindSection declared delimiter)
        (unbindSection declared alternative) position

def unbindAll (declared : Names) : List (Block BoundName) → List (Block String)
  | [] => []
  | block :: rest => unbind declared block :: unbindAll declared rest

def unbindSection (declared : Names) :
    Option (List (Block BoundName)) → Option (List (Block String))
  | none => none
  | some blocks => some (unbindAll declared blocks)

def unbindBranches (declared : Names) :
    List (Expr × List (Block BoundName)) → List (Expr × List (Block String))
  | [] => []
  | (condition, blocks) :: rest =>
      (condition.unbind declared, unbindAll declared blocks) :: unbindBranches declared rest

end

mutual

-- The names that iterations declare, in the order of the source.
def declared : Block BoundName → Names
  | .text _ | .placeholder _ => []
  | .choice branches otherwise _ => declaredBranches branches ++ declaredSection otherwise
  | .iteration first second _ body delimiter alternative _ =>
      first :: second.toList ++ declaredAll body ++ declaredSection delimiter
        ++ declaredSection alternative

def declaredAll : List (Block BoundName) → Names
  | [] => []
  | block :: rest => declared block ++ declaredAll rest

def declaredSection : Option (List (Block BoundName)) → Names
  | none => []
  | some blocks => declaredAll blocks

def declaredBranches : List (Expr × List (Block BoundName)) → Names
  | [] => []
  | (_, blocks) :: rest => declaredAll blocks ++ declaredBranches rest

end

end Block

-- A slot that is declared once is found by its number.
theorem Names.Cover.name?_eq {names : Names} {next after : Nat} (h : names.Cover next after)
    {bound : BoundName} (hbound : bound ∈ names) : names.name? bound.slot = some bound.name := by
  have hnodup : (names.map (·.slot)).Nodup := h.consecutive.nodup
  have hsome : (names.find? fun other => other.slot == bound.slot).isSome :=
    List.find?_isSome.mpr ⟨bound, hbound, by simp⟩
  obtain ⟨found, hfound⟩ := Option.isSome_iff_exists.mp hsome
  have hslot : found.slot = bound.slot := by simpa using List.find?_some hfound
  have hmem : found ∈ names := List.mem_of_find?_eq_some hfound
  obtain rfl := List.inj_on_of_nodup_map hnodup hmem hbound hslot
  rw [Names.name?, hfound, Option.map_some]

namespace Block

-- Every slot is declared exactly once.
theorem Binds.cover_declared {names : Names} {next : Nat} {blocks : List (Block String)}
    {bounds : List (Block BoundName)} {after : Nat} (h : Binds names next blocks bounds after) :
    (declaredAll bounds).Cover next after := by
  induction h with
  | nil | text | placeholder | nothing => exact Names.cover_nil _
  | otherwise _ ih => simpa [declaredAll, declared, declaredBranches, declaredSection] using ih
  | cons _ _ hfirst hothers => simpa [declaredAll] using hfirst.append hothers
  | branch _ _ hinner hothers =>
      simpa [declaredAll, declared, declaredBranches] using hinner.append hothers
  | iteration fresh _ _ _ hinner hmiddle hlast =>
      have hall := (((cover_freshNames fresh).append hinner).append hmiddle).append hlast
      simpa [declaredAll, declared, declaredBranches] using hall

-- A bound template is the written one with slots for its names.
theorem Binds.unbindAll_eq {names : Names} {next : Nat} {blocks : List (Block String)}
    {bounds : List (Block BoundName)} {after : Nat} (h : Binds names next blocks bounds after)
    {all : Names} (hnames : ∀ bound ∈ names, all.name? bound.slot = some bound.name)
    (hdeclared : ∀ bound ∈ declaredAll bounds, all.name? bound.slot = some bound.name)
    (hs : ∀ e ∈ expressionsAll blocks, e.Slotless) : unbindAll all bounds = blocks := by
  induction h with
  | nil | text | nothing => rfl
  | @placeholder _ hole _ =>
      have he := Expr.unbind_bind hnames (hs hole.expression (by simp))
      simp only [unbindAll, unbind, he]
  | otherwise _ ih =>
      simp only [declaredAll, declared, declaredBranches, declaredSection, List.nil_append,
        List.append_nil] at hdeclared
      rw [forall_expressions_otherwise] at hs
      simp only [unbindAll, unbind, unbindBranches, unbindSection, ih hnames hdeclared hs]
  | cons _ _ hfirst hothers =>
      obtain ⟨hsFirst, hsOthers⟩ := forall_expressions_cons.mp hs
      simp only [declaredAll, List.append_nil, List.forall_mem_append] at hdeclared hfirst
      have hblock := hfirst hnames hdeclared.1 hsFirst
      have hrest := hothers hnames hdeclared.2 hsOthers
      simp only [unbindAll, List.cons.injEq, and_true] at hblock
      rw [unbindAll, hblock, hrest]
  | branch _ _ hinner hothers =>
      obtain ⟨hsCondition, hsInner, hsOthers⟩ := forall_expressions_branch.mp hs
      simp only [declaredAll, declared, declaredBranches, List.append_nil, List.append_assoc,
        List.forall_mem_append] at hdeclared hothers
      have hblocks := hinner hnames hdeclared.1 hsInner
      have hrest := hothers hnames hdeclared.2 hsOthers
      simp only [unbindAll, unbind, List.cons.injEq, and_true, Block.choice.injEq] at hrest
      simp only [unbindAll, unbind, unbindBranches, hblocks, hrest,
        Expr.unbind_bind hnames hsCondition]
  | @iteration names first second boundFirst boundSecond collection body boundBody delimiter
        boundDelimiter alternative boundAlternative position next opened filled between after fresh
        _ _ _ hinner hmiddle hlast =>
      obtain ⟨hfirstName, hsecondName⟩ := names_freshNames fresh
      simp only [declaredAll, declared, declaredBranches, List.nil_append, List.append_nil,
        List.forall_mem_append] at hdeclared hmiddle hlast
      obtain ⟨⟨⟨hfresh, hbody⟩, hdelimiter⟩, halternative⟩ := hdeclared
      have hvisible : ∀ bound ∈ visible boundFirst boundSecond names,
          all.name? bound.slot = some bound.name := by
        intro bound hbound
        rcases List.mem_append.mp hbound with hsecond | hrest
        · exact hfresh bound (List.mem_cons_of_mem _ hsecond)
        · rcases List.mem_cons.mp hrest with rfl | hnamed
          · exact hfresh bound List.mem_cons_self
          · exact hnames bound hnamed
      obtain ⟨hsCollection, hsInner, hsMiddle, hsLast⟩ := forall_expressions_iteration.mp hs
      have hbody := hinner hvisible hbody hsInner
      have hdelimiter := hmiddle hvisible hdelimiter hsMiddle
      have halternative := hlast hnames halternative hsLast
      simp only [unbindAll, unbind, unbindBranches, List.cons.injEq, Block.choice.injEq, and_true,
        true_and] at hdelimiter halternative
      simp only [unbindAll, unbind, hfirstName, hsecondName, hbody, hdelimiter, halternative,
        Expr.unbind_bind hnames hsCollection]

end Block

-- Binding succeeds for exactly the balanced templates. It keeps all pieces in their order, with a
-- slot of its own for every iteration name.
theorem BoundTemplate.ofPieces_characterized {pieces : List Piece}
    (hs : ∀ piece ∈ pieces, ∀ e ∈ piece.expression?, e.Slotless) :
    ((∃ bound, BoundTemplate.ofPieces pieces = .ok bound) ↔ Balanced pieces) ∧
      ∀ bound, BoundTemplate.ofPieces pieces = .ok bound →
        Block.flattenAll (Block.unbindAll (Block.declaredAll bound.blocks) bound.blocks)
          = pieces.map Piece.bare ∧
        (Block.declaredAll bound.blocks).map (·.slot) = List.range bound.slotCount := by
  constructor
  · rw [← Block.exists_nest_iff]
    constructor
    · rintro ⟨bound, h⟩
      obtain ⟨blocks, hnest, -⟩ := bind_eq_ok.mp h
      exact ⟨blocks, hnest⟩
    · rintro ⟨blocks, hnest⟩
      exact ⟨_, bind_eq_ok.mpr ⟨blocks, hnest, rfl⟩⟩
  · intro bound h
    obtain ⟨blocks, hnest, hbound⟩ := bind_eq_ok.mp h
    cases hbound
    have hflat := Block.flattenAll_nest hnest
    have hbinds := Block.binds_bindAll [] 0 blocks
    have hcover := hbinds.cover_declared
    have hslotless := Block.slotless_nest hs hnest
    refine ⟨?_, ?_⟩
    · rw [hbinds.unbindAll_eq nofun (fun bound hb => hcover.name?_eq hb) hslotless, hflat]
    · rw [hcover.2, Nat.sub_zero, List.range_eq_range']

-- `{#each x in Xs}{x}{#delimit}, {#end}`

private def listPieces : List Piece :=
  [.directive (.openEach "x" none (.property "Xs")) 0,
    .placeholder ⟨.property "x", none, none, 15⟩, .directive .delimit 18, .text [',', ' '],
    .directive .close 30]

theorem BoundTemplate.ofPieces_list :
    ∃ bound, BoundTemplate.ofPieces listPieces = .ok bound ∧
      Block.flattenAll (Block.unbindAll (Block.declaredAll bound.blocks) bound.blocks)
        = listPieces.map Piece.bare ∧
      (Block.declaredAll bound.blocks).map (·.slot) = List.range bound.slotCount := by
  have hs : ∀ piece ∈ listPieces, ∀ e ∈ piece.expression?, e.Slotless := by
    simp only [listPieces, List.forall_mem_cons]
    refine ⟨?_, ?_, nofun, nofun, nofun, nofun⟩
    · rintro e ⟨⟩
      nofun
    · rintro e ⟨⟩
      nofun
  have hbalanced : Balanced listPieces :=
    @Balanced.iteration _ none _ _ _ _ (some ⟨18, [.text [',', ' ']]⟩) none _ nofun
      (.placeholder .nil) (by simpa using .text .nil) nofun .nil
  obtain ⟨hiff, hbound⟩ := ofPieces_characterized hs
  obtain ⟨bound, h⟩ := hiff.mpr hbalanced
  exact ⟨bound, h, hbound bound h⟩

end EventText
