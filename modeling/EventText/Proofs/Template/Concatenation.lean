import EventText.Proofs.Template.Appending
import EventText.Proofs.Template.Renumbering

namespace EventText

open Block (shiftAll Joins)
open Text (encodeChars)

-- The pieces of two sources that can be read, one behind the other.
theorem Piece.readAll_join {s t : String} {front back : List Piece}
    (hfront : Piece.readAll s = .ok front) (hback : Piece.readAll t = .ok back) :
    Piece.readAll (s ++ t)
      = .ok (Piece.join front (back.map (Piece.shift s.utf8ByteSize))) := by
  have hwhole : Piece.readAll (s ++ t) =
      TemplateReader.read (Placement.cursor ⟨0, t.toList⟩ (Cursor.ofString s)) := by
    simp only [Piece.readAll, TemplateReader.read, Placement.cursor, Cursor.ofString,
      String.toList_append]
  have hbehind : (⟨t.toList, (Cursor.ofString s).stop + 0⟩ : Cursor) =
      Placement.cursor ⟨s.utf8ByteSize, []⟩ (Cursor.ofString t) := by
    simp [Placement.cursor, Cursor.ofString, Cursor.stop, Text.encodedLength_toList]
  rw [hwhole, TemplateReader.read_cursor_ok hfront, hbehind, funext shift_zero, List.map_id',
    TemplateReader.read_cursor_ok (p := ⟨s.utf8ByteSize, []⟩) hback]
  simp [TemplateReader.read_nil]

namespace Node

-- The bytes that nodes write.
def written (look : Look) (nodes : List Node) (scope : Scope) : Bytes :=
  (writeAll look nodes scope Buffer.empty).committed

theorem appends_writeAll (look : Look) (nodes : List Node) (scope : Scope) :
    Buffer.Appends (writeAll look nodes scope) (written look nodes scope) := by
  obtain ⟨bytes, hbytes⟩ := (Node.sequence nodes).settled_write look scope
  simp only [write] at hbytes
  have hwritten : written look nodes scope = bytes := by
    rw [written, hbytes, Buffer.empty, Buffer.committed_ofBytes, List.nil_append]
  rw [hwritten]
  exact hbytes

theorem writeAll_append (look : Look) (xs ys : List Node) (scope : Scope) (b : Buffer) :
    writeAll look (xs ++ ys) scope b = writeAll look ys scope (writeAll look xs scope b) := by
  induction xs generalizing b with
  | nil => rw [List.nil_append, writeAll]
  | cons node rest ih => rw [List.cons_append, writeAll, writeAll, ih]

theorem written_append (look : Look) (xs ys : List Node) (scope : Scope) :
    written look (xs ++ ys) scope = written look xs scope ++ written look ys scope := by
  rw [written, writeAll_append, appends_writeAll, ← written]

-- Where plain text has no style, texts that meet may as well be one.
theorem written_literal {look : Look} (h : look.theme.style .tertiaryText = none)
    (chars : List Char) (scope : Scope) :
    written look [.literal chars] scope = encodeChars chars := by
  simp only [written, writeAll, write, writeStyledBy, h, Style.switchOn, Style.switchOff]
  rw [Buffer.appends_writeChars, Buffer.empty, Buffer.committed_ofBytes, List.nil_append]

end Node

theorem Template.format_ofList (nodes : List Node) (look : Look) (clock : Timestamp)
    (event : Event) :
    Template.format ⟨Node.ofList nodes, look⟩ clock event []
      = Node.written look nodes (Scope.ofEvent event clock) := by
  rw [format, Buffer.bytes_flush, Node.write_ofList]
  rfl

namespace Surroundings

variable {resolver : Resolver}

theorem Compiles.literal {within : Surroundings} {names : Names} {next free after freeAfter : Nat}
    {chars : List Char} {nodes : List Node}
    (h : within.Compiles names next free [.text chars] nodes after freeAfter) :
    nodes = [.literal chars] ∧ after = next ∧ freeAfter = free := by
  generalize hblocks : [Block.text chars] = blocks at h
  induction h with
  | cons first others ihfirst ihothers =>
      cases hblocks
      cases others
      obtain ⟨heq, hnext, hfree⟩ := ihfirst rfl
      cases heq
      exact ⟨rfl, hnext, hfree⟩
  | text =>
      cases hblocks
      exact ⟨rfl, rfl, rfl⟩
  | _ => cases hblocks

-- The nodes of a whole template, whose expressions name no slot and do not use `rest()`. How many
-- slots it has and which names `rest()` would leave out are its own affair.
structure CompilesAlone (resolver : Resolver) (blocks : List (Block String)) (nodes : List Node) :
    Prop where
  compiles : ∃ collected count freeAfter,
    (Surroundings.mk resolver collected).Compiles [] 0 count blocks nodes count freeAfter
  slotless : ∀ e ∈ Block.expressionsAll blocks, e.Slotless
  restFree : ∀ e ∈ Block.expressionsAll blocks, e.RestFree

-- In the whole, all slots come first, those of the second template behind those of the first one.
theorem CompilesAlone.append {xs ys : List (Block String)} {nodes others : List Node}
    (hx : CompilesAlone resolver xs nodes) (hy : CompilesAlone resolver ys others)
    (collectedWhole : List String) (distance : Nat) :
    ∃ whole after freeWhole,
      (Surroundings.mk resolver collectedWhole).Compiles [] 0 after
        (xs ++ shiftAll distance ys) whole after freeWhole ∧
      ∀ look clock event, Node.written look whole (Scope.ofEvent event clock)
        = Node.written look nodes (Scope.ofEvent event clock)
          ++ Node.written look others (Scope.ofEvent event clock) := by
  obtain ⟨_, count, _, hfirst⟩ := hx.compiles
  obtain ⟨_, countBehind, _, hsecond⟩ := hy.compiles
  have hnumbers := hfirst.renumbers hx.slotless hx.restFree (Nat.le_refl _)
    ⟨resolver, collectedWhole⟩ rfl 0
  have hbehind := hsecond.renumbers hy.slotless hy.restFree (Nat.le_refl _)
    ⟨resolver, collectedWhole⟩ rfl distance
  obtain ⟨nodes', middle, freeMiddle, hmiddle, hfront, hwriteFront⟩ :=
    hnumbers [] 0 (count + countBehind) (by omega)
  rw [Block.shiftAll_zero] at hfront
  have hfree := hfront.free_le
  obtain ⟨others', after, freeWhole, hafter, hback, hwriteBack⟩ :=
    hbehind [] middle freeMiddle (by omega)
  obtain rfl : after = count + countBehind := by omega
  refine ⟨nodes' ++ others', _, freeWhole, hfront.append hback, fun look clock event => ?_⟩
  have hshows := Scope.Presents.ofEvent event clock
  rw [Node.written_append, Node.written, Node.written,
    hwriteFront look _ _ _ _ (hshows xs) (hshows xs),
    hwriteBack look _ _ _ _ (hshows ys) ((hshows ys).part (Nat.zero_le _) fun _ => id)]
  rfl

-- The text at the end of a template is the last of its nodes.
theorem CompilesAlone.dropText {inner : List (Block String)} {chars : List Char}
    {nodes : List Node} (h : CompilesAlone resolver (inner ++ [.text chars]) nodes) :
    ∃ front, nodes = front ++ [.literal chars] ∧ CompilesAlone resolver inner front := by
  obtain ⟨collected, _, _, hcompiles⟩ := h.compiles
  obtain ⟨front, last, _, _, rfl, hfront, hlast⟩ := hcompiles.split
  obtain ⟨rfl, rfl, rfl⟩ := hlast.literal
  have hinner : Block.expressionsAll (inner ++ [Block.text chars])
      = Block.expressionsAll inner := by
    simp [Block.expressionsAll, Block.flattenAll_append, Block.flattenAll, Block.flatten,
      Piece.expression?]
  exact ⟨front, rfl, ⟨collected, _, _, hfront⟩, hinner ▸ h.slotless, hinner ▸ h.restFree⟩

-- The text at the start of a template is the first of its nodes, and may be any other.
theorem CompilesAlone.replaceText {behind : List (Block String)} {chars : List Char}
    {nodes : List Node} (h : CompilesAlone resolver (.text chars :: behind) nodes)
    (others : List Char) :
    ∃ rest, nodes = .literal chars :: rest ∧
      CompilesAlone resolver (.text others :: behind) (.literal others :: rest) := by
  obtain ⟨collected, _, _, hcompiles⟩ := h.compiles
  obtain ⟨_, rest, _, _, rfl, htext, hrest⟩ := hcompiles.uncons
  obtain ⟨heq, rfl, rfl⟩ := htext.literal
  cases heq
  exact ⟨rest, rfl, ⟨collected, _, _, .cons .text hrest⟩, h.slotless, h.restFree⟩

theorem CompilesAlone.join {xs ys blocks : List (Block String)} {nodes others : List Node}
    {distance : Nat} (hx : CompilesAlone resolver xs nodes) (hy : CompilesAlone resolver ys others)
    (hjoins : Joins distance xs ys blocks) (collectedWhole : List String)
    {look : Look} (hplain : look.theme.style .tertiaryText = none) :
    ∃ whole after freeWhole,
      (Surroundings.mk resolver collectedWhole).Compiles [] 0 after blocks whole after freeWhole ∧
      ∀ clock event, Node.written look whole (Scope.ofEvent event clock)
        = Node.written look nodes (Scope.ofEvent event clock)
          ++ Node.written look others (Scope.ofEvent event clock) := by
  cases hjoins with
  | apart =>
      obtain ⟨whole, after, freeWhole, hwhole, hwrite⟩ := hx.append hy collectedWhole distance
      exact ⟨whole, after, freeWhole, hwhole, hwrite look⟩
  | merged inner behind first second =>
      obtain ⟨front, rfl, hfront⟩ := hx.dropText
      obtain ⟨rest, rfl, hmerged⟩ := hy.replaceText (first ++ second)
      obtain ⟨whole, after, freeWhole, hwhole, hwrite⟩ :=
        hfront.append hmerged collectedWhole distance
      refine ⟨whole, after, freeWhole, hwhole, fun clock event => ?_⟩
      have hcons (chars : List Char) := Node.written_append look [.literal chars] rest
        (Scope.ofEvent event clock)
      simp only [List.singleton_append] at hcons
      simp only [hwrite, hcons, Node.written_append, Node.written_literal hplain,
        List.append_assoc, encodeChars, List.flatMap_append]

end Surroundings

-- No expression of the source uses `rest()`.
def Template.RestFree (source : String) : Prop :=
  ∀ pieces, Piece.readAll source = .ok pieces →
    ∀ e ∈ pieces.filterMap Piece.expression?, e.RestFree

theorem Template.compilesAlone_of_read {source : String} {look : Look} {resolver : Resolver}
    {template : Template} (h : Template.read source look resolver = .ok template)
    (hrest : RestFree source) :
    ∃ pieces blocks nodes, Piece.readAll source = .ok pieces ∧ Block.nest pieces = .ok blocks ∧
      template = ⟨Node.ofList nodes, look⟩ ∧
      Surroundings.CompilesAlone resolver blocks nodes := by
  obtain ⟨pieces, blocks, collected, nodes, count, _, hpieces, hblocks, heq, hcompiles⟩ :=
    compiles_of_read h
  have hrests := hrest pieces hpieces
  rw [← Block.expressionsAll_nest hblocks] at hrests
  exact ⟨pieces, blocks, nodes, hpieces, hblocks, heq, ⟨collected, count, _, hcompiles⟩,
    Block.slotless_nest (Piece.slotless_readAll hpieces) hblocks, hrests⟩

-- Rendering is compositional: two sources that can be read can be read one behind the other, and
-- what the whole renders is what the first one renders, followed by what the second one does.
theorem Template.format_concat {s t : String} {look : Look} {resolver : Resolver}
    {front back : Template} (hs : Template.read s look resolver = .ok front)
    (ht : Template.read t look resolver = .ok back) (hrests : RestFree s) (hrestt : RestFree t)
    (hplain : look.theme.style .tertiaryText = none) :
    ∃ whole, Template.read (s ++ t) look resolver = .ok whole ∧
      ∀ clock event, whole.format clock event []
        = front.format clock event [] ++ back.format clock event [] := by
  obtain ⟨frontPieces, xs, nodes, hfront, hxs, rfl, hx⟩ := compilesAlone_of_read hs hrests
  obtain ⟨backPieces, ys, others, hback, hys, rfl, hy⟩ := compilesAlone_of_read ht hrestt
  have hpieces := Piece.readAll_join hfront hback
  obtain ⟨blocks, hnest, hjoins⟩ := Block.nest_join hxs hys s.utf8ByteSize
  obtain ⟨whole, after, freeAfter, hwhole, hwrite⟩ := hx.join hy hjoins _ hplain
  refine ⟨_, read_of_compiles hpieces hnest hwhole look, fun clock event => ?_⟩
  rw [format_ofList, format_ofList, format_ofList, hwrite]

-- `é{#each x in Xs}{x}{#end}a` and `b{#each y in Xs}{y}{#delimit}-{#end}`

private def frontSource : String := "é\x7b#each x in Xs\x7d\x7bx\x7d\x7b#end\x7da"

private def frontPieces : List Piece :=
  [.text ['é'], .directive (.openEach "x" none (.property "Xs")) 2,
    .placeholder ⟨.property "x", none, none, 17⟩, .directive .close 20, .text ['a']]

private def frontBound : BoundTemplate :=
  ⟨[.text ['é'], .iteration ⟨"x", 0⟩ none (.property "Xs")
    [.placeholder ⟨.slot 0, none, none, 17⟩] none none 2, .text ['a']], 1⟩

private def frontRoot : Node :=
  .sequence [.literal ['é'], .iteration (.property "Xs") 0 none (.expression (.slot 0) none none)
    none none, .literal ['a']]

private def backSource : String :=
  "b\x7b#each y in Xs\x7d\x7by\x7d\x7b#delimit\x7d-\x7b#end\x7d"

private def backPieces : List Piece :=
  [.text ['b'], .directive (.openEach "y" none (.property "Xs")) 1,
    .placeholder ⟨.property "y", none, none, 16⟩, .directive .delimit 19, .text ['-'],
    .directive .close 30]

private def backBound : BoundTemplate :=
  ⟨[.text ['b'], .iteration ⟨"y", 0⟩ none (.property "Xs")
    [.placeholder ⟨.slot 0, none, none, 16⟩] (some [.text ['-']]) none 1], 1⟩

private def backRoot : Node :=
  .sequence [.literal ['b'], .iteration (.property "Xs") 0 none (.expression (.slot 0) none none)
    (some (.literal ['-'])) none]

private def pairEvent : Event :=
  { timestamp := midday, level := .information, messageTemplate := "", exception := none
    properties := .ofList [("Xs", .sequence [.ofString "P", .ofString "Q"])] }

private theorem readAll_front : Piece.readAll frontSource = .ok frontPieces := rfl

private theorem readAll_back : Piece.readAll backSource = .ok backPieces := rfl

private theorem read_front :
    Template.read frontSource Look.plain Resolver.empty = .ok ⟨frontRoot, Look.plain⟩ := by
  have hbound : BoundTemplate.ofPieces frontPieces = .ok frontBound := rfl
  have hroot : frontBound.lower Resolver.empty = .ok frontRoot := by
    simp [frontBound, frontRoot]
  exact Template.read_eq_ok.mpr ⟨_, _, _, readAll_front, hbound, hroot, rfl⟩

private theorem read_back :
    Template.read backSource Look.plain Resolver.empty = .ok ⟨backRoot, Look.plain⟩ := by
  have hbound : BoundTemplate.ofPieces backPieces = .ok backBound := rfl
  have hroot : backBound.lower Resolver.empty = .ok backRoot := by
    simp [backBound, backRoot]
  exact Template.read_eq_ok.mpr ⟨_, _, _, readAll_back, hbound, hroot, rfl⟩

private theorem property_restFree (name : String) : (Expr.property name).RestFree := by
  intro _ _ _ _ hcall
  cases hcall with
  | inside hchild => cases hchild

private theorem front_restFree : Template.RestFree frontSource := by
  intro pieces hpieces e he
  obtain rfl := Except.ok.inj (hpieces.symm.trans readAll_front)
  have hnames : .property "Xs" = e ∨ .property "x" = e := by
    simpa [frontPieces, Piece.expression?] using he
  rcases hnames with rfl | rfl <;> exact property_restFree _

private theorem back_restFree : Template.RestFree backSource := by
  intro pieces hpieces e he
  obtain rfl := Except.ok.inj (hpieces.symm.trans readAll_back)
  have hnames : .property "Xs" = e ∨ .property "y" = e := by
    simpa [backPieces, Piece.expression?] using he
  rcases hnames with rfl | rfl <;> exact property_restFree _

theorem Template.format_concat_loops :
    ∃ whole, Template.read (frontSource ++ backSource) Look.plain Resolver.empty = .ok whole ∧
      whole.format midday pairEvent [] = Text.encode "éPQabP-Q" := by
  obtain ⟨whole, hwhole, hformat⟩ :=
    format_concat read_front read_back front_restFree back_restFree rfl
  exact ⟨whole, hwhole, (hformat midday pairEvent).trans rfl⟩

end EventText
