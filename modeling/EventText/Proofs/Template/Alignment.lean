import EventText.Proofs.Template.Themes

namespace EventText

open Text (encodeChars encodeChars_append)
open Buffer (Appends)

-- Bytes with as many spaces as their characters lack, on the side where they do not stand.
def Alignment.spaced (alignment : Alignment) (shown : Bytes) : Bytes :=
  let missing := alignment.width - (Text.decode shown).length
  match alignment.side with
  | .left => shown ++ List.replicate missing Buffer.space
  | .right => List.replicate missing Buffer.space ++ shown

theorem Alignment.encodeChars_padded (alignment : Alignment) (text : List Char) :
    encodeChars (padded (some alignment) text) = alignment.spaced (encodeChars text) := by
  have hlength : (Text.decode (encodeChars text)).length = text.length := by
    rw [Text.decode_encodeChars, String.length_ofList]
  obtain ⟨_ | _, width⟩ := alignment
  · rw [padded, encodeChars_append, Buffer.encodeChars_spaces]
    simp only [spaced, hlength]
  · rw [padded, encodeChars_append, Buffer.encodeChars_spaces]
    simp only [spaced, hlength]

theorem Alignment.escape_not_mem_padded {text : List Char}
    (h : ControlCode.escape ∉ encodeChars text) (alignment : Alignment) :
    ControlCode.escape ∉ encodeChars (padded (some alignment) text) := by
  have hspaces (count : Nat) : ControlCode.escape ∉ List.replicate count Buffer.space := by
    intro hmem
    have hspace : ControlCode.escape = Buffer.space := List.eq_of_mem_replicate hmem
    exact absurd hspace (by decide)
  rw [encodeChars_padded]
  obtain ⟨_ | _, width⟩ := alignment
  · simp only [spaced, List.mem_append, not_or]
    exact ⟨h, hspaces _⟩
  · simp only [spaced, List.mem_append, not_or]
    exact ⟨hspaces _, h⟩

namespace Node

-- What the node of a hole appends.
def shown (node : Node) (look : Look) (scope : Scope) : Bytes :=
  (node.write look scope Buffer.empty).committed

end Node

namespace Surroundings

variable {within : Surroundings} {hole : Placeholder} {next after : Nat} {node : Node}

-- The alignment of a hole goes into its node and nowhere else.
theorem lowerPlaceholder_align (h : within.lowerPlaceholder hole next = .ok (node, after))
    (alignment : Option Alignment) :
    within.lowerPlaceholder { hole with alignment } next = .ok (node.align alignment, after) := by
  unfold lowerPlaceholder at h ⊢
  simp only
  split at h
  · cases h
    rfl
  · cases h
    rfl
  · cases h
    rfl
  · cases h
    rfl
  · obtain ⟨⟨plan, used⟩, hplan, h⟩ := bind_eq_ok.mp h
    cases h
    exact bind_eq_ok.mpr ⟨(plan, after), hplan, rfl⟩

theorem aligns_of_lowerPlaceholder (h : within.lowerPlaceholder hole next = .ok (node, after))
    (hexpression : hole.expression ≠ .builtin .exception) : node.Aligns := by
  unfold lowerPlaceholder at h
  split at h
  · cases h
    exact Node.aligns_timestamp _ _
  · cases h
    exact Node.aligns_level _ _
  · cases h
    exact Node.aligns_message _
  · next heq => exact absurd heq hexpression
  · obtain ⟨⟨plan, used⟩, -, h⟩ := bind_eq_ok.mp h
    cases h
    exact Node.aligns_expression _ _ _

-- An aligned hole shows, under any theme of codes, what it shows without alignment and theme, and
-- the spaces that this lacks.
theorem strip_write_aligned {plain : Node} {theme : Theme} {culture : Culture} {scope : Scope}
    (hexpression : hole.expression ≠ .builtin .exception)
    (hplain : within.lowerPlaceholder { hole with alignment := none } next = .ok (plain, after))
    (hcoded : theme.Coded)
    (hescape : ControlCode.escape ∉ plain.shown ⟨Theme.none, culture⟩ scope)
    (alignment : Alignment) :
    Appends (plain.write ⟨Theme.none, culture⟩ scope) (plain.shown ⟨Theme.none, culture⟩ scope) ∧
      ∃ aligned bytes,
        within.lowerPlaceholder { hole with alignment := some alignment } next
          = .ok (aligned, after) ∧
        Appends (aligned.write ⟨theme, culture⟩ scope) bytes ∧
        ControlCode.strip bytes = alignment.spaced (plain.shown ⟨Theme.none, culture⟩ scope) := by
  have halign := lowerPlaceholder_align hplain
  have hnone : plain.align none = plain :=
    (Prod.mk.inj (Except.ok.inj ((halign none).symm.trans hplain))).1
  obtain ⟨text, htext⟩ := aligns_of_lowerPlaceholder hplain hexpression culture scope
  obtain ⟨bytes, count, hbytes, haligned⟩ := htext (some alignment) theme hcoded
  obtain ⟨shown, _, hshown, hwritten⟩ := htext none Theme.none Theme.coded_none
  rw [hnone, hshown.eq_encodeChars] at hwritten
  have hplainShown : plain.shown ⟨Theme.none, culture⟩ scope = encodeChars text := hwritten _
  rw [hplainShown] at hescape ⊢
  have hpadded := Alignment.escape_not_mem_padded hescape alignment
  refine ⟨hwritten, plain.align (some alignment), bytes, halign _, haligned, ?_⟩
  rw [hbytes.strip_eq hcoded hpadded, Alignment.encodeChars_padded]

-- `Hi {Name,4}`

private def guestEvent : Event :=
  { timestamp := midday, level := .information, messageTemplate := "Hi \x7bName,4\x7d"
    exception := none, properties := .ofList [("Name", .ofString "Ann")] }

private theorem shown_guest :
    (Node.message none).shown Look.plain (Scope.ofEvent guestEvent midday)
      = Text.encode "Hi  Ann" := rfl

theorem strip_write_aligned_message :
    ∃ aligned bytes,
      (Surroundings.mk Resolver.empty []).lowerPlaceholder
          ⟨.builtin .message, none, some ⟨.right, 9⟩, 0⟩ 0 = .ok (aligned, 0) ∧
        Appends (aligned.write ⟨Theme.literate, Culture.invariant⟩
          (Scope.ofEvent guestEvent midday)) bytes ∧
        ControlCode.strip bytes = Text.encode "  Hi  Ann" := by
  have hname : Theme.ofBaseName? "literate" = some Theme.literate := rfl
  have hescape : ControlCode.escape ∉
      (Node.message none).shown Look.plain (Scope.ofEvent guestEvent midday) := by
    rw [shown_guest]
    decide
  obtain ⟨-, aligned, bytes, hlower, happends, hstrip⟩ := @strip_write_aligned
    ⟨Resolver.empty, []⟩ ⟨.builtin .message, none, none, 0⟩ 0 0 (.message none) Theme.literate
    Culture.invariant (Scope.ofEvent guestEvent midday) (by simp) rfl
    (Theme.coded_ofBaseName? hname) hescape ⟨.right, 9⟩
  refine ⟨aligned, bytes, hlower, happends, hstrip.trans ?_⟩
  have hshown : (Node.message none).shown ⟨Theme.none, Culture.invariant⟩
      (Scope.ofEvent guestEvent midday) = Text.encode "Hi  Ann" := shown_guest
  rw [hshown]
  rfl

end Surroundings

end EventText
