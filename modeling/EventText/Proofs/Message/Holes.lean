import EventText.Message.Template
import EventText.Proofs.Output.AlignmentText

namespace EventText

namespace MessageHole

-- What may stand behind the name of a hole: an alignment, which may have blanks around it, behind a
-- comma, and a format behind a colon.

inductive AlignmentPart : Option Alignment → List Char → Prop
  | none : AlignmentPart none []
  | some {alignment : Alignment} {text : List Char} (h : alignment.Spelled (Text.trim text)) :
      AlignmentPart (some alignment) (',' :: text)

inductive FormatPart : Option String → List Char → Prop
  | none : FormatPart none []
  | some {format : List Char} (hne : format ≠ []) (hopen : '\x7b' ∉ format)
      (hclose : '\x7d' ∉ format) : FormatPart (some (String.ofList format)) (':' :: format)

-- How a hole is written: between braces perhaps a hint, then a name, and perhaps an alignment and a
-- format.
inductive IsWritten : MessageHole → List Char → Prop
  | braces {hint name aligned formatted : List Char} {alignment : Option Alignment}
      {format : Option String} (hhint : hint ∈ [[], ['@'], ['$']]) (hne : name ≠ [])
      (hname : ∀ c ∈ name, Text.isNameChar c) (halignment : AlignmentPart alignment aligned)
      (hformat : FormatPart format formatted) :
      IsWritten
        { name := String.ofList name, format, alignment
          raw := String.ofList ('\x7b' :: (hint ++ name ++ aligned ++ formatted) ++ ['\x7d']) }
        ('\x7b' :: (hint ++ name ++ aligned ++ formatted) ++ ['\x7d'])

theorem AlignmentPart.not_mem {alignment : Option Alignment} {aligned : List Char}
    (h : AlignmentPart alignment aligned) {c : Char}
    (hc : Text.isBlank c = false ∧ c.isDigit = false ∧ c ∉ ['-', '+', ',']) : c ∉ aligned := by
  cases h with
  | none => exact List.not_mem_nil
  | some hspelled =>
    obtain ⟨hblank, hdigit, hnot⟩ := hc
    have hsign : c ∉ ['-', '+'] := fun hmem => hnot (List.mem_append_left [','] hmem)
    have hread := Alignment.read?_eq_some_iff.mpr hspelled
    have htext := Alignment.not_mem_of_read? hread hblank ⟨hdigit, hsign⟩
    exact fun hmem => (List.mem_cons.mp hmem).elim (fun heq => hnot (by simp [heq])) htext

theorem FormatPart.brace_not_mem {format : Option String} {formatted : List Char}
    (h : FormatPart format formatted) : '\x7b' ∉ formatted ∧ '\x7d' ∉ formatted := by
  cases h with
  | none => exact ⟨List.not_mem_nil, List.not_mem_nil⟩
  | some _ hopen hclose =>
    exact ⟨fun hmem => (List.mem_cons.mp hmem).elim (by decide) hopen,
      fun hmem => (List.mem_cons.mp hmem).elim (by decide) hclose⟩

theorem FormatPart.exists_chars {format : Option String} {formatted : List Char}
    (h : FormatPart format formatted) : ∃ chars : Option (List Char), chars ≠ .some [] ∧
      formatted = chars.elim [] (':' :: ·) ∧ format = chars.map String.ofList := by
  cases h with
  | none => exact ⟨.none, by simp, rfl, rfl⟩
  | some hne _ _ => exact ⟨.some _, by simpa using hne, rfl, rfl⟩

theorem IsWritten.toList_raw {hole : MessageHole} {text : List Char} (h : hole.IsWritten text) :
    hole.raw.toList = text := by
  cases h
  exact String.toList_ofList

-- There are no braces in a hole but the outer ones.
theorem IsWritten.exists_inner {hole : MessageHole} {text : List Char} (h : hole.IsWritten text) :
    ∃ inner, text = '\x7b' :: inner ++ ['\x7d'] ∧ '\x7b' ∉ inner ∧ '\x7d' ∉ inner := by
  cases h with
  | @braces hint name aligned formatted alignment format hhint hne hname haligned hformatted =>
    have hplain {c : Char} (hhints : c ∉ ['@', '$']) (hc : Text.isNameChar c = false)
        (hparts : c ∉ aligned ∧ c ∉ formatted) : c ∉ hint ++ name ++ aligned ++ formatted := by
      have hnot : c ∉ name := fun hmem => by
        rw [hname c hmem] at hc
        cases hc
      have hnotHint : c ∉ hint := by
        simp only [List.mem_cons, List.not_mem_nil, or_false] at hhint hhints
        rcases hhint with rfl | rfl | rfl <;> simp_all
      simp only [List.mem_append, not_or]
      exact ⟨⟨⟨hnotHint, hnot⟩, hparts.1⟩, hparts.2⟩
    obtain ⟨hopen, hclose⟩ := hformatted.brace_not_mem
    exact ⟨_, rfl, hplain (by decide) (by decide) ⟨haligned.not_mem (by decide), hopen⟩,
      hplain (by decide) (by decide) ⟨haligned.not_mem (by decide), hclose⟩⟩

end MessageHole

namespace MessageTemplate

open MessageHole (AlignmentPart FormatPart IsWritten)

theorem splitAt?_eq_some_iff {mark : Char} {chars front back : List Char} :
    splitAt? mark chars = some (front, back) ↔ chars = front ++ mark :: back ∧ mark ∉ front := by
  have hsplit {front back : List Char} (hfront : mark ∉ front) :
      splitAt? mark (front ++ mark :: back) = some (front, back) := by
    have hall : ∀ c ∈ front, (c != mark) = true := fun c hc =>
      bne_iff_ne.mpr fun heq => hfront (heq ▸ hc)
    rw [splitAt?, if_pos (by simp), List.takeWhile_append_of_pos hall,
      List.dropWhile_append_of_pos hall, List.takeWhile_cons_of_neg (by simp),
      List.dropWhile_cons_of_neg (by simp), List.append_nil, List.drop_one, List.tail_cons]
  constructor
  · intro h
    by_cases hmem : mark ∈ chars
    · obtain ⟨before, after, rfl, hbefore⟩ := List.eq_append_cons_of_mem hmem
      rw [hsplit hbefore] at h
      cases h
      exact ⟨rfl, hbefore⟩
    · rw [splitAt?, if_neg hmem] at h
      cases h
  · rintro ⟨rfl, hfront⟩
    exact hsplit hfront

theorem splitAt?_eq_none_iff {mark : Char} {chars : List Char} :
    splitAt? mark chars = none ↔ mark ∉ chars := by
  simp [splitAt?]

theorem closing?_eq_some_iff {chars inner after : List Char} :
    closing? chars = some (inner, after) ↔
      chars = inner ++ '\x7d' :: after ∧ '\x7b' ∉ inner ∧ '\x7d' ∉ inner := by
  unfold closing?
  constructor
  · intro h
    split at h
    · next rest hrest =>
      obtain ⟨rfl, rfl⟩ := Prod.mk.inj (Option.some.inj h)
      refine ⟨?_, fun hopen => ?_, fun hclose => ?_⟩
      · rw [← hrest, List.takeWhile_append_dropWhile]
      · exact absurd (List.mem_takeWhile_imp hopen) (by decide)
      · exact absurd (List.mem_takeWhile_imp hclose) (by decide)
    · cases h
  · rintro ⟨rfl, hopen, hclose⟩
    have hall : ∀ c ∈ inner, (c != '\x7b' && c != '\x7d') = true := by
      intro c hc
      simp only [Bool.and_eq_true, bne_iff_ne]
      exact ⟨fun heq => hopen (heq ▸ hc), fun heq => hclose (heq ▸ hc)⟩
    simp only [List.dropWhile_append_of_pos hall, List.takeWhile_append_of_pos hall]
    simp

-- A hole is read in three steps: the hint is passed over, the format is taken off, then the
-- alignment.

def unhinted : List Char → List Char
  | '@' :: rest => rest
  | '$' :: rest => rest
  | rest => rest

def takeFormat (hinted : List Char) : List Char × Option (List Char) :=
  match splitAt? ':' hinted with
  | some (head, format) => (head, some format)
  | none => (hinted, none)

def takeAlignment? (head : List Char) : Option (List Char × Option Alignment) :=
  match splitAt? ',' head with
  | some (name, text) => (Alignment.read? text).map fun alignment => (name, some alignment)
  | none => some (head, none)

theorem readHole_eq (inner : List Char) :
    readHole inner = (takeAlignment? (takeFormat (unhinted inner)).1).bind fun part =>
      if part.1 = [] ∨ !part.1.all Text.isNameChar ∨ (takeFormat (unhinted inner)).2 = some [] then
        none
      else
        some { name := String.ofList part.1
               format := (takeFormat (unhinted inner)).2.map String.ofList
               alignment := part.2
               raw := String.ofList ('\x7b' :: inner ++ ['\x7d']) } := by
  change (match splitAt? ',' (takeFormat (unhinted inner)).1 with
    | some (name, text) => _
    | none => _) = _
  unfold takeAlignment?
  split <;> rfl

theorem exists_hint (inner : List Char) :
    ∃ hint ∈ [[], ['@'], ['$']], inner = hint ++ unhinted inner := by
  unfold unhinted
  split
  · exact ⟨['@'], by simp, rfl⟩
  · exact ⟨['$'], by simp, rfl⟩
  · exact ⟨[], by simp, rfl⟩

theorem unhinted_append {hint rest : List Char} (hhint : hint ∈ [[], ['@'], ['$']])
    (hrest : ∀ c ∈ rest.head?, Text.isNameChar c) : unhinted (hint ++ rest) = rest := by
  simp only [List.mem_cons, List.not_mem_nil, or_false] at hhint
  rcases hhint with rfl | rfl | rfl
  · rw [List.nil_append]
    unfold unhinted
    split
    · exact absurd (hrest '@' rfl) (by decide)
    · exact absurd (hrest '$' rfl) (by decide)
    · rfl
  · rfl
  · rfl

theorem takeFormat_eq_iff {hinted head : List Char} {format : Option (List Char)} :
    takeFormat hinted = (head, format) ↔
      ':' ∉ head ∧ hinted = head ++ format.elim [] (':' :: ·) := by
  unfold takeFormat
  constructor
  · intro h
    split at h
    · next hsplit =>
      cases h
      exact (splitAt?_eq_some_iff.mp hsplit).symm
    · next hsplit =>
      cases h
      exact ⟨splitAt?_eq_none_iff.mp hsplit, (List.append_nil _).symm⟩
  · rintro ⟨hhead, rfl⟩
    cases format with
    | none =>
      rw [Option.elim_none, List.append_nil, splitAt?_eq_none_iff.mpr hhead]
    | some format =>
      rw [Option.elim_some, splitAt?_eq_some_iff.mpr ⟨rfl, hhead⟩]

theorem takeAlignment?_eq_some_iff {head name : List Char} {alignment : Option Alignment} :
    takeAlignment? head = some (name, alignment) ↔
      ',' ∉ name ∧ ∃ aligned, AlignmentPart alignment aligned ∧ head = name ++ aligned := by
  unfold takeAlignment?
  constructor
  · intro h
    split at h
    · next hsplit =>
      obtain ⟨hhead, hname⟩ := splitAt?_eq_some_iff.mp hsplit
      obtain ⟨found, hread, h⟩ := Option.map_eq_some_iff.mp h
      cases h
      exact ⟨hname, _, .some (Alignment.read?_eq_some_iff.mp hread), hhead⟩
    · next hsplit =>
      cases h
      exact ⟨splitAt?_eq_none_iff.mp hsplit, [], .none, (List.append_nil _).symm⟩
  · rintro ⟨hname, aligned, hpart, rfl⟩
    cases hpart with
    | none => rw [List.append_nil, splitAt?_eq_none_iff.mpr hname]
    | some hspelled =>
      rw [splitAt?_eq_some_iff.mpr ⟨rfl, hname⟩]
      simp only [Alignment.read?_eq_some_iff.mpr hspelled, Option.map_some]

theorem isWritten_of_readHole {inner : List Char} {hole : MessageHole} (hopen : '\x7b' ∉ inner)
    (hclose : '\x7d' ∉ inner) (h : readHole inner = some hole) :
    hole.IsWritten ('\x7b' :: inner ++ ['\x7d']) := by
  rw [readHole_eq] at h
  generalize hformat : takeFormat (unhinted inner) = taken at h
  obtain ⟨head, format⟩ := taken
  obtain ⟨⟨name, alignment⟩, hname, h⟩ := Option.bind_eq_some_iff.mp h
  obtain ⟨-, hhinted⟩ := takeFormat_eq_iff.mp hformat
  obtain ⟨-, aligned, haligned, rfl⟩ := takeAlignment?_eq_some_iff.mp hname
  obtain ⟨hint, hhint, hinner⟩ := exists_hint inner
  rw [hhinted, ← List.append_assoc, ← List.append_assoc] at hinner
  subst hinner
  split at h
  · cases h
  · next hvalid =>
    simp only [not_or, Bool.not_eq_true', Bool.not_eq_false, List.all_eq_true] at hvalid
    obtain ⟨hne, hall, hformatted⟩ := hvalid
    cases h
    refine .braces hhint hne hall haligned ?_
    cases format with
    | none => exact .none
    | some format =>
      simp only [Option.elim_some, List.mem_append, List.mem_cons, not_or] at hopen hclose
      exact .some (fun hnil => hformatted (congrArg some hnil)) hopen.2.2 hclose.2.2

theorem readHole_of_isWritten {inner : List Char} {hole : MessageHole}
    (h : hole.IsWritten ('\x7b' :: inner ++ ['\x7d'])) : readHole inner = some hole := by
  generalize htext : '\x7b' :: inner ++ ['\x7d'] = text at h
  cases h with
  | @braces hint name aligned formatted alignment format hhint hne hname haligned hformatted =>
    obtain rfl : inner = hint ++ name ++ aligned ++ formatted :=
      List.append_cancel_right (List.cons.inj htext).2
    obtain ⟨chars, hchars, rfl, rfl⟩ := hformatted.exists_chars
    -- Names have no marks in them, so that each mark is found where its part starts.
    have hplain {c : Char} (hc : Text.isNameChar c = false) : c ∉ name := fun hmem => by
      rw [hname c hmem] at hc
      cases hc
    have hhinted : unhinted (hint ++ name ++ aligned ++ chars.elim [] (':' :: ·))
        = name ++ aligned ++ chars.elim [] (':' :: ·) := by
      simp only [List.append_assoc]
      refine unhinted_append hhint fun c hc => hname c ?_
      obtain ⟨first, others, rfl⟩ := List.exists_cons_of_ne_nil hne
      obtain rfl : first = c := by simpa using hc
      exact List.mem_cons_self
    have hhead : ':' ∉ name ++ aligned := fun hmem =>
      (List.mem_append.mp hmem).elim (hplain (by decide)) (haligned.not_mem (by decide))
    have hformat : takeFormat (unhinted
        (hint ++ name ++ aligned ++ chars.elim [] (':' :: ·))) = (name ++ aligned, chars) := by
      rw [hhinted]
      exact takeFormat_eq_iff.mpr ⟨hhead, rfl⟩
    have halignment : takeAlignment? (name ++ aligned) = some (name, alignment) :=
      takeAlignment?_eq_some_iff.mpr ⟨hplain (by decide), aligned, haligned, rfl⟩
    rw [readHole_eq, hformat, halignment, Option.bind_some, if_neg]
    simp only [not_or, Bool.not_eq_true', Bool.not_eq_false, List.all_eq_true]
    exact ⟨hne, hname, hchars⟩

end MessageTemplate

end EventText
