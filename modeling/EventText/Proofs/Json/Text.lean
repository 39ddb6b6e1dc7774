import EventText.Json.Writer
import EventText.Json.Document
import EventText.Proofs.Value.Parts

namespace EventText

-- The text of a value in JSON, without the roles of its tokens.

namespace Json

def joined : List (List Char) → List Char
  | [] => []
  | text :: rest => text ++ rest.flatMap (',' :: ·)

def memberText (name : String) (value : List Char) : List Char := quoteString name ++ ':' :: value

def scalarText (s : Scalar) : List Char := (scalarToken s).2

def enclosedText (opening closing : Char) (texts : List (List Char)) : List Char :=
  opening :: (joined texts ++ [closing])

theorem flatMap_itemTokens (first : Bool) (items : List Value) :
    (itemTokens first items).flatMap (·.2) =
      if first then joined (items.map Value.json)
      else (items.map Value.json).flatMap (',' :: ·) := by
  induction items generalizing first with
  | nil => cases first <;> rfl
  | cons item rest ih =>
    cases first <;>
      simp [itemTokens, ih, joined, Value.json, punctuation]

theorem flatMap_memberTokens (first : Bool) (members : List (String × Value)) :
    (memberTokens first members).flatMap (·.2) =
      if first then joined (members.map fun m => memberText m.1 m.2.json)
      else (members.map fun m => memberText m.1 m.2.json).flatMap (',' :: ·) := by
  induction members generalizing first with
  | nil => cases first <;> rfl
  | cons member rest ih =>
    cases first <;>
      simp [memberTokens, ih, joined, Value.json, punctuation, memberText, memberName]

theorem flatMap_entryTokens (first : Bool) (entries : List (Scalar × Value)) :
    (entryTokens first entries).flatMap (·.2) =
      if first then joined (entries.map fun e => memberText (String.ofList e.1.text) e.2.json)
      else (entries.map fun e => memberText (String.ofList e.1.text) e.2.json).flatMap
        (',' :: ·) := by
  induction entries generalizing first with
  | nil => cases first <;> rfl
  | cons entry rest ih =>
    cases first <;>
      simp [entryTokens, ih, joined, Value.json, punctuation, memberText, keyToken, quoteString]

end Json

namespace Value

open Json

-- The names of the members of a record, and the texts of the keys of a dictionary.
def names : Value → List String
  | .record members _ => members.map (·.1)
  | .dictionary entries => entries.map fun e => String.ofList e.1.text
  | _ => []

-- A record or a dictionary as an object: a tag is a last member, keys are names by their text.
def fields : Value → List (String × Value)
  | .record members tag => members ++ tag.toList.map fun t => (typeTagMember, .ofString t)
  | .dictionary entries => entries.map fun e => (String.ofList e.1.text, e.2)
  | _ => []

theorem mem_fields {v : Value} {f : String × Value} (h : f ∈ v.fields) :
    f.2 ∈ v.children ∨ ∃ text, (∃ members, v = .record members (some text)) ∧
      f = (typeTagMember, .ofString text) := by
  cases v with
  | scalar s => cases h
  | sequence items => cases h
  | record members tag =>
    rcases List.mem_append.mp h with h | h
    · exact .inl (List.mem_map_of_mem h)
    · obtain ⟨text, htext, rfl⟩ := List.mem_map.mp h
      obtain rfl := Option.mem_toList.mp htext
      exact .inr ⟨text, ⟨members, rfl⟩, rfl⟩
  | dictionary entries =>
    obtain ⟨entry, hentry, rfl⟩ := List.mem_map.mp h
    exact .inl (List.mem_map_of_mem hentry)

theorem json_scalar (s : Scalar) : (scalar s).json = scalarText s := by
  simp [json, tokens, scalarText]

theorem json_sequence (items : List Value) :
    (sequence items).json = enclosedText '[' ']' (items.map json) := by
  simp [json, tokens, flatMap_itemTokens, enclosedText, punctuation]

theorem json_record (members : List (String × Value)) (tag : Option String) :
    (record members tag).json = enclosedText '\x7b' '\x7d'
      ((record members tag).fields.map fun f => memberText f.1 f.2.json) := by
  have hmembers := flatMap_memberTokens true members
  cases tag with
  | none =>
    simp [json, tokens, hmembers, tagTokens, enclosedText, punctuation, fields]
  | some t =>
    cases members with
    | nil =>
      simp [json, tokens, memberTokens, tagTokens, enclosedText, punctuation, fields, joined,
        memberText, memberName, ofString, scalarToken]
    | cons member rest =>
      simp [json, tokens, hmembers, tagTokens, enclosedText, punctuation, fields, joined,
        memberText, memberName, ofString, scalarToken]

theorem json_dictionary (entries : List (Scalar × Value)) :
    (dictionary entries).json = enclosedText '\x7b' '\x7d'
      ((dictionary entries).fields.map fun f => memberText f.1 f.2.json) := by
  simp [json, tokens, flatMap_entryTokens, enclosedText, punctuation, fields, Function.comp_def]

end Value

end EventText
