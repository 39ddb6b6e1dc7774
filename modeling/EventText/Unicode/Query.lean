import EventText.Unicode.Age
import EventText.Unicode.Property
import EventText.Unicode.ScriptExtension

namespace EventText.Unicode

-- A set of characters that is asked for by the name of a property. A query that asks for
-- inequality means the characters outside the set.
structure Query where
  inverted : Bool
  set : CharSet

def namedSet? (name : String) (sets : List (List String × CharSet)) : Option CharSet :=
  (sets.find? fun (names, _) => names.contains name).map (·.2)

-- Names are compared without regard to case, blanks, hyphens and underscores, and to an `is` that
-- they start with. Other characters than ASCII do not count either.
def nameKey (name : List Char) : String :=
  let key (chars : List Char) : List Char :=
    (chars.filter fun c => c.toNat < 0x80 && c != ' ' && c != '_' && c != '-').map Char.toLower
  match name with
  | 'i' :: 's' :: rest | 'i' :: 'S' :: rest | 'I' :: 's' :: rest | 'I' :: 'S' :: rest =>
      -- `isc` names an unrelated property, not the category `c`.
      if key rest = ['c'] then "isc" else String.ofList (key rest)
  | name => String.ofList (key name)

def valueSet? (property value : String) : Option CharSet :=
  match property with
  | "gc" | "generalcategory" => namedSet? value categories
  | "sc" | "script" => namedSet? value Script.all
  | "scx" | "scriptextensions" => namedSet? value scriptExtensions
  | "age" => Age.upTo value Age.all .empty
  | "gcb" | "graphemeclusterbreak" => namedSet? value Grapheme.classes
  | "sb" | "sentencebreak" => namedSet? value Sentence.classes
  | "wb" | "wordbreak" => namedSet? value Word.classes
  | _ => none

-- What stands before and behind the first place where a separator is found.
def splitAt? (separator : List Char) : List Char → Option (List Char × List Char)
  | [] => none
  | c :: rest =>
      if separator.isPrefixOf (c :: rest) then some ([], (c :: rest).drop separator.length)
      else (splitAt? separator rest).map fun (before, behind) => (c :: before, behind)

namespace Query

-- A name alone is that of a property, of a category or of a script.
def ofName? (name : String) : Option CharSet :=
  namedSet? name properties <|> namedSet? name categories <|> namedSet? name Script.all

def ofText? (text : List Char) : Option Query :=
  let compared (inverted : Bool) (parts : List Char × List Char) : Option Query :=
    (valueSet? (nameKey parts.1) (nameKey parts.2)).map (Query.mk inverted)
  match splitAt? ['!', '='] text, splitAt? [':'] text, splitAt? ['='] text with
  | some parts, _, _ => compared true parts
  | none, some parts, _ | none, none, some parts => compared false parts
  | none, none, none => (ofName? (nameKey text)).map (Query.mk false)

end Query

end EventText.Unicode
