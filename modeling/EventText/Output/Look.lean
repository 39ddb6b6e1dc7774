import EventText.Number.Format
import EventText.Output.Theme

namespace EventText

-- How values look: the styles of a theme and the separators of a culture.
structure Look where
  theme : Theme
  culture : Culture

def Look.plain : Look := ⟨Theme.none, Culture.invariant⟩

namespace Culture

def readSeparator (fallback : String) : Option Json → Option String
  | none => some fallback
  | some (.string text) => some text
  | some _ => none

-- A description of a culture: its separators, both optional. It is an object, whose other members
-- are ignored, or a list of the two.
def ofJson? : Json → Option Culture
  | .object members => do
      let decimal ← readSeparator "." (Members.get? members "decimal_separator")
      let group ← readSeparator "," (Members.get? members "group_separator")
      return ⟨decimal, group⟩
  | .array items =>
      if 2 < items.length then none
      else do
        let decimal ← readSeparator "." items[0]?
        let group ← readSeparator "," items[1]?
        return ⟨decimal, group⟩
  | _ => none

end Culture

end EventText
