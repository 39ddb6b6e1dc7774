import EventText.Number.Digits
import EventText.Text.Case

namespace EventText

-- The severity of an event, from the least to the greatest.
inductive Level
  | verbose
  | debug
  | information
  | warning
  | error
  | fatal
deriving DecidableEq

namespace Level

def all : List Level := [verbose, debug, information, warning, error, fatal]

def ordinal : Level → Nat
  | verbose => 0
  | debug => 1
  | information => 2
  | warning => 3
  | error => 4
  | fatal => 5

def ofOrdinal? (n : Nat) : Option Level := all[n]?

def name : Level → String
  | verbose => "Verbose"
  | debug => "Debug"
  | information => "Information"
  | warning => "Warning"
  | error => "Error"
  | fatal => "Fatal"

-- Full names in any case.
def ofName? (name : String) : Option Level :=
  all.find? fun level => Text.sameIgnoringAsciiCase level.name name

-- Short forms of one to five characters.
def shortForms : Level → List String
  | verbose => ["V", "Vb", "Vrb", "Verb", "Verb "]
  | debug => ["D", "De", "Dbg", "Dbug", "Debug"]
  | information => ["I", "In", "Inf", "Info", "Info "]
  | warning => ["W", "Wn", "Wrn", "Warn", "Warn "]
  | error => ["E", "Er", "Err", "Eror", "Error"]
  | fatal => ["F", "Fa", "Ftl", "Fatl", "Fatal"]

-- The first character of a level format chooses the case.
def casing : Option Char → Char → Char
  | some 'w' => Char.toLower
  | some 'u' => Char.toUpper
  | _ => id

-- The rest of a level format is a width, written with an optional plus sign. Zero, other text
-- and a format that starts outside ASCII ask for no width.
def formatWidth? (format : List Char) : Option Nat :=
  match format with
  | [] => none
  | c :: rest =>
      if 128 ≤ c.toNat then none
      else
        let digits := match rest with
          | '+' :: digits => digits
          | digits => digits
        match Digits.read? digits with
        | some n => if 0 < n ∧ n < 2 ^ 64 then some n else none
        | none => none

-- Up to five characters come from the table of short forms so that columns line up. Wider
-- formats cut the full name.
def moniker (level : Level) (format : Option String) : List Char :=
  let format := (format.getD "").toList
  let apply := List.map (casing format.head?)
  match formatWidth? format with
  | some width =>
      if width ≤ 5 then apply (level.shortForms.getD (width - 1) "").toList
      else (apply level.name.toList).take width
  | none => apply level.name.toList

end Level

end EventText
