import EventText.Time.Timestamp

namespace EventText.Rfc3339

-- Exactly `count` digits at the front.
def field (count : Nat) (chars : List Char) : Option (Nat × List Char) :=
  (Digits.read? (chars.take count)).bind fun n =>
    if (chars.take count).length = count then some (n, chars.drop count) else none

def mark (expected : List Char) : List Char → Option (List Char)
  | [] => none
  | c :: rest => if c ∈ expected then some rest else none

-- A fraction has at least one digit, and digits after the ninth are dropped.
def fraction : List Char → Option (Nat × List Char)
  | '.' :: rest =>
      match Digits.scan rest with
      | ([], _) => none
      | (digits, after) =>
          let kept := digits.take 9
          some (Digits.toNat kept * 10 ^ (9 - kept.length), after)
  | chars => some (0, chars)

-- A zone is `Z` or a signed distance in hours and minutes. U+2212 is a minus sign as well.
def zone : List Char → Option (Int × List Char)
  | [] => none
  | c :: rest =>
      if c = 'Z' ∨ c = 'z' then some (0, rest)
      else do
        let negative ←
          if c = '+' then some false
          else if c = '-' ∨ c = '\u2212' then some true
          else none
        let (hours, rest) ← field 2 rest
        let rest ← mark [':'] rest
        let (minutes, rest) ← field 2 rest
        if hours < 24 ∧ minutes < 60 then
          let seconds : Int := hours * 3600 + minutes * 60
          some (if negative then -seconds else seconds, rest)
        else none

-- Reads a timestamp and nothing after it. The second may be 60, which is a leap second.
def read? (chars : List Char) : Option Timestamp := do
  let (year, rest) ← field 4 chars
  let rest ← mark ['-'] rest
  let (month, rest) ← field 2 rest
  let rest ← mark ['-'] rest
  let (day, rest) ← field 2 rest
  let rest ← mark ['T', 't', ' '] rest
  let (hour, rest) ← field 2 rest
  let rest ← mark [':'] rest
  let (minute, rest) ← field 2 rest
  let rest ← mark [':'] rest
  let (second, rest) ← field 2 rest
  let (nanosecond, rest) ← fraction rest
  let (offset, rest) ← zone rest
  if rest = [] ∧ Calendar.isDate year month day ∧ hour < 24 ∧ minute < 60 ∧ second ≤ 60 then
    let leap := if second = 60 then 1000000000 else 0
    some { year, month, day, hour, minute
           second := min second 59
           nanosecond := nanosecond + leap
           offset }
  else none

end EventText.Rfc3339
