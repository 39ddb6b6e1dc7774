import EventText.Number.Format
import EventText.Output.Buffer
import EventText.Value.Basic

namespace EventText.Scalar

def number? : Scalar → Option Number
  | .int n => some (.int n)
  | .uint n => some (.uint n)
  | .float x => some (.float x)
  | _ => none

-- A number in a format, or in the general format when it does not understand that one.
def numberText (n : Number) (format : Option String) (culture : Culture) : List Char :=
  match format.bind fun f => n.text? f.toList culture with
  | some text => text
  | none => (n.text? ['G'] culture).getD []

-- The text of a scalar in an optional format. Only numbers and timestamps look at it.
def formatted (format : Option String) (culture : Culture) (s : Scalar) : List Char :=
  match s with
  | .timestamp t =>
      match format with
      | some pattern => (Layout.ofPattern pattern).text t
      | none => t.text
  | .int n => numberText (.int n) format culture
  | .uint n => numberText (.uint n) format culture
  | .float x => numberText (.float x) format culture
  | s => s.text

-- Writes the same text, the common cases without the detour over a format.
def write (format : Option String) (culture : Culture) (s : Scalar) (b : Buffer) : Buffer :=
  match s, format with
  | .int n, none => b.writeChars (intText n.toInt)
  | .uint n, none => b.writeChars (natText n.toNat)
  | .float x, none =>
      if x.isFinite && culture.decimalSeparator == "." then b.writeChars (floatText x)
      else b.writeChars (formatted none culture (.float x))
  | s, format => b.writeChars (s.formatted format culture)

end EventText.Scalar
