import EventText.Proofs.Expr.Evaluation
import EventText.Proofs.Output.Showing

namespace EventText

open Text (encodeChars)
open Buffer (Appends)

-- One scalar has one text in an expression, in a message and as an argument of a function.

theorem Outcome.scalar_eq_value {s : Scalar} (h : s ≠ .null) :
    Outcome.scalar s = .value (.scalar s) := by
  cases s with
  | null => exact absurd rfl h
  | _ => rfl

-- Timestamps have a writer of their own here, which knows the pattern beforehand. Without a
-- pattern it has another one than elsewhere.
theorem Node.appends_writeOutcome {s : Scalar} {format : Option String} (hnull : s ≠ .null)
    (htimestamp : ∀ t, s = .timestamp t → format.isSome = true) :
    Appends (fun b => (Node.writeOutcome Look.plain format (.scalar s) b).1)
      (encodeChars (s.formatted format Culture.invariant)) := by
  rw [Outcome.scalar_eq_value hnull]
  have hscalar := s.appends_write format Culture.invariant
  cases s with
  | timestamp t =>
      obtain ⟨pattern, rfl⟩ := Option.isSome_iff_exists.mp (htimestamp t rfl)
      exact (Layout.ofPattern pattern).appends_write t
  | _ => exact hscalar

theorem Message.appends_writeHole {s : Scalar} {properties : Properties} {hole : MessageHole}
    (hvalue : properties.get? hole.name = some (.scalar s)) (halignment : hole.alignment = none) :
    Appends (fun b => (Message.writeHole Look.plain properties hole b).1)
      (encodeChars (s.formatted hole.format Culture.invariant)) := by
  have hscalar := s.appends_write hole.format Culture.invariant
  intro b
  simp only [writeHole, hvalue, halignment]
  exact hscalar b

theorem BuiltinFunction.apply_toString {s : Scalar} (hnull : s ≠ .null) (format : Option String)
    (clock : Timestamp) (ignoreCase : Bool) :
    BuiltinFunction.toString.apply clock ignoreCase
        (.scalar s :: (format.map Outcome.string).toList)
      = .string (String.ofList (s.formatted format Culture.invariant)) := by
  rw [Outcome.scalar_eq_value hnull]
  cases format with
  | none => rfl
  | some format => rfl

-- An expression with a format, a hole of a message with that format and the function show a
-- scalar alike. Null is left out because an expression does not show it, and a timestamp without
-- a format because an expression has the round trip pattern for it then.
theorem Scalar.shown_alike {s : Scalar} {format : Option String} (hnull : s ≠ .null)
    (htimestamp : ∀ t, s = .timestamp t → format.isSome = true) :
    let shown := String.ofList (s.formatted format Culture.invariant)
    (∀ (plan : Plan) (scope : Scope), plan.eval scope = .scalar s →
      Appends ((Node.expression plan format none).write Look.plain scope) (Text.encode shown)) ∧
    (∀ (properties : Properties) (hole : MessageHole),
      properties.get? hole.name = some (.scalar s) → hole.format = format →
      hole.alignment = none →
      Appends (fun b => (Message.writeHole Look.plain properties hole b).1)
        (Text.encode shown)) ∧
    (∀ (clock : Timestamp) (ignoreCase : Bool),
      BuiltinFunction.toString.apply clock ignoreCase
        (.scalar s :: (format.map Outcome.string).toList) = .string shown) ∧
    ∀ (s : Scalar) (format : Option String) (culture : Culture),
      Appends (s.write format culture)
        (Text.encode (String.ofList (s.formatted format culture))) := by
  intro shown
  simp only [shown, Text.encode_ofList]
  refine ⟨?_, ?_, BuiltinFunction.apply_toString hnull format, fun s => s.appends_write⟩
  · intro plan scope heval b
    have houtcome := Node.appends_writeOutcome hnull htimestamp b
    rw [Node.write, heval]
    exact houtcome
  · rintro properties hole hvalue rfl halignment
    exact Message.appends_writeHole hvalue halignment

-- `{@p['When']:u}`, `{When:u}` and `ToString(@p['When'], 'u')`
theorem Scalar.shown_alike_utc :
    let s : Scalar := .timestamp ⟨2000, 12, 31, 23, 59, 58, 123000000, 36000⟩
    let event : Event :=
      { timestamp := midday, level := .information
        messageTemplate := "\x7bWhen:u\x7d", exception := none
        properties := .ofList [("When", .scalar s)] }
    let shown := "2000-12-31 13:59:58Z"
    Appends ((Node.expression (.property "When") (some "u") none).write Look.plain
        (Scope.ofEvent event event.timestamp)) (Text.encode shown) ∧
      Appends (fun b => (Message.writeHole Look.plain event.properties
        ⟨"When", some "u", none, "\x7bWhen:u\x7d"⟩ b).1) (Text.encode shown) ∧
      BuiltinFunction.toString.apply event.timestamp false [.scalar s, .string "u"]
        = .string shown := by
  intro s event shown
  have htext : String.ofList (s.formatted (some "u") Culture.invariant) = shown := by
    decide +kernel
  obtain ⟨hexpression, hmessage, hfunction, -⟩ :=
    @Scalar.shown_alike s (some "u") nofun (fun _ _ => rfl)
  rw [htext] at hexpression hmessage hfunction
  exact ⟨hexpression _ _ rfl, hmessage _ _ rfl rfl rfl, hfunction _ _⟩

end EventText
