import EventText.Proofs.Event.Compact

namespace EventText

-- What becomes of a moment that is written as a text and read again.

theorem Timestamp.sameMoment_toUtc (s t : Timestamp) : s.toUtc.sameMoment t = s.sameMoment t := by
  have hinstant : s.toUtc.instant = s.instant := instant_atOffset s 0
  have hnanosecond : s.toUtc.nanosecond = s.nanosecond := rfl
  rw [sameMoment, hinstant, hnanosecond, sameMoment]

namespace Plan

-- `UtcDateTime(ToString(x)) = x`
def rereadEqual (x : Plan) : Plan :=
  .binary .equal (.call (.builtin .utcDateTime) [.call (.builtin .toString) [x] false] false) x
    false

theorem eval_rereadEqual {x : Plan} {scope : Scope} {t u : Timestamp}
    (hx : x.eval scope = .scalar (.timestamp t)) (hu : Rfc3339.read? t.text = some u) :
    x.rereadEqual.eval scope = .bool (u.sameMoment t) := by
  have htext : (Plan.call (.builtin .toString) [x] false).eval scope
      = .string (String.ofList t.text) := by
    rw [Plan.eval, Plan.evalAll, Plan.evalAll, hx]
    rfl
  have hread : (Plan.call (.builtin .utcDateTime) [.call (.builtin .toString) [x] false] false).eval
      scope = .scalar (.timestamp u.toUtc) := by
    have hback : BuiltinFunction.timestampOf? (.string (String.ofList t.text)) = some u := by
      have htimestamp (s : String) :
          BuiltinFunction.timestampOf? (.string s) = Rfc3339.read? s.toList := rfl
      rw [htimestamp, String.toList_ofList, hu]
    rw [Plan.eval, Plan.evalAll, Plan.evalAll, htext]
    simp only [Function.apply, BuiltinFunction.apply, BuiltinFunction.utcOf, hback]
  rw [rereadEqual, Plan.eval, hread, hx, ← Timestamp.sameMoment_toUtc]
  simp only [BinaryOp.apply, Outcome.scalar, Outcome.ofValue, Outcome.equal, Value.equal,
    Scalar.equal]

theorem read_rereadEqual : Plan.read "UtcDateTime(ToString(@t)) = @t" Resolver.empty
    = .ok (rereadEqual (.builtin .timestamp)) := by
  let e : Expr := .binary .equal
    (.call "UtcDateTime" [.call "ToString" [.builtin .timestamp] false 12] false 0)
    (.builtin .timestamp) false 26
  have hread : Expr.read "UtcDateTime(ToString(@t)) = @t" = .ok e := rfl
  have hutc : Function.resolve Resolver.empty "UtcDateTime" 1 false 0
      = .ok (.builtin .utcDateTime) := rfl
  have hstring : Function.resolve Resolver.empty "ToString" 1 false 12
      = .ok (.builtin .toString) := rfl
  have hrest (name : String) (x : Expr) : Surroundings.isRest name [x] false = false := by
    simp [Surroundings.isRest]
  have hplan : (Surroundings.mk Resolver.empty e.references).lower e 0
      = .ok (rereadEqual (.builtin .timestamp), 0) := by
    simp [e, Surroundings.lower, Surroundings.lowerAll, Expr.pullFirst, Expr.pullEither, Expr.pull,
      hutc, hstring, hrest, bind, Except.bind, pure, Except.pure, rereadEqual]
  exact bind_eq_ok.mpr ⟨_, hread, bind_eq_ok.mpr ⟨_, hplan, rfl⟩⟩

end Plan

namespace Timestamp

-- What a timestamp is after it was written as a text, for a reader of the text, in an expression
-- and in an event that went through a line. The moment is another one in leap seconds only.
structure Rewritten (t u : Timestamp) : Prop where
  text : Rfc3339.read? (Scalar.timestamp t).text = some u
  offset_eq : u.offset = t.offset
  sameMoment_iff : u.sameMoment t = true ↔ ¬t.Leap
  eq_of_not_leap : ¬t.Leap → u = t
  equation : ∀ x scope, Plan.eval x scope = .scalar (.timestamp t) →
    x.rereadEqual.eval scope = .bool (decide ¬t.Leap)
  expression : ∃ plan, Plan.read "UtcDateTime(ToString(@t)) = @t" Resolver.empty = .ok plan ∧
    ∀ clock event, event.timestamp = t →
      plan.eval (Scope.ofEvent event clock) = .bool (decide ¬t.Leap)
  line : ∀ (look : Look) (resolver : Resolver), look.theme = Theme.none → ∃ template,
    Template.read Compact.layout look resolver = .ok template ∧
      ∀ clock event, event.Carried → event.timestamp = t →
        Compact.read (template.render clock event) = .ok { event with timestamp := u }

theorem exists_rewritten {chars : List Char} {t : Timestamp} (h : Rfc3339.read? chars = some t)
    (hhundreds : t.nanosecond % 100 = 0) : ∃ u, t.Rewritten u := by
  obtain ⟨htold, -⟩ := Rfc3339.told_of_read? h
  have hread := Rfc3339.read?_text_of_told htold
  have hsame := sameMoment_reread htold hhundreds
  have hequation (x : Plan) (scope : Scope) (hx : x.eval scope = .scalar (.timestamp t)) :
      x.rereadEqual.eval scope = .bool (decide ¬t.Leap) := by
    have hdecide : t.reread.sameMoment t = decide ¬t.Leap := by
      rw [Bool.eq_iff_iff, hsame, decide_eq_true_iff]
    rw [Plan.eval_rereadEqual hx hread, hdecide]
  refine ⟨t.reread, ?_⟩
  constructor
  case text => exact hread
  case offset_eq => rfl
  case sameMoment_iff => exact hsame
  case eq_of_not_leap => exact fun hleap => reread_of_not_leap hleap hhundreds
  case equation => exact hequation
  case expression =>
    refine ⟨_, Plan.read_rereadEqual, ?_⟩
    rintro clock event rfl
    refine hequation _ _ ?_
    rw [Plan.eval]
    rfl
  case line =>
    intro look resolver hlook
    refine ⟨Compact.template look, Compact.read_layout look resolver, ?_⟩
    rintro clock event hcarried rfl
    rw [hcarried.render_template hlook, Compact.read_carried hcarried hread]

theorem exists_rewritten_west :
    let t : Timestamp := ⟨1990, 12, 31, 15, 59, 59, 250000100, -28800⟩
    Rfc3339.read? "1990-12-31T15:59:59.2500001-08:00".toList = some t ∧ t.nanosecond % 100 = 0 ∧
      t.Rewritten t := by
  intro t
  have hread : Rfc3339.read? "1990-12-31T15:59:59.2500001-08:00".toList = some t := by
    decide +kernel
  have hhundreds : t.nanosecond % 100 = 0 := by decide
  have hsecond : ¬t.Leap := by decide
  obtain ⟨u, hrewritten⟩ := exists_rewritten hread hhundreds
  obtain rfl := hrewritten.eq_of_not_leap hsecond
  exact ⟨hread, hhundreds, hrewritten⟩

-- The eight digits of the fraction are read as a tenth of a second.
theorem lost_in_leap_second :
    let t : Timestamp := ⟨2016, 12, 31, 23, 59, 59, 1000000000, 0⟩
    let u : Timestamp := ⟨2016, 12, 31, 23, 59, 59, 1100000000, 0⟩
    Rfc3339.read? "2016-12-31T23:59:60Z".toList = some t ∧ t.nanosecond % 100 = 0 ∧
      (Scalar.timestamp t).text = "2016-12-31T23:59:60.10000000+00:00".toList ∧
      Rfc3339.read? (Scalar.timestamp t).text = some u ∧ u.sameMoment t = false := by
  decide +kernel

end Timestamp

end EventText
