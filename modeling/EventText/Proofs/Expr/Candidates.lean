import EventText.Proofs.Expr.Evaluation
import EventText.Proofs.Expr.Resolving
import Mathlib.Data.List.Nodup
import Mathlib.Data.List.Perm.Basic

namespace EventText

namespace BuiltinFunction

private theorem mem_all (f : BuiltinFunction) : f ∈ all := by
  cases f <;> decide

private theorem nodup_all : all.Nodup := by decide

-- No name is there twice in the table, however it is written, and `rest` is not in it.
private theorem names_distinct :
    ("rest" :: all.map name).map (fun name => name.toList.map Char.toLower) |>.Nodup := by
  decide

private theorem eq_of_name {f g : BuiltinFunction}
    (h : Text.sameIgnoringAsciiCase f.name g.name = true) : f = g := by
  have hnodup := (List.nodup_cons.mp names_distinct).2
  rw [List.map_map] at hnodup
  exact List.inj_on_of_nodup_map hnodup (mem_all f) (mem_all g) (beq_iff_eq.mp h)

-- The table has at most one row of a name.
theorem filter_eq_ofName? (name : String) :
    (all.filter fun f => Text.sameIgnoringAsciiCase f.name name) = (ofName? name).toList := by
  cases hfind : ofName? name with
  | none =>
      rw [Option.toList_none, List.filter_eq_nil_iff]
      exact List.find?_eq_none.mp hfind
  | some f =>
      have hname : Text.sameIgnoringAsciiCase f.name name = true := by
        have hsome := List.find?_some hfind
        exact hsome
      have hsame (g : BuiltinFunction) :
          Text.sameIgnoringAsciiCase g.name name = (g == f) := by
        rw [Bool.eq_iff_iff, beq_iff_eq]
        constructor
        · intro hg
          refine eq_of_name (beq_iff_eq.mpr ?_)
          exact (beq_iff_eq.mp hg).trans (beq_iff_eq.mp hname).symm
        · rintro rfl
          exact hname
      simp only [hsame, List.filter_beq, List.count_eq_one_of_mem nodup_all (mem_all f)]
      rfl

end BuiltinFunction

namespace Call

-- The rows of the table that accept a call.
def rows (call : Call) : List BuiltinFunction :=
  BuiltinFunction.all.filter fun f =>
    Text.sameIgnoringAsciiCase f.name call.name && f.accepts call.arity

-- What the language has for a call: rows of the table, and `rest` without arguments.
def provided (call : Call) : List Target :=
  call.rows.map (fun f => Target.function (.builtin f))
    ++ if call.arity == 0 && Text.sameIgnoringAsciiCase call.name "rest" then [Target.remaining]
      else []

-- What the caller has for it.
def supplied (resolver : Resolver) (call : Call) : List Target :=
  (resolver call.name call.arity).toList.map fun f => .function (.custom call.name f)

-- Everything that could run.
def candidates (resolver : Resolver) (call : Call) : List Target :=
  call.provided ++ call.supplied resolver

theorem rows_eq (call : Call) :
    call.rows
      = ((BuiltinFunction.ofName? call.name).filter fun f => f.accepts call.arity).toList := by
  simp only [rows, Bool.and_comm (Text.sameIgnoringAsciiCase _ _), ← List.filter_filter,
    BuiltinFunction.filter_eq_ofName?]
  cases BuiltinFunction.ofName? call.name with
  | none => rfl
  | some f => cases haccepts : f.accepts call.arity <;> simp [haccepts, Option.filter]

-- Without arguments `rest` is taken to mean itself, unless it is to ignore case.
theorem ignoreCase_of_named {call : Call} (hrest : call.isRest = false)
    (hnamed : (call.arity == 0 && Text.sameIgnoringAsciiCase call.name "rest") = true) :
    call.ignoreCase = true := by
  rw [Bool.and_eq_true] at hnamed
  simpa [isRest, hnamed.1, hnamed.2] using hrest

-- No row of the table is called `rest`.
theorem rows_of_named {call : Call}
    (hnamed : (call.arity == 0 && Text.sameIgnoringAsciiCase call.name "rest") = true) :
    call.rows = [] := by
  rw [Bool.and_eq_true] at hnamed
  rw [rows, List.filter_eq_nil_iff]
  intro f hf hrow
  rw [Bool.and_eq_true] at hrow
  have hsame := (beq_iff_eq.mp hrow.1).trans (beq_iff_eq.mp hnamed.2)
  have hnotin := (List.nodup_cons.mp BuiltinFunction.names_distinct).1
  refine hnotin ?_
  rw [List.map_map]
  exact List.mem_map.mpr ⟨f, hf, hsame⟩

-- A function of the caller next to anything that the language has is one too many.
theorem target_clash {resolver : Resolver} {call : Call} (hrest : call.isRest = false)
    (hprovided : call.provided ≠ []) (hsupplied : call.supplied resolver ≠ []) :
    ∃ fault, call.target resolver = .error fault := by
  have hrows := call.rows_eq
  rw [target, hrest, if_neg Bool.false_ne_true, Function.resolve?]
  cases hresolver : resolver call.name call.arity with
  | none => simp [supplied, hresolver] at hsupplied
  | some g =>
      cases hrow : (BuiltinFunction.ofName? call.name).filter fun f => f.accepts call.arity with
      | some f => exact ⟨_, rfl⟩
      | none =>
          rw [hrow, Option.toList_none] at hrows
          have hnamed :
              (call.arity == 0 && Text.sameIgnoringAsciiCase call.name "rest") = true := by
            simpa [provided, hrows] using hprovided
          rw [ignoreCase_of_named hrest hnamed]
          exact ⟨_, rfl⟩

-- What a call is resolved to is the only thing that could run.
theorem candidates_of_target {resolver : Resolver} {call : Call} {found : Target}
    (hrest : call.isRest = false) (h : call.target resolver = .ok found) :
    call.candidates resolver = [found] := by
  have hrows := call.rows_eq
  rw [target, hrest, if_neg Bool.false_ne_true, Function.resolve?] at h
  cases hresolver : resolver call.name call.arity with
  | none =>
      cases hrow : (BuiltinFunction.ofName? call.name).filter fun f => f.accepts call.arity with
      | none =>
          rw [hrow, hresolver] at h
          cases h
      | some f =>
          rw [hrow, Option.toList_some] at hrows
          have hother :
              (call.arity == 0 && Text.sameIgnoringAsciiCase call.name "rest") = false := by
            by_contra hnamed
            rw [Bool.not_eq_false] at hnamed
            cases hrows.symm.trans (rows_of_named hnamed)
          rw [hrow, hresolver] at h
          simp only at h
          split at h
          · cases h
          · cases h
            simp [candidates, provided, supplied, hrows, hother, hresolver]
  | some g =>
      cases hrow : (BuiltinFunction.ofName? call.name).filter fun f => f.accepts call.arity with
      | some f =>
          rw [hrow, hresolver] at h
          cases h
      | none =>
          rw [hrow, Option.toList_none] at hrows
          rw [hrow, hresolver] at h
          simp only at h
          split at h
          · cases h
          · rename_i hignore
            have hother :
                (call.arity == 0 && Text.sameIgnoringAsciiCase call.name "rest") = false := by
              by_contra hnamed
              rw [Bool.not_eq_false] at hnamed
              exact hignore (ignoreCase_of_named hrest hnamed)
            cases h
            simp [candidates, provided, supplied, hrows, hother, hresolver]

-- What may run for a call: the only candidate. For `rest()` it is always the language's own.
def Runs (resolver : Resolver) (call : Call) (found : Target) : Prop :=
  if call.isRest then found = .remaining else call.candidates resolver = [found]

theorem runs_of_target {resolver : Resolver} {call : Call} {found : Target}
    (h : call.target resolver = .ok found) : call.Runs resolver found := by
  unfold Runs
  cases hrest : call.isRest with
  | true =>
      rw [target, hrest, if_pos rfl] at h
      rw [if_pos rfl]
      exact (Except.ok.inj h).symm
  | false =>
      rw [if_neg Bool.false_ne_true]
      exact candidates_of_target hrest h

private theorem exists_targets {resolver : Resolver} {calls : List Call}
    (h : ∀ call ∈ calls, ∃ found, call.target resolver = .ok found) :
    ∃ targets, calls.map (Call.target resolver) = targets.map .ok ∧
      List.Forall₂ (Runs resolver) calls targets := by
  induction calls with
  | nil => exact ⟨[], rfl, .nil⟩
  | cons call rest ih =>
      obtain ⟨found, hfound⟩ := h call List.mem_cons_self
      obtain ⟨targets, htargets, hruns⟩ :=
        ih fun other hother => h other (List.mem_cons_of_mem _ hother)
      refine ⟨found :: targets, ?_, .cons (runs_of_target hfound) hruns⟩
      rw [List.map_cons, List.map_cons, hfound, htargets]

end Call

namespace Surroundings

-- No call is resolved in favour of one of two implementations, except that `rest()` never asks
-- for a function of the caller: any other call that has one next to something of the language
-- makes lowering fail, and after a success each call runs the only thing that it can mean, in the
-- place where it stands.
theorem lower_candidates (within : Surroundings) (e : Expr) (next : Nat) :
    (∀ call ∈ e.calls, call.isRest = false → call.provided ≠ [] →
      call.supplied within.resolver ≠ [] →
        ∃ failed ∈ e.calls, ∃ fault, within.lower e next
          = .error (.resolution fault failed.name failed.arity failed.position)) ∧
      ∀ plan after, within.lower e next = .ok (plan, after) →
        (∃ targets : List Target, targets.Perm plan.targets ∧
          List.Forall₂ (Call.Runs within.resolver) e.calls targets) ∧
        (e.SlotsBelow next → ∀ scope, plan.eval scope = e.meaning within scope.environment) := by
  constructor
  · intro call hcall hrest hprovided hsupplied
    obtain ⟨fault, hfault⟩ := Call.target_clash hrest hprovided hsupplied
    cases hlower : within.lower e next with
    | ok lowered =>
        have htarget := (targets_of_lower hlower).mem_iff.mpr
          (List.mem_map_of_mem (f := Call.target within.resolver) hcall)
        rw [hfault] at htarget
        obtain ⟨found, -, hfound⟩ := List.mem_map.mp htarget
        cases hfound
    | error failed =>
        obtain ⟨other, hother, cause, -, rfl⟩ := reported_of_lower hlower
        exact ⟨other, hother, cause, rfl⟩
  · intro plan after hlower
    have hperm := targets_of_lower hlower
    refine ⟨?_, fun hbelow scope => eval_lower hlower hbelow scope⟩
    have hresolved : ∀ call ∈ e.calls, ∃ found, call.target within.resolver = .ok found := by
      intro call hcall
      obtain ⟨found, -, hfound⟩ := List.mem_map.mp
        (hperm.mem_iff.mpr (List.mem_map_of_mem (f := Call.target within.resolver) hcall))
      exact ⟨found, hfound.symm⟩
    obtain ⟨targets, htargets, hruns⟩ := Call.exists_targets hresolved
    rw [htargets] at hperm
    have hok : Function.Injective (Except.ok : Target → Except ResolveFault Target) :=
      fun _ _ h => Except.ok.inj h
    exact ⟨targets, ((List.map_perm_map_iff hok).mp hperm).symm, hruns⟩

-- `[Length(x)]` next to a function `Length` of the caller, and `Concat(shout(x), rest())`.

private def twiceResolver : Resolver := fun name arity =>
  if arity = 1 ∧ (name = "Length" ∨ name = "shout") then some fun _ => .undefined else none

private def clashingCall : Expr := .call "Length" [.property "x"] false 1

private def clashing : Expr := .array [.item clashingCall]

private def mixedArguments : List Expr :=
  [.call "shout" [.property "x"] false 7, .call "rest" [] false 17]

private def mixed : Expr := .call "Concat" mixedArguments false 0

private def mixedPlan (f : CallerFunction) : Plan :=
  .call (.builtin .concat) [.call (.custom "shout" f) [.property "x"] false, .remaining ["x"]] false

private theorem lower_mixed :
    (Surroundings.mk twiceResolver ["x"]).lower mixed 0
      = .ok (mixedPlan fun _ => .undefined, 0) := by
  have hconcat : Function.resolve? twiceResolver "Concat" 2 false = .ok (.builtin .concat) := rfl
  have hshout : Function.resolve? twiceResolver "shout" 1 false
      = .ok (.custom "shout" fun _ => .undefined) := rfl
  simp [mixed, mixedArguments, mixedPlan, lower, lowerAll, Expr.pull, Expr.pullFirst, isRest,
    Function.resolve, hconcat, hshout, Text.sameIgnoringAsciiCase, bind, Except.bind, pure,
    Except.pure, Except.mapError]

theorem lower_candidates_calls :
    (∃ failed ∈ clashing.calls, ∃ fault,
      (Surroundings.mk twiceResolver []).lower clashing 0
        = .error (.resolution fault failed.name failed.arity failed.position)) ∧
      ∃ targets : List Target, targets.Perm (mixedPlan fun _ => .undefined).targets ∧
        List.Forall₂ (Call.Runs twiceResolver) mixed.calls targets := by
  have hcall : ⟨"Length", 1, false, 1⟩ ∈ clashing.calls :=
    Expr.mem_calls.mpr ⟨_, rfl, .inside List.mem_cons_self .here⟩
  have hprovided : Call.provided ⟨"Length", 1, false, 1⟩ = [.function (.builtin .length)] := rfl
  have hsupplied : Call.supplied twiceResolver ⟨"Length", 1, false, 1⟩
      = [.function (.custom "Length" fun _ => .undefined)] := rfl
  have hfailed := (lower_candidates ⟨twiceResolver, []⟩ clashing 0).1 _ hcall rfl
    (by rw [hprovided]; exact List.cons_ne_nil _ _) (by rw [hsupplied]; exact List.cons_ne_nil _ _)
  have hruns := (lower_candidates ⟨twiceResolver, ["x"]⟩ mixed 0).2 _ _ lower_mixed
  exact ⟨hfailed, hruns.1⟩

-- `rest()` does not ask for a function of the caller, and leaves it out without a word.

private def restResolver : Resolver := fun name arity =>
  if arity = 0 ∧ name = "rest" then some fun _ => .undefined else none

theorem lower_rest_supplied : ∃ call ∈ (Expr.call "rest" [] false 0).calls,
    call.provided ≠ [] ∧ call.supplied restResolver ≠ [] ∧
      ∃ plan after, (Surroundings.mk restResolver []).lower (.call "rest" [] false 0) 0
        = .ok (plan, after) ∧ plan.targets = [.remaining] := by
  refine ⟨⟨"rest", 0, false, 0⟩, Expr.mem_calls.mpr ⟨[], rfl, .here⟩, ?_, ?_, ?_⟩
  · have hprovided : Call.provided ⟨"rest", 0, false, 0⟩ = [.remaining] := rfl
    rw [hprovided]
    exact List.cons_ne_nil _ _
  · have hsupplied : Call.supplied restResolver ⟨"rest", 0, false, 0⟩
        = [.function (.custom "rest" fun _ => .undefined)] := rfl
    rw [hsupplied]
    exact List.cons_ne_nil _ _
  · refine ⟨.remaining [], 0, ?_, ?_⟩
    · simp [lower, Expr.pullFirst, isRest, Text.sameIgnoringAsciiCase, pure, Except.pure]
    · rw [Plan.targets_eq]
      rfl

end Surroundings

end EventText
