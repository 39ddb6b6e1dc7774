import EventText.Proofs.Expr.Resolving
import EventText.Proofs.Json.Lexemes
import EventText.Proofs.Json.Text
import EventText.Proofs.Value.Members
import Mathlib.Data.List.Forall2
import Mathlib.Data.List.Induction
import Mathlib.Data.List.Nodup

namespace EventText

namespace Members

private theorem eraseDups_concat_of_mem {names : List String} {name : String} (h : name ∈ names) :
    (names ++ [name]).eraseDups = names.eraseDups := by
  have hnone : [name].removeAll names = [] := by simp [List.removeAll, h]
  rw [List.eraseDups_append, hnone, List.eraseDups_nil, List.append_nil]

private theorem eraseDups_concat_of_not_mem {names : List String} {name : String}
    (h : name ∉ names) : (names ++ [name]).eraseDups = names.eraseDups ++ [name] := by
  have hall : [name].removeAll names = [name] := by simp [List.removeAll, h]
  rw [List.eraseDups_append, hall]
  rfl

theorem ofContributions_concat (contributions : List (String × Value)) (last : String × Value) :
    ofContributions (contributions ++ [last])
      = put (ofContributions contributions) last.1 last.2 := by
  simp only [ofContributions, List.foldl_concat]

-- Every name that is contributed stands at the place where it came first.
theorem names_ofContributions (contributions : List (String × Value)) :
    names (ofContributions contributions) = (names contributions).eraseDups := by
  induction contributions using List.reverseRecOn with
  | nil => rfl
  | append_singleton contributions last ih =>
    have hnames : names (contributions ++ [last]) = names contributions ++ [last.1] :=
      List.map_append
    have hiff : last.1 ∈ names (ofContributions contributions) ↔ last.1 ∈ names contributions := by
      rw [ih, List.mem_eraseDups]
    rw [ofContributions_concat, hnames]
    by_cases hmem : last.1 ∈ names contributions
    · rw [names_put_of_mem _ (hiff.mpr hmem), ih, eraseDups_concat_of_mem hmem]
    · rw [put_of_not_mem _ (mt hiff.mp hmem), names, List.map_append, ← names, ih,
        eraseDups_concat_of_not_mem hmem]
      rfl

theorem nodup_ofContributions (contributions : List (String × Value)) :
    (names (ofContributions contributions)).Nodup := by
  induction contributions using List.reverseRecOn with
  | nil => exact List.nodup_nil
  | append_singleton contributions last ih =>
    rw [ofContributions_concat]
    exact nodup_put _ _ _ ih

-- The last contribution of a name has replaced those before it.
theorem get?_ofContributions (contributions : List (String × Value)) (name : String) :
    get? (ofContributions contributions) name = get? contributions.reverse name := by
  induction contributions using List.reverseRecOn with
  | nil => rfl
  | append_singleton contributions last ih =>
    rw [ofContributions_concat, List.reverse_concat, get?_put, get?_cons, ih]

-- A list of members that holds what is contributed in turn as a map.
structure Merges (contributed fields : List (String × Value)) : Prop where
  distinct : (names fields).Nodup
  order : names fields = (names contributed).eraseDups
  last : ∀ name, get? fields name = get? contributed.reverse name

theorem merges_ofContributions (contributions : List (String × Value)) :
    Merges contributions (ofContributions contributions) where
  distinct := nodup_ofContributions contributions
  order := names_ofContributions contributions
  last := get?_ofContributions contributions

end Members

def Scalar.isString : Scalar → Bool
  | .string _ => true
  | _ => false

-- What a member of an object literal contributes: a named one its value, null included, if there
-- is a value, a spread the members of a record or the entries of a dictionary whose keys are
-- strings.
inductive Contributes : Member Outcome → List (String × Value) → Prop
  | undefined {name} : Contributes (.named name .undefined) []
  | null {name} : Contributes (.named name .null) [(name, .null)]
  | value {name v} : Contributes (.named name (.value v)) [(name, v)]
  | record {members tag} : Contributes (.spread (.value (.record members tag))) members
  | dictionary {entries members}
      (texts : members.map (fun member => (Scalar.string member.1, member.2))
        = entries.filter fun entry => entry.1.isString) :
      Contributes (.spread (.value (.dictionary entries))) members
  | nothing {o} (norecord : ∀ members tag, o ≠ .value (.record members tag))
      (nodictionary : ∀ entries, o ≠ .value (.dictionary entries)) : Contributes (.spread o) []

private theorem stringEntries_eq (entries : List (Scalar × Value)) :
    ((Outcome.value (.dictionary entries)).spreadMembers.map fun member =>
      (Scalar.string member.1, member.2)) = entries.filter fun entry => entry.1.isString := by
  rw [Outcome.spreadMembers]
  induction entries with
  | nil => rfl
  | cons entry rest ih =>
    obtain ⟨key, value⟩ := entry
    cases key <;> simp_all [Scalar.isString]

theorem contributes_contributions (member : Member Outcome) :
    Contributes member member.contributions := by
  cases member with
  | named name o =>
    cases o with
    | undefined => exact .undefined
    | null => exact .null
    | value v => exact .value
  | spread o =>
    cases o with
    | undefined => exact .nothing nofun nofun
    | null => exact .nothing nofun nofun
    | value v =>
      cases v with
      | scalar s => exact .nothing nofun nofun
      | sequence items => exact .nothing nofun nofun
      | record members tag => exact .record
      | dictionary entries => exact .dictionary (stringEntries_eq entries)

theorem Json.quoteString_injective : Function.Injective Json.quoteString := by
  intro first second h
  have hfirst := Json.quoted_quoteString first []
  rw [h, Json.quoted_quoteString second []] at hfirst
  exact (congrArg Prod.fst (Option.some.inj hfirst)).symm

-- The names in the text of a record are as distinct as its members.
theorem Members.Merges.nodup_quoted {contributed fields : List (String × Value)}
    (h : Merges contributed fields) : ((names fields).map Json.quoteString).Nodup :=
  List.Nodup.map Json.quoteString_injective h.distinct

namespace Surroundings

variable {within : Surroundings}

-- An object literal is the map of what its members contribute in turn. In JSON it has every name
-- once.
theorem eval_object {members : List (Member Expr)} {next after : Nat} {plan : Plan}
    (hbelow : (Expr.object members).SlotsBelow next)
    (hlower : within.lower (.object members) next = .ok (plan, after)) (scope : Scope) :
    ∃ outcomes contributed fields,
      List.Forall₂ (fun member outcome => outcome.shape = member.shape ∧
        within.Gives next scope member.content outcome.content) members outcomes ∧
      List.Forall₂ Contributes outcomes contributed ∧
      Members.Merges contributed.flatten fields ∧
      plan.eval scope = .value (.record fields none) ∧
      (Value.record fields none).json = Json.enclosedText '\x7b' '\x7d'
        (fields.map fun field => Json.memberText field.1 field.2.json) ∧
      ((Members.names fields).map Json.quoteString).Nodup := by
  have hgives : within.Gives next scope (.object members) (plan.eval scope) :=
    ⟨plan, after, hlower, rfl⟩
  let outcomes := members.map (Member.map (Expr.meaning within scope.environment))
  let contributed := outcomes.map Member.contributions
  have hmerges := Members.merges_ofContributions contributed.flatten
  refine ⟨outcomes, contributed, Members.ofContributions contributed.flatten, ?_, ?_, hmerges,
    ?_, ?_, hmerges.nodup_quoted⟩
  · refine List.forall₂_map_right_iff.mpr (List.forall₂_same.mpr fun member hmember => ?_)
    rw [Member.shape_map, Member.content_map]
    exact ⟨rfl, hgives.child hbelow (List.mem_map_of_mem hmember)⟩
  · exact List.forall₂_map_right_iff.mpr
      (List.forall₂_same.mpr fun outcome _ => contributes_contributions outcome)
  · rw [eval_lower hlower hbelow scope, Expr.meaning_object, ← List.flatMap_def]
  · rw [Value.json_record]
    simp only [Value.fields, Option.toList_none, List.map_nil, List.append_nil]

-- `{a: 1, ..@p, a: null}`

private def literalMembers : List (Member Expr) :=
  [.named "a" (.constant (.int 1)), .spread (.builtin .properties), .named "a" (.constant .null)]

private def literalPlan : Plan :=
  .object [.named "a" (.constant (.scalar (.int 1))), .spread (.builtin .properties),
    .named "a" (.constant .null)]

private def literalEvent : Event :=
  { timestamp := midday, level := .information, messageTemplate := "", exception := none
    properties := .ofList [("b", .scalar (.int 2)), ("a", .scalar (.int 7))] }

theorem eval_object_replaced : ∃ plan after outcomes contributed,
    (Surroundings.mk Resolver.empty []).lower (.object literalMembers) 0 = .ok (plan, after) ∧
    plan.eval (Scope.ofEvent literalEvent midday)
      = .value (.record [("a", .null), ("b", .scalar (.int 2))] none) ∧
    List.Forall₂ (fun member outcome => outcome.shape = member.shape ∧
      (Surroundings.mk Resolver.empty []).Gives 0 (Scope.ofEvent literalEvent midday)
        member.content outcome.content) literalMembers outcomes ∧
    List.Forall₂ Contributes outcomes contributed ∧
    Members.Merges contributed.flatten [("a", .null), ("b", .scalar (.int 2))] := by
  have hlower : (Surroundings.mk Resolver.empty []).lower (.object literalMembers) 0
      = .ok (literalPlan, 0) := by
    simp [literalMembers, literalPlan, lower, lowerMembers, bind, Except.bind, pure, Except.pure,
      Outcome.scalar, Outcome.ofValue]
  have hslotless : (Expr.object literalMembers).Slotless :=
    Expr.slotless_of_children (by simp [literalMembers])
      (List.forall_mem_cons.mpr ⟨Expr.slotless_constant _, List.forall_mem_cons.mpr
        ⟨Expr.slotless_builtin _, List.forall_mem_singleton.mpr (Expr.slotless_constant _)⟩⟩)
  obtain ⟨outcomes, contributed, fields, hgives, hcontributes, hmerges, heval, -⟩ :=
    eval_object (hslotless.slotsBelow 0) hlower (Scope.ofEvent literalEvent midday)
  have hfields : Outcome.value (.record [("a", .null), ("b", .scalar (.int 2))] none)
      = .value (.record fields none) := heval
  cases hfields
  exact ⟨_, _, outcomes, contributed, hlower, heval, hgives, hcontributes, hmerges⟩

end Surroundings

end EventText
