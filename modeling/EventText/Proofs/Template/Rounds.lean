import EventText.Proofs.Expr.Searching
import EventText.Proofs.Number.Sign
import EventText.Proofs.Output.ScalarText
import EventText.Proofs.Value.Members
import EventText.Template.Render

namespace EventText

-- What a round of an iteration shows as the key of an entry finds that entry again.

namespace Scalar

-- The only scalar that is not equal to itself.
def isNaN : Scalar → Bool
  | .float x => x.isNaN
  | _ => false

theorem equal_self (s : Scalar) : s.equal false s = !s.isNaN := by
  cases s with
  | float x => exact Double.beq_self x
  | _ => simp [equal, isNaN, Timestamp.sameMoment]

theorem equal_of_isNaN (s : Scalar) {t : Scalar} (ht : t.isNaN = true) :
    s.equal false t = false := by
  cases t with
  | float x => cases s <;> first | rfl | exact Double.beq_of_isNaN _ ht
  | _ => cases ht

end Scalar

namespace Value

-- The keys of a collection tell its entries apart. A sequence is shorter than 2⁶³, so that each
-- of its positions is a key.
def KeysApart : Value → Prop
  | .sequence items => items.length < 2 ^ 63
  | .record members _ => (Members.names members).Nodup
  | .dictionary entries => entries.Pairwise fun a b => a.1.equal false b.1 = false
  | .scalar _ => True

-- Items are bound before their positions, names and keys before what they stand for.
def keyOf (v : Value) (round : Outcome × Outcome) : Outcome :=
  match v with
  | .sequence _ => round.2
  | _ => round.1

def contentOf (v : Value) (round : Outcome × Outcome) : Outcome :=
  match v with
  | .sequence _ => round.1
  | _ => round.2

def keySlot (v : Value) (first second : Nat) : Nat :=
  match v with
  | .sequence _ => second
  | _ => first

theorem element?_position {items : List Value} {i : Nat} (hi : i < 2 ^ 63) :
    (sequence items).element? (.uint (UInt64.ofNat i)) = items[i]? := by
  have hvalue : (UInt64.ofNat i).toNat = i := UInt64.toNat_ofNat_of_lt' (hi.trans (by decide))
  have hindex : Scalar.index? (.uint (UInt64.ofNat i)) = some i := by
    rw [Scalar.index?_integer rfl, hvalue, if_pos (by omega)]
    rfl
  rw [element?, hindex, Option.bind_some]

theorem element?_of_isNaN (entries : List (Scalar × Value)) {key : Scalar}
    (hkey : key.isNaN = true) : (dictionary entries).element? key = none := by
  have hnone : ∀ entry ∈ entries, ¬entry.1.equal false key = true := fun entry _ =>
    Bool.not_eq_true _ ▸ Scalar.equal_of_isNaN entry.1 hkey
  rw [element?, List.find?_eq_none.mpr hnone]
  rfl

-- Of all keys only the one that was yielded is equal to it.
theorem element?_key {entries : List (Scalar × Value)} {entry : Scalar × Value}
    (hapart : entries.Pairwise fun a b => a.1.equal false b.1 = false) (hentry : entry ∈ entries)
    (hkey : entry.1.isNaN = false) : (dictionary entries).element? entry.1 = some entry.2 := by
  have hself : entry.1.equal false entry.1 = true := by
    rw [Scalar.equal_self, hkey]
    rfl
  rw [element?]
  induction entries with
  | nil => cases hentry
  | cons first rest ih =>
      obtain ⟨hfirst, hrest⟩ := List.pairwise_cons.mp hapart
      rw [List.find?_cons]
      rcases List.mem_cons.mp hentry with rfl | hmem
      · rw [hself]
        rfl
      · rw [hfirst entry hmem]
        exact ih hrest hmem

end Value

namespace Outcome

def isNaN (o : Outcome) : Bool := o.scalar?.any Scalar.isNaN

-- What a lookup gives under the key of a round. A key that is equal to nothing finds nothing.
def underKey (v : Value) (round : Outcome × Outcome) : Outcome :=
  if (v.keyOf round).isNaN then .undefined else v.contentOf round

theorem element_keyOf {v : Value} (hv : v.KeysApart) {round : Outcome × Outcome}
    (hround : round ∈ v.rounds) (hnull : v.keyOf round ≠ .null) :
    (Outcome.value v).element (v.keyOf round) = underKey v round := by
  cases v with
  | scalar s => cases hround
  | sequence items =>
      obtain ⟨i, hi, rfl⟩ := List.mem_mapIdx.mp hround
      have hshort : items.length < 2 ^ 63 := hv
      have hfound := @Value.element?_position items i (by omega)
      rw [List.getElem?_eq_getElem hi] at hfound
      exact congrArg ofOption hfound
  | record members tag =>
      obtain ⟨member, hmember, rfl⟩ := List.mem_map.mp hround
      exact congrArg ofOption (Members.get?_of_mem hv hmember)
  | dictionary entries =>
      obtain ⟨entry, hentry, rfl⟩ := List.mem_map.mp hround
      have hvalue : Outcome.scalar entry.1 = .value (.scalar entry.1) :=
        Outcome.scalar_eq_value fun h => hnull (congrArg Outcome.scalar h)
      have hlookup : (Outcome.value (.dictionary entries)).element (Outcome.scalar entry.1)
          = ofOption ((Value.dictionary entries).element? entry.1) := by
        rw [hvalue]
        rfl
      have hnan : isNaN (Outcome.scalar entry.1) = entry.1.isNaN := by
        rw [hvalue]
        rfl
      simp only [Value.keyOf, underKey, Value.contentOf, hlookup, hnan]
      cases hkey : entry.1.isNaN with
      | true =>
          rw [Value.element?_of_isNaN entries hkey]
          rfl
      | false =>
          rw [Value.element?_key hv hentry hkey]
          rfl

theorem slot_keySlot (v : Value) (scope : Scope) {first second : Nat} (hslots : first ≠ second)
    (round : Outcome × Outcome) :
    (Node.bindRound scope first (some second) round).slot (v.keySlot first second)
      = v.keyOf round := by
  have hfirst : (Node.bindRound scope first (some second) round).slot first = round.1 := by
    simp [Node.bindRound, Scope.bind, Scope.slot, hslots.symm]
  have hsecond : (Node.bindRound scope first (some second) round).slot second = round.2 := by
    simp [Node.bindRound, Scope.bind, Scope.slot]
  cases v with
  | sequence items => exact hsecond
  | _ => exact hfirst

-- Whatever expressions stand for the collection and for the key, and in the body of the iteration
-- itself, where the key is the value of a slot.
theorem lookup_of_round {v : Value} (hv : v.KeysApart) {round : Outcome × Outcome}
    (hround : round ∈ v.rounds) (hnull : v.keyOf round ≠ .null) (ignoreCase : Bool) :
    (∀ (scope : Scope) (target key : Plan), target.eval scope = .value v →
        key.eval scope = v.keyOf round →
          (Plan.index target key).eval scope = underKey v round ∧
          (Plan.call (.builtin .elementAt) [target, key] ignoreCase).eval scope
            = underKey v round) ∧
      ∀ (scope : Scope) (first second : Nat) (collection : Plan), first ≠ second →
        collection.eval (Node.bindRound scope first (some second) round) = .value v →
          (Plan.index collection (.slot (v.keySlot first second))).eval
              (Node.bindRound scope first (some second) round) = underKey v round := by
  have helement := element_keyOf hv hround hnull
  constructor
  · intro scope target key htarget hkey
    have hindex : (Plan.index target key).eval scope = underKey v round := by
      rw [Plan.eval, htarget, hkey, helement]
    have hcall : (Plan.call (.builtin .elementAt) [target, key] ignoreCase).eval scope
        = (target.eval scope).element (key.eval scope) := rfl
    exact ⟨hindex, by rw [hcall, htarget, hkey, helement]⟩
  · intro scope first second collection hslots hcollection
    rw [Plan.eval, hcollection, Plan.eval, slot_keySlot v scope hslots round, helement]

-- `{2: "two", 2.5: null, "2": "text"}` has three keys, and the null under one of them is found.

private def halves : Value := .dictionary
  [(.uint 2, .ofString "two"), (.float 2.5, .null), (.string "2", .ofString "text")]

theorem lookup_of_round_half :
    (halves.KeysApart ∧ (Outcome.float 2.5, Outcome.null) ∈ halves.rounds ∧
        halves.keyOf (.float 2.5, .null) ≠ .null) ∧
      ∀ scope : Scope,
        (Plan.index (.constant (.value halves)) (.constant (.float 2.5))).eval scope = .null ∧
        (Plan.call (.builtin .elementAt) [.constant (.value halves), .constant (.float 2.5)]
          false).eval scope = .null := by
  have hapart : halves.KeysApart := by
    unfold halves Value.KeysApart
    decide
  have hround : (Outcome.float 2.5, Outcome.null) ∈ halves.rounds :=
    List.mem_cons_of_mem _ List.mem_cons_self
  have hnull : halves.keyOf (.float 2.5, .null) ≠ .null := nofun
  have hunder : underKey halves (.float 2.5, .null) = .null := by
    have hnumber : isNaN (halves.keyOf (.float 2.5, .null)) = false := by decide
    rw [underKey, hnumber]
    rfl
  refine ⟨⟨hapart, hround, hnull⟩, fun scope => ?_⟩
  have hlookup := (lookup_of_round hapart hround hnull false).1 scope
    (.constant (.value halves)) (.constant (.float 2.5)) rfl rfl
  rwa [hunder] at hlookup

-- In `{null: 1, NaN: 2}` neither entry is found under its key.

private def keyless : Value :=
  .dictionary [(.null, .scalar (.int 1)), (.float (0 / 0), .scalar (.int 2))]

theorem lookup_misses_round :
    keyless.KeysApart ∧ keyless.rounds = [(.null, .int 1), (.float (0 / 0), .int 2)] ∧
      ∀ scope : Scope,
        (Plan.index (.constant (.value keyless)) (.constant .null)).eval scope = .undefined ∧
        (Plan.index (.constant (.value keyless)) (.constant (.float (0 / 0)))).eval scope
          = .undefined := by
  have hnan : Scalar.isNaN (.float (0 / 0)) = true := by decide
  have hmissing := Value.element?_of_isNaN
    [(.null, .scalar (.int 1)), (.float (0 / 0), .scalar (.int 2))] hnan
  refine ⟨List.pairwise_pair.mpr rfl, rfl, fun scope => ⟨rfl, ?_⟩⟩
  exact congrArg ofOption hmissing

end Outcome

end EventText
