import EventText.Proofs.Json.Image
import EventText.Proofs.Value.Members

namespace EventText

namespace Json

-- Values are read back from their texts, whatever follows that cannot belong to a number.

theorem skip_cons {c : Char} (h : isSpace c = false) (rest : List Char) :
    skip (c :: rest) = c :: rest :=
  List.dropWhile_cons_of_neg (by simp [h])

theorem closed_comma (rest : List Char) : Closed (',' :: rest) := by simp [Closed]

theorem closed_bracket (rest : List Char) : Closed (']' :: rest) := by simp [Closed]

theorem closed_brace (rest : List Char) : Closed ('\x7d' :: rest) := by simp [Closed]

theorem closed_nil : Closed [] := by simp [Closed]

-- Scalars

theorem value_number {c : Char} (h : c.isDigit = true ∨ c = '-') (depth : Nat)
    (rest : List Char) : value depth (c :: rest) = number (c :: rest) := by
  have hother {d : Char} (hd : ¬ (d.isDigit = true ∨ d = '-')) {tail : List Char} :
      c :: rest ≠ d :: tail := fun heq => hd ((List.cons.inj heq).1 ▸ h)
  rw [value]
  · exact nofun
  · exact fun _ => hother (by decide)
  · exact fun _ => hother (by decide)
  · exact fun _ => hother (by decide)
  · exact fun _ => hother (by decide)
  · exact fun _ _ => hother (by decide)
  · exact fun _ _ _ => hother (by decide)
  · exact fun _ _ => hother (by decide)
  · exact fun _ _ _ => hother (by decide)

theorem value_natText {n : Nat} (hn : n < UInt64.size) (depth : Nat) {rest : List Char}
    (h : Closed rest) : value depth (natText n ++ rest) = some (ofNatural n, rest) := by
  have hnumber := number_natText hn h
  obtain ⟨c, text, htext, hdigit⟩ := natText_eq_cons n
  rw [htext, List.cons_append] at hnumber ⊢
  rw [value_number (.inl hdigit), hnumber]

theorem value_intText (n : Int64) (depth : Nat) {rest : List Char} (h : Closed rest) :
    value depth (intText n.toInt ++ rest) = some (.int n, rest) := by
  have hlow := n.le_toInt
  have hhigh := n.toInt_lt
  have hback := n.ofInt_toInt
  unfold intText
  split
  · next hnegative =>
    have habs : -(n.toInt.natAbs : Int) = n.toInt := by omega
    rw [List.cons_append, value_number (.inr rfl), ← List.cons_append,
      number_negative (by omega) (by omega) h, habs, hback]
  · next hpositive =>
    have habs : (n.toInt.natAbs : Int) = n.toInt := by omega
    have hsize : n.toInt.natAbs < UInt64.size :=
      Nat.lt_of_lt_of_le (by omega : n.toInt.natAbs < 2 ^ 63) (by decide)
    have hsmall : n.toInt.natAbs < 2 ^ 63 := by omega
    rw [value_natText hsize depth h, ofNatural, if_pos hsmall, ← Int64.ofInt_eq_ofNat, habs, hback]

theorem value_quoteString (text : String) (depth : Nat) (rest : List Char) :
    value depth (quoteString text ++ rest) = some (.string text, rest) := by
  have hquoted := quoted_quoteString text rest
  have hvalue (chars : List Char) : value depth ('"' :: chars) =
      (quoted ('"' :: chars)).map fun r => (.string r.1, r.2) := by cases depth <;> rfl
  rw [quoteString, quote, List.cons_append, List.cons_append] at hquoted ⊢
  rw [hvalue, hquoted]
  rfl

theorem value_scalarText {s : Scalar} (hs : ∀ x, s ≠ .float x) (depth : Nat) {rest : List Char}
    (h : Closed rest) : value depth (scalarText s ++ rest) = some (s.document, rest) := by
  have hquote (text : List Char) (rest : List Char) :
      value depth (quote text ++ rest) = some (.string (String.ofList text), rest) := by
    have htext := value_quoteString (String.ofList text) depth rest
    rwa [quoteString, String.toList_ofList] at htext
  cases s with
  | null => cases depth <;> rfl
  | bool b => cases b <;> cases depth <;> rfl
  | int n => exact value_intText n depth h
  | uint n => exact value_natText n.toNat_lt depth h
  | float x => exact absurd rfl (hs x)
  | char c => exact hquote _ rest
  | string text => exact value_quoteString text depth rest
  | timestamp t => exact hquote _ rest

-- A text that starts a value is not taken for a space or for the end of an array.
def Opens (text : List Char) : Prop :=
  ∃ c rest, text = c :: rest ∧ isSpace c = false ∧ c ≠ ']'

theorem Opens.append {text : List Char} (h : Opens text) (rest : List Char) :
    Opens (text ++ rest) := by
  obtain ⟨c, tail, rfl, hspace, hbracket⟩ := h
  exact ⟨c, tail ++ rest, rfl, hspace, hbracket⟩

theorem Opens.skip {text : List Char} (h : Opens text) : skip text = text := by
  obtain ⟨c, tail, rfl, hspace, -⟩ := h
  exact skip_cons hspace tail

theorem opens_quote (text : List Char) : Opens (quote text) := ⟨_, _, rfl, rfl, by decide⟩

theorem opens_natText (n : Nat) : Opens (natText n) := by
  obtain ⟨c, rest, htext, hdigit⟩ := natText_eq_cons n
  refine ⟨c, rest, htext, ?_, ?_⟩
  · simp only [isSpace, Bool.or_eq_false_iff, beq_eq_false_iff_ne]
    refine ⟨⟨⟨?_, ?_⟩, ?_⟩, ?_⟩ <;> (rintro rfl; cases hdigit)
  · rintro rfl
    cases hdigit

theorem opens_scalarText {s : Scalar} (hs : ∀ x, s ≠ .float x) : Opens (scalarText s) := by
  cases s with
  | null => exact ⟨_, _, rfl, rfl, by decide⟩
  | bool b => cases b <;> exact ⟨_, _, rfl, rfl, by decide⟩
  | int n =>
    change Opens (intText n.toInt)
    unfold intText
    split
    · exact ⟨_, _, rfl, rfl, by decide⟩
    · exact opens_natText _
  | uint n => exact opens_natText n.toNat
  | float x => exact absurd rfl (hs x)
  | _ => exact opens_quote _

-- Items and members

theorem length_le_joined (texts : List (List Char)) :
    texts.length ≤ (joined texts).length + 1 := by
  have hcommas (texts : List (List Char)) :
      texts.length ≤ (texts.flatMap (',' :: ·)).length := by
    induction texts with
    | nil => exact Nat.le_refl _
    | cons text rest ih =>
      rw [List.flatMap_cons, List.length_append, List.length_cons, List.length_cons]
      omega
  cases texts with
  | nil => exact Nat.zero_le _
  | cons text rest =>
    have := hcommas rest
    rw [joined, List.length_append, List.length_cons]
    omega

section

variable {α : Type} {read : Reader Json} {text : α → List Char} {document : α → Json}

theorem itemsTail_joined {items : List α} {fuel : Nat} (hne : items ≠ [])
    (hfuel : items.length ≤ fuel) (hopens : ∀ a ∈ items, Opens (text a))
    (hread : ∀ a ∈ items, ∀ rest, Closed rest → read (text a ++ rest) = some (document a, rest))
    (rest : List Char) :
    itemsTail read fuel (joined (items.map text) ++ ']' :: rest) =
      some (items.map document, rest) := by
  induction items generalizing fuel with
  | nil => exact absurd rfl hne
  | cons a others ih =>
    obtain ⟨fuel, rfl⟩ := Nat.exists_eq_succ_of_ne_zero (Nat.ne_of_gt (Nat.zero_lt_of_lt hfuel))
    have hskip (tail : List Char) : skip (text a ++ tail) = text a ++ tail :=
      ((hopens a List.mem_cons_self).append tail).skip
    have hfirst := hread a List.mem_cons_self
    cases others with
    | nil =>
      have hitem := hfirst _ (closed_bracket rest)
      simp only [List.map_cons, List.map_nil, joined, List.flatMap_nil, List.append_nil, itemsTail,
        hskip, hitem, Option.bind_eq_bind, Option.bind_some, skip_cons (c := ']') rfl]
    | cons b others =>
      have hmore := ih (List.cons_ne_nil b others) (Nat.le_of_succ_le_succ hfuel)
        (fun i hi => hopens i (List.mem_cons_of_mem _ hi))
        (fun i hi => hread i (List.mem_cons_of_mem _ hi))
      have hitem := hfirst _ (closed_comma (joined ((b :: others).map text) ++ ']' :: rest))
      have hjoined : joined ((a :: b :: others).map text) ++ ']' :: rest =
          text a ++ ',' :: (joined ((b :: others).map text) ++ ']' :: rest) := by
        simp [joined]
      rw [hjoined]
      simp only [itemsTail, hskip, hitem, hmore, Option.bind_eq_bind, Option.bind_some,
        skip_cons (c := ',') rfl]
      rfl

theorem membersTail_joined {members : List (String × α)} {fuel : Nat} (hne : members ≠ [])
    (hfuel : members.length ≤ fuel) (hopens : ∀ m ∈ members, Opens (text m.2))
    (hread : ∀ m ∈ members, ∀ rest, Closed rest →
      read (text m.2 ++ rest) = some (document m.2, rest))
    (rest : List Char) :
    membersTail read fuel
        (joined (members.map fun m => memberText m.1 (text m.2)) ++ '\x7d' :: rest) =
      some (members.map fun m => (m.1, document m.2), rest) := by
  induction members generalizing fuel with
  | nil => exact absurd rfl hne
  | cons m others ih =>
    obtain ⟨fuel, rfl⟩ := Nat.exists_eq_succ_of_ne_zero (Nat.ne_of_gt (Nat.zero_lt_of_lt hfuel))
    have hname (tail : List Char) :
        quoted (skip (quoteString m.1 ++ tail)) = some (m.1, tail) := by
      rw [quoteString, ((opens_quote m.1.toList).append tail).skip]
      exact quoted_quoteString m.1 tail
    have hskip (tail : List Char) : skip (text m.2 ++ tail) = text m.2 ++ tail :=
      ((hopens m List.mem_cons_self).append tail).skip
    have hfirst := hread m List.mem_cons_self
    cases others with
    | nil =>
      have hmember := hfirst _ (closed_brace rest)
      simp only [List.map_cons, List.map_nil, joined, List.flatMap_nil, List.append_nil, memberText,
        List.append_assoc, List.cons_append, membersTail, hname, hskip, hmember,
        Option.bind_eq_bind, Option.bind_some, skip_cons (c := ':') rfl,
        skip_cons (c := '\x7d') rfl]
    | cons n others =>
      have hmore := ih (List.cons_ne_nil n others) (Nat.le_of_succ_le_succ hfuel)
        (fun i hi => hopens i (List.mem_cons_of_mem _ hi))
        (fun i hi => hread i (List.mem_cons_of_mem _ hi))
      have hmember := hfirst _ (closed_comma
        (joined ((n :: others).map fun m => memberText m.1 (text m.2)) ++ '\x7d' :: rest))
      have hjoined : joined ((m :: n :: others).map fun m => memberText m.1 (text m.2)) ++
          '\x7d' :: rest = quoteString m.1 ++ ':' :: (text m.2 ++ ',' ::
            (joined ((n :: others).map fun m => memberText m.1 (text m.2)) ++ '\x7d' :: rest)) := by
        simp [joined, memberText]
      rw [hjoined]
      simp only [membersTail, hname, hskip, hmember, hmore, Option.bind_eq_bind, Option.bind_some,
        skip_cons (c := ':') rfl, skip_cons (c := ',') rfl]
      rfl

end

-- Members of distinct names stay as they are.
theorem ofMembers_of_nodup {members : List (String × Json)}
    (h : (Members.names members).Nodup) : ofMembers members = members :=
  @Members.foldl_put_of_nodup Json [] members h

-- The cases of the reader for the opening brackets.

theorem value_bracket (depth : Nat) (chars : List Char) :
    value (depth + 1) ('[' :: chars) = match skip chars with
      | ']' :: rest => some (.array [], rest)
      | rest => (itemsTail (value depth) (rest.length + 1) rest).map fun r =>
          (.array r.1, r.2) := rfl

theorem value_brace (depth : Nat) (chars : List Char) :
    value (depth + 1) ('\x7b' :: chars) = match skip chars with
      | '\x7d' :: rest => some (.object [], rest)
      | rest => (membersTail (value depth) (rest.length + 1) rest).map fun r =>
          (.object (ofMembers r.1), r.2) := rfl

theorem value_openBracket (depth : Nat) {chars : List Char} {c : Char} {tail : List Char}
    (hskip : skip chars = c :: tail) (hc : c ≠ ']') :
    value (depth + 1) ('[' :: chars) =
      (itemsTail (value depth) ((c :: tail).length + 1) (c :: tail)).map fun r =>
        (.array r.1, r.2) := by
  rw [value_bracket, hskip]
  split
  · next heq => exact absurd (List.cons.inj heq).1 hc
  · rfl

theorem value_openBrace (depth : Nat) {chars : List Char} {c : Char} {tail : List Char}
    (hskip : skip chars = c :: tail) (hc : c ≠ '\x7d') :
    value (depth + 1) ('\x7b' :: chars) =
      (membersTail (value depth) ((c :: tail).length + 1) (c :: tail)).map fun r =>
        (.object (ofMembers r.1), r.2) := by
  rw [value_brace, hskip]
  split
  · next heq => exact absurd (List.cons.inj heq).1 hc
  · rfl

theorem value_array {items : List Value} {depth : Nat}
    (hopens : ∀ item ∈ items, Opens item.json)
    (hread : ∀ item ∈ items, ∀ rest, Closed rest →
      value depth (item.json ++ rest) = some (item.document, rest))
    (rest : List Char) :
    value (depth + 1) (enclosedText '[' ']' (items.map Value.json) ++ rest) =
      some (.array (items.map Value.document), rest) := by
  rw [enclosedText, List.cons_append, List.append_assoc, List.singleton_append]
  cases items with
  | nil => rfl
  | cons item items =>
    have hne : item :: items ≠ [] := List.cons_ne_nil item items
    have htext : Opens (joined ((item :: items).map Value.json) ++ ']' :: rest) := by
      rw [List.map_cons, joined, List.append_assoc]
      exact (hopens item List.mem_cons_self).append _
    have hlength := length_le_joined ((item :: items).map Value.json)
    have hfuel : (item :: items).length ≤
        (joined ((item :: items).map Value.json) ++ ']' :: rest).length + 1 := by
      rw [List.length_map] at hlength
      rw [List.length_append]
      omega
    have hitems := itemsTail_joined hne hfuel hopens hread rest
    have hskip := htext.skip
    obtain ⟨c, tail, hcons, -, hbracket⟩ := htext
    rw [hcons] at hitems hskip ⊢
    rw [value_openBracket depth hskip hbracket, hitems]
    rfl

theorem value_object {fields : List (String × Value)} {depth : Nat}
    (hnames : (fields.map (·.1)).Nodup) (hopens : ∀ f ∈ fields, Opens f.2.json)
    (hread : ∀ f ∈ fields, ∀ rest, Closed rest →
      value depth (f.2.json ++ rest) = some (f.2.document, rest))
    (rest : List Char) :
    value (depth + 1)
        (enclosedText '\x7b' '\x7d' (fields.map fun f => memberText f.1 f.2.json) ++ rest) =
      some (.object (fields.map fun f => (f.1, f.2.document)), rest) := by
  rw [enclosedText, List.cons_append, List.append_assoc, List.singleton_append]
  cases fields with
  | nil => rfl
  | cons field fields =>
    have hne : field :: fields ≠ [] := List.cons_ne_nil field fields
    have htext : ∃ tail, joined ((field :: fields).map fun f => memberText f.1 f.2.json) ++
        '\x7d' :: rest = '"' :: tail := ⟨_, rfl⟩
    have hlength := length_le_joined ((field :: fields).map fun f => memberText f.1 f.2.json)
    have hfuel : (field :: fields).length ≤
        (joined ((field :: fields).map fun f => memberText f.1 f.2.json) ++
          '\x7d' :: rest).length + 1 := by
      rw [List.length_map] at hlength
      rw [List.length_append]
      omega
    have hmembers := membersTail_joined hne hfuel hopens hread rest
    have hdistinct :
        (Members.names ((field :: fields).map fun f => (f.1, f.2.document))).Nodup := by
      rwa [Members.names, List.map_map]
    obtain ⟨tail, hcons⟩ := htext
    have hskip : skip ('"' :: tail) = '"' :: tail := skip_cons rfl tail
    rw [hcons] at hmembers ⊢
    rw [value_openBrace depth hskip (by decide), hmembers, Option.map_some,
      ofMembers_of_nodup hdistinct]

end Json

end EventText
