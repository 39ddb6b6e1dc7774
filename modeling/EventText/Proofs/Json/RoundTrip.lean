import EventText.Proofs.Json.Grammar
import EventText.Proofs.Json.Rereading

namespace EventText.Value

open Json

-- What the text of a value carries over: no floats, and each name once in an object. The name
-- of the tag counts where there is one.
structure HasDocument (v : Value) : Prop where
  noFloats : v.NoFloats
  distinct : v.Everywhere fun w => (w.fields.map (·.1)).Nodup

theorem HasDocument.child {c v : Value} (h : v.HasDocument) (hc : c ∈ v.children) :
    c.HasDocument :=
  ⟨h.noFloats.child hc, h.distinct.child hc⟩

theorem HasDocument.scalar {s : Scalar} (h : (scalar s).HasDocument) (x : Float) :
    s ≠ .float x := fun hs => h.noFloats.self x (hs ▸ rfl)

theorem opens_json {v : Value} (h : v.HasDocument) : Opens v.json := by
  cases v with
  | scalar s =>
    rw [json_scalar]
    exact opens_scalarText h.scalar
  | sequence items =>
    rw [json_sequence]
    exact ⟨_, _, rfl, rfl, by decide⟩
  | record members tag =>
    rw [json_record]
    exact ⟨_, _, rfl, rfl, by decide⟩
  | dictionary entries =>
    rw [json_dictionary]
    exact ⟨_, _, rfl, rfl, by decide⟩

-- Each level of nesting takes one from the depth that the reader allows.
theorem value_json {v : Value} (h : v.HasDocument) {depth : Nat} (hdepth : v.depth ≤ depth)
    {rest : List Char} (hrest : Closed rest) :
    Json.value depth (v.json ++ rest) = some (v.document, rest) := by
  induction v using childInduction generalizing depth rest with
  | step v ih =>
    have hchild {depth : Nat} (hd : v.depth ≤ depth + 1) (c : Value) (hc : c ∈ v.children)
        (rest : List Char) (hrest : Closed rest) :
        Json.value depth (c.json ++ rest) = some (c.document, rest) :=
      ih c hc (h.child hc) (Nat.le_of_lt_succ (Nat.lt_of_lt_of_le (depth_child hc) hd)) hrest
    have hfields {depth : Nat} (hd : v.depth ≤ depth + 1) (f : String × Value) (hf : f ∈ v.fields)
        (rest : List Char) (hrest : Closed rest) :
        Json.value depth (f.2.json ++ rest) = some (f.2.document, rest) := by
      rcases mem_fields hf with hc | ⟨text, -, rfl⟩
      · exact hchild hd f.2 hc rest hrest
      · rw [ofString, json_scalar]
        exact value_scalarText (by simp) depth hrest
    have hopens (f : String × Value) (hf : f ∈ v.fields) : Opens f.2.json := by
      rcases mem_fields hf with hc | ⟨text, -, rfl⟩
      · exact opens_json (h.child hc)
      · rw [ofString, json_scalar]
        exact opens_scalarText (by simp)
    have hnames := h.distinct.self
    cases v with
    | scalar s =>
      rw [json_scalar, document]
      exact value_scalarText h.scalar depth hrest
    | sequence items =>
      obtain ⟨depth, rfl⟩ := Nat.exists_eq_succ_of_ne_zero (Nat.ne_of_gt (Nat.zero_lt_of_lt hdepth))
      rw [json_sequence, document_sequence]
      exact value_array (fun item hitem => opens_json (h.child hitem)) (hchild hdepth) rest
    | record members tag =>
      obtain ⟨depth, rfl⟩ := Nat.exists_eq_succ_of_ne_zero (Nat.ne_of_gt (Nat.zero_lt_of_lt hdepth))
      rw [json_record, document_record]
      exact value_object hnames hopens (hfields hdepth) rest
    | dictionary entries =>
      obtain ⟨depth, rfl⟩ := Nat.exists_eq_succ_of_ne_zero (Nat.ne_of_gt (Nat.zero_lt_of_lt hdepth))
      rw [json_dictionary, document_dictionary]
      exact value_object hnames hopens (hfields hdepth) rest

theorem read?_json {v : Value} (h : v.HasDocument) (hdepth : v.depth ≤ maxDepth) :
    Json.read? v.jsonString = some v.document := by
  have hvalue := value_json h hdepth closed_nil
  rw [List.append_nil] at hvalue
  have hskip := (opens_json h).skip
  simp only [Json.read?, jsonString, String.toList_ofList, hskip, hvalue, Option.bind_eq_bind,
    Option.bind_some]
  rfl

-- The values that are told by their text apart from what the image forgets.
structure Portable (v : Value) : Prop where
  noFloats : v.NoFloats
  distinct : v.Everywhere fun w => w.names.Nodup
  untagged : v.Untagged

theorem fields_names (v : Value) : ∃ tag : Option String,
    v.fields.map (·.1) = v.names ++ tag.toList.map fun _ => typeTagMember := by
  cases v with
  | record members tag =>
    refine ⟨tag, ?_⟩
    rw [fields, List.map_append, List.map_map]
    rfl
  | dictionary entries =>
    refine ⟨none, ?_⟩
    rw [fields, List.map_map, Option.toList_none, List.map_nil, List.append_nil]
    rfl
  | _ => exact ⟨none, rfl⟩

theorem nodup_fields {v : Value} (hnames : v.names.Nodup) (htag : typeTagMember ∉ v.names) :
    (v.fields.map (·.1)).Nodup := by
  obtain ⟨tag, hfields⟩ := v.fields_names
  rw [hfields]
  cases tag with
  | none => simpa using hnames
  | some text =>
    refine List.nodup_append.mpr ⟨hnames, by simp, fun name hname other hother => ?_⟩
    obtain rfl : other = typeTagMember := List.mem_singleton.mp hother
    exact fun heq => htag (heq ▸ hname)

theorem Portable.hasDocument {v : Value} (h : v.Portable) : v.HasDocument where
  noFloats := h.noFloats
  distinct w hw := nodup_fields (h.distinct w hw) (h.untagged w hw)

theorem portable_of_children {v : Value} (hfloat : ∀ x, v ≠ .scalar (.float x))
    (hnames : v.names.Nodup) (htag : typeTagMember ∉ v.names)
    (h : ∀ c ∈ v.children, c.Portable) : v.Portable where
  noFloats := .of_children hfloat fun c hc => (h c hc).noFloats
  distinct := .of_children hnames fun c hc => (h c hc).distinct
  untagged := .of_children htag fun c hc => (h c hc).untagged

theorem portable_scalar {s : Scalar} (h : ∀ x, s ≠ .float x) : (scalar s).Portable :=
  portable_of_children (fun x hx => h x (scalar.inj hx)) List.nodup_nil List.not_mem_nil
    fun _ hc => nomatch hc

theorem json_reread {v : Value} (h : v.Portable) (hdepth : v.depth ≤ maxDepth) :
    IsDocument v.json ∧ (Json.read? v.jsonString).map ofJson = some v.image := by
  constructor
  · simpa using IsDocument.intro isSpace_nil (isValue_json h.noFloats) isSpace_nil
  · rw [read?_json h.hasDocument hdepth, Option.map_some, ofJson_document h.untagged]

-- A tag, control characters and other scripts in a string, a character, an unsigned number and a
-- dictionary.
def labelled : Value := .record
  [("to \"ü\"", .sequence [.scalar (.char '\\'), .scalar (.uint 7), .scalar (.int (-7))]),
    ("keys", .dictionary [(.bool true, .ofString "\x01\n€"), (.null, .record [] none)])]
  (some "Message")

theorem portable_labelled : labelled.Portable := by
  have hlist :
      (sequence [.scalar (.char '\\'), .scalar (.uint 7), .scalar (.int (-7))]).Portable := by
    refine portable_of_children (by simp) List.nodup_nil List.not_mem_nil ?_
    simp only [children, List.forall_mem_cons]
    exact ⟨portable_scalar (by simp), portable_scalar (by simp), portable_scalar (by simp),
      by simp⟩
  have hempty : (record [] none).Portable :=
    portable_of_children (by simp) List.nodup_nil List.not_mem_nil (by simp [children])
  have hkeys :
      (dictionary [(.bool true, .ofString "\x01\n€"), (.null, .record [] none)]).Portable := by
    refine portable_of_children (by simp) (by decide) (by decide) ?_
    simp only [children, List.map_cons, List.map_nil, List.forall_mem_cons]
    exact ⟨portable_scalar (by simp), hempty, by simp⟩
  refine portable_of_children (by simp [labelled]) (by decide) (by decide) ?_
  simp only [labelled, children, List.map_cons, List.map_nil, List.forall_mem_cons]
  exact ⟨hlist, hkeys, by simp⟩

theorem json_reread_labelled :
    IsDocument labelled.json ∧
      (Json.read? labelled.jsonString).map ofJson = some (.record
        [("to \"ü\"", .sequence [.ofString "\\", .scalar (.int 7), .scalar (.int (-7))]),
          ("keys", .record [("true", .ofString "\x01\n€"), ("null", .record [] none)] none)]
        (some "Message")) :=
  json_reread portable_labelled (by decide)

end EventText.Value
