import EventText.Proofs.Json.Lexemes
import EventText.Proofs.Json.Text

namespace EventText

open Json

-- The document that the text of a value holds, and the value that such a document stands for.

def Scalar.document : Scalar → Json
  | .null => .null
  | .bool b => .bool b
  | .int n => .int n
  | .uint n => .ofNatural n.toNat
  | .float x => .float x
  | .string text => .string text
  | .char c => .string (String.ofList (text (.char c)))
  | .timestamp t => .string (String.ofList (text (.timestamp t)))

-- Characters and timestamps turn into their texts, small numbers into the signed type.
def Scalar.image : Scalar → Scalar
  | .uint n => if n.toNat < 2 ^ 63 then .int (Int64.ofNat n.toNat) else .uint n
  | .char c => .string (String.ofList (text (.char c)))
  | .timestamp t => .string (String.ofList (text (.timestamp t)))
  | s => s

namespace Value

mutual

def document : Value → Json
  | .scalar s => s.document
  | .sequence items => .array (documentItems items)
  | .record members tag =>
      .object (documentMembers members ++ tag.toList.map fun text => (typeTagMember, .string text))
  | .dictionary entries => .object (documentEntries entries)

def documentItems : List Value → List Json
  | [] => []
  | item :: rest => item.document :: documentItems rest

def documentMembers : List (String × Value) → List (String × Json)
  | [] => []
  | (name, member) :: rest => (name, member.document) :: documentMembers rest

def documentEntries : List (Scalar × Value) → List (String × Json)
  | [] => []
  | (key, entry) :: rest => (String.ofList key.text, entry.document) :: documentEntries rest

end

mutual

-- Dictionaries become records of their key texts, and nothing else of the structure changes.
def image : Value → Value
  | .scalar s => .scalar s.image
  | .sequence items => .sequence (imageItems items)
  | .record members tag => .record (imageMembers members) tag
  | .dictionary entries => .record (imageEntries entries) none

def imageItems : List Value → List Value
  | [] => []
  | item :: rest => item.image :: imageItems rest

def imageMembers : List (String × Value) → List (String × Value)
  | [] => []
  | (name, member) :: rest => (name, member.image) :: imageMembers rest

def imageEntries : List (Scalar × Value) → List (String × Value)
  | [] => []
  | (key, entry) :: rest => (String.ofList key.text, entry.image) :: imageEntries rest

end

theorem documentItems_eq (items : List Value) : documentItems items = items.map document := by
  induction items with
  | nil => rfl
  | cons item rest ih => rw [documentItems, ih, List.map_cons]

theorem documentMembers_eq (members : List (String × Value)) :
    documentMembers members = members.map fun m => (m.1, m.2.document) := by
  induction members with
  | nil => rfl
  | cons member rest ih => rw [documentMembers, ih, List.map_cons]

theorem documentEntries_eq (entries : List (Scalar × Value)) :
    documentEntries entries = entries.map fun e => (String.ofList e.1.text, e.2.document) := by
  induction entries with
  | nil => rfl
  | cons entry rest ih => rw [documentEntries, ih, List.map_cons]

theorem imageItems_eq (items : List Value) : imageItems items = items.map image := by
  induction items with
  | nil => rfl
  | cons item rest ih => rw [imageItems, ih, List.map_cons]

theorem imageMembers_eq (members : List (String × Value)) :
    imageMembers members = members.map fun m => (m.1, m.2.image) := by
  induction members with
  | nil => rfl
  | cons member rest ih => rw [imageMembers, ih, List.map_cons]

theorem imageEntries_eq (entries : List (Scalar × Value)) :
    imageEntries entries = entries.map fun e => (String.ofList e.1.text, e.2.image) := by
  induction entries with
  | nil => rfl
  | cons entry rest ih => rw [imageEntries, ih, List.map_cons]

theorem document_sequence (items : List Value) :
    (sequence items).document = .array (items.map document) := by
  rw [document, documentItems_eq]

theorem document_record (members : List (String × Value)) (tag : Option String) :
    (record members tag).document =
      .object ((record members tag).fields.map fun f => (f.1, f.2.document)) := by
  rw [document, documentMembers_eq, fields, List.map_append, List.map_map]
  rfl

theorem document_dictionary (entries : List (Scalar × Value)) :
    (dictionary entries).document =
      .object ((dictionary entries).fields.map fun f => (f.1, f.2.document)) := by
  rw [document, documentEntries_eq, fields, List.map_map]
  rfl

theorem ofJsonItems_eq (items : List Json) : ofJsonItems items = items.map ofJson := by
  induction items with
  | nil => rfl
  | cons item rest ih => rw [ofJsonItems, ih, List.map_cons]

-- Members of other names are not taken for the tag.
theorem ofJsonMembers_append {members : List (String × Json)}
    (h : typeTagMember ∉ members.map (·.1)) (others : List (String × Json)) :
    ofJsonMembers (members ++ others) =
      members.map (fun m => (m.1, ofJson m.2)) ++ ofJsonMembers others := by
  induction members with
  | nil => rfl
  | cons member rest ih =>
    obtain ⟨name, content⟩ := member
    have hname : name ≠ typeTagMember := fun hn => h (hn ▸ List.mem_cons_self)
    have hrest := ih fun hmem => h (List.mem_cons_of_mem _ hmem)
    cases content <;>
      simp only [List.cons_append, List.map_cons, ofJsonMembers, if_neg hname, hrest, ofJson]

theorem tagOf_append {members : List (String × Json)}
    (h : typeTagMember ∉ members.map (·.1)) (others : List (String × Json)) :
    tagOf (members ++ others) = tagOf others := by
  induction members with
  | nil => rfl
  | cons member rest ih =>
    obtain ⟨name, content⟩ := member
    have hname : name ≠ typeTagMember := fun hn => h (hn ▸ List.mem_cons_self)
    have hrest := ih fun hmem => h (List.mem_cons_of_mem _ hmem)
    cases content <;> simp only [List.cons_append, tagOf, if_neg hname, hrest]

theorem ofJson_object {members : List (String × Json)} (h : typeTagMember ∉ members.map (·.1))
    (tag : Option String) :
    ofJson (.object (members ++ tag.toList.map fun text => (typeTagMember, Json.string text))) =
      .record (members.map fun m => (m.1, ofJson m.2)) tag := by
  rw [ofJson, ofJsonMembers_append h, tagOf_append h]
  cases tag with
  | none => simp [ofJsonMembers, tagOf]
  | some text => simp [ofJsonMembers, tagOf]

theorem ofJson_ofNatural (n : UInt64) :
    ofJson (.ofNatural n.toNat) = .scalar (Scalar.image (.uint n)) := by
  by_cases h : n.toNat < 2 ^ 63
  · simp only [ofNatural, Scalar.image, if_pos h, ofJson]
  · simp only [ofNatural, Scalar.image, if_neg h, ofJson, UInt64.ofNat_toNat]

theorem ofJson_document_scalar (s : Scalar) : ofJson s.document = .scalar s.image := by
  cases s with
  | uint n => exact ofJson_ofNatural n
  | _ => rfl

-- No member and no key is taken for a tag.
def Untagged (v : Value) : Prop := v.Everywhere fun w => typeTagMember ∉ w.names

theorem ofJson_document {v : Value} (h : v.Untagged) : ofJson v.document = v.image := by
  induction v using childInduction with
  | step v ih =>
    have hchild (c : Value) (hc : c ∈ v.children) : ofJson c.document = c.image :=
      ih c hc (h.child hc)
    cases v with
    | scalar s => exact ofJson_document_scalar s
    | sequence items =>
      rw [document_sequence, ofJson, ofJsonItems_eq, image, imageItems_eq, List.map_map]
      exact congrArg sequence (List.map_congr_left hchild)
    | record members tag =>
      have hnames : typeTagMember ∉ (documentMembers members).map (·.1) := by
        rw [documentMembers_eq, List.map_map]
        exact h.self
      rw [document, ofJson_object hnames, image, documentMembers_eq, imageMembers_eq, List.map_map]
      refine congrArg (record · tag) (List.map_congr_left fun m hm => ?_)
      exact congrArg (m.1, ·) (hchild m.2 (List.mem_map_of_mem hm))
    | dictionary entries =>
      have hnames : typeTagMember ∉ (documentEntries entries).map (·.1) := by
        rw [documentEntries_eq, List.map_map]
        exact h.self
      have hobject := ofJson_object hnames none
      rw [Option.toList_none, List.map_nil, List.append_nil] at hobject
      rw [document, hobject, image, documentEntries_eq, imageEntries_eq, List.map_map]
      refine congrArg (record · none) (List.map_congr_left fun e he => ?_)
      exact congrArg (String.ofList e.1.text, ·) (hchild e.2 (List.mem_map_of_mem he))

end Value

-- Values that are their own image

def Scalar.Stable : Scalar → Prop
  | .null | .bool _ | .int _ | .string _ => True
  | .uint n => 2 ^ 63 ≤ n.toNat
  | .float _ | .char _ | .timestamp _ => False

theorem Scalar.Stable.image {s : Scalar} (h : s.Stable) : s.image = s := by
  cases s with
  | uint n => exact if_neg (Nat.not_lt.mpr h)
  | float x => cases h
  | char c => cases h
  | timestamp t => cases h
  | _ => rfl

structure Value.Stable (v : Value) : Prop where
  scalars : v.Everywhere fun w => ∀ s, w = .scalar s → s.Stable
  noDictionaries : v.Everywhere fun w => ∀ entries, w ≠ .dictionary entries
  distinct : v.Everywhere fun w => w.names.Nodup
  untagged : v.Untagged

namespace Value

theorem Stable.child {c v : Value} (h : v.Stable) (hc : c ∈ v.children) : c.Stable where
  scalars := h.scalars.child hc
  noDictionaries := h.noDictionaries.child hc
  distinct := h.distinct.child hc
  untagged := h.untagged.child hc

theorem Stable.of_children {v : Value} (hscalar : ∀ s, v = .scalar s → s.Stable)
    (hdictionary : ∀ entries, v ≠ .dictionary entries) (hnames : v.names.Nodup)
    (htag : typeTagMember ∉ v.names) (h : ∀ c ∈ v.children, c.Stable) : v.Stable where
  scalars := .of_children hscalar fun c hc => (h c hc).scalars
  noDictionaries := .of_children hdictionary fun c hc => (h c hc).noDictionaries
  distinct := .of_children hnames fun c hc => (h c hc).distinct
  untagged := .of_children htag fun c hc => (h c hc).untagged

theorem stable_scalar {s : Scalar} (h : s.Stable) : (scalar s).Stable :=
  .of_children (fun _ hs => scalar.inj hs ▸ h) (by simp) List.nodup_nil List.not_mem_nil
    fun _ hc => nomatch hc

theorem Stable.image {v : Value} (h : v.Stable) : v.image = v := by
  induction v using childInduction with
  | step v ih =>
    have hchild (c : Value) (hc : c ∈ v.children) : c.image = c := ih c hc (h.child hc)
    cases v with
    | scalar s => rw [Value.image, (h.scalars.self s rfl).image]
    | sequence items =>
      have hitems : items.map Value.image = items.map id := List.map_congr_left hchild
      rw [Value.image, imageItems_eq, hitems, List.map_id]
    | record members tag =>
      have hmembers (m : String × Value) (hm : m ∈ members) : (m.1, m.2.image) = m := by
        rw [hchild m.2 (List.mem_map_of_mem hm)]
      rw [Value.image, imageMembers_eq, List.map_congr_left hmembers, List.map_id']
    | dictionary entries => exact absurd rfl (h.noDictionaries.self entries)

theorem Stable.ofJson_document {v : Value} (h : v.Stable) : ofJson v.document = v := by
  rw [Value.ofJson_document h.untagged, h.image]

end Value

end EventText
