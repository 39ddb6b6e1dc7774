import EventText.Expr.Lowering

namespace EventText

namespace Element

def content : Element α → α
  | .item content => content
  | .spread content => content

def map (f : α → β) : Element α → Element β
  | .item content => .item (f content)
  | .spread content => .spread (f content)

-- What is left of an element without its content.
def shape (element : Element α) : Element Unit := element.map fun _ => ()

@[simp] theorem content_map (f : α → β) (element : Element α) :
    (element.map f).content = f element.content := by
  cases element <;> rfl

@[simp] theorem shape_map (f : α → β) (element : Element α) :
    (element.map f).shape = element.shape := by
  cases element <;> rfl

-- Literals are equal if their shapes and their contents are.
theorem map_eq_map {f : α → γ} {g : β → γ} {xs : List (Element α)} {ys : List (Element β)}
    (shapes : xs.map Element.shape = ys.map Element.shape)
    (contents : (xs.map Element.content).map f = (ys.map Element.content).map g) :
    xs.map (Element.map f) = ys.map (Element.map g) := by
  induction xs generalizing ys with
  | nil =>
      obtain rfl : ys = [] := by simpa using shapes.symm
      rfl
  | cons x xs ih =>
      cases ys with
      | nil => cases shapes
      | cons y ys =>
          obtain ⟨hshape, shapes⟩ := List.cons.inj shapes
          obtain ⟨hcontent, contents⟩ := List.cons.inj contents
          have hfirst : x.map f = y.map g := by
            cases x <;> cases y <;> simp_all [Element.shape, Element.map, Element.content]
          rw [List.map_cons, List.map_cons, hfirst, ih shapes contents]

@[simp] theorem map_id : (map id : Element α → Element α) = id := by
  funext element
  cases element <;> rfl

end Element

namespace Member

def content : Member α → α
  | .named _ content => content
  | .spread content => content

def map (f : α → β) : Member α → Member β
  | .named name content => .named name (f content)
  | .spread content => .spread (f content)

-- What is left of a member without its content: its name, if it has one.
def shape (member : Member α) : Member Unit := member.map fun _ => ()

@[simp] theorem content_map (f : α → β) (member : Member α) :
    (member.map f).content = f member.content := by
  cases member <;> rfl

@[simp] theorem shape_map (f : α → β) (member : Member α) :
    (member.map f).shape = member.shape := by
  cases member <;> rfl

theorem map_eq_map {f : α → γ} {g : β → γ} {xs : List (Member α)} {ys : List (Member β)}
    (shapes : xs.map Member.shape = ys.map Member.shape)
    (contents : (xs.map Member.content).map f = (ys.map Member.content).map g) :
    xs.map (Member.map f) = ys.map (Member.map g) := by
  induction xs generalizing ys with
  | nil =>
      obtain rfl : ys = [] := by simpa using shapes.symm
      rfl
  | cons x xs ih =>
      cases ys with
      | nil => cases shapes
      | cons y ys =>
          obtain ⟨hshape, shapes⟩ := List.cons.inj shapes
          obtain ⟨hcontent, contents⟩ := List.cons.inj contents
          have hfirst : x.map f = y.map g := by
            cases x <;> cases y <;> simp_all [Member.shape, Member.map, Member.content]
          rw [List.map_cons, List.map_cons, hfirst, ih shapes contents]

@[simp] theorem map_id : (map id : Member α → Member α) = id := by
  funext member
  cases member <;> rfl

end Member

namespace Expr

-- The expressions directly inside an expression, from left to right.
def children : Expr → List Expr
  | .constant _ | .property _ | .builtin _ | .slot _ => []
  | .member target _ => [target]
  | .index target key => [target, key]
  | .wildcard target _ => [target]
  | .call _ arguments _ _ => arguments
  | .unary _ operand => [operand]
  | .binary _ left right _ _ => [left, right]
  | .conditional condition consequent alternative =>
      condition :: consequent :: alternative.toList
  | .array elements => elements.map Element.content
  | .object members => members.map Member.content

theorem size_lt_sizeAll {e : Expr} {es : List Expr} (h : e ∈ es) : e.size < sizeAll es := by
  induction es with
  | nil => cases h
  | cons other rest ih =>
      rcases List.mem_cons.mp h with rfl | h
      · simp only [sizeAll]
        omega
      · have := ih h
        simp only [sizeAll]
        omega

theorem sizeElements_eq (elements : List (Element Expr)) :
    sizeElements elements = sizeAll (elements.map Element.content) := by
  induction elements with
  | nil => rfl
  | cons element rest ih =>
      cases element <;> simp [sizeElements, sizeAll, Element.content, ih]

theorem sizeMembers_eq (members : List (Member Expr)) :
    sizeMembers members = sizeAll (members.map Member.content) := by
  induction members with
  | nil => rfl
  | cons member rest ih =>
      cases member <;> simp [sizeMembers, sizeAll, Member.content, ih]

theorem size_child {c e : Expr} (h : c ∈ e.children) : c.size < e.size := by
  cases e with
  | call name arguments ignoreCase position =>
      have : c.size < sizeAll arguments := size_lt_sizeAll h
      simp only [size]
      omega
  | array elements =>
      have : c.size < sizeAll (elements.map Element.content) := size_lt_sizeAll h
      simp only [size, sizeElements_eq]
      omega
  | object members =>
      have : c.size < sizeAll (members.map Member.content) := size_lt_sizeAll h
      simp only [size, sizeMembers_eq]
      omega
  | conditional condition consequent alternative =>
      cases alternative with
      | none =>
          rcases List.mem_cons.mp h with rfl | h
          · simp only [size]
            omega
          · obtain rfl : c = consequent := by simpa using h
            simp only [size]
            omega
      | some alternative =>
          have hc : c = condition ∨ c = consequent ∨ c = alternative := by
            simpa [children] using h
          rcases hc with rfl | rfl | rfl <;> simp only [size] <;> omega
  | binary op left right ignoreCase position =>
      have hc : c = left ∨ c = right := by simpa [children] using h
      rcases hc with rfl | rfl <;> simp only [size] <;> omega
  | index target key =>
      have hc : c = target ∨ c = key := by simpa [children] using h
      rcases hc with rfl | rfl <;> simp only [size] <;> omega
  | member target name =>
      obtain rfl : c = target := by simpa [children] using h
      simp [size]
  | wildcard target q =>
      obtain rfl : c = target := by simpa [children] using h
      simp [size]
  | unary op operand =>
      obtain rfl : c = operand := by simpa [children] using h
      simp [size]
  | _ => cases h

-- Expressions are nested through lists, so that what is shown of all children is shown of the
-- whole by the number of nodes.
@[elab_as_elim]
theorem childInduction {P : Expr → Prop} (step : ∀ e, (∀ c ∈ e.children, P c) → P e)
    (e : Expr) : P e :=
  step e fun c h =>
    have := size_child h
    childInduction step c
termination_by e.size

-- An expression that stands anywhere in another one, or is that one.
inductive Occurs (f : Expr) : Expr → Prop
  | here : Occurs f f
  | inside {c e : Expr} (child : c ∈ e.children) (deeper : Occurs f c) : Occurs f e

theorem occurs_iff {f e : Expr} : f.Occurs e ↔ f = e ∨ ∃ c ∈ e.children, f.Occurs c := by
  constructor
  · intro h
    cases h with
    | here => exact .inl rfl
    | inside child deeper => exact .inr ⟨_, child, deeper⟩
  · rintro (rfl | ⟨c, child, deeper⟩)
    · exact .here
    · exact .inside child deeper

theorem Occurs.exists_child {f e : Expr} (h : f.Occurs e) (hne : f ≠ e) :
    ∃ c ∈ e.children, f.Occurs c := (occurs_iff.mp h).resolve_left hne

theorem Occurs.trans {f g e : Expr} (hf : f.Occurs g) (hg : g.Occurs e) : f.Occurs e := by
  induction hg with
  | here => exact hf
  | inside child _ ih => exact .inside child ih

-- Source text holds no slots: those are handed out when names are bound.
def Slotless (e : Expr) : Prop := ∀ n, ¬ (Expr.slot n).Occurs e

-- All slots of an expression are taken: they lie below the next free one.
def SlotsBelow (e : Expr) (next : Nat) : Prop := ∀ n, (Expr.slot n).Occurs e → n < next

def WildcardFree (e : Expr) : Prop := ∀ target q, ¬ (Expr.wildcard target q).Occurs e

theorem Slotless.slotsBelow {e : Expr} (h : e.Slotless) (next : Nat) : e.SlotsBelow next :=
  fun n hn => absurd hn (h n)

theorem SlotsBelow.mono {e : Expr} {m n : Nat} (h : e.SlotsBelow m) (hle : m ≤ n) :
    e.SlotsBelow n := fun k hk => Nat.lt_of_lt_of_le (h k hk) hle

theorem Slotless.child {c e : Expr} (h : e.Slotless) (hc : c ∈ e.children) : c.Slotless :=
  fun n hn => h n (.inside hc hn)

theorem SlotsBelow.child {c e : Expr} {next : Nat} (h : e.SlotsBelow next)
    (hc : c ∈ e.children) : c.SlotsBelow next := fun n hn => h n (.inside hc hn)

theorem WildcardFree.child {c e : Expr} (h : e.WildcardFree) (hc : c ∈ e.children) :
    c.WildcardFree := fun target q hq => h target q (.inside hc hq)

theorem slot_of_only_child {n : Nat} {c e : Expr} (hchildren : e.children = [c])
    (h : (Expr.slot n).Occurs e) : (Expr.slot n).Occurs c := by
  obtain ⟨other, hother, hn⟩ := h.exists_child (by rintro rfl; cases hchildren)
  rw [hchildren] at hother
  exact List.mem_singleton.mp hother ▸ hn

theorem slotless_of_only_child {c e : Expr} (hchildren : e.children = [c]) (h : c.Slotless) :
    e.Slotless := fun n hn => h n (slot_of_only_child hchildren hn)

theorem slotsBelow_children {e : Expr} {next : Nat} (h : ∀ f ∈ [e], f.SlotsBelow next) :
    ∀ c ∈ e.children, c.SlotsBelow next :=
  fun _ hc => (h e List.mem_cons_self).child hc

-- An expression that is no slot itself has the slots of its children.
theorem slotless_of_children {e : Expr} (hne : ∀ n, e ≠ .slot n)
    (h : ∀ c ∈ e.children, c.Slotless) : e.Slotless := by
  intro n hn
  rcases occurs_iff.mp hn with rfl | ⟨c, hc, hn⟩
  · exact hne n rfl
  · exact h c hc n hn

theorem slotless_of_leaf {e : Expr} (hne : ∀ n, e ≠ .slot n) (h : e.children = []) :
    e.Slotless := slotless_of_children hne (by simp [h])

theorem wildcardFree_of_leaf {e : Expr} (hne : ∀ target q, e ≠ .wildcard target q)
    (h : e.children = []) : e.WildcardFree := by
  intro target q hq
  rcases occurs_iff.mp hq with rfl | ⟨c, hc, -⟩
  · exact hne target q rfl
  · simp [h] at hc

@[simp] theorem slotless_constant (s : Scalar) : (constant s).Slotless :=
  slotless_of_leaf (by simp) rfl

@[simp] theorem slotless_property (name : String) : (property name).Slotless :=
  slotless_of_leaf (by simp) rfl

@[simp] theorem slotless_builtin (p : BuiltinProperty) : (builtin p).Slotless :=
  slotless_of_leaf (by simp) rfl

end Expr

theorem Element.sizeOf_content {α : Type} [SizeOf α] (element : Element α) :
    sizeOf element.content < sizeOf element := by
  cases element with
  | item content =>
      simp only [Element.content, item.sizeOf_spec]
      omega
  | spread content =>
      simp only [Element.content, spread.sizeOf_spec]
      omega

theorem Member.sizeOf_content {α : Type} [SizeOf α] (member : Member α) :
    sizeOf member.content < sizeOf member := by
  cases member with
  | named name content =>
      simp only [Member.content, named.sizeOf_spec]
      omega
  | spread content =>
      simp only [Member.content, spread.sizeOf_spec]
      omega

namespace Plan

-- The plans directly inside a plan.
def parts : Plan → List Plan
  | .constant _ | .property _ | .builtin _ | .slot _ | .remaining _ => []
  | .member target _ => [target]
  | .index target key => [target, key]
  | .call _ arguments _ => arguments
  | .unary _ operand => [operand]
  | .binary _ left right _ => [left, right]
  | .conditional condition consequent alternative =>
      condition :: consequent :: alternative.toList
  | .array elements => elements.map Element.content
  | .object members => members.map Member.content
  | .quantified _ collection _ body => [collection, body]

theorem sizeOf_part {part plan : Plan} (h : part ∈ plan.parts) : sizeOf part < sizeOf plan := by
  cases plan with
  | call f arguments ignoreCase =>
      have hmem : sizeOf part < sizeOf arguments := List.sizeOf_lt_of_mem h
      simp only [call.sizeOf_spec]
      omega
  | array elements =>
      obtain ⟨element, helement, rfl⟩ := List.mem_map.mp h
      have hmem := List.sizeOf_lt_of_mem helement
      have hcontent := element.sizeOf_content
      simp only [array.sizeOf_spec]
      omega
  | object members =>
      obtain ⟨member, hmember, rfl⟩ := List.mem_map.mp h
      have hmem := List.sizeOf_lt_of_mem hmember
      have hcontent := member.sizeOf_content
      simp only [object.sizeOf_spec]
      omega
  | conditional condition consequent alternative =>
      cases alternative with
      | none =>
          obtain rfl | rfl : part = condition ∨ part = consequent := by simpa [parts] using h
          all_goals
            simp only [conditional.sizeOf_spec]
            omega
      | some alternative =>
          obtain rfl | rfl | rfl : part = condition ∨ part = consequent ∨ part = alternative := by
            simpa [parts] using h
          all_goals
            simp only [conditional.sizeOf_spec, Option.some.sizeOf_spec]
            omega
  | member target name =>
      obtain rfl := List.mem_singleton.mp h
      simp only [member.sizeOf_spec]
      omega
  | index target key =>
      obtain rfl | rfl : part = target ∨ part = key := by simpa [parts] using h
      all_goals
        simp only [index.sizeOf_spec]
        omega
  | unary op operand =>
      obtain rfl := List.mem_singleton.mp h
      simp only [unary.sizeOf_spec]
      omega
  | binary op left right ignoreCase =>
      obtain rfl | rfl : part = left ∨ part = right := by simpa [parts] using h
      all_goals
        simp only [binary.sizeOf_spec]
        omega
  | quantified q collection n body =>
      obtain rfl | rfl : part = collection ∨ part = body := by simpa [parts] using h
      all_goals
        simp only [quantified.sizeOf_spec]
        omega
  | _ => cases h

@[elab_as_elim]
theorem partInduction {P : Plan → Prop} (step : ∀ plan, (∀ part ∈ plan.parts, P part) → P plan)
    (plan : Plan) : P plan :=
  step plan fun part h =>
    have := sizeOf_part h
    partInduction step part
termination_by sizeOf plan

end Plan

end EventText
