import EventText.Proofs.Expr.Meaning
import EventText.Template.Binding

namespace EventText

theorem Names.exists_of_slot? {names : Names} {name : String} {n : Nat}
    (h : names.slot? name = some n) : ∃ bound ∈ names, bound.name = name ∧ bound.slot = n := by
  obtain ⟨bound, hfind, hslot⟩ := Option.map_eq_some_iff.mp h
  have hname : bound.name = name := by simpa using List.find?_some hfind
  exact ⟨bound, List.mem_of_find?_eq_some hfind, hname, hslot⟩

namespace Expr

theorem bindAll_eq_map (names : Names) (es : List Expr) :
    bindAll names es = es.map (bind names) := by
  induction es with
  | nil => simp [bindAll]
  | cons e rest ih => simp [bindAll, ih]

theorem bindElements_eq_map (names : Names) (elements : List (Element Expr)) :
    bindElements names elements = elements.map (Element.map (bind names)) := by
  induction elements with
  | nil => simp [bindElements]
  | cons element rest ih => cases element <;> simp [bindElements, Element.map, ih]

theorem bindMembers_eq_map (names : Names) (members : List (Member Expr)) :
    bindMembers names members = members.map (Member.map (bind names)) := by
  induction members with
  | nil => simp [bindMembers]
  | cons member rest ih => cases member <;> simp [bindMembers, Member.map, ih]

theorem children_bind (names : Names) (e : Expr) :
    (e.bind names).children = e.children.map (bind names) := by
  cases e with
  | property name =>
      unfold bind
      split <;> rfl
  | call name arguments ignoreCase position => simp [bind, children, bindAll_eq_map]
  | array elements => simp [bind, children, bindElements_eq_map, Function.comp_def]
  | object members => simp [bind, children, bindMembers_eq_map, Function.comp_def]
  | conditional condition consequent alternative => cases alternative <;> simp [bind, children]
  | _ => simp [bind, children]

-- Binding changes nothing but plain names.

theorem bind_eq_constant {names : Names} {e : Expr} {s : Scalar} :
    e.bind names = .constant s ↔ e = .constant s := by
  cases e with
  | property name =>
      unfold bind
      split <;> simp
  | conditional condition consequent alternative => cases alternative <;> simp [bind]
  | _ => simp [bind]

theorem bind_eq_builtin {names : Names} {e : Expr} {p : BuiltinProperty} :
    e.bind names = .builtin p ↔ e = .builtin p := by
  cases e with
  | property name =>
      unfold bind
      split <;> simp
  | conditional condition consequent alternative => cases alternative <;> simp [bind]
  | _ => simp [bind]

-- A bound expression has the slots of the visible names that it mentions, and no others.
theorem exists_property_of_slot_bind {names : Names} {e : Expr} (hs : e.Slotless) {n : Nat}
    (h : (Expr.slot n).Occurs (e.bind names)) :
    ∃ name, (Expr.property name).Occurs e ∧ names.slot? name = some n := by
  induction e using childInduction with
  | step e ih =>
      rcases occurs_iff.mp h with heq | ⟨c, hc, hdeep⟩
      · cases e with
        | property name =>
            unfold bind at heq
            split at heq
            · rename_i m hm
              cases heq
              exact ⟨name, .here, hm⟩
            · cases heq
        | slot m => exact absurd .here (hs m)
        | conditional condition consequent alternative => cases alternative <;> simp [bind] at heq
        | _ => simp [bind] at heq
      · rw [children_bind] at hc
        obtain ⟨source, hsource, rfl⟩ := List.mem_map.mp hc
        obtain ⟨name, hname, hslot⟩ := ih source hsource (hs.child hsource) hdeep
        exact ⟨name, .inside hsource hname, hslot⟩

theorem slotsBelow_bind {names : Names} {next : Nat} (hnames : ∀ bound ∈ names, bound.slot < next)
    {e : Expr} (hs : e.Slotless) : (e.bind names).SlotsBelow next := by
  intro n hn
  obtain ⟨name, -, hslot⟩ := exists_property_of_slot_bind hs hn
  obtain ⟨bound, hbound, -, rfl⟩ := Names.exists_of_slot? hslot
  exact hnames bound hbound

end Expr

-- What a plain name stands for where some names are slots already.
def Environment.lookup (env : Environment) (names : Names) (name : String) : Outcome :=
  match names.slot? name with
  | some n => env.slot n
  | none => env.plain name

-- As far as an expression can tell, the slots of the visible names hold what the names stand for.
structure Environment.Represents (slotted named : Environment) (names : Names) (e : Expr) :
    Prop where
  event : slotted.event = named.event
  clock : slotted.clock = named.clock
  plain : ∀ name, (Expr.property name).Occurs e → named.plain name = slotted.lookup names name
  slot : ∀ n, (Expr.slot n).Occurs e → named.slot n = slotted.slot n

namespace Environment.Represents

theorem child {slotted named : Environment} {names : Names} {c e : Expr}
    (h : slotted.Represents named names e) (hc : c ∈ e.children) :
    slotted.Represents named names c where
  event := h.event
  clock := h.clock
  plain := fun name hname => h.plain name (.inside hc hname)
  slot := fun n hn => h.slot n (.inside hc hn)

end Environment.Represents

-- An expression reads the same in two surroundings if functions are found in the same way and,
-- where it holds a `rest()`, the same names are left out.
structure Surroundings.AgreeOn (within other : Surroundings) (e : Expr) : Prop where
  resolver : within.resolver = other.resolver
  referenced : ∀ name arguments ignoreCase position,
    Surroundings.isRest name arguments ignoreCase = true →
      (Expr.call name arguments ignoreCase position).Occurs e →
      within.referenced = other.referenced

namespace Surroundings.AgreeOn

theorem refl (within : Surroundings) (e : Expr) : within.AgreeOn within e :=
  ⟨rfl, fun _ _ _ _ _ _ => rfl⟩

theorem child {within other : Surroundings} {c e : Expr} (h : within.AgreeOn other e)
    (hc : c ∈ e.children) : within.AgreeOn other c where
  resolver := h.resolver
  referenced := fun name arguments ignoreCase position hrest hcall =>
    h.referenced name arguments ignoreCase position hrest (.inside hc hcall)

end Surroundings.AgreeOn

namespace Expr

variable {within other : Surroundings} {slotted named : Environment} {names : Names}

private theorem passAll_bindAll {es : List Expr}
    (h : ∀ e ∈ es, ∀ operation,
      (e.bind names).pass within slotted operation = e.pass other named operation)
    (operation : List Outcome → Outcome) :
    passAll within slotted (bindAll names es) operation = passAll other named es operation := by
  induction es generalizing operation with
  | nil => simp [bindAll, passAll]
  | cons e rest ih =>
      have hrest := ih fun other hother => h other (List.mem_cons_of_mem _ hother)
      simp only [bindAll, passAll, h e List.mem_cons_self, hrest]

private theorem passElements_bindElements {elements : List (Element Expr)}
    (h : ∀ e ∈ elements.map Element.content, ∀ operation,
      (e.bind names).pass within slotted operation = e.pass other named operation) :
    passElements within slotted (bindElements names elements)
      = passElements other named elements := by
  induction elements with
  | nil => simp [bindElements, passElements]
  | cons element rest ih =>
      have hrest := ih fun other hother => h other (List.mem_cons_of_mem _ hother)
      have hfirst := h element.content (by simp)
      cases element <;>
        simp only [Element.content] at hfirst <;>
        simp only [bindElements, passElements, hfirst, hrest]

private theorem passMembers_bindMembers {members : List (Member Expr)}
    (h : ∀ e ∈ members.map Member.content, ∀ operation,
      (e.bind names).pass within slotted operation = e.pass other named operation) :
    passMembers within slotted (bindMembers names members)
      = passMembers other named members := by
  induction members with
  | nil => simp [bindMembers, passMembers]
  | cons member rest ih =>
      have hrest := ih fun other hother => h other (List.mem_cons_of_mem _ hother)
      have hfirst := h member.content (by simp)
      cases member <;>
        simp only [Member.content] at hfirst <;>
        simp only [bindMembers, passMembers, hfirst, hrest]

theorem isRest_bindAll (name : String) (arguments : List Expr) (ignoreCase : Bool) :
    Surroundings.isRest name (bindAll names arguments) ignoreCase
      = Surroundings.isRest name arguments ignoreCase := by
  cases arguments <;> simp [Surroundings.isRest, bindAll]

-- Reading a bound expression by its slots is reading the written one by its names.
theorem pass_bind {e : Expr} (hagree : within.AgreeOn other e)
    (h : slotted.Represents named names e) (operation : Outcome → Outcome) :
    (e.bind names).pass within slotted operation = e.pass other named operation := by
  induction e using childInduction generalizing operation with
  | step e ih =>
      have inner : ∀ c ∈ e.children, ∀ operation,
          (c.bind names).pass within slotted operation = c.pass other named operation :=
        fun c hc => ih c hc (hagree.child hc) (h.child hc)
      cases e with
      | property name =>
          have hplain := h.plain name .here
          unfold Environment.lookup at hplain
          unfold bind
          split <;> simp_all [pass]
      | constant s => simp [bind, pass]
      | builtin p => simp [bind, pass, h.event]
      | slot n => simp [bind, pass, h.slot n .here]
      | call name arguments ignoreCase position =>
          have hcall : within.call slotted name ignoreCase = other.call named name ignoreCase := by
            unfold Surroundings.call
            rw [h.clock, hagree.resolver]
          have hall : passAll within slotted (bindAll names arguments)
              = passAll other named arguments := funext (passAll_bindAll inner)
          cases hrest : Surroundings.isRest name arguments ignoreCase with
          | true =>
              have hreferenced := hagree.referenced _ _ _ _ hrest .here
              simp [bind, pass, isRest_bindAll, hrest, h.event, hreferenced]
          | false => simp [bind, pass, isRest_bindAll, hrest, hcall, hall]
      | array elements => simp only [bind, pass, passElements_bindElements inner]
      | object members => simp only [bind, pass, passMembers_bindMembers inner]
      | conditional condition consequent alternative =>
          cases alternative <;> simp_all [children, bind, pass]
      | member target name => simp_all [children, bind, pass]
      | index target key => simp_all [children, bind, pass]
      | wildcard target q => simp_all [children, bind, pass]
      | unary op operand => simp_all [children, bind, pass]
      | binary op left right ignoreCase position => simp_all [children, bind, pass]

theorem bind_nil (e : Expr) : e.bind [] = e := by
  induction e using childInduction with
  | step e ih =>
      have all : e.children.map (bind []) = e.children.map id := List.map_congr_left ih
      cases e with
      | property name => rfl
      | call name arguments ignoreCase position =>
          have harguments : arguments.map (bind []) = arguments := all.trans (List.map_id _)
          simp only [bind, bindAll_eq_map, harguments]
      | array elements => simp [bind, bindElements_eq_map, Element.map_eq_map rfl all]
      | object members => simp [bind, bindMembers_eq_map, Member.map_eq_map rfl all]
      | conditional condition consequent alternative =>
          cases alternative <;> simp_all [children, bind]
      | _ => simp_all [children, bind]

-- The value of an expression depends on nothing but the names and slots in it.
theorem pass_congr {e : Expr} (h : slotted.Represents named [] e)
    (operation : Outcome → Outcome) :
    e.pass within slotted operation = e.pass within named operation := by
  rw [← pass_bind (.refl within e) h, bind_nil]

theorem meaning_congr {e : Expr} (h : slotted.Represents named [] e) :
    e.meaning within slotted = e.meaning within named := pass_congr h id

end Expr

end EventText
