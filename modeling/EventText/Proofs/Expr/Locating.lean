import EventText.Proofs.Expr.Places

namespace EventText

open Text (encodedLength encodedLength_append)

-- The call is written in this source, at its position: its name, perhaps blanks, and a parenthesis
-- behind which as many arguments are read as it has.
def Call.StandsIn (source : List Char) (call : Call) : Prop :=
  ∃ front blanks rest, source = front ++ call.name.toList ++ blanks ++ '(' :: rest ∧
    call.position = encodedLength front ∧ (∀ b ∈ blanks, Text.isBlank b) ∧
    ∃ s arguments s',
      Lookahead.ofCursor ⟨rest, encodedLength (front ++ call.name.toList ++ blanks ++ ['('])⟩
        = .ok s ∧
      ExprReader.listUntil .rightParen ExprReader.expression s = .ok (arguments, s') ∧
      arguments.length = call.arity

-- All calls of the expression are written in this source.
def Expr.StandsIn (source : List Char) (e : Expr) : Prop := ∀ call ∈ e.calls, call.StandsIn source

namespace Expr

variable {source : List Char}

theorem standsIn_of_children {e : Expr} (hown : e.ownCalls = [])
    (h : ∀ c ∈ e.children, c.StandsIn source) : e.StandsIn source := by
  intro call hcall
  rw [calls_of_children hown] at hcall
  obtain ⟨c, hc, hdeep⟩ := List.mem_flatMap.mp hcall
  exact h c hc call hdeep

theorem standsIn_of_leaf {e : Expr} (hown : e.ownCalls = []) (hleaf : e.children = []) :
    e.StandsIn source :=
  standsIn_of_children hown fun c hc => by simp [hleaf] at hc

theorem standsIn_of_only_child {c e : Expr} (hown : e.ownCalls = []) (hchildren : e.children = [c])
    (h : c.StandsIn source) : e.StandsIn source :=
  standsIn_of_children hown fun other hother => by
    rw [hchildren] at hother
    exact List.mem_singleton.mp hother ▸ h

theorem standsIn_binary {left right : Expr} (hleft : left.StandsIn source)
    (hright : right.StandsIn source) (op : BinaryOp) (ignoreCase : Bool) (position : Nat) :
    (binary op left right ignoreCase position).StandsIn source :=
  standsIn_of_children rfl (by simp [children, hleft, hright])

end Expr

-- What is read has a property, and what follows is a later place of the source.
structure Found (source : List Char) (P : α → Prop) (s : Lookahead) (r : α × Lookahead) : Prop where
  value : P r.1
  place : r.2.In source
  left : r.2.left ≤ s.left

abbrev LocatesAt (source : List Char) (P : α → Prop) (s : Lookahead) :
    Except TemplateError (α × Lookahead) → Prop :=
  Keeps source (Found source P s)

namespace Keeps

variable {source : List Char} {P : α → Prop} {Q : β → Prop} {s s' : Lookahead}

theorem found {a : α} (ha : P a) (hs : s'.In source) (hle : s'.left ≤ s.left) :
    LocatesAt source P s (.ok (a, s')) := ⟨ha, hs, hle⟩

theorem later {x : Except TemplateError (α × Lookahead)} (h : LocatesAt source P s' x)
    (hle : s'.left ≤ s.left) : LocatesAt source P s x :=
  h.imp fun _ hr => ⟨hr.value, hr.place, hr.left.trans hle⟩

theorem next {x : Except TemplateError (α × Lookahead)} {f : α × Lookahead → Except TemplateError β}
    (h : LocatesAt source P s x) (hf : ∀ a s', x = .ok (a, s') → P a → s'.In source →
      s'.left ≤ s.left → Keeps source Q (f (a, s'))) : Keeps source Q (x >>= f) :=
  h.bind fun r hr hfound => hf r.1 r.2 hr hfound.value hfound.place hfound.left

theorem advance {f : Lookahead → Except TemplateError β} (hs : s.In source)
    (hf : ∀ s', s.advance = .ok s' → s'.In source → s'.left ≤ s.left → Keeps source Q (f s')) :
    Keeps source Q (s.advance >>= f) :=
  (Lookahead.keeps_advance hs).bind fun s' hread h => hf s' hread h.1 h.2.1

-- Every token but the end takes a step.
theorem pass {f : Lookahead → Except TemplateError β} (hs : s.In source) (hne : s.token ≠ .eof)
    (hf : ∀ s', s.advance = .ok s' → s'.In source → s'.left < s.left → Keeps source Q (f s')) :
    Keeps source Q (s.advance >>= f) :=
  (Lookahead.keeps_advance hs).bind fun s' hread h => hf s' hread h.1 (h.2.2 hne)

theorem place {x : Except TemplateError Lookahead} {f : Lookahead → Except TemplateError β}
    (h : Keeps source (fun s' => s'.In source ∧ s'.left ≤ s.left) x)
    (hf : ∀ s', s'.In source → s'.left ≤ s.left → Keeps source Q (f s')) :
    Keeps source Q (x >>= f) := h.bind fun s' _ hs' => hf s' hs'.1 hs'.2

end Keeps

namespace ExprReader

-- The same at all places that have less left than a bound.
def Locates (source : List Char) (bound : Nat) (P : α → Prop) (read : ExprReader α) : Prop :=
  ∀ s, s.In source → s.left < bound → LocatesAt source P s (read s)

variable {source : List Char} {bound : Nat} {P : α → Prop} {s s' : Lookahead}

theorem unexpected (hs : s.In source) (expectation : Expectation) {Q : β → Prop} :
    Keeps source Q (.error (s.unexpected expectation)) := .error hs.boundary

theorem keeps_expectSymbol (symbol : Symbol) (hs : s.In source) :
    Keeps source (fun s' => s'.In source ∧ s'.left ≤ s.left) (s.expectSymbol symbol) := by
  unfold Lookahead.expectSymbol
  refine .ite (fun _ => ?_) fun _ => unexpected hs _
  exact (Lookahead.keeps_advance hs).imp fun _ h => ⟨h.1, h.2.1⟩

theorem keeps_expectKeyword (word : String) (hs : s.In source) :
    Keeps source (fun s' => s'.In source ∧ s'.left ≤ s.left) (s.expectKeyword word) := by
  unfold Lookahead.expectKeyword
  refine .ite (fun _ => ?_) fun _ => unexpected hs _
  exact (Lookahead.keeps_advance hs).imp fun _ h => ⟨h.1, h.2.1⟩

theorem locates_acceptKeyword (word : String) (hs : s.In source) :
    LocatesAt source (fun _ => True) s (s.acceptKeyword word) := by
  unfold Lookahead.acceptKeyword
  refine .ite (fun _ => ?_) fun _ => .found trivial hs (Nat.le_refl _)
  exact .advance hs fun s' _ hs' hle => .found trivial hs' hle

theorem keeps_builtin (name : String) (hs : s.In source) {Q : BuiltinProperty → Prop}
    (hQ : ∀ p, Q p) : Keeps source Q (builtin name s.position) := by
  unfold builtin
  split
  · exact hQ _
  · exact .error hs.boundary

theorem locates_separated {item : ExprReader α} (h : Locates source bound P item)
    (budget : Nat) :
    Locates source bound (fun items => ∀ a ∈ items, P a) (separated item budget) := by
  induction budget with
  | zero => exact fun s hs _ => .found (by simp) hs (Nat.le_refl _)
  | succ budget ih =>
      intro s hs hlt
      refine (h s hs hlt).next fun first s1 _ hfirst hs1 hle1 => ?_
      refine .ite (fun _ => ?_) fun _ => .found (by simpa using hfirst) hs1 hle1
      refine .advance hs1 fun s2 _ hs2 hle2 => ?_
      refine (ih s2 hs2 (by omega)).next fun rest s3 _ hrest hs3 hle3 => ?_
      exact .found (List.forall_mem_cons.mpr ⟨hfirst, hrest⟩) hs3 (by omega)

theorem locates_listUntil {item : ExprReader α} (h : Locates source bound P item)
    (closing : Symbol) :
    Locates source bound (fun items => ∀ a ∈ items, P a) (listUntil closing item) := by
  intro s hs hlt
  refine .ite (fun _ => ?_) fun _ => ?_
  · refine .advance hs fun s1 _ hs1 hle1 => ?_
    exact .found (by simp) hs1 hle1
  · refine (locates_separated h _ s hs hlt).next fun items s1 _ hitems hs1 hle1 => ?_
    refine .place (keeps_expectSymbol closing hs1) fun s2 hs2 hle2 => ?_
    exact .found hitems hs2 (by omega)

section

variable {inner : ExprReader Expr} (h : Locates source bound (Expr.StandsIn source) inner)

include h

theorem locates_element :
    Locates source bound (fun e => e.content.StandsIn source) (element inner) := by
  intro s hs hlt
  refine .ite (fun _ => ?_) fun _ => ?_
  · refine .advance hs fun s1 _ hs1 hle1 => ?_
    refine (h s1 hs1 (by omega)).next fun content s2 _ hcontent hs2 hle2 => ?_
    exact .found hcontent hs2 (by omega)
  · refine (h s hs hlt).next fun content s1 _ hcontent hs1 hle1 => ?_
    exact .found hcontent hs1 hle1

omit h in
theorem keeps_memberName (hs : s.In source) :
    Keeps source (fun r => ∀ e ∈ r.2, e.StandsIn source) (memberName s) := by
  unfold memberName
  split
  · intro e he
    cases he
    exact Expr.standsIn_of_leaf rfl rfl
  · refine (keeps_builtin _ hs (fun _ => trivial)).bind fun p _ _ => ?_
    intro e he
    cases he
    exact Expr.standsIn_of_leaf rfl rfl
  · intro e he
    cases he
  · exact unexpected hs _

theorem locates_member :
    Locates source bound (fun m => m.content.StandsIn source) (member inner) := by
  intro s hs hlt
  refine .ite (fun _ => ?_) fun _ => ?_
  · refine .advance hs fun s1 _ hs1 hle1 => ?_
    refine (h s1 hs1 (by omega)).next fun content s2 _ hcontent hs2 hle2 => ?_
    exact .found hcontent hs2 (by omega)
  · refine .advance hs fun s1 _ hs1 hle1 => ?_
    refine (keeps_memberName hs).bind ?_
    rintro ⟨name, shorthand⟩ - hshorthand
    refine .ite (fun _ => ?_) fun _ => ?_
    · refine .advance hs1 fun s2 _ hs2 hle2 => ?_
      refine (h s2 hs2 (by omega)).next fun content s3 _ hcontent hs3 hle3 => ?_
      exact .found hcontent hs3 (by omega)
    · cases shorthand with
      | some content => exact .found (hshorthand content rfl) hs1 hle1
      | none => exact unexpected hs1 _

theorem locates_conditional :
    Locates source bound (Expr.StandsIn source) (conditional inner) := by
  intro s hs hlt
  refine (h s hs hlt).next fun condition s1 _ hcondition hs1 hle1 => ?_
  refine .place (keeps_expectKeyword "then" hs1) fun s2 hs2 hle2 => ?_
  refine (h s2 hs2 (by omega)).next fun consequent s3 _ hconsequent hs3 hle3 => ?_
  refine (locates_acceptKeyword "else" hs3).next fun hasAlternative s4 _ _ hs4 hle4 => ?_
  refine .ite (fun _ => ?_) fun _ => ?_
  · refine (h s4 hs4 (by omega)).next fun alternative s5 _ halternative hs5 hle5 => ?_
    refine .found ?_ hs5 (by omega)
    exact Expr.standsIn_of_children rfl
      (by simp [Expr.children, hcondition, hconsequent, halternative])
  · refine .found ?_ hs4 (by omega)
    exact Expr.standsIn_of_children rfl (by simp [Expr.children, hcondition, hconsequent])

end

-- A name in front of a parenthesis is where a call stands, whose arguments are read behind that.
theorem standsIn_of_listUntil {named s1 s2 : Lookahead} {name : String} {arguments : List Expr}
    (hnamed : named.In source) (htoken : named.token = .identifier name)
    (hadvance : named.advance = .ok s) (hparen : s.atSymbol .leftParen = true)
    (hfirst : s.advance = .ok s1)
    (hlist : listUntil .rightParen expression s1 = .ok (arguments, s2)) (ignoreCase : Bool) :
    Call.StandsIn source ⟨name, arguments.length, ignoreCase, named.position⟩ := by
  obtain ⟨front, spelled, hsource, hposition, hspells⟩ := hnamed.token
  rw [htoken] at hspells
  obtain rfl : spelled = name.toList := hspells
  obtain ⟨blanks, symbol, hblanks, hchars, hstart, hrest, -, hsymbol, -⟩ :=
    Lookahead.ofCursor_eq_ok hadvance
  rw [Token.eq_of_isSymbol hparen] at hsymbol
  obtain rfl : symbol = ['('] := hsymbol
  have hend : s.rest.position = encodedLength (front ++ name.toList ++ blanks ++ ['(']) := by
    rw [hrest, hstart, hnamed.position_rest hsource, ← encodedLength_append, ← encodedLength_append]
  refine ⟨front, blanks, s.rest.chars, ?_, hposition, hblanks, s1, arguments, s2, ?_, hlist, rfl⟩
  · rw [hsource, hchars]
    simp only [List.append_assoc, List.cons_append, List.nil_append]
  · rw [← hend]
    exact hfirst

theorem locates_nameOrCall {name : String}
    (h : Locates source bound (Expr.StandsIn source) expression) {named : Lookahead}
    (hnamed : named.In source) (htoken : named.token = .identifier name)
    (hadvance : named.advance = .ok s) (hs : s.In source) (hlt : s.left < bound) :
    LocatesAt source (Expr.StandsIn source) s (nameOrCall expression name named.position s) := by
  unfold nameOrCall
  refine .ite (fun hparen => ?_) fun _ => .found (Expr.standsIn_of_leaf rfl rfl) hs (Nat.le_refl _)
  refine .advance hs fun s1 hread1 hs1 hle1 => ?_
  have hlocates := locates_listUntil h .rightParen s1 hs1 (by omega)
  refine hlocates.next fun arguments s2 hlist harguments hs2 hle2 => ?_
  refine (locates_acceptKeyword "ci" hs2).next fun ignoreCase s3 _ _ hs3 hle3 => ?_
  refine .found ?_ hs3 (by omega)
  intro call hcall
  rw [Expr.calls_eq, List.mem_append] at hcall
  rcases hcall with hown | hdeep
  · obtain rfl := List.mem_singleton.mp hown
    exact standsIn_of_listUntil hnamed htoken hadvance hparen hread1 hlist ignoreCase
  · obtain ⟨c, hc, hdeep⟩ := List.mem_flatMap.mp hdeep
    exact harguments c hc call hdeep

section

variable (h : Locates source bound (Expr.StandsIn source) expression)

include h

theorem locates_primary :
    Locates source (bound + 1) (Expr.StandsIn source) (primary expression) := by
  intro s hs hlt
  unfold primary
  split
  · exact .advance hs fun s1 _ hs1 hle1 => .found (Expr.standsIn_of_leaf rfl rfl) hs1 hle1
  · exact .advance hs fun s1 _ hs1 hle1 => .found (Expr.standsIn_of_leaf rfl rfl) hs1 hle1
  · exact .advance hs fun s1 _ hs1 hle1 => .found (Expr.standsIn_of_leaf rfl rfl) hs1 hle1
  · refine .advance hs fun s1 _ hs1 hle1 => ?_
    refine (keeps_builtin _ hs (fun _ => trivial)).bind fun p _ _ => ?_
    exact .found (Expr.standsIn_of_leaf rfl rfl) hs1 hle1
  · next htoken =>
    refine .pass hs (by simp [htoken]) fun s1 _ hs1 hlt1 => ?_
    refine (h s1 hs1 (by omega)).next fun content s2 _ hcontent hs2 hle2 => ?_
    exact .place (keeps_expectSymbol _ hs2) fun s3 hs3 hle3 => .found hcontent hs3 (by omega)
  · next htoken =>
    refine .pass hs (by simp [htoken]) fun s1 _ hs1 hlt1 => ?_
    refine (locates_listUntil (locates_element h) _ s1 hs1 (by omega)).next
      fun elements s2 _ helements hs2 hle2 => ?_
    refine .found ?_ hs2 (by omega)
    exact Expr.standsIn_of_children rfl (by simpa [Expr.children] using helements)
  · next htoken =>
    refine .pass hs (by simp [htoken]) fun s1 _ hs1 hlt1 => ?_
    refine (locates_listUntil (locates_member h) _ s1 hs1 (by omega)).next
      fun members s2 _ hmembers hs2 hle2 => ?_
    refine .found ?_ hs2 (by omega)
    exact Expr.standsIn_of_children rfl (by simpa [Expr.children] using hmembers)
  · next name htoken =>
    refine .pass hs (by simp [htoken]) fun s1 hread1 hs1 hlt1 => ?_
    have leaf {e : Expr} (hown : e.ownCalls = []) (hleaf : e.children = []) :
        LocatesAt source (Expr.StandsIn source) s (.ok (e, s1)) :=
      .found (Expr.standsIn_of_leaf hown hleaf) hs1 (Nat.le_of_lt hlt1)
    refine .ite (fun _ => leaf rfl rfl) fun _ => .ite (fun _ => leaf rfl rfl) fun _ => ?_
    refine .ite (fun _ => leaf rfl rfl) fun _ => .ite (fun _ => ?_) fun _ => ?_
    · exact (locates_conditional h s1 hs1 (by omega)).later (Nat.le_of_lt hlt1)
    · exact (locates_nameOrCall h hs htoken hread1 hs1 (by omega)).later (Nat.le_of_lt hlt1)
  · exact unexpected hs _

omit h in
theorem locates_memberAccess {target : Expr} (htarget : target.StandsIn source)
    (hs : s.In source) : LocatesAt source (Expr.StandsIn source) s (memberAccess target s) := by
  refine .advance hs fun s1 _ hs1 hle1 => ?_
  split
  · exact .found (Expr.standsIn_of_only_child rfl rfl htarget) hs1 hle1
  · exact unexpected hs _

theorem locates_bracketAccess {target : Expr} (htarget : target.StandsIn source) :
    Locates source bound (Expr.StandsIn source) (bracketAccess expression target) := by
  intro s hs hlt
  unfold bracketAccess
  split
  · refine .advance hs fun s1 _ hs1 hle1 => ?_
    refine .place (keeps_expectSymbol _ hs1) fun s2 hs2 hle2 => ?_
    exact .found (Expr.standsIn_of_only_child rfl rfl htarget) hs2 (by omega)
  · refine (h s hs hlt).next fun key s1 _ hkey hs1 hle1 => ?_
    refine .place (keeps_expectSymbol _ hs1) fun s2 hs2 hle2 => ?_
    refine .found ?_ hs2 (by omega)
    exact Expr.standsIn_of_children rfl (by simp [Expr.children, htarget, hkey])

theorem locates_accessors (budget : Nat) {target : Expr} (htarget : target.StandsIn source) :
    Locates source (bound + 1) (Expr.StandsIn source) (accessors expression budget target) := by
  induction budget generalizing target with
  | zero => exact fun s hs _ => .found htarget hs (Nat.le_refl _)
  | succ budget ih =>
      intro s hs hlt
      refine .ite (fun hdot => ?_) fun _ => .ite (fun hbracket => ?_) fun _ => ?_
      · refine .pass hs (Placement.ne_eof_of_atSymbol hdot) fun s1 _ hs1 hlt1 => ?_
        refine (locates_memberAccess htarget hs1).next fun extended s2 _ hextended hs2 hle2 => ?_
        exact (ih hextended s2 hs2 (by omega)).later (by omega)
      · refine .pass hs (Placement.ne_eof_of_atSymbol hbracket) fun s1 _ hs1 hlt1 => ?_
        refine (locates_bracketAccess h htarget s1 hs1 (by omega)).next
          fun extended s2 _ hextended hs2 hle2 => ?_
        exact (ih hextended s2 hs2 (by omega)).later (by omega)
      · exact .found htarget hs (Nat.le_refl _)

theorem locates_path : Locates source (bound + 1) (Expr.StandsIn source) (path expression) := by
  intro s hs hlt
  refine (locates_primary h s hs hlt).next fun target s1 _ htarget hs1 hle1 => ?_
  exact (locates_accessors h _ htarget s1 hs1 (by omega)).later hle1

omit h in
theorem standsIn_negation {e : Expr} (he : e.StandsIn source) : (negation e).StandsIn source := by
  unfold negation
  split
  · split
    · exact Expr.standsIn_of_only_child rfl rfl (Expr.standsIn_of_leaf rfl rfl)
    · exact Expr.standsIn_of_leaf rfl rfl
  · exact Expr.standsIn_of_leaf rfl rfl
  · exact Expr.standsIn_of_only_child rfl rfl he

theorem locates_signed (budget : Nat) :
    Locates source (bound + 1) (Expr.StandsIn source) (signed expression budget) := by
  induction budget with
  | zero => exact locates_path h
  | succ budget ih =>
      intro s hs hlt
      refine .ite (fun _ => ?_) fun _ => .ite (fun _ => ?_) fun _ => locates_path h s hs hlt
      · refine .advance hs fun s1 _ hs1 hle1 => ?_
        refine (ih s1 hs1 (by omega)).next fun operand s2 _ hoperand hs2 hle2 => ?_
        exact .found (Expr.standsIn_of_only_child rfl rfl hoperand) hs2 (by omega)
      · refine .advance hs fun s1 _ hs1 hle1 => ?_
        refine (ih s1 hs1 (by omega)).next fun operand s2 _ hoperand hs2 hle2 => ?_
        exact .found (standsIn_negation hoperand) hs2 (by omega)

theorem locates_powers (budget : Nat) :
    Locates source (bound + 1) (Expr.StandsIn source) (powers expression budget) := by
  induction budget with
  | zero => exact fun s => locates_signed h s.budget s
  | succ budget ih =>
      intro s hs hlt
      refine (locates_signed h _ s hs hlt).next fun base s1 _ hbase hs1 hle1 => ?_
      refine .ite (fun _ => ?_) fun _ => .found hbase hs1 hle1
      refine .advance hs1 fun s2 _ hs2 hle2 => ?_
      refine (ih s2 hs2 (by omega)).next fun exponent s3 _ hexponent hs3 hle3 => ?_
      exact .found (Expr.standsIn_binary hbase hexponent _ _ _) hs3 (by omega)

end

section

variable {operand : ExprReader Expr} (h : Locates source bound (Expr.StandsIn source) operand)

include h

theorem locates_leftGrouped (operator? : Token → Option BinaryOp) (budget : Nat) {left : Expr}
    (hleft : left.StandsIn source) :
    Locates source bound (Expr.StandsIn source) (leftGrouped operator? operand budget left) := by
  induction budget generalizing left with
  | zero => exact fun s hs _ => .found hleft hs (Nat.le_refl _)
  | succ budget ih =>
      intro s hs hlt
      unfold leftGrouped
      split
      · exact .found hleft hs (Nat.le_refl _)
      · refine .advance hs fun s1 _ hs1 hle1 => ?_
        refine (h s1 hs1 (by omega)).next fun right s2 _ hright hs2 hle2 => ?_
        exact (ih (Expr.standsIn_binary hleft hright _ _ _) s2 hs2 (by omega)).later (by omega)

theorem locates_level (operator? : Token → Option BinaryOp) :
    Locates source bound (Expr.StandsIn source) (level operator? operand) := by
  intro s hs hlt
  refine (h s hs hlt).next fun left s1 _ hleft hs1 hle1 => ?_
  exact (locates_leftGrouped h operator? _ hleft s1 hs1 (by omega)).later hle1

theorem locates_compared (op : BinaryOp) {left : Expr} (hleft : left.StandsIn source)
    (position : Nat) :
    Locates source bound (Expr.StandsIn source) (compared operand op left position) := by
  intro s hs hlt
  refine .advance hs fun s1 _ hs1 hle1 => ?_
  refine (h s1 hs1 (by omega)).next fun right s2 _ hright hs2 hle2 => ?_
  refine (locates_acceptKeyword "ci" hs2).next fun ignoreCase s3 _ _ hs3 hle3 => ?_
  exact .found (Expr.standsIn_binary hleft hright _ _ _) hs3 (by omega)

theorem locates_comparisonStep {left : Expr} (hleft : left.StandsIn source) :
    Locates source bound (fun found => ∀ e ∈ found, e.StandsIn source)
      (comparisonStep operand left) := by
  intro s hs hlt
  unfold comparisonStep
  split
  · refine (locates_compared h _ hleft _ s hs hlt).next fun e s1 _ he hs1 hle1 => ?_
    exact .found (by simpa using he) hs1 hle1
  · refine .ite (fun _ => ?_) fun _ => .ite (fun _ => ?_) fun _ => ?_
    · refine .advance hs fun s1 _ hs1 hle1 => ?_
      split
      · refine (locates_compared h _ hleft _ s1 hs1 (by omega)).next fun e s2 _ he hs2 hle2 => ?_
        exact .found (by simpa using he) hs2 (by omega)
      · exact unexpected hs1 _
    · refine .advance hs fun s1 _ hs1 hle1 => ?_
      refine (locates_acceptKeyword "not" hs1).next fun isNot s2 _ _ hs2 hle2 => ?_
      refine .place (keeps_expectKeyword "null" hs2) fun s3 hs3 hle3 => ?_
      refine .found ?_ hs3 (by omega)
      intro e he
      cases he
      exact Expr.standsIn_of_only_child rfl rfl hleft
    · exact .found (by simp) hs (Nat.le_refl _)

theorem locates_comparisons (budget : Nat) {left : Expr} (hleft : left.StandsIn source) :
    Locates source bound (Expr.StandsIn source) (comparisons operand budget left) := by
  induction budget generalizing left with
  | zero => exact fun s hs _ => .found hleft hs (Nat.le_refl _)
  | succ budget ih =>
      intro s hs hlt
      refine (locates_comparisonStep h hleft s hs hlt).next fun found s1 _ hfound hs1 hle1 => ?_
      cases found with
      | some extended => exact (ih (hfound extended rfl) s1 hs1 (by omega)).later hle1
      | none => exact .found hleft hs1 hle1

end

-- Expressions inside an expression stand behind a token, so that the induction is on what is left.
theorem locates_expression (bound : Nat) :
    Locates source bound (Expr.StandsIn source) expression := by
  induction bound with
  | zero => exact fun s _ hlt => absurd hlt (Nat.not_lt_zero _)
  | succ bound ih =>
      intro s hs hlt
      have hsum : Locates source (bound + 1) (Expr.StandsIn source) (sum expression) :=
        locates_level (locates_level (fun s => locates_powers ih s.budget s) _) _
      have hcomparison : Locates source (bound + 1) (Expr.StandsIn source)
          (comparison expression) := by
        intro s hs hlt
        refine (hsum s hs hlt).next fun left s1 _ hleft hs1 hle1 => ?_
        exact (locates_comparisons hsum _ hleft s1 hs1 (by omega)).later hle1
      rw [expression_eq]
      exact locates_level (locates_level hcomparison _) _ s hs hlt

end ExprReader

end EventText
