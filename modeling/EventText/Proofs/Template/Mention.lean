import EventText.Proofs.Template.Compiling

namespace EventText

namespace Block

-- A name that is used in blocks for something outside of them. Iterations cover up their own names
-- in their bodies, but not in what they render between the rounds or instead of them.
inductive Mentions (name : String) : List (Block String) → Prop
  | later {block rest} (deeper : Mentions name rest) : Mentions name (block :: rest)
  | placeholder {hole rest} (found : (Expr.property name).Occurs hole.expression) :
      Mentions name (.placeholder hole :: rest)
  | condition {condition blocks branches otherwise position rest}
      (hbranch : (condition, blocks) ∈ branches) (found : (Expr.property name).Occurs condition) :
      Mentions name (.choice branches otherwise position :: rest)
  | branch {condition blocks branches otherwise position rest}
      (hbranch : (condition, blocks) ∈ branches) (deeper : Mentions name blocks) :
      Mentions name (.choice branches otherwise position :: rest)
  | otherwise {branches blocks position rest} (deeper : Mentions name blocks) :
      Mentions name (.choice branches (some blocks) position :: rest)
  | collection {first second collection body delimiter alternative position rest}
      (found : (Expr.property name).Occurs collection) :
      Mentions name
        (.iteration first second collection body delimiter alternative position :: rest)
  | body {first second collection body delimiter alternative position rest}
      (hfirst : first ≠ name) (hsecond : second ≠ some name) (deeper : Mentions name body) :
      Mentions name
        (.iteration first second collection body delimiter alternative position :: rest)
  | delimiter {first second collection body delimiter alternative position rest}
      (deeper : Mentions name delimiter) :
      Mentions name
        (.iteration first second collection body (some delimiter) alternative position :: rest)
  | alternative {first second collection body delimiter alternative position rest}
      (deeper : Mentions name alternative) :
      Mentions name
        (.iteration first second collection body delimiter (some alternative) position :: rest)

-- An iteration somewhere in blocks whose delimiter uses the iteration's own names.
inductive Entangled : List (Block String) → Prop
  | own {first second collection body delimiter alternative position rest name}
      (hname : name = first ∨ some name = second) (found : Mentions name delimiter) :
      Entangled (.iteration first second collection body (some delimiter) alternative position
        :: rest)
  | later {block rest} (deeper : Entangled rest) : Entangled (block :: rest)
  | branch {condition blocks branches otherwise position rest}
      (hbranch : (condition, blocks) ∈ branches) (deeper : Entangled blocks) :
      Entangled (.choice branches otherwise position :: rest)
  | otherwise {branches blocks position rest} (deeper : Entangled blocks) :
      Entangled (.choice branches (some blocks) position :: rest)
  | body {first second collection body delimiter alternative position rest}
      (deeper : Entangled body) :
      Entangled (.iteration first second collection body delimiter alternative position :: rest)
  | delimiter {first second collection body delimiter alternative position rest}
      (deeper : Entangled delimiter) :
      Entangled (.iteration first second collection body (some delimiter) alternative position
        :: rest)
  | alternative {first second collection body delimiter alternative position rest}
      (deeper : Entangled alternative) :
      Entangled (.iteration first second collection body delimiter (some alternative) position
        :: rest)

-- The same for blocks and choices that are taken apart one by one.

theorem Mentions.first {name : String} {block : Block String} {rest : List (Block String)}
    (h : Mentions name [block]) : Mentions name (block :: rest) := by
  cases h with
  | later deeper => cases deeper
  | placeholder found => exact .placeholder found
  | condition hbranch found => exact .condition hbranch found
  | branch hbranch deeper => exact .branch hbranch deeper
  | otherwise deeper => exact .otherwise deeper
  | collection found => exact .collection found
  | body hfirst hsecond deeper => exact .body hfirst hsecond deeper
  | delimiter deeper => exact .delimiter deeper
  | alternative deeper => exact .alternative deeper

theorem Mentions.otherBranches {name : String} {branch : Expr × List (Block String)}
    {branches : List (Expr × List (Block String))} {otherwise : Option (List (Block String))}
    {position : Nat} (h : Mentions name [.choice branches otherwise position]) :
    Mentions name [.choice (branch :: branches) otherwise position] := by
  cases h with
  | later deeper => cases deeper
  | condition hbranch found => exact .condition (List.mem_cons_of_mem _ hbranch) found
  | branch hbranch deeper => exact .branch (List.mem_cons_of_mem _ hbranch) deeper
  | otherwise deeper => exact .otherwise deeper

theorem Mentions.exists_section {name : String} {part : Option (List (Block String))}
    {position : Nat} (h : Mentions name [.choice [] part position]) :
    ∃ blocks, part = some blocks ∧ Mentions name blocks := by
  cases h with
  | later deeper => cases deeper
  | condition hbranch => cases hbranch
  | branch hbranch => cases hbranch
  | otherwise deeper => exact ⟨_, rfl, deeper⟩

theorem Entangled.first {block : Block String} {rest : List (Block String)}
    (h : Entangled [block]) : Entangled (block :: rest) := by
  cases h with
  | own hname found => exact .own hname found
  | later deeper => cases deeper
  | branch hbranch deeper => exact .branch hbranch deeper
  | otherwise deeper => exact .otherwise deeper
  | body deeper => exact .body deeper
  | delimiter deeper => exact .delimiter deeper
  | alternative deeper => exact .alternative deeper

theorem Entangled.otherBranches {branch : Expr × List (Block String)}
    {branches : List (Expr × List (Block String))} {otherwise : Option (List (Block String))}
    {position : Nat} (h : Entangled [.choice branches otherwise position]) :
    Entangled [.choice (branch :: branches) otherwise position] := by
  cases h with
  | later deeper => cases deeper
  | branch hbranch deeper => exact .branch (List.mem_cons_of_mem _ hbranch) deeper
  | otherwise deeper => exact .otherwise deeper

theorem Entangled.exists_section {part : Option (List (Block String))} {position : Nat}
    (h : Entangled [.choice [] part position]) :
    ∃ blocks, part = some blocks ∧ Entangled blocks := by
  cases h with
  | later deeper => cases deeper
  | branch hbranch => cases hbranch
  | otherwise deeper => exact ⟨_, rfl, deeper⟩

section

variable {first : String} {second : Option String} {collection : Expr} {inner : List (Block String)}
  {between instead : Option (List (Block String))} {position place : Nat}

theorem Mentions.ofAlternative {name : String} (h : Mentions name [.choice [] instead place]) :
    Mentions name [.iteration first second collection inner between instead position] := by
  obtain ⟨_, rfl, hinside⟩ := h.exists_section
  exact .alternative hinside

theorem Entangled.ofDelimiter (h : Entangled [.choice [] between place]) :
    Entangled [.iteration first second collection inner between instead position] := by
  obtain ⟨_, rfl, hinside⟩ := h.exists_section
  exact .delimiter hinside

theorem Entangled.ofAlternative (h : Entangled [.choice [] instead place]) :
    Entangled [.iteration first second collection inner between instead position] := by
  obtain ⟨_, rfl, hinside⟩ := h.exists_section
  exact .alternative hinside

end

end Block

end EventText
