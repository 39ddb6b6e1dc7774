import EventText.Error
import EventText.Expr.Function

namespace EventText

-- A function that a caller supplies.
abbrev CallerFunction := List Outcome → Outcome

-- Finds the caller's function for a name and a number of arguments.
abbrev Resolver := String → Nat → Option CallerFunction

def Resolver.empty : Resolver := fun _ _ => none

-- A table of a caller's functions in the order of their registration. Without an arity a function
-- takes any number of arguments.
structure FunctionTable where
  entries : List (List Char × Option Nat × CallerFunction)

namespace FunctionTable

def empty : FunctionTable := ⟨[]⟩

-- Names are kept in lower case.
def add (table : FunctionTable) (name : String) (arity : Option Nat) (f : CallerFunction) :
    FunctionTable :=
  ⟨table.entries ++ [(Text.lower name.toList, arity, f)]⟩

-- The first function of exactly that arity is preferred to the first one of any arity.
def resolver (table : FunctionTable) : Resolver := fun name arity =>
  let candidates := table.entries.filter fun entry => entry.1 == Text.lower name.toList
  ((candidates.find? fun entry => entry.2.1 == some arity).or
    (candidates.find? fun entry => entry.2.1.isNone)).map (·.2.2)

end FunctionTable

-- What a call was found to mean.
inductive Function
  | builtin (f : BuiltinFunction)
  | custom (name : String) (f : CallerFunction)

namespace Function

def apply (f : Function) (clock : Timestamp) (ignoreCase : Bool) (arguments : List Outcome) :
    Outcome :=
  match f with
  | .builtin f => f.apply clock ignoreCase arguments
  | .custom _ f => f arguments

-- Why a name has no function of the given arity.
def missing (name : String) (arity : Nat) : ResolveFault :=
  match BuiltinFunction.ofName? name with
  | none => .unknown
  | some f =>
      match f.most with
      | none => .tooFew f.name f.least
      | some most =>
          if f.least = most then .exactArity f.name most
          else if arity < f.least then .tooFew f.name f.least
          else .tooMany f.name most

-- A call has to mean exactly one function: a caller's function does not hide a built-in one of
-- the same arity. Ignoring case has to make sense for it.
def resolve? (resolver : Resolver) (name : String) (arity : Nat) (ignoreCase : Bool) :
    Except ResolveFault Function :=
  let builtin := (BuiltinFunction.ofName? name).filter fun f => f.accepts arity
  match builtin, resolver name arity with
  | some f, some _ => .error (.ambiguous f.name)
  | some f, none =>
      if ignoreCase && !f.isCaseAware then .error (.caseModifier f.name) else .ok (.builtin f)
  | none, some f => if ignoreCase then .error (.caseModifier name) else .ok (.custom name f)
  | none, none => .error (missing name arity)

def resolve (resolver : Resolver) (name : String) (arity : Nat) (ignoreCase : Bool)
    (position : Nat) : Except TemplateError Function :=
  (resolve? resolver name arity ignoreCase).mapError fun fault =>
    .resolution fault name arity position

end Function

end EventText
