import Stencil.Template.Machine

/-!
# Calling back into evaluation

Operations on values sometimes have to run template code: to read a stream, to call
a routine, or to apply a filter by name.  They get these abilities as an evaluator,
which bounds how deeply calls are nested.  What lies outside of a template, other
templates among it, is reached through the evaluator as well.
-/

namespace Stencil.Template

/-- Arguments that have been computed: by position and by name. -/
structure Given where
  positional : List Value := []
  named : List (String × Value) := []

/-- What templates get from outside of them. -/
structure Outside where
  /-- The place of a template, loaded if it is not yet. -/
  load : String → Run Nat
  /-- What calling something comes to, by the value that led to it and the names on the way. -/
  ask : Value → List String → Given → Run Value

/-- Give up what nobody answers. -/
def unanswered {α : Type} (origin : Value) (names : List String) : Run α :=
  throw (.asks (origin.typeName :: names))

/-- What operations on values may ask of the evaluation. -/
structure Evaluator extends Outside where
  /-- The next value of a stream. -/
  next : Nat → Run (Option Value)
  call : Site → Value → Given → Run Value
  filter : Site → String → Value → Given → Run Value
  test : Site → String → Value → Given → Run Bool
  /-- Run steps at a site. -/
  steps : Site → List Step → Run Unit
  /-- The value of code at a site. -/
  value : Site → Code → Run Value

namespace Evaluator

/-- An evaluator that refuses every call. -/
def exhausted : Evaluator where
  next := fun _ => throw .tooDeep
  call := fun _ _ _ => throw .tooDeep
  filter := fun _ _ _ _ => throw .tooDeep
  test := fun _ _ _ _ => throw .tooDeep
  steps := fun _ _ => throw .tooDeep
  value := fun _ _ => throw .tooDeep
  load := fun _ => throw .tooDeep
  ask := fun _ _ _ => throw .tooDeep

end Evaluator

/-- A parameter with its default, which a required one does not have. -/
abbrev Parameter := String × Option Value

/-- An optional parameter. -/
def optional (name : String) (default : Value) : Parameter := (name, some default)

/-- A parameter that must be given. -/
def required (name : String) : Parameter := (name, none)

def flag (name : String) (default : Bool) : Parameter := (name, some (.bool default))

namespace Given

def none : Given := {}

/-- Give each parameter its argument: by position first, then by name, then by default. -/
def fill : List Parameter → List Value → List (String × Value) → Option (List Value)
  | [], [], [] => some []
  | [], _, _ => Option.none
  | (name, _) :: parameters, value :: positional, named =>
    if (named.lookup name).isSome then Option.none
    else (fill parameters positional named).map (value :: ·)
  | (name, default) :: parameters, [], named =>
    match named.lookup name with
    | some value =>
      (fill parameters [] (named.filter fun entry => entry.1 != name)).map (value :: ·)
    | Option.none =>
      match default with
      | some value => (fill parameters [] named).map (value :: ·)
      | Option.none => Option.none

/-- The arguments in the order of the parameters. -/
def bind (given : Given) (parameters : List Parameter) : Run (List Value) :=
  match fill parameters given.positional given.named with
  | some values => return values
  | Option.none => throw .wrongType

/-- Arguments by position only. -/
def positionalOnly (given : Given) (minimum maximum : Nat) : Run (List Value) :=
  if given.named.isEmpty && minimum ≤ given.positional.length &&
      given.positional.length ≤ maximum then
    return given.positional
  else
    throw .wrongType

end Given

end Stencil.Template
