import Stencil.Template.Scope

/-!
# Programs of templates

A resolved template: names have become slots, every scope says what to fill when it
is entered, and constant output has become text.
-/

namespace Stencil.Template

/-- An expression over slots. -/
abbrev Code := Expression Slot

/-- How output is escaped. -/
inductive EscapeMode
  | never
  | always
  /-- As the context says when it happens. -/
  | dynamic
deriving DecidableEq

/-- What is known about escaping where a statement stands. -/
structure EscapeState where
  escaping : Bool := false
  /-- The answer is only known when the template runs. -/
  isOpen : Bool := false

def EscapeState.mode (state : EscapeState) : EscapeMode :=
  if state.isOpen then .dynamic else if state.escaping then .always else .never

/-- A part of an output step. -/
inductive EmitPart
  | text (content : Text)
  | value (mode : EscapeMode) (code : Code)
deriving Inhabited

/-- What entering a scope fills. -/
abbrev Entry := List (Slot × Load)

/-- The parameters of a routine and how they are filled. -/
structure Signature where
  name : Option String
  /-- The names of the declared parameters. -/
  parameters : List String
  /-- The slots of the declared parameters, each with its default. -/
  slots : List (Slot × Option Code)
  usesCaller : Bool
  callerSlot : Option Slot
  namedSlot : Option Slot
  positionalSlot : Option Slot
  entry : Entry
deriving Inhabited

/-- Where an assigned name is seen beyond its scope. -/
structure Published where
  names : List (String × Slot) := []
deriving Inhabited

/-- The condition of a loop, with the scope it is tested in. -/
structure LoopCondition where
  entry : Entry
  code : Code

/-- A step of a program. -/
inductive Step
  /-- Write output; a guarded step is silent once the template extends another one. -/
  | emit (guarded : Bool) (parts : List EmitPart)
  | branch (branches : List (Code × List Step)) (otherwise : List Step)
  | loop
      (target : Target Slot)
      (items : Code)
      (condition : Option LoopCondition)
      (recursive : Bool)
      (state : Option Slot)
      (entry : Entry)
      (body : List Step)
      (otherwise : Option (Entry × List Step))
  | assign (target : Target Slot) (value : Code) (published : Published)
  | capture
      (entry : Entry)
      (body : List Step)
      (filter : Option Code)
      (target : Target Slot)
      (published : Published)
  | bind (entry : Entry) (bindings : List (Target Slot × Code)) (body : List Step)
  | routine (signature : Signature) (body : List Step) (slot : Slot) (isPublished : Bool)
  | callBlock (signature : Signature) (body : List Step) (call : Code)
  | filterBlock (entry : Entry) (body : List Step) (filter : Code)
  /-- Run a block; a scoped one sees the given names. -/
  | block
      (guarded : Bool)
      (name : String)
      (seen : Option (List (String × Slot)))
      (isRequired : Bool)
  | extend (template : Code)
  /-- A template extends two others; the flag says that the first one is certain. -/
  | extendAgain (certain : Bool)
  | embed
      (template : Code)
      (ignoreMissing : Bool)
      (seen : Option (List (String × Slot)))
  | importAs
      (template : Code)
      (target : String)
      (slot : Slot)
      (isPublished : Bool)
      (seen : Option (List (String × Slot)))
  | importNames
      (line : Nat)
      (template : Code)
      (names : List (String × String × Slot))
      (isPublished : Bool)
      (seen : Option (List (String × Slot)))
  | escaping (entry : Entry) (value : Code) (mode : EscapeMode) (body : List Step)
deriving Inhabited

/-- The body of a template or block with the slots of its special names. -/
structure Section where
  entry : Entry
  selfSlot : Option Slot
  superSlot : Option Slot
  body : List Step
deriving Inhabited

/-- A resolved template. -/
structure Program where
  name : String
  main : Section
  blocks : List (String × Section)
  /-- Whether it may extend another template. -/
  extends_ : Bool
deriving Inhabited

end Stencil.Template
