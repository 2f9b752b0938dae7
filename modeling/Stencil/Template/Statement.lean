import Stencil.Template.Expression

/-!
# Statements of templates

A template is a list of statements.  Plain text and interpolations are the parts of
output statements; all other statements are written as tags.
-/

namespace Stencil.Template

/-- Where a value is assigned to. -/
inductive Target (ν : Type)
  | name (line : Nat) (variable_ : ν)
  | tuple (items : List (Target ν))
  /-- An attribute of a namespace. -/
  | member (namespace_ : ν) (name : String)
deriving Inhabited

namespace Target

mutual

/-- The names a target assigns, each with its line. -/
def assigned {ν : Type} : Target ν → List (Nat × ν)
  | .name line variable_ => [(line, variable_)]
  | .tuple items => assignedAll items
  | .member _ _ => []

def assignedAll {ν : Type} : List (Target ν) → List (Nat × ν)
  | [] => []
  | item :: items => assigned item ++ assignedAll items

end

mutual

/-- The namespaces whose attributes a target assigns. -/
def namespaces {ν : Type} : Target ν → List ν
  | .name _ _ => []
  | .tuple items => namespacesAll items
  | .member namespace_ _ => [namespace_]

def namespacesAll {ν : Type} : List (Target ν) → List ν
  | [] => []
  | item :: items => namespaces item ++ namespacesAll items

end

end Target

/-- A part of an output statement. -/
inductive OutputPart
  | data (text : List Char)
  | expression (expression : Expression String)
deriving Inhabited

/-- A statement. -/
inductive Statement
  | output (parts : List OutputPart)
  | conditional
      (branches : List (Expression String × List Statement))
      (otherwise : List Statement)
  | loop
      (line : Nat)
      (target : Target String)
      (items : Expression String)
      (condition : Option (Expression String))
      (recursive : Bool)
      (body otherwise : List Statement)
  | assign (target : Target String) (value : Expression String)
  | assignBlock
      (target : Target String)
      (filter : Option (Expression String))
      (body : List Statement)
  | bind (bindings : List (Target String × Expression String)) (body : List Statement)
  | routine
      (line : Nat)
      (name : String)
      (parameters : List String)
      (defaults : List (Expression String))
      (body : List Statement)
  | callBlock
      (line : Nat)
      (parameters : List String)
      (defaults : List (Expression String))
      (call : Expression String)
      (body : List Statement)
  | filterBlock (filter : Expression String) (body : List Statement)
  | block (line : Nat) (name : String) (isScoped isRequired : Bool) (body : List Statement)
  | extend (line : Nat) (template : Expression String)
  | embed (template : Expression String) (ignoreMissing withContext : Bool)
  | importAs (template : Expression String) (target : String) (withContext : Bool)
  | importNames
      (line : Nat)
      (template : Expression String)
      (names : List (String × String))
      (withContext : Bool)
  | escaping (value : Expression String) (body : List Statement)
deriving Inhabited

end Stencil.Template
