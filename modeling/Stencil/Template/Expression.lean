import Stencil.Text.CodePoint

/-!
# Expressions of templates

Expressions stand in interpolations and statements.  They are written with variable
names; resolving a template replaces the names by the places where values are kept,
so the type of variables is a parameter.
-/

namespace Stencil.Template

/-- A value written down in a template. -/
inductive Constant
  | none
  | bool (flag : Bool)
  | int (integer : Int)
  | float (amount : Float)
  | text (content : Text)

inductive UnaryOperator
  | negative
  | positive
  | not
deriving DecidableEq

inductive BinaryOperator
  | add
  | subtract
  | multiply
  | divide
  | floorDivide
  | modulo
  | power
deriving DecidableEq

inductive Comparison
  | equal
  | notEqual
  | less
  | lessEqual
  | greater
  | greaterEqual
  | within
  | notWithin
deriving DecidableEq

/-- The arguments of a call, by position, by name, and spread from values. -/
structure Arguments (ε : Type) where
  positional : List ε
  named : List (String × ε)
  spread : Option ε
  spreadNamed : Option ε
deriving Inhabited

/-- No arguments. -/
def Arguments.none {ε : Type} : Arguments ε := ⟨[], [], Option.none, Option.none⟩

/-- An expression over variables of a type. -/
inductive Expression (ν : Type)
  | constant (constant : Constant)
  | name (variable_ : ν)
  | tuple (items : List (Expression ν))
  | list (items : List (Expression ν))
  | dict (entries : List (Expression ν × Expression ν))
  | unary (operator : UnaryOperator) (operand : Expression ν)
  | binary (operator : BinaryOperator) (left right : Expression ν)
  | both (left right : Expression ν)
  | either (left right : Expression ν)
  | concat (items : List (Expression ν))
  | compare (first : Expression ν) (rest : List (Comparison × Expression ν))
  | choice (line : Nat) (condition chosen : Expression ν) (otherwise : Option (Expression ν))
  | member (subject : Expression ν) (name : String)
  | item (subject index : Expression ν)
  | slice (start stop step : Option (Expression ν))
  | call (function : Expression ν) (arguments : Arguments (Expression ν))
  | filter (line : Nat) (subject : Expression ν) (filter : String)
      (arguments : Arguments (Expression ν))
  | test (line : Nat) (subject : Expression ν) (test : String)
      (arguments : Arguments (Expression ν))
  /-- The text that a block has captured. -/
  | captured
  /-- A constant part, computed ahead with or without automatic escaping. -/
  | settled (escaping : Bool) (expression : Expression ν)
deriving Inhabited

namespace Expression

mutual

/-- The same expression over other variables. -/
def map {ν μ : Type} (change : ν → μ) : Expression ν → Expression μ
  | .constant literal => .constant literal
  | .name variable_ => .name (change variable_)
  | .tuple items => .tuple (mapAll change items)
  | .list items => .list (mapAll change items)
  | .dict entries => .dict (mapEntries change entries)
  | .unary operator operand => .unary operator (map change operand)
  | .binary operator left right => .binary operator (map change left) (map change right)
  | .both left right => .both (map change left) (map change right)
  | .either left right => .either (map change left) (map change right)
  | .concat items => .concat (mapAll change items)
  | .compare first rest => .compare (map change first) (mapCompared change rest)
  | .choice line condition chosen otherwise =>
    .choice line (map change condition) (map change chosen) (mapOptional change otherwise)
  | .member subject field => .member (map change subject) field
  | .item subject index => .item (map change subject) (map change index)
  | .slice start stop step =>
    .slice (mapOptional change start) (mapOptional change stop) (mapOptional change step)
  | .call function arguments => .call (map change function) (mapArguments change arguments)
  | .filter line subject used arguments =>
    .filter line (map change subject) used (mapArguments change arguments)
  | .test line subject used arguments =>
    .test line (map change subject) used (mapArguments change arguments)
  | .captured => .captured
  | .settled escaping expression => .settled escaping (map change expression)

def mapAll {ν μ : Type} (change : ν → μ) : List (Expression ν) → List (Expression μ)
  | [] => []
  | first :: rest => map change first :: mapAll change rest

def mapEntries {ν μ : Type} (change : ν → μ) :
    List (Expression ν × Expression ν) → List (Expression μ × Expression μ)
  | [] => []
  | (key, value) :: entries => (map change key, map change value) :: mapEntries change entries

def mapCompared {ν μ : Type} (change : ν → μ) :
    List (Comparison × Expression ν) → List (Comparison × Expression μ)
  | [] => []
  | (comparison, operand) :: rest => (comparison, map change operand) :: mapCompared change rest

def mapNamed {ν μ : Type} (change : ν → μ) :
    List (String × Expression ν) → List (String × Expression μ)
  | [] => []
  | (label, value) :: rest => (label, map change value) :: mapNamed change rest

def mapOptional {ν μ : Type} (change : ν → μ) :
    Option (Expression ν) → Option (Expression μ)
  | Option.none => Option.none
  | some expression => some (map change expression)

def mapArguments {ν μ : Type} (change : ν → μ) :
    Arguments (Expression ν) → Arguments (Expression μ)
  | ⟨positional, named, spread, spreadNamed⟩ =>
    ⟨mapAll change positional, mapNamed change named, mapOptional change spread,
      mapOptional change spreadNamed⟩

end

/-- What an expression mentions: variables, filters and tests. -/
structure Mentions (ν : Type) where
  names : List ν := []
  filters : List String := []
  tests : List String := []

namespace Mentions

def empty {ν : Type} : Mentions ν := {}

def append {ν : Type} (left right : Mentions ν) : Mentions ν :=
  ⟨left.names ++ right.names, left.filters ++ right.filters, left.tests ++ right.tests⟩

instance {ν : Type} : Append (Mentions ν) := ⟨append⟩

end Mentions

mutual

/-- Everything an expression mentions, in order. -/
def mentions {ν : Type} : Expression ν → Mentions ν
  | .constant _ => .empty
  | .name variable_ => ⟨[variable_], [], []⟩
  | .tuple items => mentionsAll items
  | .list items => mentionsAll items
  | .dict entries => mentionsEntries entries
  | .unary _ operand => mentions operand
  | .binary _ left right => mentions left ++ mentions right
  | .both left right => mentions left ++ mentions right
  | .either left right => mentions left ++ mentions right
  | .concat items => mentionsAll items
  | .compare first rest => mentions first ++ mentionsCompared rest
  | .choice _ condition chosen otherwise =>
    mentions condition ++ mentions chosen ++ mentionsOptional otherwise
  | .member subject _ => mentions subject
  | .item subject index => mentions subject ++ mentions index
  | .slice start stop step =>
    mentionsOptional start ++ mentionsOptional stop ++ mentionsOptional step
  | .call function arguments => mentions function ++ mentionsArguments arguments
  | .filter _ subject used arguments =>
    mentions subject ++ ⟨[], [used], []⟩ ++ mentionsArguments arguments
  | .test _ subject used arguments =>
    mentions subject ++ ⟨[], [], [used]⟩ ++ mentionsArguments arguments
  | .captured => .empty
  | .settled _ expression => mentions expression

def mentionsAll {ν : Type} : List (Expression ν) → Mentions ν
  | [] => .empty
  | first :: rest => mentions first ++ mentionsAll rest

def mentionsEntries {ν : Type} : List (Expression ν × Expression ν) → Mentions ν
  | [] => .empty
  | (key, value) :: entries => mentions key ++ mentions value ++ mentionsEntries entries

def mentionsCompared {ν : Type} : List (Comparison × Expression ν) → Mentions ν
  | [] => .empty
  | (_, operand) :: rest => mentions operand ++ mentionsCompared rest

def mentionsNamed {ν : Type} : List (String × Expression ν) → Mentions ν
  | [] => .empty
  | (_, value) :: rest => mentions value ++ mentionsNamed rest

def mentionsOptional {ν : Type} : Option (Expression ν) → Mentions ν
  | Option.none => .empty
  | some expression => mentions expression

def mentionsArguments {ν : Type} : Arguments (Expression ν) → Mentions ν
  | ⟨positional, named, spread, spreadNamed⟩ =>
    mentionsAll positional ++ mentionsNamed named ++ mentionsOptional spread ++
      mentionsOptional spreadNamed

end

end Expression

end Stencil.Template
