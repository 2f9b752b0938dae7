import Stencil.Template.Statement
import Stencil.Template.Token

/-!
# Reading templates

Statements are read from tokens.  Every reader takes the readers for nested parts as
an argument, so the nesting depth is bounded while each reader stays an ordinary
function.  A fault names the line of the token it was found at.
-/

namespace Stencil.Template

/-- The tokens still to be read, the line of the last one taken, and how many there are in all. -/
structure Cursor where
  tokens : List Token
  line : Nat
  total : Nat

/-- A reader of tokens. -/
abbrev Reader := EStateM Fault Cursor

namespace Reader

/-- The current token. -/
def current : Reader Token := do
  let cursor ← get
  match cursor.tokens with
  | token :: _ => return token
  | [] => return ⟨cursor.line, .finish⟩

/-- Refuse to stand on a broken token. -/
def checkBroken : Reader Unit := do
  match (← current).kind with
  | .broken fault => throw fault
  | _ => return ()

/-- Take the current token. -/
def advance : Reader Token := do
  let token ← current
  modify fun cursor => { cursor with tokens := cursor.tokens.tail, line := token.line }
  checkBroken
  return token

/-- The token after the current one. -/
def peek : Reader Token := do
  let cursor ← get
  let _ ← advance
  let token ← current
  set cursor
  return token

/-- Give up at a line. -/
def failAt {α : Type} (line : Nat) : Reader α :=
  throw (.templateSyntax line)

/-- Give up at the current token. -/
def fail {α : Type} : Reader α := do
  failAt (← current).line

def isName (token : Token) (name : String) : Bool :=
  match token.kind with
  | .name found => found == name
  | _ => false

def isSign (token : Token) (sign : Sign) : Bool :=
  match token.kind with
  | .sign found => found == sign
  | _ => false

def isBlockEnd (token : Token) : Bool :=
  match token.kind with
  | .blockEnd => true
  | _ => false

/-- Whether the current token is a name in a list. -/
def atName (names : List String) : Reader Bool := do
  match (← current).kind with
  | .name found => return names.contains found
  | _ => return false

def atSign (sign : Sign) : Reader Bool := do
  return isSign (← current) sign

def atBlockEnd : Reader Bool := do
  return isBlockEnd (← current)

/-- Take a name if it is the current token. -/
def skipName (name : String) : Reader Bool := do
  if isName (← current) name then
    let _ ← advance
    return true
  else
    return false

/-- Take a sign if it is the current token. -/
def skipSign (sign : Sign) : Reader Bool := do
  if isSign (← current) sign then
    let _ ← advance
    return true
  else
    return false

def expectName (name : String) : Reader Token := do
  if isName (← current) name then advance else fail

def expectSign (sign : Sign) : Reader Token := do
  if isSign (← current) sign then advance else fail

/-- Take any name. -/
def expectAnyName : Reader (Nat × String) := do
  let token ← current
  match token.kind with
  | .name name =>
    let _ ← advance
    return (token.line, name)
  | _ => fail

def expectBlockEnd : Reader Unit := do
  if ← atBlockEnd then
    let _ ← advance
    return ()
  else
    fail

def expectInterpolationEnd : Reader Unit := do
  match (← current).kind with
  | .interpolationEnd =>
    let _ ← advance
    return ()
  | _ => fail

/-- Repeat a step until it says that it is done. -/
def repeatWith {σ : Type} (step : σ → Reader (σ × Bool)) : (fuel : Nat) → σ → Reader σ
  | 0, state => return state
  | fuel + 1, state => do
    let (state, more) ← step state
    if more then repeatWith step fuel state else return state

/-- Repeat a step, at most as often as there are tokens. -/
def untilDone {σ : Type} (step : σ → Reader (σ × Bool)) (start : σ) : Reader σ := do
  let cursor ← get
  repeatWith step (cursor.total + 2) start

end Reader

open Reader

/-- An expression and its line. -/
structure Located where
  line : Nat
  expression : Expression String

/-- The readers for nested parts. -/
structure Readers where
  /-- An expression; the flag admits choices. -/
  expression : Bool → Reader Located
  /-- A choice, for the part after its last word. -/
  choice : Reader Located
  negation : Reader Located
  /-- A signed operand; the flag admits filters. -/
  unary : Bool → Reader Located
  /-- Statements up to a tag with one of these names. -/
  body : List String → Reader (List Statement)

/-- Names that stand for constants. -/
def reservedConstant? (name : String) : Option Constant :=
  if name == "true" || name == "True" then some (.bool true)
  else if name == "false" || name == "False" then some (.bool false)
  else if name == "none" || name == "None" then some .none
  else none

/-- Whether the current token ends a tuple. -/
def atTupleEnd (endNames : List String) : Reader Bool := do
  match (← current).kind with
  | .interpolationEnd => return true
  | .blockEnd => return true
  | .sign .rightParenthesis => return true
  | .name name => return endNames.contains name
  | _ => return false

/-- Items between commas; a comma makes a tuple of them. -/
def readTuple
    {α : Type}
    (readItem : Reader α)
    (endNames : List String)
    (emptyAllowed : Bool) : Reader (Nat × List α × Bool) := do
  let start := (← current).line
  let (line, items, isTuple) ← untilDone (fun (line, items, isTuple) => do
    if !items.isEmpty then
      let _ ← expectSign .comma
    if ← atTupleEnd endNames then
      return ((line, items, isTuple), false)
    let item ← readItem
    let items := items ++ [item]
    if ← atSign .comma then
      return (((← current).line, items, true), true)
    else
      return ((line, items, isTuple), false)) (start, ([] : List α), false)
  if !isTuple && items.isEmpty && !emptyAllowed then
    fail
  return (line, items, isTuple || items.isEmpty)

/-- A tuple of expressions, or the only expression. -/
def readExpressionTuple
    (readers : Readers)
    (choiceAllowed : Bool)
    (endNames : List String)
    (parenthesized : Bool) : Reader Located := do
  let (line, items, isTuple) ←
    readTuple (readers.expression choiceAllowed) endNames parenthesized
  match isTuple, items with
  | false, item :: _ => return item
  | _, items => return ⟨line, .tuple (items.map Located.expression)⟩

/-- Items between commas up to a closing sign. -/
def readEnclosed {α : Type} (closing : Sign) (readItem : Reader α) : Reader (List α) := do
  let items ← untilDone (fun (items : List α) => do
    if ← atSign closing then
      return (items, false)
    if !items.isEmpty then
      let _ ← expectSign .comma
      if ← atSign closing then
        return (items, false)
    return (items ++ [← readItem], true)) []
  let _ ← expectSign closing
  return items

def readList (readers : Readers) : Reader Located := do
  let token ← expectSign .leftBracket
  let items ← readEnclosed .rightBracket (readers.expression true)
  return ⟨token.line, .list (items.map Located.expression)⟩

def readDict (readers : Readers) : Reader Located := do
  let token ← expectSign .leftBrace
  let entries ← readEnclosed .rightBrace do
    let key ← readers.expression true
    let _ ← expectSign .colon
    let value ← readers.expression true
    return (key.expression, value.expression)
  return ⟨token.line, .dict entries⟩

/-- Quoted texts in a row make one text. -/
def readTexts (first : Text) : Reader Text :=
  untilDone (fun (text : Text) => do
    match (← current).kind with
    | .text more =>
      let _ ← advance
      return (text ++ more, true)
    | _ => return (text, false)) first

/-- A name, a literal or something between brackets. -/
def readPrimary (readers : Readers) : Reader Located := do
  let token ← current
  match token.kind with
  | .name name =>
    let _ ← advance
    match reservedConstant? name with
    | some constant => return ⟨token.line, .constant constant⟩
    | none => return ⟨token.line, .name name⟩
  | .text text =>
    let _ ← advance
    return ⟨token.line, .constant (.text (← readTexts text))⟩
  | .integer integer =>
    let _ ← advance
    return ⟨token.line, .constant (.int integer)⟩
  | .float float =>
    let _ ← advance
    return ⟨token.line, .constant (.float float)⟩
  | .sign .leftParenthesis =>
    let _ ← advance
    let inside ← readExpressionTuple readers true [] true
    let _ ← expectSign .rightParenthesis
    return inside
  | .sign .leftBracket => readList readers
  | .sign .leftBrace => readDict readers
  | _ => failAt token.line

/-- What has been read of the arguments of a call. -/
structure ArgumentsRead where
  arguments : Arguments (Expression String) := .none
  afterFirst : Bool := false

def readArgument (readers : Readers) (line : Nat) (arguments : Arguments (Expression String)) :
    Reader (Arguments (Expression String)) := do
  let ensure := fun (good : Bool) => if good then (return () : Reader Unit) else failAt line
  if ← atSign .multiply then
    ensure (arguments.spread.isNone && arguments.spreadNamed.isNone)
    let _ ← advance
    return { arguments with spread := some (← readers.expression true).expression }
  else if ← atSign .power then
    ensure arguments.spreadNamed.isNone
    let _ ← advance
    return { arguments with spreadNamed := some (← readers.expression true).expression }
  else
    let token ← current
    let isNamed ←
      match token.kind with
      | .name _ => do pure (isSign (← peek) .assign)
      | _ => pure false
    if isNamed then
      ensure arguments.spreadNamed.isNone
      let (_, name) ← expectAnyName
      let _ ← advance
      let value ← readers.expression true
      return { arguments with named := arguments.named ++ [(name, value.expression)] }
    else
      ensure (arguments.spread.isNone && arguments.spreadNamed.isNone && arguments.named.isEmpty)
      let value ← readers.expression true
      return { arguments with positional := arguments.positional ++ [value.expression] }

/-- The arguments of a call between parentheses. -/
def readArguments (readers : Readers) : Reader (Arguments (Expression String)) := do
  let token ← expectSign .leftParenthesis
  let read ← untilDone (fun (read : ArgumentsRead) => do
    if ← atSign .rightParenthesis then
      return (read, false)
    if read.afterFirst then
      let _ ← expectSign .comma
      if ← atSign .rightParenthesis then
        return (read, false)
    return (⟨← readArgument readers token.line read.arguments, true⟩, true)) {}
  let _ ← expectSign .rightParenthesis
  return read.arguments

def readCall (readers : Readers) (function : Located) : Reader Located := do
  let token ← current
  let arguments ← readArguments readers
  return ⟨token.line, .call function.expression arguments⟩

/-- An index, or the bounds of a slice. -/
def readIndex (readers : Readers) : Reader (Expression String) := do
  let bound : Reader (Option (Expression String)) := do
    let token ← current
    if isSign token .rightBracket || isSign token .comma then
      return none
    else
      return some (← readers.expression true).expression
  let start ←
    if ← atSign .colon then
      pure none
    else do
      let index ← readers.expression true
      pure (some index.expression)
  if !(← atSign .colon) then
    match start with
    | some index => return index
    | none => fail
  let _ ← advance
  let stop ← if ← atSign .colon then pure none else bound
  if ← atSign .colon then
    let _ ← advance
    return .slice start stop (← bound)
  else
    return .slice start stop none

/-- An attribute after a dot or an index between brackets. -/
def readSubscript (readers : Readers) (subject : Located) : Reader Located := do
  let token ← advance
  if isSign token .dot then
    let field ← current
    let _ ← advance
    match field.kind with
    | .name name => return ⟨token.line, .member subject.expression name⟩
    | .integer integer => return ⟨token.line, .item subject.expression (.constant (.int integer))⟩
    | _ => failAt field.line
  else
    let indices ← untilDone (fun (indices : List (Expression String)) => do
      if ← atSign .rightBracket then
        return (indices, false)
      if !indices.isEmpty then
        let _ ← expectSign .comma
      return (indices ++ [← readIndex readers], true)) []
    let _ ← expectSign .rightBracket
    match indices with
    | [index] => return ⟨token.line, .item subject.expression index⟩
    | indices => return ⟨token.line, .item subject.expression (.tuple indices)⟩

/-- Attributes, indices and calls after an operand. -/
def readTrailers (readers : Readers) (operand : Located) : Reader Located :=
  untilDone (fun (operand : Located) => do
    match (← current).kind with
    | .sign .dot => return (← readSubscript readers operand, true)
    | .sign .leftBracket => return (← readSubscript readers operand, true)
    | .sign .leftParenthesis => return (← readCall readers operand, true)
    | _ => return (operand, false)) operand

/-- A name with parts between dots. -/
def readDottedName : Reader (Nat × String) := do
  let (line, first) ← expectAnyName
  let name ← untilDone (fun (name : String) => do
    if ← skipSign .dot then
      let (_, part) ← expectAnyName
      return (name ++ "." ++ part, true)
    else
      return (name, false)) first
  return (line, name)

/-- The name and the arguments of a filter, applied to a subject. -/
def readOneFilter (readers : Readers) (subject : Expression String) : Reader Located := do
  let (line, name) ← readDottedName
  let arguments ←
    if ← atSign .leftParenthesis then readArguments readers else pure .none
  return ⟨line, .filter line subject name arguments⟩

/-- Filters behind bars. -/
def readFilters (readers : Readers) (subject : Located) : Reader Located :=
  untilDone (fun (subject : Located) => do
    if ← skipSign .bar then
      return (← readOneFilter readers subject.expression, true)
    else
      return (subject, false)) subject

/-- Whether the current token may begin the only argument of a test. -/
def atTestArgument : Reader Bool := do
  match (← current).kind with
  | .name name => return !(["else", "or", "and"].contains name)
  | .text _ => return true
  | .integer _ => return true
  | .float _ => return true
  | .sign .leftBracket => return true
  | .sign .leftBrace => return true
  | _ => return false

/-- A test of a subject. -/
def readTest (readers : Readers) (subject : Located) : Reader Located := do
  let token ← advance
  let negated ← skipName "not"
  let (_, name) ← readDottedName
  let arguments ←
    if ← atSign .leftParenthesis then
      readArguments readers
    else if ← atTestArgument then do
      if ← atName ["is"] then
        fail
      let operand ← readTrailers readers (← readPrimary readers)
      pure ⟨[operand.expression], [], none, none⟩
    else
      pure .none
  let test := Expression.test token.line subject.expression name arguments
  return ⟨token.line, if negated then .unary .not test else test⟩

/-- Filters, tests and calls after an operand. -/
def readFilterExpression (readers : Readers) (operand : Located) : Reader Located :=
  untilDone (fun (operand : Located) => do
    match (← current).kind with
    | .sign .bar => return (← readFilters readers operand, true)
    | .name "is" => return (← readTest readers operand, true)
    | .sign .leftParenthesis => return (← readCall readers operand, true)
    | _ => return (operand, false)) operand

/-- An operand with its sign. -/
def readUnary (readers : Readers) (filtersAllowed : Bool) : Reader Located := do
  let token ← current
  let operand ←
    if isSign token .subtract then do
      let _ ← advance
      let operand ← readers.unary false
      pure ⟨token.line, .unary .negative operand.expression⟩
    else if isSign token .add then do
      let _ ← advance
      let operand ← readers.unary false
      pure ⟨token.line, .unary .positive operand.expression⟩
    else
      readPrimary readers
  let operand ← readTrailers readers operand
  if filtersAllowed then readFilterExpression readers operand else return operand

/-- Operands joined by operators of one rank, from the left. -/
def readBinary
    (operator? : Sign → Option BinaryOperator)
    (readOperand : Reader Located) : Reader Located := do
  let first ← readOperand
  untilDone (fun (left : Located) => do
    match (← current).kind with
    | .sign sign =>
      match operator? sign with
      | some operator =>
        let _ ← advance
        let right ← readOperand
        return (⟨left.line, .binary operator left.expression right.expression⟩, true)
      | none => return (left, false)
    | _ => return (left, false)) first

def powerOperator? : Sign → Option BinaryOperator
  | .power => some .power
  | _ => none

def productOperator? : Sign → Option BinaryOperator
  | .multiply => some .multiply
  | .divide => some .divide
  | .floorDivide => some .floorDivide
  | .modulo => some .modulo
  | _ => none

def sumOperator? : Sign → Option BinaryOperator
  | .add => some .add
  | .subtract => some .subtract
  | _ => none

def readProduct (readers : Readers) : Reader Located :=
  readBinary productOperator? (readBinary powerOperator? (readers.unary true))

def readConcat (readers : Readers) : Reader Located := do
  let line := (← current).line
  let first ← readProduct readers
  let items ← untilDone (fun (items : List (Expression String)) => do
    if ← skipSign .tilde then
      let item ← readProduct readers
      return (items ++ [item.expression], true)
    else
      return (items, false)) [first.expression]
  match items with
  | [_] => return first
  | items => return ⟨line, .concat items⟩

def comparison? : Sign → Option Comparison
  | .equal => some .equal
  | .notEqual => some .notEqual
  | .less => some .less
  | .lessEqual => some .lessEqual
  | .greater => some .greater
  | .greaterEqual => some .greaterEqual
  | _ => none

/-- The comparison that the current tokens begin. -/
def readComparison? : Reader (Option Comparison) := do
  let token ← current
  match token.kind with
  | .sign sign =>
    match comparison? sign with
    | some comparison =>
      let _ ← advance
      return some comparison
    | none => return none
  | .name "in" =>
    let _ ← advance
    return some .within
  | .name "not" =>
    if isName (← peek) "in" then
      let _ ← advance
      let _ ← advance
      return some .notWithin
    else
      return none
  | _ => return none

def readCompare (readers : Readers) : Reader Located := do
  let readOperand := readBinary sumOperator? (readConcat readers)
  let line := (← current).line
  let first ← readOperand
  let rest ← untilDone (fun (rest : List (Comparison × Expression String)) => do
    match ← readComparison? with
    | some comparison =>
      let operand ← readOperand
      return (rest ++ [(comparison, operand.expression)], true)
    | none => return (rest, false)) []
  match rest with
  | [] => return first
  | rest => return ⟨line, .compare first.expression rest⟩

def readNegation (readers : Readers) : Reader Located := do
  let token ← current
  if isName token "not" then
    let _ ← advance
    let operand ← readers.negation
    return ⟨token.line, .unary .not operand.expression⟩
  else
    readCompare readers

/-- Operands joined by a word, from the left. -/
def readJoined
    (word : String)
    (combine : Expression String → Expression String → Expression String)
    (readOperand : Reader Located) : Reader Located := do
  let first ← readOperand
  untilDone (fun (left : Located) => do
    if ← skipName word then
      let right ← readOperand
      return (⟨left.line, combine left.expression right.expression⟩, true)
    else
      return (left, false)) first

def readEither (readers : Readers) : Reader Located :=
  readJoined "or" .either (readJoined "and" .both readers.negation)

/-- A choice between two expressions, the second of which may be left out. -/
def readChoice (readers : Readers) : Reader Located := do
  let start := (← current).line
  let first ← readEither readers
  let (_, chosen) ← untilDone (fun (line, chosen) => do
    if ← skipName "if" then
      let condition ← readEither readers
      let otherwise ←
        if ← skipName "else" then do
          let otherwise ← readers.choice
          pure (some otherwise.expression)
        else
          pure none
      let choice := Expression.choice line condition.expression chosen.expression otherwise
      return (((← current).line, (⟨line, choice⟩ : Located)), true)
    else
      return ((line, chosen), false)) (start, first)
  return chosen

def readExpression (readers : Readers) (choiceAllowed : Bool) : Reader Located :=
  if choiceAllowed then readChoice readers else readEither readers

mutual

/-- The target that an expression is, if values can be assigned to it. -/
def targetOf? (line : Nat) : Expression String → Option (Target String)
  | .name name => some (.name line name)
  | .tuple items => (targetsOf? line items).map .tuple
  | _ => none

def targetsOf? (line : Nat) : List (Expression String) → Option (List (Target String))
  | [] => some []
  | item :: items => do
    let target ← targetOf? line item
    return target :: (← targetsOf? line items)

end

/-- One item of an assignment's left side; nothing where it cannot be assigned to. -/
def readTargetItem
    (readers : Readers)
    (membersAllowed : Bool) : Reader (Nat × Option (Target String)) := do
  let token ← current
  match token.kind with
  | .name name =>
    let _ ← advance
    if (reservedConstant? name).isSome then
      return (token.line, none)
    else if membersAllowed && (← atSign .dot) then
      let _ ← advance
      let (_, field) ← expectAnyName
      return (token.line, some (.member name field))
    else
      return (token.line, some (.name token.line name))
  | _ =>
    let located ← readPrimary readers
    return (located.line, targetOf? located.line located.expression)

/-- The left side of an assignment. -/
def readTarget
    (readers : Readers)
    (endNames : List String)
    (membersAllowed : Bool) : Reader (Target String) := do
  let (line, items, isTuple) ← readTuple (readTargetItem readers membersAllowed) endNames false
  match isTuple, items with
  | false, (_, some target) :: _ => return target
  | false, (line, none) :: _ => failAt line
  | _, items =>
    match items.mapM Prod.snd with
    | some targets => return .tuple targets
    | none => failAt line

/-- A single name to assign to. -/
def readTargetName : Reader (Nat × String) := do
  let (line, name) ← expectAnyName
  if (reservedConstant? name).isSome then failAt line else return (line, name)

/-- Statements up to a tag with one of these names, of which the tag's name is current. -/
def readBody (readers : Readers) (endNames : List String) : Reader (List Statement) := do
  let _ ← skipSign .colon
  expectBlockEnd
  let body ← readers.body endNames
  match (← current).kind with
  | .finish => fail
  | _ => return body

/-- Statements up to a tag with this name, which is taken. -/
def readBodyTo (readers : Readers) (endName : String) : Reader (List Statement) := do
  let body ← readBody readers [endName]
  let _ ← advance
  return body

def readLoop (readers : Readers) : Reader Statement := do
  let token ← expectName "for"
  let target ← readTarget readers ["in"] false
  let _ ← expectName "in"
  let items ← readExpressionTuple readers false ["recursive"] false
  let condition ←
    if ← skipName "if" then do
      let condition ← readers.expression true
      pure (some condition.expression)
    else
      pure none
  let recursive ← skipName "recursive"
  let body ← readBody readers ["endfor", "else"]
  let ending ← advance
  let otherwise ← if isName ending "endfor" then pure [] else readBodyTo readers "endfor"
  return .loop token.line target items.expression condition recursive body otherwise

/-- The branches of a conditional that have been read. -/
structure BranchesRead where
  branches : List (Expression String × List Statement) := []
  otherwise : List Statement := []

def readConditional (readers : Readers) : Reader Statement := do
  let _ ← expectName "if"
  let read ← untilDone (fun (read : BranchesRead) => do
    let condition ← readExpressionTuple readers false [] false
    let body ← readBody readers ["elif", "else", "endif"]
    let branches := read.branches ++ [(condition.expression, body)]
    let ending ← advance
    if isName ending "elif" then
      return ({ read with branches }, true)
    else if isName ending "else" then
      return (⟨branches, ← readBodyTo readers "endif"⟩, false)
    else
      return ({ read with branches }, false)) {}
  return .conditional read.branches read.otherwise

def readBind (readers : Readers) : Reader Statement := do
  let _ ← advance
  let bindings ← untilDone (fun (bindings : List (Target String × Expression String)) => do
    if ← atBlockEnd then
      return (bindings, false)
    if !bindings.isEmpty then
      let _ ← expectSign .comma
    let target ← readTarget readers [] false
    let _ ← expectSign .assign
    let value ← readers.expression true
    return (bindings ++ [(target, value.expression)], true)) []
  return .bind bindings (← readBodyTo readers "endwith")

/-- Whether a statement is nothing but blanks. -/
def isBlankOutput : Statement → Bool
  | .output parts => parts.all fun part =>
    match part with
    | .data text => !text.isEmpty && text.all Text.isBlank
    | .expression _ => false
  | _ => false

def readBlock (readers : Readers) : Reader Statement := do
  let token ← advance
  let (_, name) ← expectAnyName
  let isScoped ← skipName "scoped"
  let isRequired ← skipName "required"
  if ← atSign .subtract then
    fail
  let body ← readBodyTo readers "endblock"
  if isRequired && !body.all isBlankOutput then
    fail
  let _ ← skipName name
  return .block token.line name isScoped isRequired body

def readExtend (readers : Readers) : Reader Statement := do
  let token ← advance
  let template ← readers.expression true
  return .extend token.line template.expression

/-- Whether the context is handed on, where the words say so. -/
def readContextWords? : Reader (Option Bool) := do
  if (← atName ["with", "without"]) && isName (← peek) "context" then
    let token ← advance
    let _ ← advance
    return some (isName token "with")
  else
    return none

def readEmbed (readers : Readers) : Reader Statement := do
  let _ ← advance
  let template ← readers.expression true
  let ignoreMissing ←
    if (← atName ["ignore"]) && isName (← peek) "missing" then do
      let _ ← advance
      let _ ← advance
      pure true
    else
      pure false
  return .embed template.expression ignoreMissing ((← readContextWords?).getD true)

def readImportAs (readers : Readers) : Reader Statement := do
  let _ ← advance
  let template ← readers.expression true
  let _ ← expectName "as"
  let (_, target) ← readTargetName
  return .importAs template.expression target ((← readContextWords?).getD false)

/-- The names to import that have been read, and whether the context is handed on. -/
structure ImportRead where
  names : List (String × String) := []
  withContext : Option Bool := none

def readImportNames (readers : Readers) : Reader Statement := do
  let token ← advance
  let template ← readers.expression true
  let _ ← expectName "import"
  let read ← untilDone (fun (read : ImportRead) => do
    if !read.names.isEmpty then
      let _ ← expectSign .comma
    match (← current).kind with
    | .name _ =>
      match ← readContextWords? with
      | some withContext => return ({ read with withContext := some withContext }, false)
      | none =>
        let (line, name) ← readTargetName
        if name.startsWith "_" then
          throw (.templateMeaning line "names starting with an underline can not be imported")
        let alias_ ←
          if ← skipName "as" then do
            let (_, alias_) ← readTargetName
            pure alias_
          else
            pure name
        let names := read.names ++ [(name, alias_)]
        match ← readContextWords? with
        | some withContext => return (⟨names, some withContext⟩, false)
        | none => return (⟨names, none⟩, ← atSign .comma)
    | _ => fail) {}
  return .importNames token.line template.expression read.names (read.withContext.getD false)

/-- Parameters of a routine with the defaults of the last ones. -/
def readSignature (readers : Readers) : Reader (List String × List (Expression String)) := do
  let _ ← expectSign .leftParenthesis
  let read ← untilDone (fun (parameters, defaults) => do
    if ← atSign .rightParenthesis then
      return ((parameters, defaults), false)
    if !parameters.isEmpty then
      let _ ← expectSign .comma
    let (_, name) ← readTargetName
    if ← skipSign .assign then
      let value ← readers.expression true
      return ((parameters ++ [name], defaults ++ [value.expression]), true)
    else if !defaults.isEmpty then
      fail
    else
      return ((parameters ++ [name], defaults), true))
    (([] : List String), ([] : List (Expression String)))
  let _ ← expectSign .rightParenthesis
  return read

def readCallBlock (readers : Readers) : Reader Statement := do
  let token ← advance
  let (parameters, defaults) ←
    if ← atSign .leftParenthesis then readSignature readers else pure ([], [])
  let call ← readers.expression true
  match call.expression with
  | .call _ _ =>
    let body ← readBodyTo readers "endcall"
    return .callBlock token.line parameters defaults call.expression body
  | _ => failAt token.line

def readRoutine (readers : Readers) : Reader Statement := do
  let token ← advance
  let (_, name) ← readTargetName
  let (parameters, defaults) ← readSignature readers
  let body ← readBodyTo readers "endmacro"
  return .routine token.line name parameters defaults body

def readFilterBlock (readers : Readers) : Reader Statement := do
  let _ ← advance
  let first ← readOneFilter readers .captured
  let filter ← readFilters readers first
  return .filterBlock filter.expression (← readBodyTo readers "endfilter")

def readPrint (readers : Readers) : Reader Statement := do
  let _ ← advance
  let parts ← untilDone (fun (parts : List OutputPart) => do
    if ← atBlockEnd then
      return (parts, false)
    if !parts.isEmpty then
      let _ ← expectSign .comma
    let value ← readers.expression true
    return (parts ++ [.expression value.expression], true)) []
  return .output parts

def readAssign (readers : Readers) : Reader Statement := do
  let _ ← advance
  let target ← readTarget readers [] true
  if ← skipSign .assign then
    let value ← readExpressionTuple readers true [] false
    return .assign target value.expression
  else
    let filter ←
      if ← atSign .bar then do
        let filter ← readFilters readers ⟨0, .captured⟩
        pure (some filter.expression)
      else
        pure none
    return .assignBlock target filter (← readBodyTo readers "endset")

def readEscaping (readers : Readers) : Reader Statement := do
  let _ ← advance
  let value ← readers.expression true
  return .escaping value.expression (← readBodyTo readers "endautoescape")

/-- The statement that the name at the start of a tag announces. -/
def readStatement (readers : Readers) : Reader Statement := do
  let token ← current
  match token.kind with
  | .name name =>
    if name == "for" then readLoop readers
    else if name == "if" then readConditional readers
    else if name == "block" then readBlock readers
    else if name == "extends" then readExtend readers
    else if name == "print" then readPrint readers
    else if name == "macro" then readRoutine readers
    else if name == "include" then readEmbed readers
    else if name == "from" then readImportNames readers
    else if name == "import" then readImportAs readers
    else if name == "set" then readAssign readers
    else if name == "with" then readBind readers
    else if name == "autoescape" then readEscaping readers
    else if name == "call" then readCallBlock readers
    else if name == "filter" then readFilterBlock readers
    else failAt token.line
  | _ => failAt token.line

/-- Statements that have been read, and output parts not yet made into one. -/
structure StatementsRead where
  statements : List Statement := []
  parts : List OutputPart := []

def StatementsRead.flush (read : StatementsRead) : StatementsRead :=
  if read.parts.isEmpty then read
  else ⟨read.statements ++ [.output read.parts], []⟩

/-- Plain text, an interpolation or a statement, and whether more may follow. -/
def readPart (readers : Readers) (endNames : List String) (read : StatementsRead) :
    Reader (StatementsRead × Bool) := do
  match (← current).kind with
  | .finish => return (read.flush, false)
  | .data text =>
    let _ ← advance
    return ({ read with parts := read.parts ++ [.data text] }, true)
  | .interpolationStart =>
    let _ ← advance
    let value ← readExpressionTuple readers true [] false
    expectInterpolationEnd
    return ({ read with parts := read.parts ++ [.expression value.expression] }, true)
  | .blockStart =>
    let read := read.flush
    let _ ← advance
    if ← atName endNames then
      return (read, false)
    let statement ← readStatement readers
    expectBlockEnd
    return ({ read with statements := read.statements ++ [statement] }, true)
  | _ => throw (.assertion "internal parsing error")

/-- The statements up to a tag with one of these names, which stays current. -/
def readStatements (readers : Readers) (endNames : List String) : Reader (List Statement) := do
  let read ← untilDone (readPart readers endNames) {}
  return read.statements

/-- The readers for parts nested at most so deeply. -/
def readers : (depth : Nat) → Readers
  | 0 => ⟨fun _ => throw .tooDeep, throw .tooDeep, throw .tooDeep, fun _ => throw .tooDeep,
      fun _ => throw .tooDeep⟩
  | depth + 1 => {
      expression := fun choiceAllowed => readExpression (readers depth) choiceAllowed
      choice := fun cursor => readChoice (readers depth) cursor
      negation := fun cursor => readNegation (readers depth) cursor
      unary := fun filtersAllowed => readUnary (readers depth) filtersAllowed
      body := fun endNames => readStatements (readers depth) endNames }

/-- How deeply the parts of a template may be nested. -/
def parseDepth : Nat := 2000

/-- The statements of a template. -/
def parse (delimiters : Delimiters) (source : List Char) : Except Fault (List Statement) :=
  let tokens := tokens delimiters source
  let whole : Reader (List Statement) := do
    checkBroken
    readStatements (readers parseDepth) []
  match whole.run ⟨tokens, 1, tokens.length⟩ with
  | .ok statements _ => .ok statements
  | .error fault _ => .error fault

end Stencil.Template
