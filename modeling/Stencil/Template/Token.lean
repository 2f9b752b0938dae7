import Stencil.Fault
import Stencil.Number.Numeral
import Stencil.Text.Class
import Stencil.Text.Search

/-!
# Tokens of a template

A template is plain text with tags in it.  Tags are opened and closed by delimiters;
a minus sign next to a delimiter removes the blanks on its outer side.  Inside of a
tag stand names, numbers, quoted texts and signs.  A fault in the text becomes a
broken token, which counts only once it is reached.
-/

namespace Stencil.Template

/-- The marks around tags; the ones around statements and comments are fixed. -/
structure Delimiters where
  interpolationStart : List Char
  interpolationEnd : List Char

/-- The dollar sign and a brace open an interpolation, a brace closes it. -/
def Delimiters.default : Delimiters :=
  ⟨['$', '{'], ['}']⟩

def blockStart : List Char := ['{', '%']

def blockEnd : List Char := ['%', '}']

def commentStart : List Char := ['{', '#']

def commentEnd : List Char := ['#', '}']

/-- The signs inside of tags. -/
inductive Sign
  | add
  | subtract
  | divide
  | floorDivide
  | multiply
  | modulo
  | power
  | tilde
  | leftBracket
  | rightBracket
  | leftParenthesis
  | rightParenthesis
  | leftBrace
  | rightBrace
  | equal
  | notEqual
  | greater
  | greaterEqual
  | less
  | lessEqual
  | assign
  | dot
  | colon
  | bar
  | comma
  | semicolon
deriving DecidableEq

/-- What a token is. -/
inductive TokenKind
  | data (text : List Char)
  | interpolationStart
  | interpolationEnd
  | blockStart
  | blockEnd
  | name (name : String)
  | text (text : Text)
  | integer (integer : Int)
  | float (float : Float)
  | sign (sign : Sign)
  | broken (fault : Fault)
  | finish

/-- A token and the line it starts on. -/
structure Token where
  line : Nat
  kind : TokenKind

/-- The number of line feeds. -/
def countLines (characters : List Char) : Nat :=
  characters.countP (· == '\n')

/-- Which kind of tag a delimiter opens. -/
inductive Opening
  | raw
  | interpolation
  | comment
  | block
deriving DecidableEq

/-- An opened tag: its kind, whether blanks before it vanish, its lines and what follows. -/
structure Opened where
  opening : Opening
  strips : Bool
  lines : Nat
  rest : List Char

/-- A plus or minus sign right after an opening delimiter. -/
def controlSign : List Char → Bool × List Char
  | '-' :: rest => (true, rest)
  | '+' :: rest => (false, rest)
  | rest => (false, rest)

def skipBlanks (characters : List Char) : List Char :=
  characters.dropWhile Text.isBlank

/-- What follows a closing delimiter; a minus sign before it removes the blanks behind. -/
def afterClosing?
    (plusAllowed : Bool)
    (closing : List Char)
    (characters : List Char) : Option (List Char) :=
  match Text.afterStart? closing characters with
  | some rest => some rest
  | none =>
    match characters with
    | '-' :: more => (Text.afterStart? closing more).map skipBlanks
    | '+' :: more => if plusAllowed then Text.afterStart? closing more else none
    | _ => none

/-- The tag that opens a raw passage. -/
def rawOpening? (characters : List Char) : Option Opened := do
  let inside ← Text.afterStart? blockStart characters
  let (strips, inside) := controlSign inside
  let inside ← Text.afterStart? "raw".toList (skipBlanks inside)
  let inside := skipBlanks inside
  let rest ← afterClosing? false blockEnd inside
  let size := characters.length - rest.length
  return ⟨.raw, strips, countLines (characters.take size), rest⟩

/-- A tag opened by one delimiter. -/
def plainOpening?
    (opening : Opening)
    (delimiter : List Char)
    (characters : List Char) : Option Opened :=
  (Text.afterStart? delimiter characters).map fun inside =>
    let (strips, rest) := controlSign inside
    ⟨opening, strips, countLines delimiter, rest⟩

/-- The tag that opens right here: longer delimiters are tried first. -/
def openingAt? (delimiters : Delimiters) (characters : List Char) : Option Opened :=
  let interpolation := fun (_ : Unit) =>
    plainOpening? .interpolation delimiters.interpolationStart characters
  let fixed := fun (_ : Unit) =>
    (plainOpening? .comment commentStart characters).orElse fun _ =>
      plainOpening? .block blockStart characters
  (rawOpening? characters).orElse fun _ =>
    if 2 ≤ delimiters.interpolationStart.length then
      (interpolation ()).orElse fixed
    else
      (fixed ()).orElse interpolation

/-- The text up to the first opened tag. -/
def splitAtOpening (delimiters : Delimiters) : List Char → List Char × Option Opened
  | [] => ([], openingAt? delimiters [])
  | character :: rest =>
    match openingAt? delimiters (character :: rest) with
    | some opened => ([], some opened)
    | none =>
      let (before, opened) := splitAtOpening delimiters rest
      (character :: before, opened)

/-- The text up to the first place where a reader succeeds, and what the reader gives. -/
def splitAt? {α : Type} (reader : List Char → Option α) : List Char → Option (List Char × α)
  | [] => (reader []).map fun found => ([], found)
  | character :: rest =>
    match reader (character :: rest) with
    | some found => some ([], found)
    | none => (splitAt? reader rest).map fun (before, found) => (character :: before, found)

/-- The tag that ends a raw passage: whether blanks before it vanish, and what follows. -/
def rawClosing? (characters : List Char) : Option (Bool × List Char) := do
  let inside ← Text.afterStart? blockStart characters
  let (strips, inside) := controlSign inside
  let inside ← Text.afterStart? "endraw".toList (skipBlanks inside)
  let rest ← afterClosing? true blockEnd (skipBlanks inside)
  return (strips, rest)

/-- A data token, unless it is empty. -/
def dataToken (line : Nat) (text : List Char) : List Token :=
  if text.isEmpty then [] else [⟨line, .data text⟩]

/-- Signs of two characters, then of one. -/
def signAt? : List Char → Option (Sign × List Char)
  | '/' :: '/' :: rest => some (.floorDivide, rest)
  | '*' :: '*' :: rest => some (.power, rest)
  | '=' :: '=' :: rest => some (.equal, rest)
  | '!' :: '=' :: rest => some (.notEqual, rest)
  | '>' :: '=' :: rest => some (.greaterEqual, rest)
  | '<' :: '=' :: rest => some (.lessEqual, rest)
  | character :: rest => (single? character).map fun sign => (sign, rest)
  | [] => none
where
  single? : Char → Option Sign
    | '+' => some .add
    | '-' => some .subtract
    | '/' => some .divide
    | '*' => some .multiply
    | '%' => some .modulo
    | '~' => some .tilde
    | '[' => some .leftBracket
    | ']' => some .rightBracket
    | '(' => some .leftParenthesis
    | ')' => some .rightParenthesis
    | '{' => some .leftBrace
    | '}' => some .rightBrace
    | '>' => some .greater
    | '<' => some .less
    | '=' => some .assign
    | '.' => some .dot
    | ':' => some .colon
    | '|' => some .bar
    | ',' => some .comma
    | ';' => some .semicolon
    | _ => none

/-- The bracket that closes an opening bracket. -/
def closingSign? : Sign → Option Sign
  | .leftBrace => some .rightBrace
  | .leftParenthesis => some .rightParenthesis
  | .leftBracket => some .rightBracket
  | _ => none

def isClosingSign (sign : Sign) : Bool :=
  sign == .rightBrace || sign == .rightParenthesis || sign == .rightBracket

/-- Whether a character is a decimal digit of any script. -/
def isDecimal (character : Char) : Bool :=
  (Text.decimalDigit? character).isSome

/-- Digits with single low lines between them, as long as possible. -/
def digitsWithLines (accepts : Char → Bool) : List Char → List Char × List Char
  | [] => ([], [])
  | character :: rest =>
    if accepts character then
      let (digits, rest) := digitsWithLines accepts rest
      (character :: digits, rest)
    else if character == '_' then
      match rest with
      | next :: _ =>
        if accepts next then
          let (digits, rest) := digitsWithLines accepts rest
          ('_' :: digits, rest)
        else
          ([], character :: rest)
      | [] => ([], [character])
    else
      ([], character :: rest)

/-- Digits that start with a digit and have single low lines between them. -/
def plainDigits (characters : List Char) : List Char × List Char :=
  match characters with
  | first :: _ => if isDecimal first then digitsWithLines isDecimal characters else ([], characters)
  | [] => ([], [])

/-- An exponent with its mark, as long as it has digits. -/
def exponentAt? : List Char → Option (List Char × List Char)
  | mark :: rest =>
    if mark == 'e' || mark == 'E' then
      let (sign, rest) : List Char × List Char :=
        match rest with
        | '+' :: more => (['+'], more)
        | '-' :: more => (['-'], more)
        | rest => ([], rest)
      let (digits, rest) := plainDigits rest
      if digits.isEmpty then none else some (mark :: sign ++ digits, rest)
    else
      none
  | [] => none

/-- A float numeral: digits with a fraction, an exponent or both. -/
def floatAt? (characters : List Char) : Option (List Char × List Char) :=
  let (whole, rest) := plainDigits characters
  if whole.isEmpty then none
  else
    let fraction : Option (List Char × List Char) :=
      match rest with
      | '.' :: more =>
        let (digits, rest) := plainDigits more
        if digits.isEmpty then none else some ('.' :: digits, rest)
      | _ => none
    match fraction with
    | some (part, after) =>
      match exponentAt? after with
      | some (exponent, after) => some (whole ++ part ++ exponent, after)
      | none => some (whole ++ part, after)
    | none => (exponentAt? rest).map fun (exponent, after) => (whole ++ exponent, after)

/-- The digits of an announced base, each of which a low line may precede. -/
def basedDigits? (base : Nat) (characters : List Char) : Option (List Char × List Char) :=
  let accepts := fun (character : Char) =>
    (Number.digitValue? base character).isSome || (base == 16 && isDecimal character)
  let (digits, rest) := digitsWithLines accepts characters
  if digits.isEmpty then none else some (digits, rest)

/-- An integer numeral. -/
def integerAt? (characters : List Char) : Option (List Char × List Char) :=
  let announced : Option (List Char × List Char) :=
    match characters with
    | '0' :: letter :: rest => do
      let base ← Number.announcedBase? letter
      let (digits, rest) ← basedDigits? base rest
      return ('0' :: letter :: digits, rest)
    | _ => none
  announced.orElse fun _ =>
    match characters with
    | '0' :: _ => some (digitsWithLines (· == '0') characters)
    | first :: _ =>
      if '1' ≤ first && first ≤ '9' then some (digitsWithLines isDecimal characters) else none
    | [] => none

/-- Letters, numbers, low lines and the marks that go on an identifier. -/
def isNameChar (character : Char) : Bool :=
  let point := CodePoint.ofChar character
  point.isWord || point.isIdentifierPart

/-- The inside of a quoted text up to its closing quote. -/
def quotedBody (quote : Char) : List Char → Option (List Char × List Char)
  | [] => none
  | '\\' :: escaped :: rest =>
    (quotedBody quote rest).map fun (body, rest) => ('\\' :: escaped :: body, rest)
  | character :: rest =>
    if character == quote then some ([], rest)
    else if character == '\\' then none
    else (quotedBody quote rest).map fun (body, rest) => (character :: body, rest)

/-- A character beyond the plain ones, written as an escape. -/
def plainEscape (character : Char) : List Char :=
  let number := character.toNat
  if number < 0x80 then [character]
  else if number ≤ 0xFF then '\\' :: 'x' :: Text.hexDigits 2 number
  else if number ≤ 0xFFFF then '\\' :: 'u' :: Text.hexDigits 4 number
  else '\\' :: 'U' :: Text.hexDigits 8 number

/-- A number of exactly so many hexadecimal digits. -/
def hexNumber? (count : Nat) (characters : List Char) : Option (Nat × List Char) := do
  let digits ← (characters.take count).mapM (Number.digitValue? 16)
  if digits.length == count then
    return (Number.ofDigits 16 digits, characters.drop count)
  else
    none

/-- The character of a single escape letter. -/
def simpleEscape? : Char → Option Nat
  | '\\' => some 0x5C
  | '\'' => some 0x27
  | '"' => some 0x22
  | 'a' => some 0x07
  | 'b' => some 0x08
  | 'f' => some 0x0C
  | 'n' => some 0x0A
  | 'r' => some 0x0D
  | 't' => some 0x09
  | 'v' => some 0x0B
  | _ => none

/-- The text that escapes stand for; an unknown escape stands for itself. -/
def unescape : (fuel : Nat) → List Char → Option Text
  | 0, _ => some []
  | _ + 1, [] => some []
  | fuel + 1, '\\' :: rest =>
    match rest with
    | [] => none
    | '\n' :: rest => unescape fuel rest
    | letter :: rest =>
      match simpleEscape? letter with
      | some number => (unescape fuel rest).map (CodePoint.ofNat number :: ·)
      | none =>
        if letter == 'N' then none
        else if letter == 'x' || letter == 'u' || letter == 'U' then do
          let count := if letter == 'x' then 2 else if letter == 'u' then 4 else 8
          let (number, rest) ← hexNumber? count rest
          if number < 0x110000 then
            return CodePoint.ofNat number :: (← unescape fuel rest)
          else
            none
        else if '0' ≤ letter && letter ≤ '7' then do
          let octal := (letter :: rest.take 2).takeWhile fun digit => '0' ≤ digit && digit ≤ '7'
          let digits ← octal.mapM (Number.digitValue? 8)
          let after := rest.drop (digits.length - 1)
          return CodePoint.ofNat (Number.ofDigits 8 digits) :: (← unescape fuel after)
        else
          (unescape fuel rest).map fun text =>
            CodePoint.ofChar '\\' :: CodePoint.ofChar letter :: text
  | fuel + 1, character :: rest =>
    (unescape fuel rest).map (CodePoint.ofChar character :: ·)

/-- The text of a quoted literal. -/
def literalText? (body : List Char) : Option Text :=
  let plain := body.flatMap plainEscape
  unescape (plain.length + 1) plain

/-- A token inside of a tag, its source and what follows; blanks give none. -/
structure Scanned where
  kind : Option TokenKind
  source : List Char
  rest : List Char

/-- A float numeral as a token; other than plain digits are refused. -/
def floatKind (line : Nat) (numeral : List Char) : TokenKind :=
  if numeral.all fun character => character.toNat < 0x80 then
    match Number.floatOfPlain? numeral with
    | some float => .float float
    | none => .broken (.templateSyntax line)
  else
    .broken .malformedCode

/-- An integer numeral as a token. -/
def integerKind (numeral : List Char) : TokenKind :=
  match Number.readInteger 0 (Text.ofChars (numeral.filter (· != '_'))) with
  | .ok integer => .integer integer
  | .error _ => .broken .wrongValue

/-- A name as a token. -/
def nameKind (line : Nat) (name : List Char) : TokenKind :=
  if Text.isIdentifier (Text.ofChars name) then
    .name (String.ofList name)
  else
    .broken (.templateSyntax line)

/-- The next token inside of a tag. -/
def scanInside (line : Nat) (afterDot : Bool) (characters : List Char) : Option Scanned :=
  match characters with
  | [] => none
  | first :: more =>
    if Text.isBlank first then
      some ⟨none, characters.takeWhile Text.isBlank, skipBlanks characters⟩
    else
      let float := if afterDot then none else floatAt? characters
      match float with
      | some (numeral, rest) => some ⟨some (floatKind line numeral), numeral, rest⟩
      | none =>
        match integerAt? characters with
        | some (numeral, rest) => some ⟨some (integerKind numeral), numeral, rest⟩
        | none =>
          if isNameChar first then
            let name := characters.takeWhile isNameChar
            some ⟨some (nameKind line name), name, characters.dropWhile isNameChar⟩
          else
            let quoted := if first == '\'' || first == '"' then quotedBody first more else none
            match quoted with
            | some (body, rest) =>
              let kind :=
                match literalText? body with
                | some text => TokenKind.text text
                | none => .broken (.templateSyntax line)
              some ⟨some kind, first :: body, rest⟩
            | none =>
              (signAt? characters).map fun (sign, rest) =>
                ⟨some (.sign sign), [first], rest⟩

/-- Whether the brackets stay balanced: the brackets still open, or nothing. -/
def balance? (stack : List Sign) (sign : Sign) : Option (List Sign) :=
  match closingSign? sign with
  | some closing => some (closing :: stack)
  | none =>
    if isClosingSign sign then
      match stack with
      | expected :: stack => if expected == sign then some stack else none
      | [] => none
    else
      some stack

/-- The tag that is being read. -/
inductive TagKind
  | interpolation
  | block
deriving DecidableEq

/-- What follows the end of the current tag. -/
def tagEnd? (delimiters : Delimiters) (tag : TagKind) (characters : List Char) :
    Option (List Char) :=
  match tag with
  | .interpolation =>
    match characters with
    | '-' :: more =>
      match Text.afterStart? delimiters.interpolationEnd more with
      | some rest => some (skipBlanks rest)
      | none => Text.afterStart? delimiters.interpolationEnd characters
    | _ => Text.afterStart? delimiters.interpolationEnd characters
  | .block => afterClosing? true blockEnd characters

def TagKind.endToken : TagKind → TokenKind
  | .interpolation => .interpolationEnd
  | .block => .blockEnd

mutual

/-- The tokens of plain text with tags. -/
def outerTokens
    (delimiters : Delimiters) :
    (fuel : Nat) → (line : Nat) → List Char → List Token
  | 0, _, _ => []
  | fuel + 1, line, characters =>
    match splitAtOpening delimiters characters with
    | (data, none) => dataToken line data
    | (data, some opened) =>
      let shown := if opened.strips then Text.trimEnd Text.isBlank data else data
      let start := line + countLines data
      let inner := start + opened.lines
      dataToken line shown ++
        match opened.opening with
        | .raw =>
          match splitAt? rawClosing? opened.rest with
          | some (raw, (strips, rest)) =>
            let shown := if strips then Text.trimEnd Text.isBlank raw else raw
            let after := inner + countLines (opened.rest.take (opened.rest.length - rest.length))
            dataToken inner shown ++ outerTokens delimiters fuel after rest
          | none => if opened.rest.isEmpty then [] else [⟨inner, .broken (.templateSyntax inner)⟩]
        | .comment =>
          match splitAt? (afterClosing? true commentEnd) opened.rest with
          | some (_, rest) =>
            let after := inner + countLines (opened.rest.take (opened.rest.length - rest.length))
            outerTokens delimiters fuel after rest
          | none => if opened.rest.isEmpty then [] else [⟨inner, .broken (.templateSyntax inner)⟩]
        | .interpolation =>
          ⟨start, .interpolationStart⟩ ::
            innerTokens delimiters fuel .interpolation inner [] false opened.rest
        | .block =>
          ⟨start, .blockStart⟩ :: innerTokens delimiters fuel .block inner [] false opened.rest

/-- The tokens inside of a tag, and of what follows it. -/
def innerTokens
    (delimiters : Delimiters) :
    (fuel : Nat) → TagKind → (line : Nat) → (stack : List Sign) → (afterDot : Bool) →
      List Char → List Token
  | 0, _, _, _, _, _ => []
  | fuel + 1, tag, line, stack, afterDot, characters =>
    let ended := if stack.isEmpty then tagEnd? delimiters tag characters else none
    match ended with
    | some rest =>
      let lines := countLines (characters.take (characters.length - rest.length))
      ⟨line, tag.endToken⟩ :: outerTokens delimiters fuel (line + lines) rest
    | none =>
      match scanInside line afterDot characters with
      | none =>
        if characters.isEmpty then [] else [⟨line, .broken (.templateSyntax line)⟩]
      | some scanned =>
        let after := line + countLines scanned.source
        match scanned.kind with
        | none => innerTokens delimiters fuel tag after stack false scanned.rest
        | some (.sign sign) =>
          match balance? stack sign with
          | some stack =>
            ⟨line, .sign sign⟩ ::
              innerTokens delimiters fuel tag after stack (sign == .dot) scanned.rest
          | none => [⟨line, .broken (.templateSyntax line)⟩]
        | some kind =>
          ⟨line, kind⟩ :: innerTokens delimiters fuel tag after stack false scanned.rest

end

/-- The tokens of a template. -/
def tokens (delimiters : Delimiters) (source : List Char) : List Token :=
  let source := Text.unifyLineEnds source
  outerTokens delimiters (2 * source.length + 4) 1 source

end Stencil.Template
