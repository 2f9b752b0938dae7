import Stencil.Calendar.Layout
import Stencil.Template.Layout
import Stencil.Template.Operator

/-!
# Formatting languages

Text may hold places for values in two languages: conversions behind percent signs,
and replacement fields between braces.  Safe text escapes what is put into it.
-/

namespace Stencil.Template

open Run

section WithEvaluator

variable (evaluator : Evaluator)

/-- A value as it is put into text, escaped for safe text. -/
def insertedText (isSafe : Bool) (value : Value) : Run Text :=
  if isSafe then escapeValue evaluator value else showValue evaluator value

def insertedLiteral (isSafe : Bool) (value : Value) : Run Text := do
  let text ← literalText value
  return if isSafe then escapeMarkup text else text

/-- What is left of the values for conversions. -/
structure Supply where
  positional : List Value
  named : Option (List (Value × Value))
  /-- All values were used, or need not be. -/
  isUsed : Bool := false

def takeValue (supply : Supply) : Run (Value × Supply) := do
  match supply.positional with
  | value :: rest => return (value, { supply with positional := rest })
  | [] => wrongType

/-- A width or precision: digits, or a star for the next value. -/
def readCount (supply : Supply) (text : Text) : Run (Option Int × Supply × Text) := do
  match text with
  | point :: rest =>
    if point.is '*' then
      let (value, supply) ← takeValue supply
      match integer? value with
      | some count => return (some count, supply, rest)
      | none => wrongType
    else
      let (count, rest) := leadingNumber text
      return (count.map fun count => (count : Int), supply, rest)
  | [] => return (none, supply, [])

/-- A number as a float. -/
def floatOfValue (value : Value) : Run Float := do
  match value with
  | .undefined missing => throw (.undefinedValue missing.message)
  | value =>
    match value.amount? with
    | some amount => floatOfAmount amount
    | none => wrongType

/-- A number cut to an integer. -/
def integerOfNumber (value : Value) : Run Int := do
  match value with
  | .float amount =>
    match Number.formOf amount with
    | .finite value => return value.truncate
    | .infinite _ => throw .overflow
    | .notANumber => wrongValue
  | value =>
    match integer? value with
    | some integer => return integer
    | none => wrongType

/-- Characters that text beyond the plain ones is shown with. -/
def plainLiteral (text : Text) : Text :=
  text.flatMap fun point =>
    if point.number < 0x80 then [point]
    else if point.number ≤ 0xFF then
      Text.ofChars ('\\' :: 'x' :: Stencil.Text.hexDigits 2 point.number)
    else if point.number ≤ 0xFFFF then
      Text.ofChars ('\\' :: 'u' :: Stencil.Text.hexDigits 4 point.number)
    else Text.ofChars ('\\' :: 'U' :: Stencil.Text.hexDigits 8 point.number)

/-- One converted value. -/
def convertValue
    (isSafe : Bool)
    (layout : FieldLayout)
    (kind : Char)
    (value : Value) : Run Text := do
  let inField := fun (text : Text) =>
    let align := if layout.align == some '<' then '<' else '>'
    padField (CodePoint.ofChar ' ') align layout.width text
  let asText := fun (text : Text) =>
    inField (match layout.precision with
      | some precision => text.take precision
      | none => text)
  let number := { layout with
    zeroes := layout.zeroes && layout.align != some '<'
    align := if layout.align == some '<' then some '<' else none }
  if kind == 's' then
    return asText (← insertedText evaluator isSafe value)
  else if kind == 'r' then
    return asText (← insertedLiteral isSafe value)
  else if kind == 'a' then
    return asText (plainLiteral (← insertedLiteral isSafe value))
  else if kind == 'd' || kind == 'i' || kind == 'u' then
    let integer ← integerOfNumber value
    let digits := Number.decimalDigits integer.natAbs
    let digits := Number.zeroPadded (layout.precision.getD 0) digits
    return padNumber number 3 { lead := signText layout.sign (integer < 0), whole := digits }
  else if kind == 'x' || kind == 'X' || kind == 'o' then
    match value with
    | .float _ => wrongType
    | value =>
      let integer ← integerOfNumber value
      let base := if kind == 'o' then 8 else 16
      let digits := Number.zeroPadded (layout.precision.getD 0)
        (Number.digitsInBase base integer.natAbs)
      let digits := if kind == 'X' then digits.map Char.toUpper else digits
      let mark := if layout.alternate then ['0', kind] else []
      return padNumber number 4
        { lead := signText layout.sign (integer < 0) ++ mark, whole := digits }
  else if ['e', 'E', 'f', 'F', 'g', 'G'].contains kind then
    let amount ← floatOfValue value
    let (negative, digits) :=
      floatMagnitude kind (layout.precision.getD 6) layout.alternate amount
    return padNumber number 3 { lead := signText layout.sign negative, whole := digits }
  else if kind == 'c' then
    match value.text? with
    | some [point] => return inField [point]
    | some _ => wrongType
    | none =>
      match integer? value with
      | some integer =>
        if 0 ≤ integer && integer < 0x110000 then
          return inField [CodePoint.ofNat integer.toNat]
        else throw .overflow
      | none => wrongType
  else
    wrongValue

/-- The flags of a conversion. -/
def readFlags : FieldLayout → Text → FieldLayout × Text
  | layout, [] => (layout, [])
  | layout, point :: rest =>
    if point.is '-' then readFlags { layout with align := some '<' } rest
    else if point.is '+' then readFlags { layout with sign := some '+' } rest
    else if point.is ' ' then
      readFlags { layout with sign := if layout.sign == some '+' then some '+' else some ' ' } rest
    else if point.is '#' then readFlags { layout with alternate := true } rest
    else if point.is '0' then readFlags { layout with zeroes := true } rest
    else (layout, point :: rest)

/-- The name between parentheses at the start of a conversion. -/
def readKey : (depth : Nat) → Text → Option (Text × Text)
  | _, [] => none
  | depth, point :: rest =>
    if point.is ')' then
      if depth == 0 then some ([], rest)
      else (readKey (depth - 1) rest).map fun (key, rest) => (point :: key, rest)
    else
      let depth := if point.is '(' then depth + 1 else depth
      (readKey depth rest).map fun (key, rest) => (point :: key, rest)

/-- One conversion behind its percent sign. -/
def convertOne (isSafe : Bool) (supply : Supply) (text : Text) :
    Run (Text × Supply × Text) := do
  let (supply, text) ←
    match text with
    | point :: rest =>
      if point.is '(' then
        match supply.named, readKey 0 rest with
        | some entries, some (key, rest) =>
          match ← onHeap fun heap => heap.find? entries (.text key) with
          | some value => pure ({ supply with positional := [value], isUsed := true }, rest)
          | none => throw .missingKey
        | none, _ => wrongType
        | _, none => wrongValue
      else
        pure (supply, text)
    | [] => wrongValue
  let (layout, text) := readFlags {} text
  let (width, supply, text) ← readCount supply text
  let layout :=
    match width with
    | some width =>
      { layout with
        width := width.natAbs
        align := if width < 0 then some '<' else layout.align }
    | none => layout
  let (layout, supply, text) ←
    match text with
    | point :: rest =>
      if point.is '.' then do
        let (precision, supply, rest) ← readCount supply rest
        pure ({ layout with precision := some (precision.getD 0).toNat }, supply, rest)
      else
        pure (layout, supply, text)
    | [] => pure (layout, supply, text)
  let text := match text with
    | point :: rest => if point.is 'h' || point.is 'l' || point.is 'L' then rest else text
    | [] => text
  match text with
  | [] => wrongValue
  | kind :: rest =>
    let (value, supply) ← takeValue supply
    let converted ← convertValue evaluator isSafe layout kind.shown value
    return (converted, supply, rest)

/-- Text with its conversions done; two percent signs stand for one. -/
def convertAll (isSafe : Bool) :
    (fuel : Nat) → Supply → Text → Run (Text × Supply)
  | 0, supply, text => return (text, supply)
  | _ + 1, supply, [] => return ([], supply)
  | fuel + 1, supply, point :: rest => do
    if point.is '%' then
      let (converted, supply, rest) ←
        if rest.head?.any fun next => next.is '%' then
          pure ([point], supply, rest.drop 1)
        else
          convertOne evaluator isSafe supply rest
      let (more, supply) ← convertAll isSafe fuel supply rest
      return (converted ++ more, supply)
    else
      let (more, supply) ← convertAll isSafe fuel supply rest
      return (point :: more, supply)

/-- Put values into the places of a text. -/
def formatPercent (isSafe : Bool) (template : Text) (arguments : Value) : Run Text := do
  let supply : Supply ←
    match arguments with
    | .tuple items => pure ⟨items, none, false⟩
    | .group key members => pure ⟨[key, .list members], none, false⟩
    | .dict ref => do pure ⟨[arguments], some (← entries ref), true⟩
    | .list _ => pure ⟨[arguments], none, true⟩
    | .range _ _ _ => pure ⟨[arguments], none, true⟩
    | .bytes _ => pure ⟨[arguments], none, true⟩
    | .undefined _ => pure ⟨[arguments], none, true⟩
    | value => pure ⟨[value], none, false⟩
  let (text, supply) ← convertAll evaluator isSafe (template.length + 1) supply template
  if !supply.positional.isEmpty && !supply.isUsed && supply.named.isNone then
    wrongType
  else
    return text

/-- A layout that has been read; one that cannot be read is refused. -/
def readLayout (layoutText : Text) : Run FieldLayout := do
  match FieldLayout.read? layoutText with
  | some layout => return layout
  | none => wrongValue

/-- Text that has been laid out, unless the layout does not suit it. -/
def suitable (text : Option Text) : Run Text := do
  match text with
  | some text => return text
  | none => wrongValue

/-- A whole number in a layout. -/
def formatInteger (layout : FieldLayout) (integer : Int) : Run Text := do
  let isFloatKind := layout.kind.any fun kind => ['e', 'E', 'f', 'F', 'g', 'G', '%'].contains kind
  if isFloatKind then
    suitable (layoutFloat? layout (← floatOfInt integer))
  else if layout.kind == some 'c' then
    if !layout.suitsCharacter then
      wrongValue
    else if integer < 0 || 0x110000 ≤ integer then
      throw .overflow
    else
      return layoutCharacter layout (CodePoint.ofNat integer.toNat)
  else
    suitable (layoutInteger? layout integer)

/-- A value in a layout of its own kind. -/
def formatLaidOut (value : Value) (layoutText : Text) : Run Text := do
  match value with
  | .text content => suitable (layoutText? (← readLayout layoutText) content)
  | .markup content => suitable (layoutText? (← readLayout layoutText) content)
  | .float amount => suitable (layoutFloat? (← readLayout layoutText) amount)
  | .undefined missing => throw (.undefinedValue missing.message)
  | .date date => laidOut value (.ofDate date)
  | .time time => laidOut value (.ofTime time)
  | .moment moment => laidOut value moment
  | value =>
    match integer? value with
    | some integer => formatInteger (← readLayout layoutText) integer
    | none => refuseType value
where
  laidOut (value : Value) (moment : Calendar.Moment) : Run Text :=
    match (Text.chars? layoutText).bind moment.laidOut? with
    | some shown => return Text.ofChars shown
    | none => unanswered value ["__format__"]

/-- A value in a layout, escaped for safe text; safe text itself takes no layout there. -/
def formatValue (isSafe : Bool) (value : Value) (layoutText : Text) : Run Text := do
  if layoutText.isEmpty then
    insertedText evaluator isSafe value
  else
    match isSafe, value with
    | true, .markup _ => wrongValue
    | true, value => return escapeMarkup (← formatLaidOut value layoutText)
    | false, value => formatLaidOut value layoutText

/-- Where a replacement field gets its value. -/
structure FieldSource where
  positional : List Value
  named : List (String × Value)
  /-- The number of the next field without a name; nothing once fields are numbered. -/
  next : Option Nat := some 0

/-- The parts of a field up to a character outside of brackets. -/
def splitField (stops : List Char) : (inBracket : Bool) → Text → Text × Text
  | _, [] => ([], [])
  | inBracket, point :: rest =>
    if !inBracket && stops.any point.is then ([], point :: rest)
    else
      let inBracket := if point.is '[' then true else if point.is ']' then false else inBracket
      let (before, after) := splitField stops inBracket rest
      (point :: before, after)

/-- The member of a value that a field names. -/
def fieldMember
    (member : Value → String → Run Value)
    (item : Value → Value → Run Value) :
    (fuel : Nat) → Value → Text → Run Value
  | 0, value, _ => return value
  | _ + 1, value, [] => return value
  | fuel + 1, value, point :: rest => do
    if point.is '.' then
      let (name, rest) := splitField ['.', '['] false rest
      if name.isEmpty then
        wrongValue
      fieldMember member item fuel (← member value name.string) rest
    else if point.is '[' then
      let name := rest.takeWhile fun point => !point.is ']'
      let after := rest.drop (name.length + 1)
      if name.isEmpty || rest.length ≤ name.length then
        wrongValue
      let index : Value :=
        match leadingNumber name with
        | (some number, []) => .int number
        | _ => .text name
      fieldMember member item fuel (← item value index) after
    else
      wrongValue

/-- The value of a field. -/
def fieldValue
    (member : Value → String → Run Value)
    (item : Value → Value → Run Value)
    (source : FieldSource)
    (field : Text) : Run (Value × FieldSource) := do
  let (name, path) := splitField ['.', '['] false field
  let positionalAt := fun (index : Nat) =>
    match source.positional[index]? with
    | some value => (return value : Run Value)
    | none => throw .outOfRange
  let (value, source) ←
    if name.isEmpty then
      match source.next with
      | some index => do
        let value ← positionalAt index
        pure (value, { source with next := some (index + 1) })
      | none => wrongValue
    else
      match leadingNumber name with
      | (some index, []) =>
        if source.next == some 0 || source.next.isNone then do
          let value ← positionalAt index
          pure (value, { source with next := none })
        else
          wrongValue
      | _ =>
        match source.named.lookup name.string with
        | some value => pure (value, source)
        | none => throw .missingKey
  return (← fieldMember member item (path.length + 1) value path, source)

/-- The inside of a field up to its closing brace. -/
def fieldBody : (depth : Nat) → Text → Option (Text × Text)
  | _, [] => none
  | depth, point :: rest =>
    if point.is '}' then
      if depth == 0 then some ([], rest)
      else (fieldBody (depth - 1) rest).map fun (body, rest) => (point :: body, rest)
    else
      let depth := if point.is '{' then depth + 1 else depth
      (fieldBody depth rest).map fun (body, rest) => (point :: body, rest)

/-- Text with its replacement fields filled. -/
def formatFields
    (member : Value → String → Run Value)
    (item : Value → Value → Run Value)
    (isSafe : Bool) :
    (fuel : Nat) → (depth : Nat) → FieldSource → Text → Run (Text × FieldSource)
  | 0, _, source, text => return (text, source)
  | _ + 1, _, source, [] => return ([], source)
  | fuel + 1, depth, source, point :: rest => do
    if point.is '{' then
      match rest with
      | next :: more =>
        if next.is '{' && depth == 2 then
          let (after, source) ← formatFields member item isSafe fuel depth source more
          return (point :: after, source)
        else if depth == 0 then
          wrongValue
        else
          match fieldBody 0 rest with
          | none => wrongValue
          | some (body, rest) =>
            let (name, tail) := splitField ['!', ':'] false body
            let (value, source) ← fieldValue member item source name
            let (conversion, tail) : Option CodePoint × Text :=
              match tail with
              | mark :: kind :: tail =>
                if mark.is '!' then (some kind, tail) else (none, mark :: kind :: tail)
              | tail => (none, tail)
            let (layout, source) ←
              match tail with
              | [] => pure ([], source)
              | colon :: layout =>
                if colon.is ':' then
                  formatFields member item isSafe fuel (depth - 1) source layout
                else
                  wrongValue
            let value ←
              match conversion with
              | none => pure value
              | some kind =>
                if kind.is 'r' then do pure (.text (← literalText value))
                else if kind.is 's' then do pure (.text (← showValue evaluator value))
                else if kind.is 'a' then do pure (.text (plainLiteral (← literalText value)))
                else wrongValue
            let shown ← formatValue evaluator isSafe value layout
            let (after, source) ← formatFields member item isSafe fuel depth source rest
            return (shown ++ after, source)
      | [] => wrongValue
    else if point.is '}' then
      match rest with
      | next :: more =>
        if next.is '}' then
          let (after, source) ← formatFields member item isSafe fuel depth source more
          return (point :: after, source)
        else
          wrongValue
      | [] => wrongValue
    else
      let (after, source) ← formatFields member item isSafe fuel depth source rest
      return (point :: after, source)

/-- Put values into the replacement fields of a text. -/
def formatBraces
    (member : Value → String → Run Value)
    (item : Value → Value → Run Value)
    (isSafe : Bool)
    (template : Text)
    (given : Given) : Run Text := do
  let source : FieldSource := { positional := given.positional, named := given.named }
  let (text, _) ←
    formatFields evaluator member item isSafe (template.length + 1) 2 source template
  return text

end WithEvaluator

end Stencil.Template
