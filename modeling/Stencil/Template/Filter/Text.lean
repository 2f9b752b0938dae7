import Stencil.Json.Writer
import Stencil.Template.Filter.Basic
import Stencil.Template.Wrap

/-!
# Filters on text

Case, escaping, cutting and breaking of text, and values written as text for other
formats.
-/

namespace Stencil.Template

open Run

/-- Marks before which a word of a title starts. -/
def startsTitleWord (point : CodePoint) : Bool :=
  point.isBlank || ['-', '(', '[', '<'].any point.is || point.number == 0x7B

/-- The runs of characters that are alike under a question. -/
def alikeRuns (question : CodePoint → Bool) : Text → List Text
  | [] => []
  | point :: rest =>
    match alikeRuns question rest with
    | (next :: run) :: runs =>
      if question point == question next then (point :: next :: run) :: runs
      else [point] :: (next :: run) :: runs
    | runs => [point] :: runs

/-- Text with every word capitalized. -/
def titleText (text : Text) : Text :=
  (alikeRuns startsTitleWord text).flatMap fun run =>
    Stencil.Text.upper (run.take 1) ++ Stencil.Text.lower (run.drop 1)

/-- The number of words. -/
def wordCount (text : Text) : Nat :=
  (alikeRuns CodePoint.isWord text).countP fun run => run.any CodePoint.isWord

/-- Text with its parts replaced. -/
def replaceFilter : FilterRule :=
  FilterRule.withParameters [required "old", required "new", optional "count" .none]
    fun evaluator site subject arguments => do
      let old := arguments.getD 0 .none
      let new := arguments.getD 1 .none
      let count : Value :=
        match arguments.getD 2 .none with
        | .none => .int (-1)
        | count => count
      if ← escaping site then
        let subjectIsSafe ← showsMarkup subject
        let (isSafe, text) ←
          if (← showsMarkup old) || ((← showsMarkup new) && !subjectIsSafe) then do
            pure (true, ← escapeValue evaluator subject)
          else
            softText evaluator subject
        let (oldIsSafe, old) ← softText evaluator old
        let (newIsSafe, new) ← softText evaluator new
        replaceMethod evaluator isSafe text
          ⟨[sameKind oldIsSafe old, sameKind newIsSafe new, count], []⟩
      else
        let text ← showValue evaluator subject
        let old ← showValue evaluator old
        let new ← showValue evaluator new
        replaceMethod evaluator false text ⟨[.text old, .text new, count], []⟩

/-- What a line is indented by. -/
def indentation (width : Value) : Run Text := do
  match width.text? with
  | some content => return content
  | none =>
    match ← compute .multiply (.text (" " : Text)) width with
    | .text content => return content
    | _ => wrongType

/-- Text with its lines indented. -/
def indentFilter : FilterRule :=
  FilterRule.withParameters
    [optional "width" (.int 4), flag "first" false, flag "blank" false]
    fun evaluator _ subject arguments => do
      let indent ← indentation (arguments.getD 0 .none)
      let newline : Text := "\n"
      match subject.text? with
      | some text =>
        let isSafe := match subject with
          | .markup _ => true
          | _ => false
        let lines := linesOf false [] (text ++ newline)
        let indentsBlank ← truth evaluator (arguments.getD 2 .none)
        let rest := (lines.drop 1).map fun line =>
          if line.isEmpty && !indentsBlank then line else indent ++ line
        let shown := Stencil.Text.joinWith newline (lines.take 1 ++ rest)
        if ← truth evaluator (arguments.getD 1 .none) then
          return sameKind isSafe (indent ++ shown)
        else
          return sameKind isSafe shown
      | none =>
        match subject with
        | .undefined missing => throw (.undefinedValue missing.message)
        | .list _ => throw .missingAttribute
        | _ => wrongType

/-- The shortest length that truncating admits. -/
def checkAtLeast (evaluator : Evaluator) (what : String) (least : Int) (value : Value) :
    Run Unit := do
  if ← compareValues evaluator .greaterEqual value (.int least) then
    return ()
  else
    let shown ← showValue evaluator value
    throw (.assertion ("expected " ++ what ++ " >= " ++ toString least ++ ", got " ++ shown.string))

/-- Text cut to a length, at a blank unless words may be cut. -/
def truncateFilter : FilterRule :=
  FilterRule.withParameters
    [optional "length" (.int 255), flag "killwords" false, optional "end" (Value.ofString "..."),
      optional "leeway" .none]
    fun evaluator _ subject arguments => do
      let length := arguments.getD 0 .none
      let ending := arguments.getD 2 .none
      let leeway : Value :=
        match arguments.getD 3 .none with
        | .none => .int 5
        | leeway => leeway
      let endLength ← lengthOf evaluator ending
      checkAtLeast evaluator "length" endLength length
      checkAtLeast evaluator "leeway" 0 leeway
      let subjectLength ← lengthOf evaluator subject
      let limit ← compute .add length leeway
      if ← compareValues evaluator .lessEqual (.int subjectLength) limit then
        return subject
      let killsWords ← truth evaluator (arguments.getD 1 .none)
      let cut ← sliceValue subject .none (← compute .subtract length (.int endLength)) .none
      if killsWords then
        compute .add cut ending
      else
        let cutText := fun (isSafe : Bool) (text : Text) =>
          let kept := (cutPieces true (some (" " : Text)) 1 text).headD []
          compute .add (sameKind isSafe kept) ending
        match cut with
        | .text text => cutText false text
        | .markup text => cutText true text
        | .bytes _ => wrongType
        | _ => throw .missingAttribute

/-- Refuse what is no text. -/
def refuseNoText {α : Type} (value : Value) : Run α :=
  match value with
  | .undefined missing => throw (.undefinedValue missing.message)
  | .bytes _ => wrongType
  | _ => throw .missingAttribute

/-- Text broken into lines of a width. -/
def wordWrapFilter : FilterRule :=
  FilterRule.withParameters
    [optional "width" (.int 79), flag "break_long_words" true, optional "wrapstring" .none,
      flag "break_on_hyphens" true]
    fun evaluator _ subject arguments => do
      let separator : Value :=
        match arguments.getD 2 .none with
        | .none => .text ("\n" : Text)
        | separator => separator
      let (isSafe, between) ←
        match separator with
        | .text content => pure (false, content)
        | .markup content => pure (true, content)
        | separator => refuseNoText separator
      let text ←
        match subject.text? with
        | some text => pure text
        | none => refuseNoText subject
      let lines := linesOf false [] text
      if lines.isEmpty then
        return sameKind isSafe []
      let width ← integerArgument (arguments.getD 0 .none)
      if width ≤ 0 then
        wrongValue
      let rules : WrapRules :=
        { width := width.toNat
          breaksWords := ← truth evaluator (arguments.getD 1 .none)
          breaksAtHyphens := ← truth evaluator (arguments.getD 3 .none) }
      let shown := lines.map fun line =>
        let broken := wrapLine rules line
        Stencil.Text.joinWith between (if isSafe then broken.map escapeMarkup else broken)
      return sameKind isSafe (Stencil.Text.joinWith between shown)

/-- A value as part of an address. -/
def addressPart (evaluator : Evaluator) (forQuery : Bool) (value : Value) : Run Text := do
  match value with
  | .bytes content => return quoteAddress forQuery content
  | value =>
    let (_, text) ← softText evaluator value
    match Stencil.Text.encode? text with
    | some bytes => return quoteAddress forQuery bytes.toList
    | none => throw .unencodable

/-- Whether a value has members to iterate over. -/
def hasMembers (value : Value) : Run Bool := do
  match value with
  | .text _ => return true
  | .markup _ => return true
  | .bytes _ => return true
  | .tuple _ => return true
  | .group _ _ => return true
  | .list _ => return true
  | .dict _ => return true
  | .set _ => return true
  | .range _ _ _ => return true
  | .view _ _ => return true
  | .undefined _ => return true
  | .object place =>
    match ← object place with
    | .stream _ => return true
    | .loop _ => return true
    | .foreign origin names => unanswered origin names
    | _ => return false
  | _ => return false

/-- A value as an address, or its pairs as a query. -/
def addressFilter : FilterRule :=
  FilterRule.plain fun evaluator subject => do
    match subject with
    | .text _ => return .text (← addressPart evaluator false subject)
    | .markup _ => return .text (← addressPart evaluator false subject)
    | subject =>
      if ← hasMembers subject then
        let pairs ←
          match subject with
          | .dict ref => do pure ((← entries ref).map fun (key, value) => .tuple [key, value])
          | subject => members? evaluator subject
        let shown ← pairs.mapM fun pair => do
          match ← members? evaluator pair with
          | [key, value] =>
            let key ← addressPart evaluator true key
            return key ++ ("=" : Text) ++ (← addressPart evaluator true value)
          | _ => wrongValue
        return .text (Stencil.Text.joinWith ("&" : Text) shown)
      else
        return .text (← addressPart evaluator false subject)

/-- The pairs that a mapping gives. -/
def pairsOf (evaluator : Evaluator) (site : Site) (value : Value) : Run (List Value) := do
  match value with
  | .dict ref => return (← entries ref).map fun (key, value) => .tuple [key, value]
  | value =>
    let method ← requiredAttribute evaluator value "items"
    members? evaluator (← evaluator.call site method Given.none)

/-- Characters that names of attributes must not hold. -/
def breaksAttributeName (point : CodePoint) : Bool :=
  point.is ' ' || (9 ≤ point.number && point.number ≤ 13) || ['/', '>', '='].any point.is

/-- A mapping as the attributes of a markup tag. -/
def attributesFilter : FilterRule :=
  FilterRule.withParameters [flag "autospace" true] fun evaluator site subject arguments => do
    let pairs ← pairsOf evaluator site subject
    let shown ← pairs.mapM fun pair => do
      match ← members? evaluator pair with
      | [_, .none] => return []
      | [_, .undefined _] => return []
      | [key, value] =>
        let name ← textArgument key
        if name.any breaksAttributeName then
          wrongValue
        let key ← escapeValue evaluator key
        let value ← escapeValue evaluator value
        return [key ++ ("=\"" : Text) ++ value ++ ("\"" : Text)]
      | _ => wrongValue
    let joined := Stencil.Text.joinWith (" " : Text) shown.flatten
    let spaced ←
      if (← truth evaluator (arguments.getD 0 .none)) && !joined.isEmpty then
        pure ((" " : Text) ++ joined)
      else
        pure joined
    return sameKind (← escaping site) spaced

/-- Characters of JSON that markup must not show. -/
def jsonMarkupEscape (character : Char) : List Char :=
  if ['<', '>', '&', '\''].contains character then Json.escapedUnit character.toNat
  else [character]

/-- A value as JSON that is safe within markup. -/
def jsonFilter : FilterRule :=
  FilterRule.withParameters [optional "indent" .none] fun _ _ subject arguments => do
    let indentation : Json.Indentation ←
      match arguments.getD 0 .none with
      | .none => pure none
      | width => do pure (some (← indentation width).shown)
    let written ← onHeap fun heap => Json.write heap indentation subject
    return .markup (Text.ofChars (written.flatMap jsonMarkupEscape))

/-- Text with values put into it. -/
def formatFilter : FilterRule := fun evaluator _ subject given => do
  if !given.positional.isEmpty && !given.named.isEmpty then
    throw (.filterArgument "can't handle positional and keyword arguments at the same time")
  let (isSafe, text) ← softText evaluator subject
  let arguments ←
    if given.named.isEmpty then pure (.tuple given.positional)
    else newDict (namedEntries given.named)
  return sameKind isSafe (← formatPercent evaluator isSafe text arguments)

/-- The filters on text. -/
def textFilters : List (String × FilterRule) :=
  let escapeRule : FilterRule := fun evaluator _ subject given => do
    noArguments given
    return .markup (← escapeValue evaluator subject)
  [("capitalize", textFilter Stencil.Text.capitalize),
    ("center", methodFilter [optional "width" (.int 80)] "center"),
    ("e", escapeRule),
    ("escape", escapeRule),
    ("forceescape", FilterRule.plain fun evaluator subject => do
      return .markup (escapeMarkup (← showValue evaluator subject))),
    ("format", formatFilter),
    ("indent", indentFilter),
    ("lower", textFilter Stencil.Text.lower),
    ("pprint", FilterRule.plain fun _ subject => do return .text (← literalText subject)),
    ("replace", replaceFilter),
    ("safe", FilterRule.plain fun evaluator subject => do
      return .markup (← showValue evaluator subject)),
    ("string", textFilter id),
    ("striptags", FilterRule.plain fun evaluator subject => do
      return .text (stripTags (← showValue evaluator subject))),
    ("title", FilterRule.plain fun evaluator subject => do
      let (_, text) ← softText evaluator subject
      return .text (titleText text)),
    ("tojson", jsonFilter),
    ("trim", methodFilter [optional "chars" .none] "strip"),
    ("truncate", truncateFilter),
    ("upper", textFilter Stencil.Text.upper),
    ("urlencode", addressFilter),
    ("urlize", fun evaluator _ subject given => evaluator.ask subject ["urlize"] given),
    ("wordcount", FilterRule.plain fun evaluator subject => do
      let (_, text) ← softText evaluator subject
      return .int (wordCount text)),
    ("wordwrap", wordWrapFilter),
    ("xmlattr", attributesFilter)]

end Stencil.Template
