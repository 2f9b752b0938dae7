import Stencil.Template.Filter.Basic

/-!
# Filters on sequences

Joining, sorting, grouping and choosing the members of values.
-/

namespace Stencil.Template

open Run

/-- Texts of members joined. -/
def joinFilter : FilterRule :=
  FilterRule.withParameters [optional "d" (Value.ofString ""), optional "attribute" .none]
    fun evaluator site subject arguments => do
      let separator := arguments.getD 0 .none
      let source ←
        match arguments.getD 1 .none with
        | .none => pure subject
        | path => do
          let path ← pathSteps path
          let source ← iterate subject
          pure (.object (← newStream (.mapped site source (.member path none))))
      if ← escaping site then
        if ← showsMarkup separator then
          let (isSafe, between) ← softText evaluator separator
          let members ← members? evaluator source
          let parts ← members.mapM fun member => do
            let (partIsSafe, part) ← softText evaluator member
            return if isSafe && !partIsSafe then escapeMarkup part else part
          return sameKind isSafe (Stencil.Text.joinWith between parts)
        else
          let members ← members? evaluator source
          let isSafe ← members.anyM showsMarkup
          let parts ← members.mapM fun member =>
            if isSafe then escapeValue evaluator member else showValue evaluator member
          let between ←
            if isSafe then escapeValue evaluator separator else showValue evaluator separator
          return sameKind isSafe (Stencil.Text.joinWith between parts)
      else
        let between ← showValue evaluator separator
        let parts ← (← members? evaluator source).mapM (showValue evaluator)
        return .text (Stencil.Text.joinWith between parts)

/-- The members of a value from the end on, where it has an order. -/
def backward? (evaluator : Evaluator) (value : Value) : Run (Option Stream) := do
  match value with
  | .text content => return some (.values (content.reverse.map fun point => .text [point]))
  | .markup content => return some (.values (content.reverse.map fun point => .markup [point]))
  | .list ref => return some (.listBackFrom ref (← items ref).length)
  | .bytes _ => return some (.values (← members? evaluator value).reverse)
  | .tuple items => return some (.values items.reverse)
  | .group key members => return some (.values [.list members, key])
  | .range _ _ _ => return some (.values (← members? evaluator value).reverse)
  | .dict _ => return some (.values (← members? evaluator value).reverse)
  | .view _ _ => return some (.values (← members? evaluator value).reverse)
  | .undefined missing =>
    if missing.strict then throw (.undefinedValue missing.message) else return some .finished
  | _ => return none

/-- A value from its end on. -/
def reverseFilter : FilterRule :=
  FilterRule.plain fun evaluator subject => do
    match subject with
    | .text content => return .text content.reverse
    | .markup content => return .markup content.reverse
    | subject =>
      match ← backward? evaluator subject with
      | some stream => return .object (← newStream stream)
      | none =>
        try
          newList (← members? evaluator subject).reverse
        catch fault =>
          if fault == .wrongType then throw (.filterArgument "argument must be iterable")
          else throw fault

/-- The first value of a stream, or a missing one that says so. -/
def firstOr (evaluator : Evaluator) (message : String) (stream : Nat) : Run Value := do
  match ← evaluator.next stream with
  | some value => return value
  | none => return missing message

def lastFilter : FilterRule :=
  FilterRule.plain fun evaluator subject => do
    match ← backward? evaluator subject with
    | some stream =>
      firstOr evaluator "No last item, sequence was empty." (← newStream stream)
    | none => wrongType

/-- The entries of a mapping in order of their keys or values. -/
def sortEntriesFilter : FilterRule :=
  FilterRule.withParameters
    [flag "case_sensitive" false, optional "by" (Value.ofString "key"), flag "reverse" false]
    fun evaluator site subject arguments => do
      let ordering := arguments.getD 1 .none
      let byKey ← equalValues ordering (Value.ofString "key")
      let byValue ← if byKey then pure false else equalValues ordering (Value.ofString "value")
      if !byKey && !byValue then
        throw (.filterArgument "You can only sort by either \"key\" or \"value\"")
      let pairs ←
        match subject with
        | .dict ref => do pure ((← entries ref).map fun (key, value) => .tuple [key, value])
        | subject => do
          let method ← requiredAttribute evaluator subject "items"
          members? evaluator (← evaluator.call site method Given.none)
      let reverse ← integerArgument (arguments.getD 2 .none)
      let keyed ← pairs.mapM fun pair => do
        let key ← itemOf pair (.int (if byKey then 0 else 1))
        let keepsCase ← truth evaluator (arguments.getD 0 .none)
        return (if keepsCase then key else withoutCase key, pair)
      newList ((← sortedBy Prod.fst (reverse != 0) keyed).map Prod.snd)

/-- The members of a value in ascending order. -/
def sortFilter : FilterRule :=
  FilterRule.withParameters
    [flag "reverse" false, flag "case_sensitive" false, optional "attribute" .none]
    fun evaluator _ subject arguments => do
      let keepsCase ← truth evaluator (arguments.getD 1 .none)
      let paths ← pathsOf (arguments.getD 2 .none)
      let members ← members? evaluator subject
      let reverse ← integerArgument (arguments.getD 0 .none)
      let keyed ← members.mapM fun member => do
        let keys ← paths.mapM fun path => comparedAt evaluator none keepsCase path member
        return (Value.tuple keys, member)
      newList ((← sortedBy Prod.fst (reverse != 0) keyed).map Prod.snd)

/-- The least or greatest member of a value. -/
def extremeFilter (isGreatest : Bool) : FilterRule :=
  FilterRule.withParameters [flag "case_sensitive" false, optional "attribute" .none]
    fun evaluator _ subject arguments => do
      let stream ← iterate subject
      match ← evaluator.next stream with
      | none => return missing "No aggregated item, sequence was empty."
      | some first =>
        let keepsCase ← truth evaluator (arguments.getD 0 .none)
        let path ← pathSteps (arguments.getD 1 .none)
        let key := comparedAt evaluator none keepsCase path
        let start : Value × Value × Bool := (first, ← key first, false)
        let best ← repeatFrom start fun (best, bestKey, isDone) => do
          if isDone then
            return none
          else
            match ← evaluator.next stream with
            | none => return some (best, bestKey, true)
            | some value =>
              let valueKey ← key value
              let comparison := if isGreatest then Comparison.greater else Comparison.less
              if ← compareValues evaluator comparison valueKey bestKey then
                return some (value, valueKey, false)
              else
                return some (best, bestKey, false)
        return best.1

/-- Put a value with its key into the group at hand, or begin another one with it. -/
def joinGroup (state : (Value × List Value) × List (Value × List Value)) (entry : Value × Value) :
    Run ((Value × List Value) × List (Value × List Value)) := do
  let ((known, members), groups) := state
  let (key, value) := entry
  if ← equalMembers known key then
    return ((known, value :: members), groups)
  else
    return ((key, [value]), (known, members) :: groups)

/-- Neighbours with equal keys, grouped. -/
def groupNeighbours : List (Value × Value) → Run (List (Value × List Value))
  | [] => return []
  | (key, value) :: rest => do
    let (current, groups) ← rest.foldlM joinGroup ((key, [value]), [])
    return (current :: groups).reverse.map fun (key, members) => (key, members.reverse)

/-- Members grouped by what a path leads to. -/
def groupFilter : FilterRule :=
  FilterRule.withParameters
    [required "attribute", optional "default" .none, flag "case_sensitive" false]
    fun evaluator _ subject arguments => do
      let default := defaultOf (arguments.getD 1 .none)
      let keepsCase ← truth evaluator (arguments.getD 2 .none)
      let path ← pathSteps (arguments.getD 0 .none)
      let members ← members? evaluator subject
      let keyed ← members.mapM fun member => do
        return (← comparedAt evaluator default keepsCase path member, member)
      let groups ← groupNeighbours (← sortedBy Prod.fst false keyed)
      let groups ← groups.mapM fun (key, members) => do
        let list ← newList members
        let key ←
          match members with
          | first :: _ => if keepsCase then pure key else follow evaluator default path first
          | [] => pure key
        match list with
        | .list ref => return Value.group key ref
        | other => return other
      newList groups

/-- The sum of the members of a value. -/
def sumFilter : FilterRule :=
  FilterRule.withParameters [optional "attribute" .none, optional "start" (.int 0)]
    fun evaluator site subject arguments => do
      let source ←
        match arguments.getD 0 .none with
        | .none => iterate subject
        | path => do
          let path ← pathSteps path
          let source ← iterate subject
          newStream (.mapped site source (.member path none))
      let start := arguments.getD 1 .none
      match start with
      | .text _ => wrongType
      | .markup _ => wrongType
      | .bytes _ => wrongType
      | start =>
        let sum ← repeatFrom (start, false) fun (sum, isDone) => do
          if isDone then
            return none
          else
            match ← evaluator.next source with
            | none => return some (sum, true)
            | some value => return some (← compute .add sum value, false)
        return sum.1

/-- A stream over a value that is only looked at when it is read. -/
def pendingStream (site : Site) (subject : Value) (pending : Pending) : Run Value := do
  return .object (← newStream (.pending site subject pending))

/-- A filter that chooses members. -/
def choosingFilter (byMember keepsWhen : Bool) : FilterRule := fun _ site subject given =>
  pendingStream site subject (.choosing byMember keepsWhen given.positional given.named)

/-- The attribute of a value, without looking at its items. -/
def attributeFilter : FilterRule :=
  FilterRule.withParameters [required "name"] fun evaluator _ subject arguments => do
    let name := arguments.getD 0 .none
    match name with
    | .undefined missing => throw (.undefinedValue missing.message)
    | name =>
      let content ← textArgument name
      match ← attribute? evaluator subject content.string with
      | some value => return value
      | none => missingMember subject name

/-- A value, or a default where it is missing. -/
def defaultFilter : FilterRule :=
  FilterRule.withParameters
    [optional "default_value" (Value.ofString ""), flag "boolean" false]
    fun evaluator _ subject arguments => do
      match subject with
      | .undefined _ => return arguments.getD 0 .none
      | subject =>
        if ← truth evaluator (arguments.getD 1 .none) then
          if ← truth evaluator subject then return subject else return arguments.getD 0 .none
        else
          return subject

/-- A member of a sequence; which one of several is up to chance. -/
def randomFilter : FilterRule := fun evaluator _ subject given => do
  noArguments given
  match ← lengthOf evaluator subject with
  | 0 => return missing "No random item, sequence was empty."
  | 1 => itemOf subject (.int 0)
  | _ => evaluator.ask .none ["random", "choice"] ⟨[subject], []⟩

def lengthFilter : FilterRule := fun evaluator _ subject given => do
  noArguments given
  return .int (← lengthOf evaluator subject)

/-- The filters on sequences and on values of any type. -/
def sequenceFilters : List (String × FilterRule) :=
  [("attr", attributeFilter),
    ("batch", FilterRule.withParameters [required "linecount", optional "fill_with" .none]
      fun _ site subject arguments =>
        pendingStream site subject (.batches (arguments.getD 0 .none) (arguments.getD 1 .none))),
    ("count", lengthFilter),
    ("d", defaultFilter),
    ("default", defaultFilter),
    ("dictsort", sortEntriesFilter),
    ("first", FilterRule.plain fun evaluator subject => do
      firstOr evaluator "No first item, sequence was empty." (← iterate subject)),
    ("groupby", groupFilter),
    ("items", FilterRule.withParameters [] fun _ site subject _ =>
      pendingStream site subject .items),
    ("join", joinFilter),
    ("last", lastFilter),
    ("length", lengthFilter),
    ("list", FilterRule.plain fun evaluator subject => do
      newList (← members? evaluator subject)),
    ("map", fun _ site subject given =>
      pendingStream site subject (.mapping given.positional given.named)),
    ("max", extremeFilter true),
    ("min", extremeFilter false),
    ("random", randomFilter),
    ("reject", choosingFilter false false),
    ("rejectattr", choosingFilter true false),
    ("reverse", reverseFilter),
    ("select", choosingFilter false true),
    ("selectattr", choosingFilter true true),
    ("slice", FilterRule.withParameters [required "slices", optional "fill_with" .none]
      fun _ site subject arguments =>
        pendingStream site subject (.slices (arguments.getD 0 .none) (arguments.getD 1 .none))),
    ("sort", sortFilter),
    ("sum", sumFilter),
    ("unique", FilterRule.withParameters [flag "case_sensitive" false, optional "attribute" .none]
      fun _ site subject arguments =>
        pendingStream site subject (.unique (arguments.getD 0 .none) (arguments.getD 1 .none)))]

end Stencil.Template
