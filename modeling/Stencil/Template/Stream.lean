import Stencil.Template.Assign
import Stencil.Template.Lookup
import Stencil.Template.Resolve

/-!
# Streams of values

Streams are read one value at a time and only once.  What a stream works on is not
looked at before its first value is wanted.
-/

namespace Stencil.Template

open Run

/-- A filter or test whose name is a value. -/
def knownName (kind : String) (known : List String) (name : Value) : Run String := do
  lift (Value.checkKey name)
  let shown ← literalText name
  match name.text? with
  | some content =>
    if known.contains content.string then return content.string
    else throw (.template ("No " ++ kind ++ " named " ++ shown.string ++ "."))
  | none => throw (.template ("No " ++ kind ++ " named " ++ shown.string ++ "."))

section WithEvaluator

variable (evaluator : Evaluator)

/-- What a stream that maps does to each value. -/
def prepareMapping (arguments : List Value) (named : List (String × Value)) : Run Mapping := do
  match arguments, named.lookup "attribute" with
  | [], some path =>
    let rest := named.filter fun entry => entry.1 != "attribute" && entry.1 != "default"
    match rest with
    | (name, _) :: _ =>
      throw (.filterArgument ("Unexpected keyword argument " ++ Stencil.Text.quote name))
    | [] =>
      let default := (named.lookup "default").bind defaultOf
      return .member (← pathSteps path) default
  | name :: arguments, _ => return .filter name arguments named
  | [], none => throw (.filterArgument "map requires a filter argument")

/-- How a stream that chooses tests each value. -/
def prepareChoosing
    (byMember keepsWhen : Bool)
    (arguments : List Value)
    (named : List (String × Value)) : Run Choosing := do
  let (path, arguments) ←
    if byMember then
      match arguments with
      | path :: arguments => do pure (← pathSteps path, arguments)
      | [] => throw (.filterArgument "Missing parameter for attribute name")
    else
      pure ([], arguments)
  match arguments with
  | test :: arguments => return ⟨path, keepsWhen, some test, arguments, named⟩
  | [] => return ⟨path, keepsWhen, none, [], named⟩

/-- The members of a list dealt out to a number of lists. -/
def dealt (items : List Value) (size extra : Nat) (fill : Option Value) :
    (count index offset : Nat) → List (List Value)
  | 0, _, _ => []
  | count + 1, index, offset =>
    let start := offset + index * size
    let offset := if index < extra then offset + 1 else offset
    let stop := offset + (index + 1) * size
    let part := (items.take stop).drop start
    let part :=
      match fill with
      | some fill => if extra ≤ index then part ++ [fill] else part
      | none => part
    part :: dealt items size extra fill count (index + 1) offset

/-- The lists that a value is dealt out to. -/
def slicesOf (source count fill : Value) : Run Stream := do
  let items ← members? evaluator source
  let size ← compute .floorDivide (.int items.length) count
  let extra ← compute .modulo (.int items.length) count
  match size, extra with
  | .int size, .int extra =>
    let parts := dealt items size.toNat extra.toNat (defaultOf fill)
      ((integer? count).getD 0).toNat 0 0
    return .values (← parts.mapM newList)
  | _, _ => wrongType

/-- What a stream is once its parts have been checked. -/
def startStream (site : Site) (source : Value) : Pending → Run Stream
  | .mapping arguments named => do
    if ← truth evaluator source then
      let mapping ← prepareMapping arguments named
      return .mapped site (← iterate source) mapping
    else
      return .finished
  | .choosing byMember keepsWhen arguments named => do
    if ← truth evaluator source then
      let choosing ← prepareChoosing byMember keepsWhen arguments named
      return .chosen site (← iterate source) choosing
    else
      return .finished
  | .unique caseSensitive path => do
    let keepsCase ← truth evaluator caseSensitive
    let path ← pathSteps path
    return .distinct (← iterate source) path keepsCase []
  | .batches size fill => do return .batched (← iterate source) size fill []
  | .slices count fill => slicesOf evaluator source count fill
  | .items => do
    match source with
    | .undefined _ => return .finished
    | .dict ref => return .entriesFrom .items ref 0 (← entries ref).length
    | _ => wrongType
  | .conditioned target condition => do
    let activation ← newActivation (some site.activation)
    let site := { site with activation }
    enterScope site condition.entry
    return .conditioned (← iterate source) target condition site

/-- Read a source until a value is accepted. -/
def seek (source : Nat) (accept : Value → Run Bool) : Run (Option Value) := do
  let found ← repeatFrom (none, false) fun (_, isDone) => do
    if isDone then
      return none
    else
      match ← evaluator.next source with
      | none => return none
      | some value =>
        if ← accept value then return some (some value, true)
        else return some (none, false)
  return found.1

/-- A value as a stream maps it. -/
def mapValue (site : Site) (mapping : Mapping) (value : Value) : Run Value := do
  match mapping with
  | .filter name arguments named =>
    let name ← knownName "filter" filterNames name
    evaluator.filter site name value ⟨arguments, named⟩
  | .member path default => follow evaluator default path value

/-- Whether a stream chooses a value. -/
def isChosen (site : Site) (choosing : Choosing) (value : Value) : Run Bool := do
  let value ← follow evaluator none choosing.path value
  let answer ←
    match choosing.test with
    | some name => do
      let name ← knownName "test" testNames name
      evaluator.test site name value ⟨choosing.arguments, choosing.named⟩
    | none => truth evaluator value
  return answer == choosing.keepsWhen

/-- A batch filled up to its size. -/
def filledBatch (size fill : Value) (collected : List Value) : Run Value := do
  let length : Value := .int collected.length
  match defaultOf fill with
  | none => newList collected
  | some fill =>
    if ← compareValues evaluator .less length size then
      match integer? (← compute .subtract size length) with
      | some missing => newList (collected ++ List.replicate missing.toNat fill)
      | none => wrongType
    else
      newList collected

/-- The next batch of a source, with the start of the one after it. -/
def nextBatch (source : Nat) (size fill : Value) (collected : List Value) :
    Run (Option Value × Option (List Value)) := do
  let (collected, following) ← repeatFrom (collected, (none : Option (Option Value)))
    fun (collected, following) => do
      match following with
      | some _ => return none
      | none =>
        match ← evaluator.next source with
        | none => return some (collected, some none)
        | some value =>
          if ← equalValues (.int collected.length) size then
            return some (collected, some (some value))
          else
            return some (collected ++ [value], none)
  match following with
  | some (some value) => return (some (← newList collected), some [value])
  | _ =>
    if collected.isEmpty then return (none, none)
    else return (some (← filledBatch evaluator size fill collected), none)

/-- The entry of a mapping as a view shows it. -/
def shownEntry (kind : ViewKind) (entry : Value × Value) : Value :=
  match kind with
  | .keys => entry.1
  | .values => entry.2
  | .items => .tuple [entry.1, entry.2]

/-- The next value of a loop, which becomes the current one. -/
def nextOfLoop (place : Nat) : Run (Option Value) := do
  match ← object place with
  | .loop state =>
    let following ←
      match state.after with
      | some value => pure (some value)
      | none => evaluator.next state.stream
    match following with
    | none => return none
    | some value =>
      match ← object place with
      | .loop state =>
        changeObject place <| .loop
          { state with
            after := none
            index := state.index + 1
            before := state.now
            now := some value }
        return some value
      | _ => return none
  | _ => return none

/-- The next value of a stream. -/
def nextOf (place : Nat) : Run (Option Value) := do
  let change := fun (stream : Stream) => changeObject place (.stream stream)
  let finish : Run (Option Value) := do
    change .finished
    return none
  match ← object place with
  | .stream stream =>
    match stream with
    | .finished => return none
    | .values [] => finish
    | .values (value :: rest) =>
      change (.values rest)
      return some value
    | .listFrom ref index =>
      match (← items ref)[index]? with
      | some value =>
        change (.listFrom ref (index + 1))
        return some value
      | none => finish
    | .listBackFrom ref count =>
      match count with
      | 0 => finish
      | count + 1 =>
        match (← items ref)[count]? with
        | some value =>
          change (.listBackFrom ref count)
          return some value
        | none => finish
    | .entriesFrom kind ref index size =>
      let entries ← entries ref
      if entries.length != size then
        throw .changedMeanwhile
      match entries[index]? with
      | some entry =>
        change (.entriesFrom kind ref (index + 1) size)
        return some (shownEntry kind entry)
      | none => finish
    | .membersFrom ref index size =>
      let members ← Run.members ref
      if members.length != size then
        throw .changedMeanwhile
      match members[index]? with
      | some member =>
        change (.membersFrom ref (index + 1) size)
        return some member
      | none => finish
    | .loopItems loop =>
      match ← nextOfLoop evaluator loop with
      | some value => return some (.tuple [value, .object loop])
      | none => return none
    | .pending site source pending =>
      let started ← startStream evaluator site source pending
      change started
      evaluator.next place
    | .mapped site source mapping =>
      match ← evaluator.next source with
      | some value => return some (← mapValue evaluator site mapping value)
      | none => finish
    | .chosen site source choosing =>
      match ← seek evaluator source (isChosen evaluator site choosing) with
      | some value => return some value
      | none => finish
    | .distinct source path keepsCase seen =>
      let found ← repeatFrom ((none : Option (Value × Value)), false) fun (_, isDone) => do
        if isDone then
          return none
        else
          match ← evaluator.next source with
          | none => return some (none, true)
          | some value =>
            let key ← comparedAt evaluator none keepsCase path value
            lift (Value.checkKey key)
            if ← onHeap fun heap => Value.anyEqual (Value.equalMember heap) key seen then
              return some (none, false)
            else
              return some (some (value, key), true)
      match found.1 with
      | some (value, key) =>
        change (.distinct source path keepsCase (key :: seen))
        return some value
      | none => finish
    | .batched source size fill collected =>
      match ← nextBatch evaluator source size fill collected with
      | (batch, some collected) =>
        change (.batched source size fill collected)
        return batch
      | (batch, none) =>
        change .finished
        return batch
    | .conditioned source target condition site =>
      let found ← seek evaluator source fun value => do
        assignTarget evaluator site target value
        truth evaluator (← evaluator.value site condition.code)
      match found with
      | some _ => return some (← targetValue site target)
      | none => finish
  | _ => return none

end WithEvaluator

end Stencil.Template
