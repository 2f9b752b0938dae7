import Stencil.Files.Tree
import Stencil.Template.Program
import Stencil.Value.Display
import Stencil.Value.Order

/-!
# The state of running templates

Running a template changes one machine: the shared containers, the objects templates
create, the slots of entered scopes, the contexts names are looked up in, the loaded
templates, and the output written so far.  A fault leaves the machine as it was when
the fault happened.
-/

namespace Stencil.Template

/-- The values of slots; inner routines see those of the activation around them. -/
structure Activation where
  values : List (Slot × Option Value) := []
  outer : Option Nat := none
  /-- The template that the running one extends. -/
  extended : Option Nat := none
deriving Inhabited

/-- A block of a loaded template. -/
structure BlockReference where
  template : Nat
  name : String
deriving DecidableEq, Inhabited

/-- Where names are looked up and exported to. -/
structure Context where
  template : Nat
  given : List (String × Value)
  assigned : List (String × Value) := []
  exported : List String := []
  blocks : List (String × List BlockReference) := []
  /-- The place of the flag that says whether output is escaped. -/
  escaping : Nat
deriving Inhabited

/-- Where code runs. -/
structure Site where
  template : Nat
  context : Nat
  activation : Nat
  /-- What is known ahead about escaping. -/
  mode : EscapeMode := .never
  /-- Constant parts are computed apart from any context. -/
  constant : Option EscapeState := none
  /-- How many captures were open when the running code was entered. -/
  depth : Nat := 0
  /-- The text that a block has captured for its filter. -/
  captured : Text := []

instance : Inhabited Site := ⟨⟨0, 0, 0, .never, none, 0, []⟩⟩

/-- A routine with the place it was defined at. -/
structure Routine where
  signature : Signature
  body : List Step
  site : Site
  escaping : Bool
deriving Inhabited

/-- A recursive loop with the place it was entered at. -/
structure Recursion where
  target : Target Slot
  condition : Option LoopCondition
  state : Option Slot
  entry : Entry
  body : List Step
  otherwise : Option (Entry × List Step)
  site : Site

/-- What a stream of values does to the members of another one. -/
inductive Mapping
  | filter (name : Value) (arguments : List Value) (named : List (String × Value))
  | member (path : List Value) (default : Option Value)

/-- How a stream chooses members of another one. -/
structure Choosing where
  path : List Value
  keepsWhen : Bool
  test : Option Value
  arguments : List Value
  named : List (String × Value)

/-- A stream that has not started: its parts are only checked when it does. -/
inductive Pending
  | mapping (arguments : List Value) (named : List (String × Value))
  | choosing
      (byMember keepsWhen : Bool)
      (arguments : List Value)
      (named : List (String × Value))
  | unique (caseSensitive attribute_ : Value)
  | batches (size : Value) (fill : Value)
  | slices (count : Value) (fill : Value)
  | items
  | conditioned (target : Target Slot) (condition : LoopCondition)

/-- A source of values that is used up as it is read. -/
inductive Stream
  | finished
  | values (rest : List Value)
  | listFrom (ref : Ref) (index : Nat)
  | listBackFrom (ref : Ref) (count : Nat)
  | entriesFrom (kind : ViewKind) (ref : Ref) (index : Nat) (size : Nat)
  | membersFrom (ref : Ref) (index : Nat) (size : Nat)
  | loopItems (place : Nat)
  | pending (site : Site) (source : Value) (pending : Pending)
  | mapped (site : Site) (source : Nat) (mapping : Mapping)
  | chosen (site : Site) (source : Nat) (choosing : Choosing)
  | distinct (source : Nat) (path : List Value) (keepsCase : Bool) (seen : List Value)
  | batched (source : Nat) (size : Value) (fill : Value) (collected : List Value)
  | conditioned (source : Nat) (target : Target Slot) (condition : LoopCondition) (site : Site)
deriving Inhabited

/-- The state of a loop. -/
structure LoopState where
  items : Value
  stream : Nat
  depth : Nat
  recursion : Option Nat
  length : Option Int := none
  index : Int := -1
  before : Option Value := none
  now : Option Value := none
  after : Option Value := none
  lastChanged : Option (List Value) := none
deriving Inhabited

/-- An object of running templates. -/
inductive Object
  | routine (routine : Routine)
  | recursion (recursion : Recursion)
  | loop (state : LoopState)
  | attributes (entries : List (Text × Value))
  | cycler (items : List Value) (position : Nat)
  | joiner (separator : Value) (used : Bool)
  | module_ (name : String) (output : Text) (exports : List (String × Value))
  | selfReference (context : Nat)
  | blockReference (name : String) (context : Nat) (stack : List BlockReference) (depth : Nat)
  | stream (stream : Stream)
  /-- Something outside of templates: the value that led to it, and the names on the way. -/
  | foreign (origin : Value) (names : List String)
deriving Inhabited

/-- A template that has been loaded, the age of its file, and its module once it is used. -/
structure LoadedTemplate where
  program : Program
  stamp : Int
  defaultModule : Option Nat := none
deriving Inhabited

/-- A written piece; what is no text can only be refused later. -/
abbrev Chunk := Option Text

/-- Everything that running templates change. -/
structure Machine where
  heap : Heap := {}
  objects : Array Object := #[]
  activations : Array Activation := #[]
  contexts : Array Context := #[]
  escapes : Array Bool := #[]
  templates : Array LoadedTemplate := #[]
  /-- The loaded templates by the number of their engine and their name. -/
  loaded : List ((Nat × String) × Nat) := []
  /-- How many engines have been set up. -/
  engines : Nat := 0
  /-- Captured output, innermost capture first, each with its latest piece first. -/
  captures : List (List Chunk) := []
  /-- Written output, latest piece first. -/
  written : List Text := []
  /-- Whether written output must have a stored form. -/
  storesOutput : Bool := false
  /-- The files that templates reach, while there is somebody who answers them. -/
  files : Files.Tree := {}
deriving Inhabited

/-- A computation on the machine. -/
abbrev Run := EStateM Fault Machine

namespace Run

/-- A computation on the heap. -/
def onHeap {α : Type} (compute : Heap → Except Fault α) : Run α := do
  match compute (← get).heap with
  | .ok result => return result
  | .error fault => throw fault

/-- A computation without state. -/
def lift {α : Type} : Except Fault α → Run α
  | .ok result => pure result
  | .error fault => throw fault

def wrongType {α : Type} : Run α := throw .wrongType

def wrongValue {α : Type} : Run α := throw .wrongValue

/-- A new list. -/
def newList (items : List Value) : Run Value := do
  let machine ← get
  let (ref, heap) := machine.heap.allocate (.list items)
  set { machine with heap }
  return .list ref

/-- A new mapping. -/
def newDict (entries : List (Value × Value)) : Run Value := do
  let machine ← get
  let (ref, heap) := machine.heap.allocate (.dict entries)
  set { machine with heap }
  return .dict ref

/-- A new set. -/
def newSet (members : List Value) : Run Value := do
  let machine ← get
  let (ref, heap) := machine.heap.allocate (.set members)
  set { machine with heap }
  return .set ref

/-- A new mapping of entries that are put one after the other. -/
def buildDict (entries : List (Value × Value)) : Run Value := do
  newDict (← onHeap fun heap => heap.insertAll [] entries)

def changeCell (ref : Ref) (cell : Cell) : Run Unit :=
  modify fun machine => { machine with heap := machine.heap.set ref cell }

def items (ref : Ref) : Run (List Value) := do
  return (← get).heap.items ref

def entries (ref : Ref) : Run (List (Value × Value)) := do
  return (← get).heap.entries ref

def members (ref : Ref) : Run (List Value) := do
  return (← get).heap.members ref

/-- A new object. -/
def newObject (object : Object) : Run Nat := do
  let machine ← get
  set { machine with objects := machine.objects.push object }
  return machine.objects.size

def object (place : Nat) : Run Object := do
  return (← get).objects.getD place default

def changeObject (place : Nat) (object : Object) : Run Unit :=
  modify fun machine => { machine with objects := machine.objects.setIfInBounds place object }

/-- A new stream of values. -/
def newStream (stream : Stream) : Run Nat :=
  newObject (.stream stream)

/-- A strict missing value. -/
def missing (message : String) : Value :=
  .undefined ⟨true, message⟩

/-- A new activation. -/
def newActivation (outer : Option Nat) : Run Nat := do
  let machine ← get
  set { machine with activations := machine.activations.push { outer } }
  return machine.activations.size

def activation (place : Nat) : Run Activation := do
  return (← get).activations.getD place default

def changeActivation (place : Nat) (change : Activation → Activation) : Run Unit :=
  modify fun machine =>
    { machine with activations := machine.activations.modify place change }

/-- The value of a slot, looked for from an activation outward. -/
def slotFrom (activations : Array Activation) (slot : Slot) :
    (fuel : Nat) → Nat → Option Value
  | 0, _ => none
  | fuel + 1, place =>
    match activations[place]? with
    | none => none
    | some activation =>
      match activation.values.lookup slot with
      | some value => value
      | none =>
        match activation.outer with
        | some outer => slotFrom activations slot fuel outer
        | none => none

/-- The value of a slot where code runs. -/
def slot? (site : Site) (slot : Slot) : Run (Option Value) := do
  let activations := (← get).activations
  return slotFrom activations slot (activations.size + 1) site.activation

/-- Set a slot of the running activation. -/
def setSlot (site : Site) (slot : Slot) (value : Option Value) : Run Unit :=
  changeActivation site.activation fun activation =>
    { activation with values := Level.put slot value activation.values }

/-- The activation of the template that runs, found from an inner one. -/
def outermostFrom (activations : Array Activation) : (fuel : Nat) → Nat → Nat
  | 0, place => place
  | fuel + 1, place =>
    match activations[place]? with
    | some activation =>
      match activation.outer with
      | some outer => outermostFrom activations fuel outer
      | none => place
    | none => place

def outermost (site : Site) : Run Nat := do
  let activations := (← get).activations
  return outermostFrom activations (activations.size + 1) site.activation

def context (place : Nat) : Run Context := do
  return (← get).contexts.getD place default

def changeContext (place : Nat) (change : Context → Context) : Run Unit :=
  modify fun machine => { machine with contexts := machine.contexts.modify place change }

def newContext (context : Context) : Run Nat := do
  let machine ← get
  set { machine with contexts := machine.contexts.push context }
  return machine.contexts.size

def newEscaping (escaping : Bool) : Run Nat := do
  let machine ← get
  set { machine with escapes := machine.escapes.push escaping }
  return machine.escapes.size

/-- Whether output is escaped where code runs. -/
def escaping (site : Site) : Run Bool := do
  match site.constant with
  | some state => return state.escaping
  | none =>
    let machine ← get
    let context := machine.contexts.getD site.context default
    return machine.escapes.getD context.escaping false

def setEscaping (site : Site) (escaping : Bool) : Run Unit := do
  let context ← context site.context
  modify fun machine =>
    { machine with escapes := machine.escapes.setIfInBounds context.escaping escaping }

/-- The value of a name in a context. -/
def resolve? (context : Context) (name : String) : Option Value :=
  (context.assigned.lookup name).orElse fun _ => context.given.lookup name

/-- All names of a context. -/
def visibleNames (context : Context) : List (String × Value) :=
  context.assigned.foldl (fun names (name, value) => Level.put name value names) context.given

/-- A loaded template. -/
def template (place : Nat) : Run LoadedTemplate := do
  return (← get).templates.getD place default

/-- Write a piece of output. -/
def emit (chunk : Chunk) : Run Unit := do
  let machine ← get
  match machine.captures with
  | capture :: captures => set { machine with captures := (chunk :: capture) :: captures }
  | [] =>
    match chunk with
    | none => wrongType
    | some text =>
      if machine.storesOutput && (Text.chars? text).isNone then
        throw .unencodable
      else
        set { machine with written := text :: machine.written }

/-- Write a piece of output past the captures that running code has opened. -/
def emitAt (depth : Nat) (chunk : Chunk) : Run Unit := do
  let captures := (← get).captures
  let opened := captures.length - depth
  modify fun machine => { machine with captures := captures.drop opened }
  emit chunk
  modify fun machine => { machine with captures := captures.take opened ++ machine.captures }

/-- Run, and give back the open captures of before where a fault is met. -/
def orElse {α : Type} (run : Run α) (handle : Fault → Run α) : Run α := do
  let count := (← get).captures.length
  try
    run
  catch fault =>
    modify fun machine =>
      { machine with captures := machine.captures.drop (machine.captures.length - count) }
    handle fault

/-- Join captured pieces. -/
def joinChunks (chunks : List Chunk) : Except Fault Text :=
  match chunks.reverse.mapM id with
  | some texts => .ok texts.flatten
  | none => .error .wrongType

/-- Run with captured output. -/
def capture (run : Run Unit) : Run Text := do
  modify fun machine => { machine with captures := [] :: machine.captures }
  run
  let machine ← get
  let (chunks, captures) :=
    match machine.captures with
    | chunks :: captures => (chunks, captures)
    | [] => ([], [])
  set { machine with captures }
  lift (joinChunks chunks)

/-- Repeat a step from a state until it gives no further one. -/
def advance {σ : Type} (step : σ → Run (Option σ)) : (fuel : Nat) → σ → Run σ
  | 0, _ => throw .tooDeep
  | fuel + 1, state => do
    match ← step state with
    | some next => advance step fuel next
    | none => return state

/-- More steps than a repetition can take: nobody could wait for its end. -/
def stepLimit : Nat := 4611686018427387904

/-- Repeat a step from a state until it gives no further one. -/
def repeatFrom {σ : Type} (start : σ) (step : σ → Run (Option σ)) : Run σ :=
  advance step stepLimit start

end Run

end Stencil.Template
