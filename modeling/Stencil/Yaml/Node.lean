import Stencil.Yaml.Event
import Stencil.Yaml.Timestamp

/-!
# Nodes of YAML documents

A document is a graph of nodes: a reference leads to the node that carries its anchor,
which may still be open.  A stream holds at most one document.
-/

namespace Stencil.Yaml

inductive NodeContent
  | scalar (content : Text)
  | sequence (items : List Nat)
  | mapping (pairs : List (Nat × Nat))

structure Node where
  tag : Tag
  content : NodeContent

/-- Nodes by number, and the number of the one that holds all others. -/
structure Document where
  nodes : Array Node
  root : Nat

/-- A list or a mapping that is still open. -/
inductive OpenNode
  | sequence (place : Nat) (items : List Nat)
  | mapping (place : Nat) (pairs : List (Nat × Nat)) (key : Option Nat)

/-- A document that is still being put together. -/
structure Composition where
  nodes : Array Node := #[]
  anchors : List (String × Nat) := []
  openNodes : List OpenNode := []
  root : Option Nat := none

namespace Composition

/-- Put a node where the next one belongs. -/
def attach (composition : Composition) (place : Nat) : Composition :=
  match composition.openNodes with
  | [] => { composition with root := some place }
  | .sequence parent items :: rest =>
    { composition with openNodes := .sequence parent (place :: items) :: rest }
  | .mapping parent pairs none :: rest =>
    { composition with openNodes := .mapping parent pairs (some place) :: rest }
  | .mapping parent pairs (some key) :: rest =>
    { composition with openNodes := .mapping parent ((key, place) :: pairs) none :: rest }

/-- A node of its own number, known by its anchor. -/
def add (composition : Composition) (anchor : Option String) (node : Node) :
    Except Fault (Nat × Composition) :=
  let place := composition.nodes.size
  let nodes := composition.nodes.push node
  match anchor with
  | none => .ok (place, { composition with nodes })
  | some name =>
    if (composition.anchors.lookup name).isSome then .error (.document .references)
    else .ok (place, { composition with nodes, anchors := (name, place) :: composition.anchors })

/-- Give an open node its content. -/
def close (composition : Composition) : Composition :=
  match composition.openNodes with
  | [] => composition
  | node :: openNodes =>
    let (place, content) :=
      match node with
      | .sequence place items => (place, NodeContent.sequence items.reverse)
      | .mapping place pairs _ => (place, NodeContent.mapping pairs.reverse)
    { composition with
      openNodes
      nodes := composition.nodes.modify place fun node => { node with content } }.attach place

/-- Take up events until the stream ends. -/
def takeUp : Composition → Option Fault → List Event → Except Fault Composition
  | _, fault, [] => .error (fault.getD (.document .structure_))
  | composition, fault, event :: events =>
    match event with
    | .streamStart => takeUp composition fault events
    | .streamEnd => .ok composition
    | .documentStart =>
      if composition.root.isSome then .error (.document .references)
      else takeUp composition fault events
    | .documentEnd => takeUp { composition with anchors := [] } fault events
    | .alias name =>
      match composition.anchors.lookup name with
      | some place => takeUp (composition.attach place) fault events
      | none => .error (.document .references)
    | .scalar properties content => do
      let tag := properties.tag.getD (Tag.ofPlain content)
      let (place, composition) ← composition.add properties.anchor ⟨tag, .scalar content⟩
      takeUp (composition.attach place) fault events
    | .sequenceStart properties => do
      let tag := properties.tag.getD .list
      let (place, composition) ← composition.add properties.anchor ⟨tag, .sequence []⟩
      takeUp { composition with openNodes := .sequence place [] :: composition.openNodes } fault
        events
    | .mappingStart properties => do
      let tag := properties.tag.getD .table
      let (place, composition) ← composition.add properties.anchor ⟨tag, .mapping []⟩
      takeUp { composition with openNodes := .mapping place [] none :: composition.openNodes }
        fault events
    | .sequenceEnd => takeUp composition.close fault events
    | .mappingEnd => takeUp composition.close fault events

end Composition

/-- The document that events tell of, if there is one. -/
def Document.ofEvents (events : Events) : Except Fault (Option Document) := do
  let composition ← Composition.takeUp {} events.fault events.items
  return composition.root.map fun root => ⟨composition.nodes, root⟩

end Stencil.Yaml
