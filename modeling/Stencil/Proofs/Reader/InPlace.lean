import Stencil.Proofs.Reader.Model

/-!
# Reading documents in place

A draft is worked on in place: where a reader stops, all that it has added by then stays in
the draft.  So here the draft is part of the state, and the reader of YAML files is followed
up to the point where it fails.  It names a data file as uninterpretable if the file cannot
be read, is no document or holds no mapping.  Bytes that are no text, nodes without a value
and keys that cannot be shown are not foreseen, and the last of these come up when entries
have been added already.
-/

namespace Stencil

open Outcome

/-- A part of a run that works on a draft in place. -/
abbrev Drafting := EStateM Failure (Draft × World)

namespace Drafting

/-! ## The reader in place -/

/-- A part of a run that leaves the draft alone. -/
def beside {α : Type} (act : Act α) : Drafting α := fun (draft, world) =>
  match act world with
  | .ok result after => .ok result (draft, after)
  | .error failure after => .error failure (draft, after)

/-- A part of a run that gives another draft. -/
def change (act : Draft → Act Draft) : Drafting Unit := fun (draft, world) =>
  match act draft world with
  | .ok later after => .ok ⟨⟩ (later, after)
  | .error failure after => .error failure (draft, after)

/-- Put a value under a key of the data model. -/
def add (key value : Value) : Drafting Unit := do
  change Draft.withModel
  let (draft, _) ← get
  beside (Act.onMachine (Draft.putEntry draft.model key value))

/-- Add entries whose keys are shown plainly. -/
def addEntries : List (Value × Value) → Drafting Unit
  | [] => return ()
  | (key, value) :: rest => do
    let heap ← beside Act.heap
    let name ← beside (Act.lift (Failure.ofFault (Value.plain heap .none key)))
    add (.text name) value
    addEntries rest

/-- Add the entries of a YAML file. -/
def document (path : Path) : Drafting Unit := do
  let entries ← beside (Reader.documentEntries path)
  add Reader.entityKey (Value.ofString path.stem)
  addEntries entries
  beside (Act.detail ("Loaded " ++ toString entries.length ++ " key(s) from " ++ path.text))

/-- The outcome for those who only have the draft if nothing fails. -/
def forget : EStateM.Result Failure (Draft × World) Unit → EStateM.Result Failure World Draft
  | .ok _ (draft, world) => .ok draft world
  | .error failure (_, world) => .error failure world

/-- What happens to a draft in place is what happens to it elsewhere. -/
def Follows (inPlace : Drafting Unit) (act : Draft → Act Draft) : Prop :=
  ∀ draft world, act draft world = forget (inPlace (draft, world))

namespace Follows

variable {α : Type} {first second : Drafting Unit} {act more : Draft → Act Draft}

theorem pure : Follows (Pure.pure ()) fun draft => Pure.pure draft :=
  fun _ _ => rfl

theorem change (act : Draft → Act Draft) : Follows (change act) act := by
  intro draft world
  cases ended : act draft world <;> simp only [Drafting.change, ended, forget]

theorem bind (here : Follows first act) (there : Follows second more) :
    Follows (do first; second) fun draft => act draft >>= more := by
  intro draft world
  have same := here draft world
  show (act draft >>= more) world = _
  cases ended : first (draft, world) with
  | ok _ state =>
    rcases state with ⟨later, after⟩
    rw [ended] at same
    rw [bind_apply_of_ok ended, bind_apply_of_ok same]
    exact there later after
  | error failure state =>
    rw [ended] at same
    rw [bind_apply_of_error ended, bind_apply_of_error same]
    rfl

theorem beside {act : Act α} {next : α → Drafting Unit} {more : α → Draft → Act Draft}
    (each : ∀ result, Follows (next result) (more result)) :
    Follows (Drafting.beside act >>= next) fun draft =>
      act >>= fun result => more result draft := by
  intro draft world
  show (act >>= fun result => more result draft) world = _
  cases ended : act world with
  | ok result after =>
    have same : Drafting.beside act (draft, world) = .ok result (draft, after) := by
      simp only [Drafting.beside, ended]
    rw [bind_apply_of_ok same, bind_apply_of_ok ended]
    exact each result draft after
  | error failure after =>
    have same : Drafting.beside act (draft, world) = .error failure (draft, after) := by
      simp only [Drafting.beside, ended]
    rw [bind_apply_of_error same, bind_apply_of_error ended]
    rfl

end Follows

/-- Put a value under a text. -/
def putText (name : Text) (value : Value) : List (Value × Value) → List (Value × Value)
  | [] => [(.text name, value)]
  | (known, old) :: rest =>
    if known.text? = some name then (known, value) :: rest
    else (known, old) :: putText name value rest

/-- Put values under texts, one after the other. -/
def putTexts (known : List (Value × Value)) (named : List (Text × Value)) :
    List (Value × Value) :=
  named.foldl (fun known entry => putText entry.1 entry.2 known) known

/-- A text can be compared with all values that cannot change. -/
private theorem equalMember_text {heap : Heap} {key : Value} (isKey : Value.checkKey key = .ok ())
    (name : Text) :
    Value.equalMember heap key (.text name) = .ok (decide (key.text? = some name)) := by
  cases key with
  | text content => simp [Heap.equalMember_text, Value.text?, beq_eq_decide]
  | markup content =>
    show Except.ok (content == name) = _
    simp [Value.text?, beq_eq_decide]
  | undefined missing =>
    rcases missing with ⟨strict, content⟩
    cases strict
    · rfl
    · cases isKey
  | view kind ref => cases isKey
  | _ => rfl

/--
What has become of a draft and its world: the draft has these entries, and all of its parts
but the data model are as they were, and so are the files.
-/
structure Reached (before : Draft × World) (entries : List (Value × Value))
    (state : Draft × World) : Prop where
  has : state.1.Has state.2.machine.heap entries
  parts : state.1 = { before.1 with model := state.1.model }
  files : state.2.files = before.2.files

theorem Reached.trans {before middle state : Draft × World} {entries more : List (Value × Value)}
    (first : Reached before entries middle) (second : Reached middle more state) :
    Reached before more state :=
  ⟨second.has, by rw [second.parts, first.parts], second.files.trans first.files⟩

variable {draft : Draft} {world : World} {known : List (Value × Value)}

/-- The entries up to the first one whose key cannot be shown, under their keys as shown. -/
def shownPart : List (Value × Value) → List (Text × Value)
  | [] => []
  | (key, value) :: rest =>
    match Value.plain {} .none key with
    | .ok name => (name, value) :: shownPart rest
    | .error _ => []

/-- A file holds text, which is taken with plain line ends. -/
def Holds (files : Files.Tree) (path : Path) (characters : List Char) : Prop :=
  ∃ bytes stored, files.read path = .ok bytes ∧ Text.decode? bytes = some stored ∧
    Text.unifyLineEnds stored = characters

/-- A file holds a mapping of these entries. -/
def HoldsEntries (files : Files.Tree) (heap : Heap) (path : Path)
    (entries : List (Value × Value)) : Prop :=
  ∃ characters ref later, Holds files path characters ∧
    Yaml.read heap characters = .ok (.dict ref, later) ∧ entries = later.entries ref

/-- A file holds a mapping of entries, and a key of theirs is too long to be shown. -/
def HasLongKey (files : Files.Tree) (heap : Heap) (path : Path)
    (entries : List (Value × Value)) : Prop :=
  HoldsEntries files heap path entries ∧ ∃ entry ∈ entries, entry.1.IsLong

/-- A data file is found uninterpretable. -/
inductive Refuses (files : Files.Tree) (heap : Heap) (path : Path) : DataProblem → Prop
  | unreadable {fault : Fault} (failed : files.read path = .error fault) :
      Refuses files heap path (.unreadable fault)
  | malformed {characters : List Char} {stage : DocumentStage}
      (holds : Holds files path characters)
      (failed : Yaml.read heap characters = .error (.document stage)) :
      Refuses files heap path (.malformed (.document stage))
  | noMapping {characters : List Char} {value : Value} {later : Heap}
      (holds : Holds files path characters)
      (understood : Yaml.read heap characters = .ok (value, later))
      (notNone : value ≠ .none) (notDict : ∀ ref, value ≠ .dict ref) :
      Refuses files heap path .noMapping

/-- A data file is none that the reader is prepared for. -/
inductive Escapes (files : Files.Tree) (heap : Heap) (path : Path) : Fault → Prop
  | undecodable {bytes : ByteArray} (stored : files.read path = .ok bytes)
      (noText : Text.decode? bytes = none) : Escapes files heap path .undecodable
  | valueless {characters : List Char} {fault : Fault} (holds : Holds files path characters)
      (failed : Yaml.read heap characters = .error fault) (valueless : fault.Valueless) :
      Escapes files heap path fault
  | longKey {entries : List (Value × Value)} (long : HasLongKey files heap path entries) :
      Escapes files heap path .wrongValue

/-- A data file holds nothing, or a mapping whose keys can be shown. -/
inductive Suits (files : Files.Tree) (heap : Heap) (path : Path) : Prop
  | nothing {characters : List Char} {later : Heap} (holds : Holds files path characters)
      (understood : Yaml.read heap characters = .ok (.none, later))
  | mapping {entries : List (Value × Value)} (holds : HoldsEntries files heap path entries)
      (short : ∀ entry ∈ entries, ¬entry.1.IsLong)

variable {files : Files.Tree} {heap : Heap} {path : Path}

/-- A draft is as it was before, and so are the files and all known containers. -/
structure SameDraft (before after : Draft × World) : Prop where
  draft : after.1 = before.1
  keeps : before.2.machine.heap.Keeps after.2.machine.heap
  files : after.2.files = before.2.files

theorem SameDraft.refl (state : Draft × World) : SameDraft state state := ⟨rfl, .refl _, rfl⟩

/-- What the data model of a draft has once the entries of a document have been added. -/
def filled (path : Path) (known entries : List (Value × Value)) : List (Value × Value) :=
  putTexts known ((Reader.entityName, Value.ofString path.stem) :: shownPart entries)

end Drafting

end Stencil
