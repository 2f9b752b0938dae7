import Stencil.Files.Tree

/-!
# Writing files

A file is written under a spare name beside its target and takes the target's place
when it is complete.  When writing fails the spare file is removed, so the target
is as it was.
-/

namespace Stencil.Files

/-- A change of a file tree that may be refused. -/
abbrev Change := EStateM Fault Tree

namespace Change

/-- An answer about the tree. -/
def ask {α : Type} (question : Tree → Except Fault α) : Change α := do
  match question (← get) with
  | .ok answer => return answer
  | .error fault => throw fault

def refuse {α : Type} (reason : SystemReason) (path : String) : Change α :=
  throw (.system ⟨reason, path, none⟩)

/-- Make the directory at a path. -/
def makeOne (path : Path) : Change Unit := do
  let tree ← get
  match tree.walk false path with
  | .error reason => refuse reason path.text
  | .ok spot =>
    match spot.entry with
    | some _ => refuse .entryExists path.text
    | none => set (tree.put spot.place .directory)

/-- Accept a refusal where a directory stands at the path. -/
def acceptDirectory (path : Path) (fault : Fault) : Change Unit := do
  if ← ask fun tree => tree.isDirectory path then return () else throw fault

/-- Whether a refusal says that nothing stands at a path. -/
def isAbsence : Fault → Bool
  | .system fault => fault.reason == .noSuchEntry
  | _ => false

/-- Make the directory at a path and the directories around it, the parts of the path backward. -/
def makeWithParents (root : PathRoot) (isLenient : Bool) : List String → Change Unit
  | [] =>
    let path : Path := ⟨root, []⟩
    tryCatch (makeOne path) fun fault =>
      if isAbsence fault || !isLenient then throw fault else acceptDirectory path fault
  | name :: names =>
    let path : Path := ⟨root, (name :: names).reverse⟩
    tryCatch (makeOne path) fun fault => do
      if isAbsence fault then
        makeWithParents root true names
        tryCatch (makeOne path) fun fault =>
          if isAbsence fault || !isLenient then throw fault else acceptDirectory path fault
      else if isLenient then
        acceptDirectory path fault
      else
        throw fault

/-- Make sure that a directory stands at a path. -/
def ensureDirectory (path : Path) : Change Unit :=
  makeWithParents path.root true path.parts.reverse

/-- Make a directory that must not be there yet. -/
def makeDirectory (path : Path) : Change Unit :=
  makeWithParents path.root false path.parts.reverse

/-- Names without dots: two dots take back the name before them. -/
def plainNames : List String → List String → List String
  | before, [] => before.reverse
  | before, name :: names =>
    if name == ".." then plainNames (before.drop 1) names else plainNames (name :: before) names

/-- A path from the root of the tree, its dots resolved without looking at links. -/
def absolutePath (here : Place) (path : Path) : Path :=
  let names := if path.isAbsolute then path.parts else here ++ path.parts
  let root := if path.root == .doubleSlash then PathRoot.doubleSlash else .slash
  ⟨root, plainNames [] names⟩

/-- How many bytes of a spare name are chosen at will. -/
def spareLength : Nat := 8

/-- A file that is written beside its target. -/
structure Spare where
  name : String
  place : Place

/-- What every spare name for a target starts with. -/
def spareOpening (path : Path) : String :=
  "." ++ path.name ++ "."

/-- The first mark that gives a place where nothing stands. -/
def freeMark? (tree : Tree) (folder : Place) (opening : String) : Option String :=
  (tree.marks tree.written).find? fun mark => (tree.at? (folder ++ [opening ++ mark])).isNone

/-- Make a new file beside a target. -/
def openSpare (path : Path) : Change Spare := do
  let tree ← get
  let folder := absolutePath tree.here path.parent
  let opening := spareOpening path
  let named := fun mark => (folder.child (opening ++ mark)).text
  let first := named ((tree.marks tree.written).headD spareMark)
  match tree.walk true folder with
  | .error reason => refuse reason first
  | .ok spot =>
    match spot.entry with
    | none => refuse .noSuchEntry first
    | some .directory =>
      if Tree.nameLimit < Text.storedLength opening + spareLength then
        refuse .nameTooLong first
      else
        match freeMark? tree spot.place opening with
        | none => refuse .entryExists first
        | some mark =>
          let place := spot.place ++ [opening ++ mark]
          let content : FileContent := {
            bytes := ByteArray.empty
            mode := 0o600
            stamp := tree.clock + tree.written
            serial := tree.written }
          set { tree.put place (.file content) with written := tree.written + 1 }
          return ⟨named mark, place⟩
    | some _ => refuse .notDirectory first

/-- Give a file its content. -/
def fill (place : Place) (bytes : ByteArray) : Change Unit :=
  modify fun tree =>
    match tree.at? place with
    | some (.file content) => tree.put place (.file { content with bytes })
    | _ => tree

/-- Whether a path ends in no name that could be replaced. -/
def endsInDots (path : Path) : Bool :=
  match path.parts.getLast? with
  | none => true
  | some name => name == ".."

/-- Move a spare file to the place of a path. -/
def replace (spare : Spare) (path : Path) : Change Unit := do
  let tree ← get
  let refuseMove := fun {α : Type} (reason : SystemReason) =>
    (throw (.system ⟨reason, spare.name, some path.text⟩) : Change α)
  if endsInDots path then
    refuseMove .busy
  match tree.walk false path with
  | .error reason => refuseMove reason
  | .ok spot =>
    match spot.entry with
    | some .directory => refuseMove .isDirectory
    | _ =>
      match tree.at? spare.place with
      | some entry => set ((tree.remove spare.place).put spot.place entry)
      | none => refuseMove .noSuchEntry

/-- The greatest mode that the system takes. -/
def modeLimit : Int := 0x7FFFFFFF

/-- Set the mode of the file at a path. -/
def setMode (path : Path) (mode : Int) : Change Unit := do
  if mode < -modeLimit - 1 || modeLimit < mode then
    throw .overflow
  let tree ← get
  match tree.walk true path with
  | .error reason => refuse reason path.text
  | .ok spot =>
    match spot.entry with
    | some (.file content) =>
      set (tree.put spot.place (.file { content with mode := (mode % 0o10000).toNat }))
    | some _ => return ()
    | none => refuse .noSuchEntry path.text

/-- Start to write the file at a path. -/
def startFile (path : Path) : Change Spare := do
  ensureDirectory path.parent
  openSpare path

/-- Let a file take its target's place, or remove what was written of it. -/
def commit (path : Path) (spare : Spare) (content : Except Fault ByteArray) : Change Unit :=
  tryCatch
    (do
      match content with
      | .ok bytes => fill spare.place bytes
      | .error fault => throw fault
      replace spare path)
    fun fault => do
      modify fun tree => tree.remove spare.place
      throw fault

/-- Complete a file. -/
def finishFile
    (path : Path)
    (mode : Int)
    (spare : Spare)
    (content : Except Fault ByteArray) : Change Unit := do
  commit path spare content
  setMode path mode

/-- Write a file whose content replaces what stands at a path once it is complete. -/
def writeFile (path : Path) (mode : Int) (content : Except Fault ByteArray) : Change Unit := do
  let spare ← startFile path
  finishFile path mode spare content

/--
The stored form of pieces of text that are written in a row; a piece without stored form
stops the row, and a fault may end it.
-/
def storedPieces : List Text → Option Fault → Except Fault ByteArray
  | [], none => .ok ByteArray.empty
  | [], some fault => .error fault
  | piece :: pieces, ending =>
    match Text.encode? piece with
    | none => .error .unencodable
    | some bytes => (storedPieces pieces ending).map (bytes ++ ·)

/-- Write pieces of text to a file that replaces what stands at a path once it is complete. -/
def writePieces
    (path : Path)
    (mode : Int)
    (pieces : List Text)
    (ending : Option Fault) : Change Unit :=
  writeFile path mode (storedPieces pieces ending)

end Change

end Stencil.Files
