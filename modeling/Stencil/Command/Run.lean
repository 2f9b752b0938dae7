import Stencil.Command.Argument
import Stencil.Command.Options
import Stencil.Generation.Basic
import Stencil.Settings.Load

/-!
# Running the command

The command loads the settings and the session of a project and runs a generation.  A
failure that a run names itself is reported; any other one ends the command.
-/

namespace Stencil.Command

/-- How a command ends. -/
inductive Outcome
  | done
  | misused (fault : UsageFault)
  /-- A failure has been reported. -/
  | failed
  | crashed (failure : Failure)
deriving DecidableEq

/-- The code that the command gives back to its caller. -/
def Outcome.exitCode : Outcome → Nat
  | .done => 0
  | .misused _ => 2
  | .failed => 1
  | .crashed _ => 1

/-- What the command needs from outside of the files. -/
structure Surroundings where
  modules : List Registry.Module
  /-- The variables of the environment. -/
  environment : List (String × String)

/-- The arguments of options that are checked before anything is loaded. -/
structure Arguments where
  mode : Option Int
  readers : List (String × String)

/-- Check arguments; an empty mode counts as none. -/
def Arguments.ofRequest (request : Request) : Except UsageFault Arguments := do
  let mode ←
    match request.last? .mode with
    | none => pure none
    | some "" => pure none
    | some given => some <$> parseFileMode given
  let readers ← (request.all .reader).mapM parseExtension
  return { mode, readers }

/-- A value for an argument, if it is given. -/
def given (value : String → Value) : Option String → Value
  | none => .none
  | some argument => value argument

/-- Values that take the place of settings. -/
def overrides (request : Request) (arguments : Arguments) : Act Settings.Given := do
  let folder := fun switch =>
    given (fun argument => .path (Path.ofString argument)) (request.last? switch)
  let readers := arguments.readers.map fun (extension, reference) =>
    (Value.ofString extension, Value.ofString reference)
  return [
    ("template_dir", folder .templateFolder),
    ("data_dir", folder .dataFolder),
    ("output_dir", folder .outputFolder),
    ("engine_version", given Value.ofString (request.last? .engineVersion)),
    ("file_mode", (arguments.mode.map Value.int).getD .none),
    ("extensions", ← Act.onMachine (Template.Run.buildDict readers))]

/-- Generate for the project at a root directory. -/
def generate
    [Rendering]
    (surroundings : Surroundings)
    (root : Path)
    (request : Request)
    (arguments : Arguments) : Act Unit := do
  let settings ← Settings.load surroundings.environment root (← overrides request arguments)
  let session ← Session.load root
  let outputs ← Generation.run surroundings.modules settings session
  Act.notify (.report ("Generated " ++ toString outputs.length ++ " file(s) in " ++
    settings.outputFolder.text))

/-- Report a failure that a run names itself. -/
def reporting (act : Act Unit) : Act Outcome :=
  tryCatch (do act; return .done) fun failure => do
    if failure.isNamed then
      Act.notify (.failure failure)
      return .failed
    else
      throw failure

/-- The root directory of the project that is generated for, as it is given. -/
def givenRoot (request : Request) : Path :=
  Path.ofString ((request.last? .projectRoot).getD ".")

/-- Carry out what a command line asks for. -/
def perform [Rendering] (surroundings : Surroundings) (request : Request) : Act Outcome := do
  Act.detail "Starting templategen"
  let root ← Act.askFiles fun files => files.settled (givenRoot request)
  match Arguments.ofRequest request with
  | .error fault => return .misused fault
  | .ok arguments => reporting (generate surroundings root request arguments)

/-- Run the command on a world. -/
def run [Rendering] (surroundings : Surroundings) (commandLine : List String) (world : World) :
    Outcome × World :=
  match readCommandLine commandLine with
  | .error fault => (.misused fault, world)
  | .ok none => (.done, world)
  | .ok (some request) =>
    match perform surroundings request world with
    | .ok outcome world => (outcome, world)
    | .error failure world => (.crashed failure, world)

/-- The directories of settings. -/
def settingsFolders (surroundings : Surroundings) (request : Request) : Act (List Path) := do
  let root ← Act.askFiles fun files => files.settled (givenRoot request)
  match Arguments.ofRequest request with
  | .error _ => return []
  | .ok arguments => do
    let given ← overrides request arguments
    let settings ← Settings.load surroundings.environment root given
    return [settings.templateFolder, settings.dataFolder, settings.outputFolder]

/-- The directories that a command line works in, as far as they can be told. -/
def workplaces (surroundings : Surroundings) (commandLine : List String) (world : World) :
    List Path :=
  match readCommandLine commandLine with
  | .ok (some request) =>
    givenRoot request ::
      (match settingsFolders surroundings request world with
        | .ok folders _ => folders
        | .error _ _ => [])
  | _ => []

/-- Whether a command line asks for details. -/
def isVerbose (commandLine : List String) : Bool :=
  match readCommandLine commandLine with
  | .ok (some request) => request.has .verbose
  | _ => false

/-- A notice as a line of the log; details are left out unless they are asked for. -/
def logLine? (wording : Fault → String) (isVerbose : Bool) : Notice → Option String
  | .detail text => if isVerbose then some ("[DEBUG] " ++ text) else none
  | .report text => some ("[INFO] " ++ text)
  | .failure failure => some ("[ERROR] " ++ failure.message wording)

/-- The log of the notices that were given, latest first. -/
def log (wording : Fault → String) (isVerbose : Bool) (notices : List Notice) : List String :=
  notices.reverse.filterMap (logLine? wording isVerbose)

end Stencil.Command
