import Stencil.Command.Argument
import Stencil.Text.Similarity

/-!
# Command lines

The command line names a command and its options.  Options take one argument or none;
an argument may follow an equals sign or stand by itself, whatever it looks like.  Of
options given twice the last one counts, save for readers, which add up.
-/

namespace Stencil.Command

/-- The options that the command knows. -/
inductive Switch
  | projectRoot
  | templateFolder
  | dataFolder
  | outputFolder
  | engineVersion
  | reader
  | mode
  | verbose
  | help
deriving DecidableEq

namespace Switch

/-- Options by their long names. -/
def longNames : List (String × Switch) := [
  ("--project-root", .projectRoot),
  ("--template-dir", .templateFolder),
  ("--data-dir", .dataFolder),
  ("--output-dir", .outputFolder),
  ("--engine-version", .engineVersion),
  ("--extension", .reader),
  ("--mode", .mode),
  ("--verbose", .verbose),
  ("--help", .help)]

/-- Options by their short names. -/
def shortNames : List (String × Switch) := [("-v", .verbose)]

def takesArgument : Switch → Bool
  | .verbose => false
  | .help => false
  | _ => true

end Switch

/-- What a command line asks for. -/
structure Request where
  /-- The options with their arguments, in order. -/
  given : List (Switch × String) := []
  /-- Arguments that belong to no option. -/
  others : List String := []

namespace Request

/-- The last argument of an option. -/
def last? (request : Request) (switch : Switch) : Option String :=
  (request.given.reverse.find? fun (other, _) => other == switch).map Prod.snd

/-- All arguments of an option. -/
def all (request : Request) (switch : Switch) : List String :=
  request.given.filterMap fun (other, argument) =>
    if other == switch then some argument else none

def has (request : Request) (switch : Switch) : Bool :=
  request.given.any fun (other, _) => other == switch

end Request

/-- Names of options that are known at a place of a command line. -/
structure Known where
  long : List (String × Switch)
  short : List (String × Switch)

/-- What an argument of a command line starts with if it is an option. -/
def isOption (argument : String) : Bool :=
  match argument.toList with
  | '-' :: _ :: _ => true
  | _ => false

/-- Read an option and its argument; what remains of the command line is given back. -/
def takeArgument (name : String) (switch : Switch) (attached : Option String)
    (rest : List String) : Except UsageFault ((Switch × String) × List String) :=
  if switch.takesArgument then
    match attached, rest with
    | some argument, rest => .ok ((switch, argument), rest)
    | none, argument :: rest => .ok ((switch, argument), rest)
    | none, [] => .error (.argumentMissing name)
  else
    match attached with
    | some _ => .error (.argumentUnwanted name)
    | none => .ok ((switch, ""), rest)

/-- Read options of one letter each; the letters after one with an argument are its argument. -/
def readLetters (known : Known) (rest : List String) :
    List Char → Except UsageFault (List (Switch × String) × List String)
  | [] => .ok ([], rest)
  | letter :: letters => do
    let name := String.ofList ['-', letter]
    match known.short.lookup name with
    | none => throw (.unknownOption name none)
    | some switch =>
      if switch.takesArgument then
        let attached := if letters.isEmpty then none else some (String.ofList letters)
        let (given, rest) ← takeArgument name switch attached rest
        return ([given], rest)
      else
        let (given, rest) ← readLetters known rest letters
        return ((switch, "") :: given, rest)

/-- Read the options at the start of a command line. -/
def readOption (known : Known) (argument : String) (rest : List String) :
    Except UsageFault (List (Switch × String) × List String) := do
  let (name, attached) :=
    match Text.cut? ['='] argument.toList with
    | some (name, value) => (String.ofList name, some (String.ofList value))
    | none => (argument, none)
  match known.long.lookup name with
  | some switch =>
    let (given, rest) ← takeArgument name switch attached rest
    return ([given], rest)
  | none =>
    if argument.startsWith "--" then throw (.unknownOption name none)
    else readLetters known rest (argument.toList.drop 1)

/-- Read a command line; the first argument that is no option may end the options. -/
def readRequest (known : Known) (isMixed : Bool) :
    (fuel : Nat) → Request → List String → Except UsageFault Request
  | 0, request, rest => .ok { request with others := request.others ++ rest }
  | _, request, [] => .ok request
  | fuel + 1, request, argument :: rest => do
    if argument == "--" then
      return { request with others := request.others ++ rest }
    else if isOption argument then
      let (given, rest) ← readOption known argument rest
      readRequest known isMixed fuel { request with given := request.given ++ given } rest
    else if isMixed then
      readRequest known isMixed fuel { request with others := request.others ++ [argument] } rest
    else
      return { request with others := request.others ++ argument :: rest }

/-- Options that may stand before the command. -/
def knownBefore : Known := ⟨[("--help", .help)], []⟩

/-- Options of the command. -/
def knownAfter : Known := ⟨Switch.longNames, Switch.shortNames⟩

def readArguments (known : Known) (isMixed : Bool) (arguments : List String) :
    Except UsageFault Request :=
  readRequest known isMixed (arguments.length + 1) {} arguments

/-- The name of the command. -/
def commandName : String := "generate"

/-- The command that a name may have been meant for. -/
def suggestion? (name : String) : Option String :=
  if Text.areAlike commandName name then some commandName else none

/-- The fault of a name that is no command; it may be an option out of its place. -/
def unknownName (name : String) (rest : List String) : UsageFault :=
  match readArguments knownBefore false (name :: rest) with
  | .error (.unknownOption option _) => .unknownOption option (suggestion? name)
  | .error fault => fault
  | .ok _ => .unknownCommand name (suggestion? name)

/-- What a command line asks for; nothing where it asks for help. -/
def readCommandLine (arguments : List String) : Except UsageFault (Option Request) := do
  let before ← readArguments knownBefore false arguments
  if before.has .help then
    return none
  match before.others with
  | [] => throw .noCommand
  | name :: rest =>
    if name == commandName then
      let request ← readArguments knownAfter true rest
      if request.has .help then
        return none
      else if request.others.isEmpty then
        return some request
      else
        throw (.unexpected request.others)
    else
      throw (unknownName name rest)

end Stencil.Command
