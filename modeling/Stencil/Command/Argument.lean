import Stencil.Number.Numeral
import Stencil.Text.Character
import Stencil.Text.Quoted
import Stencil.Text.Search

/-!
# Arguments of options

A command line may be one that the command does not understand.  Readers are given as an
extension and a reference with an equals sign between them; the dot at the start of an
extension may be left out.  Modes are given in octal digits.
-/

namespace Stencil.Command

/-- What is wrong with a command line. -/
inductive UsageFault
  | noCommand
  | unknownCommand (name : String) (suggestion : Option String)
  | unknownOption (name : String) (suggestion : Option String)
  | argumentMissing (option : String)
  | argumentUnwanted (option : String)
  | unexpected (arguments : List String)
  /-- A reference to a reader without an extension before it. -/
  | noExtension (given : String)
  /-- A reference to a reader without a module or without a member. -/
  | noReference (given : String)
  | malformedMode (given : String)
deriving DecidableEq

namespace UsageFault

/-- A text with a suggestion at its end. -/
def withSuggestion (text : String) : Option String → String
  | none => text
  | some name => text ++ ". Did you mean " ++ Text.quote name ++ "?"

def message : UsageFault → String
  | .noCommand => "Missing command."
  | .unknownCommand name none => "No such command " ++ Text.quote name ++ "."
  | .unknownCommand name suggestion =>
    withSuggestion ("No such command " ++ Text.quote name) suggestion
  | .unknownOption name suggestion => withSuggestion ("No such option: " ++ name) suggestion
  | .argumentMissing option => "Option " ++ Text.quote option ++ " requires an argument."
  | .argumentUnwanted option => "Option " ++ Text.quote option ++ " does not take a value."
  | .unexpected arguments =>
    "Got unexpected extra argument(s) (" ++ String.intercalate " " arguments ++ ")"
  | .noExtension given => "Must be EXT=MODULE:ATTR, got: " ++ Text.quote given
  | .noReference given => "Parser must be MODULE:ATTR, got: " ++ Text.quote given
  | .malformedMode given => "Invalid octal mode: " ++ Text.quote given

end UsageFault

/-- Text without the blanks around it. -/
def stripped (characters : List Char) : String :=
  String.ofList (Text.stripBlanks characters)

/-- An extension with a dot at its start. -/
def dotted (extension : String) : String :=
  if extension.startsWith "." then extension else "." ++ extension

/-- Read an extension and the reference to its reader. -/
def parseExtension (given : String) : Except UsageFault (String × String) :=
  match Text.cut? ['='] given.toList with
  | none => .error (.noExtension given)
  | some (extension, reference) =>
    if reference.contains ':' then
      .ok (dotted (stripped extension), stripped reference)
    else
      .error (.noReference (String.ofList reference))

/-- Read a mode. -/
def parseFileMode (given : String) : Except UsageFault Int :=
  match Number.readInteger 8 (Text.ofString given) with
  | .ok mode => .ok mode
  | .error _ => .error (.malformedMode given)

end Stencil.Command
