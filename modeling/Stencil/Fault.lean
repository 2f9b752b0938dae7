import Stencil.Text.Quoted

/-!
# Failures

A failure that reaches the outside says what went wrong.  Failures of the file
system, of undefined values and of missing templates carry the text that users
read; of most others only the kind is known.
-/

namespace Stencil

/-- Why the file system refuses an operation. -/
inductive SystemReason
  | notPermitted
  | noSuchEntry
  | noSuchDevice
  | accessDenied
  | busy
  | entryExists
  | notDirectory
  | isDirectory
  | invalidArgument
  | nameTooLong
  | directoryNotEmpty
  | tooManyLinks
deriving DecidableEq

namespace SystemReason

/-- The number the system gives to the reason. -/
def number : SystemReason → Nat
  | .notPermitted => 1
  | .noSuchEntry => 2
  | .noSuchDevice => 6
  | .accessDenied => 13
  | .busy => 16
  | .entryExists => 17
  | .notDirectory => 20
  | .isDirectory => 21
  | .invalidArgument => 22
  | .nameTooLong => 36
  | .directoryNotEmpty => 39
  | .tooManyLinks => 40

def description : SystemReason → String
  | .notPermitted => "Operation not permitted"
  | .noSuchEntry => "No such file or directory"
  | .noSuchDevice => "No such device or address"
  | .accessDenied => "Permission denied"
  | .busy => "Device or resource busy"
  | .entryExists => "File exists"
  | .notDirectory => "Not a directory"
  | .isDirectory => "Is a directory"
  | .invalidArgument => "Invalid argument"
  | .nameTooLong => "File name too long"
  | .directoryNotEmpty => "Directory not empty"
  | .tooManyLinks => "Too many levels of symbolic links"

end SystemReason

/-- A refusal of the file system with the paths it was about. -/
structure SystemFault where
  reason : SystemReason
  path : String
  target : Option String := none
deriving DecidableEq

/-- The text of a refusal. -/
def SystemFault.text (fault : SystemFault) : String :=
  "[Errno " ++ toString fault.reason.number ++ "] " ++ fault.reason.description ++ ": " ++
    Text.quote fault.path ++
    (match fault.target with
      | none => ""
      | some target => " -> " ++ Text.quote target)

/-- The stage at which a data document turns out to be malformed. -/
inductive DocumentStage
  | characters
  | tokens
  | structure_
  | references
  | values
deriving DecidableEq

/-- What is wrong with one setting: its place, the kind of fault and perhaps a text. -/
structure Complaint where
  place : String
  kind : String
  text : Option String := none
deriving DecidableEq

/-- What went wrong. -/
inductive Fault
  /-- An operation met a value of the wrong type. -/
  | wrongType
  /-- An operation met a wrong value of the right type. -/
  | wrongValue
  | missingKey
  | outOfRange
  | missingAttribute
  /-- A name that the engine itself does not know. -/
  | unknownName
  /-- A template that reads well but cannot be put into executable form. -/
  | malformedCode
  /-- A container changed while its members were visited. -/
  | changedMeanwhile
  /-- A cycle was asked for that has no members. -/
  | emptyCycle
  /-- A path leads from link to link without end. -/
  | endlessLinks
  | overflow
  | divisionByZero
  | undecodable
  | unencodable
  /-- A condition that was taken for granted does not hold. -/
  | assertion (text : String)
  /-- Calls are nested too deeply. -/
  | tooDeep
  | system (fault : SystemFault)
  /-- A module that does not exist, within a module that is no package if one is named. -/
  | noModule (name : String) (plain : Option String)
  /-- A value that is not defined was used. -/
  | undefinedValue (text : String)
  /-- A template asked for something impossible. -/
  | template (text : String)
  | filterArgument (text : String)
  | templateNotFound (text : String)
  | templatesNotFound (text : String)
  | templateSyntax (line : Nat)
  /-- A template that reads well but means nothing. -/
  | templateMeaning (line : Nat) (text : String)
  | document (stage : DocumentStage)
  | descriptorSyntax
  | invalid (complaints : List Complaint)
  | settingsSource (text : String)
  /-- A failure raised on purpose. -/
  | raised (text : String)
  /-- A template asks for something that lies outside of it, known by these names. -/
  | asks (names : List String)
deriving DecidableEq

namespace Fault

/-- The text that users read, for the failures that have one. -/
def text? : Fault → Option String
  | .assertion text => if text.isEmpty then none else some text
  | .system fault => some fault.text
  | .noModule name none => some ("No module named " ++ Text.quote name)
  | .noModule name (some plain) => some
    ("No module named " ++ Text.quote name ++ "; " ++ Text.quote plain ++ " is not a package")
  | .undefinedValue text => some text
  | .template text => some text
  | .filterArgument text => some text
  | .templateNotFound text => some text
  | .templatesNotFound text => some text
  | .templateMeaning _ text => some text
  | .settingsSource text => some text
  | .raised text => some text
  | _ => none

/-- The line of a template that a failure is about. -/
def line? : Fault → Option Nat
  | .templateSyntax line => some line
  | .templateMeaning line _ => some line
  | _ => none

end Fault

end Stencil
