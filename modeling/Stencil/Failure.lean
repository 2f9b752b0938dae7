import Stencil.Fault
import Stencil.Path

/-!
# Failures of a run

A run stops at its first failure.  The failures that a run names itself are wrong
settings, data files without a reader or with unreadable content, and templates that
cannot be loaded or rendered; every other fault passes through as it is.

Texts of failures embed the text of the fault behind them.  How such a fault is worded
is left open: `Failure.message` takes the wording as an argument.
-/

namespace Stencil

/-- What is wrong with the way a run is set up. -/
inductive Misconfiguration
  | malformedVersion (version : String)
  | versionTooNew (version installed : String)
  /-- A task without the time at which its descriptors were last changed. -/
  | noTimestamp
  /-- A task without one of its other parts. -/
  | noPart (name : String)
  | outputNoDirectory (place : Path)
  | malformedReference (reference : String)
  | noSuchModule (name : String) (cause : Fault)
  | noSuchMember (moduleName member : String)
  | noReader (reference : String)
  | malformedExtension (extension : String)
  | unreadableDescriptor (descriptor : Path) (cause : Fault)
  | noTable (table : String) (descriptor : Path)
  | membersNoList (descriptor : Path)
  | extensionsNoTable
  | invalidSettings (complaints : List Complaint)
  | noDirectory (label : String) (place : Path)
  | noOutputDirectory (place : Path) (cause : Fault)
deriving DecidableEq

namespace Misconfiguration

/-- The fault behind a wrong setting. -/
def cause? : Misconfiguration → Option Fault
  | .noSuchModule _ cause => some cause
  | .noSuchMember .. => some .missingAttribute
  | .unreadableDescriptor _ cause => some cause
  | .invalidSettings complaints => some (.invalid complaints)
  | .noOutputDirectory _ cause => some cause
  | _ => none

def message (wording : Fault → String) : Misconfiguration → String
  | .malformedVersion version => "Invalid template engine version: " ++ Text.quote version
  | .versionTooNew version installed =>
    "Template engine version " ++ version ++ " is newer than installed Jinja2 " ++ installed
  | .noTimestamp => "Must set the pom_modified_timestamp"
  | .noPart name => "Must set a non-null " ++ name
  | .outputNoDirectory place => "Output directory is not a directory: " ++ place.text
  | .malformedReference reference =>
    "Parser reference must be MODULE:ATTRIBUTE, got: " ++ Text.quote reference
  | .noSuchModule name cause =>
    "Cannot import parser module " ++ Text.quote name ++ ": " ++ wording cause
  | .noSuchMember moduleName member =>
    "Module " ++ Text.quote moduleName ++ " has no attribute " ++ Text.quote member
  | .noReader reference =>
    reference ++ " does not provide provide_properties_from_file(path, builder)"
  | .malformedExtension extension =>
    "Extension must start with '.', got: " ++ Text.quote extension
  | .unreadableDescriptor descriptor cause =>
    "Cannot read project descriptor " ++ descriptor.text ++ ": " ++ wording cause
  | .noTable table descriptor => "[" ++ table ++ "] must be a table in " ++ descriptor.text
  | .membersNoList descriptor =>
    "[tool.templategen] members must be a list in " ++ descriptor.text
  | .extensionsNoTable => "extensions must map EXT to MODULE:ATTR"
  | .invalidSettings complaints =>
    "Invalid generator settings: " ++ wording (.invalid complaints)
  | .noDirectory label place =>
    "Required " ++ label ++ " directory does not exist: " ++ place.text
  | .noOutputDirectory place cause =>
    "Cannot create output directory " ++ place.text ++ ": " ++ wording cause

end Misconfiguration

/-- Why a data file cannot be interpreted. -/
inductive DataProblem
  | nameTooShort
  | unreadable (cause : Fault)
  | malformed (cause : Fault)
  | noMapping
  /-- A reason that a reader gives in its own words. -/
  | stated (reason : String)
deriving DecidableEq

namespace DataProblem

/-- The fault behind an uninterpretable data file. -/
def cause? : DataProblem → Option Fault
  | .unreadable cause => some cause
  | .malformed cause => some cause
  | _ => none

def message (wording : Fault → String) : DataProblem → String
  | .nameTooShort => "file name too short to hold an entity name"
  | .unreadable cause => "cannot read file: " ++ wording cause
  | .malformed cause => "invalid YAML: " ++ wording cause
  | .noMapping => "top-level YAML document must be a mapping"
  | .stated reason => reason

end DataProblem

/-- Why a run stops. -/
inductive Failure
  | config (problem : Misconfiguration)
  | unknownExtension (dataFile : Path)
  | uninterpretable (dataFile : Path) (problem : DataProblem)
  | templateLoad (template : String) (cause : Fault)
  | render (dataFile : Path) (cause : Fault)
  /-- A fault that no part of a run is prepared for. -/
  | unforeseen (fault : Fault)
deriving DecidableEq

namespace Failure

/-- The fault behind a failure that a run names itself. -/
def cause? : Failure → Option Fault
  | .config problem => problem.cause?
  | .unknownExtension _ => none
  | .uninterpretable _ problem => problem.cause?
  | .templateLoad _ cause => some cause
  | .render _ cause => some cause
  | .unforeseen _ => none

/-- Whether a run names a failure itself. -/
def isNamed : Failure → Bool
  | .unforeseen _ => false
  | _ => true

/-- The text of a failure, given a wording for the faults behind failures. -/
def message (wording : Fault → String) : Failure → String
  | .config problem => problem.message wording
  | .unknownExtension dataFile => "Unknown file extension: " ++ dataFile.text
  | .uninterpretable dataFile problem =>
    "Could not parse data file " ++ dataFile.text ++ ": " ++ problem.message wording
  | .templateLoad template cause =>
    "Could not read template: " ++ template ++ " (" ++ wording cause ++ ")"
  | .render dataFile cause =>
    "Could not process template associated with data file: " ++ dataFile.text ++
      " (" ++ wording cause ++ ")"
  | .unforeseen fault => wording fault

/-- A computation whose faults no part of a run is prepared for. -/
def ofFault {α : Type} : Except Fault α → Except Failure α
  | .ok result => .ok result
  | .error fault => .error (.unforeseen fault)

end Failure

end Stencil
