import Stencil.Json.Reader
import Stencil.Text.Case
import Stencil.Validation

/-!
# Settings

The settings of a run are given by name, by variables of the environment, or left at
their defaults.  Names count whatever the case of their letters; a name that is none
of a setting is refused.
-/

namespace Stencil

/-- The settings of a run. -/
structure Settings where
  engineVersion : String := "3.0"
  templateFolder : Path := ⟨.none, ["codegen", "templates"]⟩
  dataFolder : Path := ⟨.none, ["codegen", "data"]⟩
  outputFolder : Path := ⟨.none, ["build", "generated"]⟩
  fileMode : Int := 0o644
  interpolationStart : String := String.ofList ['$', '\x7b']
  interpolationEnd : String := String.ofList ['\x7d']
  /-- References to the readers of data files by extension. -/
  extensions : List (String × String) := []
deriving DecidableEq

namespace Settings

open Validation (Checked)

/-- The names of the settings. -/
def names : List String :=
  ["engine_version", "template_dir", "data_dir", "output_dir", "file_mode", "variable_start",
    "variable_end", "extensions"]

/-- The name under which settings that are being made are known to themselves. -/
def selfName : String := "__pydantic_self__"

/--
The names of what the library that makes settings takes for itself.  Values under them are
no settings and nobody complains about them; what they do to the library is left out.
-/
def optionNames : List String :=
  ["_case_sensitive", "_nested_model_default_partial_update", "_env_prefix", "_env_file",
    "_env_file_encoding", "_env_ignore_empty", "_env_nested_delimiter",
    "_env_nested_max_split", "_env_parse_none_str", "_env_parse_enums", "_cli_prog_name",
    "_cli_parse_args", "_cli_settings_source", "_cli_parse_none_str", "_cli_hide_none_type",
    "_cli_avoid_json", "_cli_enforce_required", "_cli_use_class_docs_for_groups",
    "_cli_exit_on_error", "_cli_prefix", "_cli_flag_prefix_char", "_cli_implicit_flags",
    "_cli_ignore_unknown_args", "_cli_kebab_case", "_cli_shortcuts", "_secrets_dir"]

/-- What the name of every variable of the environment for a setting starts with. -/
def variableStart : String := "templategen_"

/-- Values by the names of settings. -/
abbrev Given := List (String × Value)

/-- Put a value under a name. -/
def put (name : String) (value : Value) : Given → Given
  | [] => [(name, value)]
  | (known, old) :: rest =>
    if known = name then (known, value) :: rest else (known, old) :: put name value rest

def lowerCase (name : String) : String :=
  (Text.lower (Text.ofString name)).string

/-- A name as that of a setting, if it is one but for the case of its letters. -/
def settledName (given : Given) (name : String) : String :=
  let lower := lowerCase name
  if names.contains lower && !(given.any fun (known, _) => known == lower) then lower else name

/-- Values under the names of settings. -/
def settleNames (given : Given) : Given :=
  given.foldl (fun settled (name, value) => put (settledName given name) value settled) []

/-- The variable of the environment for a setting. -/
def variableText? (environment : List (String × String)) (name : String) : Option String :=
  (environment.reverse.find? fun (variable_, _) =>
    lowerCase variable_ == variableStart ++ name).map Prod.snd

/-- The fault of a variable that should hold written data and does not. -/
def variableFault (name : String) : Fault :=
  .settingsSource ("error parsing value for field \"" ++ name ++
    "\" from source \"EnvSettingsSource\"")

/-- The values that the environment gives; references to readers are written as JSON. -/
def ofEnvironment (heap : Heap) (environment : List (String × String)) :
    Except Fault (Given × Heap) := do
  let texts := names.dropLast.filterMap fun name =>
    (variableText? environment name).map fun content => (name, Value.ofString content)
  match variableText? environment "extensions" with
  | none => return (texts, heap)
  | some content =>
    match Json.read? content.toList with
    | none => throw (variableFault "extensions")
    | some .nothing => return (texts, heap)
    | some item =>
      let (value, heap) := item.store heap
      return (texts ++ [("extensions", value)], heap)

/-- Values over those of the environment; entries of two mappings are put together. -/
def overlay (heap : Heap) (lower upper : Given) : Except Fault (Given × Heap) :=
  match lower.lookup "extensions", upper.lookup "extensions" with
  | some (.dict low), some (.dict high) => do
    let entries ← heap.insertAll (heap.entries low) (heap.entries high)
    let (ref, heap) := heap.allocate (.dict entries)
    let all := upper.foldl (fun given (name, value) => put name value given) lower
    return (put "extensions" (.dict ref) all, heap)
  | _, _ =>
    .ok (upper.foldl (fun given (name, value) => put name value given) lower, heap)

/-- A file mode: texts are read in base eight. -/
def checkMode (place : String) (value : Value) : Checked Int :=
  match value.text? with
  | some content =>
    match Number.readInteger 8 content with
    | .ok mode => .ok mode
    | .error _ =>
      .error [⟨place, "value_error",
        some ("Value error, Invalid octal mode: " ++ String.ofList (Text.quoted content))⟩]
  | none => Validation.integer place value

/-- The checked value of a setting, or its default. -/
def part {α : Type}
    (given : Given)
    (name : String)
    (default : α)
    (check : String → Value → Checked α) : Checked α :=
  match given.lookup name with
  | some value => check name value
  | none => .ok default

/-- Complain about names that are none of settings. -/
def checkNames (given : Given) : Checked Unit :=
  match (given.filter fun (name, _) => !names.contains name).map Prod.fst with
  | [] => .ok ()
  | unknown => .error (unknown.map fun name => ⟨name, "extra_forbidden", none⟩)

def checkText (place : String) (value : Value) : Checked String :=
  (Validation.text place value).map Text.string

def checkExtensions (heap : Heap) (place : String) (value : Value) :
    Checked (List (String × String)) :=
  (Validation.entries heap place checkText value).map fun entries =>
    entries.foldl (fun known (extension, reference) =>
      putReference extension.string reference known) []
where
  putReference (extension reference : String) : List (String × String) → List (String × String)
    | [] => [(extension, reference)]
    | (known, old) :: rest =>
      if known = extension then (known, reference) :: rest
      else (known, old) :: putReference extension reference rest

/-- Check values. -/
def check (heap : Heap) (given : Given) : Checked Settings :=
  let defaults : Settings := {}
  let checked :=
    Validation.both (checkNames given)
      (Validation.both (part given "engine_version" defaults.engineVersion checkText)
        (Validation.both (part given "template_dir" defaults.templateFolder Validation.path)
          (Validation.both (part given "data_dir" defaults.dataFolder Validation.path)
            (Validation.both (part given "output_dir" defaults.outputFolder Validation.path)
              (Validation.both (part given "file_mode" defaults.fileMode checkMode)
                (Validation.both
                  (part given "variable_start" defaults.interpolationStart checkText)
                  (Validation.both
                    (part given "variable_end" defaults.interpolationEnd checkText)
                    (part given "extensions" defaults.extensions
                      (checkExtensions heap)))))))))
  checked.map fun (_, engineVersion, templateFolder, dataFolder, outputFolder, fileMode,
      interpolationStart, interpolationEnd, extensions) =>
    { engineVersion, templateFolder, dataFolder, outputFolder, fileMode, interpolationStart,
      interpolationEnd, extensions }

/-- Values but for those that the library takes for itself. -/
def ofSettings (given : Given) : Given :=
  given.filter fun (name, _) => !optionNames.contains name

/-- The settings of values and of the environment. -/
def make (heap : Heap) (environment : List (String × String)) (given : Given) :
    Except Fault Settings := do
  if given.any fun (name, _) => name == selfName then
    throw .wrongType
  let (under, heap) ← ofEnvironment heap environment
  let (all, heap) ← overlay heap under (settleNames (ofSettings given))
  match check heap all with
  | .ok settings => return settings
  | .error complaints => throw (.invalid complaints)

/-- Settings whose relative directories are anchored at a root directory. -/
def anchor (settings : Settings) (root : Path) : Settings :=
  { settings with
    templateFolder := root.join settings.templateFolder
    dataFolder := root.join settings.dataFolder
    outputFolder := root.join settings.outputFolder }

/-- Anchoring at an absolute directory leaves no relative directory. -/
theorem isAbsolute_anchor (settings : Settings) (root : Path) (absolute : root.isAbsolute) :
    (settings.anchor root).templateFolder.isAbsolute ∧
      (settings.anchor root).dataFolder.isAbsolute ∧
      (settings.anchor root).outputFolder.isAbsolute := by
  have join : ∀ other : Path, (root.join other).isAbsolute := by
    intro other
    unfold Path.join
    split
    · assumption
    · exact absolute
  exact ⟨join _, join _, join _⟩

end Settings

end Stencil
