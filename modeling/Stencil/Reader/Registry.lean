import Stencil.Reader.Basic

/-!
# Finding readers

A reader is referred to by a module and a member of it.  The readers of a run stand
in a table by the extensions of the data files that they read.
-/

namespace Stencil.Registry

/-- A member of a module. -/
inductive Member
  /-- A reader, or something that makes one. -/
  | reader (reader : Reader)
  /-- Something that needs more than it is given before it is of use. -/
  | unusable
  /-- Something that is no reader. -/
  | other

/-- A module that can be referred to. -/
structure Module where
  name : String
  isPackage : Bool
  members : List (String × Member)

/-- What every module has besides its own members. -/
def commonMembers : List (String × Member) :=
  ("__class__", .unusable) ::
    ["__annotations__", "__builtins__", "__cached__", "__delattr__", "__dict__", "__dir__",
      "__doc__", "__eq__", "__file__", "__format__", "__ge__", "__getattribute__",
      "__getstate__", "__gt__", "__hash__", "__init__", "__init_subclass__", "__le__",
      "__loader__", "__lt__", "__name__", "__ne__", "__new__", "__package__", "__reduce__",
      "__reduce_ex__", "__repr__", "__setattr__", "__sizeof__", "__spec__", "__str__",
      "__subclasshook__"].map fun name => (name, .other)

/-- A module of the library, by its readers and the names of its other members. -/
def ownModule
    (name : String)
    (isPackage : Bool)
    (readers : List (String × Reader))
    (unusable others : List String) : Module where
  name := name
  isPackage := isPackage
  members :=
    readers.map (fun (name, reader) => (name, .reader reader)) ++
      unusable.map (fun name => (name, .unusable)) ++
      others.map (fun name => (name, .other)) ++
      (if isPackage then [("__path__", .other)] else []) ++
      commonMembers

/-- The modules of the library itself. -/
def ownModules : List Module := [
  ownModule "templategen" true [] []
    ["__all__", "__version__", "cli", "core", "exceptions", "logging", "main", "parsing",
      "project", "rendering", "runner", "settings", "traversal"],
  ownModule "templategen.cli" true [] [] ["__all__", "app", "main", "parsers"],
  ownModule "templategen.cli.app" false [] ["Annotated"]
    ["GenerationError", "Optional", "Path", "annotations", "app", "callback", "generate",
      "load_session", "load_settings", "logger", "logging", "main", "parse_extension",
      "parse_file_mode", "run_generation", "typer"],
  ownModule "templategen.cli.parsers" false [] []
    ["annotations", "parse_extension", "parse_file_mode", "typer"],
  ownModule "templategen.core" true [] [] ["OutputGeneratorBuilder", "__all__", "models"],
  ownModule "templategen.core.models" false []
    ["Any", "RenderError", "Template", "TemplateLoadError"]
    ["ConfigDict", "ConfigError", "Environment", "Field", "OutputGeneratorBuilder", "Path",
      "annotations", "atomic_writer", "engine", "last_modified_ms", "logger", "logging",
      "output_path_for"],
  ownModule "templategen.exceptions" false []
    ["ParseError", "RenderError", "TemplateLoadError", "UnknownExtensionError"]
    ["ConfigError", "GenerationError", "Path", "_with_cause", "annotations"],
  ownModule "templategen.parsing" true [("EntityParser", .entity), ("YamlDataParser", .yaml)]
    ["DataFileParser"]
    ["ExtensionTable", "__all__", "base", "build_extension_table", "default_extension_table",
      "entity", "extension_of", "resolve_parser", "yaml_data"],
  ownModule "templategen.parsing.base" false [("EntityParser", .entity)]
    ["DataFileParser", "Mapping"]
    ["ConfigError", "ExtensionTable", "OutputGeneratorBuilder", "Path", "Protocol",
      "annotations", "build_extension_table", "default_extension_table", "extension_of",
      "import_module", "inspect", "logger", "logging", "resolve_parser", "runtime_checkable"],
  ownModule "templategen.parsing.entity" false [("EntityParser", .entity)] ["ParseError"]
    ["Path", "TYPE_CHECKING", "_SUFFIX_LENGTH", "annotations"],
  ownModule "templategen.parsing.yaml_data" false [("YamlDataParser", .yaml)] ["ParseError"]
    ["Path", "TYPE_CHECKING", "annotations", "logger", "logging", "yaml"],
  ownModule "templategen.project" true [] []
    ["__all__", "load_project", "load_session", "read_tool_table", "session"],
  ownModule "templategen.project.session" false [] ["Any"]
    ["ConfigError", "DESCRIPTOR_NAME", "Field", "Path", "TOOL_TABLE", "_PROJECT_KEYS",
      "_load_tool_table", "_project_from_table", "_read_descriptor", "_stringify",
      "_tool_table", "annotations", "last_modified_ms", "load_project", "load_session",
      "logger", "logging", "read_tool_table", "tomllib"],
  ownModule "templategen.rendering" true [] [] ["engine", "io"],
  ownModule "templategen.rendering.engine" false [] ["Any", "FileSystemLoader", "Template"]
    ["ConfigError", "Environment", "Path", "TextIO", "_VERSION_PATTERN", "_version_tuple",
      "annotations", "check_engine_version", "create_environment", "load_template", "logger",
      "logging", "re", "render_to", "version"],
  ownModule "templategen.rendering.io" false [] ["Iterator"]
    ["OUTPUT_SUFFIX", "Path", "TextIO", "annotations", "atomic_writer", "contextmanager",
      "ensure_parent", "last_modified_ms", "os", "output_path_for", "tempfile"],
  ownModule "templategen.runner" false [] ["GeneratingFileVisitor"]
    ["ConfigError", "Path", "_require_dir", "annotations", "build_extension_table",
      "create_environment", "logger", "logging", "run_generation"],
  ownModule "templategen.settings" false [] ["Any", "ValidationError"]
    ["BaseSettings", "ConfigError", "Field", "Path", "SettingsConfigDict", "annotations",
      "field_validator", "load_settings", "read_tool_table"],
  ownModule "templategen.traversal" true [] ["GeneratingFileVisitor"]
    ["__all__", "list_templates", "visitor", "walk_files"],
  ownModule "templategen.traversal.visitor" false []
    ["GeneratingFileVisitor", "Iterator", "UnknownExtensionError"]
    ["Environment", "ExtensionTable", "POM_PROPERTIES_KEY", "Path", "annotations",
      "extension_of", "list_templates", "logger", "logging", "os", "walk_files"]]

/-- The module of a name. -/
def find? (modules : List Module) (name : String) : Option Module :=
  modules.find? fun known => known.name == name

/-- Follow the parts of a module's name from a module on. -/
def importFrom (modules : List Module) (within : Module) :
    List String → Except Fault Module
  | [] => .ok within
  | part :: parts =>
    let name := within.name ++ "." ++ part
    match find? modules name with
    | some found => importFrom modules found parts
    | none =>
      .error (.noModule name (if within.isPackage then none else some within.name))

/-- The module of a dotted name; a name that starts with a dot has no starting point. -/
def importModule (modules : List Module) (name : String) : Except Fault Module :=
  match Text.splitString '.' name with
  | [] => .error .wrongType
  | first :: parts =>
    if first.isEmpty then .error .wrongType
    else
      match find? modules first with
      | some found => importFrom modules found parts
      | none => .error (.noModule first none)

/-- Whether a fault says that a module is missing. -/
def isMissingModule : Fault → Bool
  | .noModule .. => true
  | _ => false

/-- The reader that a reference names. -/
def resolve (modules : List Module) (reference : String) : Except Failure Reader :=
  match Text.cut? [':'] reference.toList with
  | some (moduleName, member) =>
    let moduleName := String.ofList moduleName
    let member := String.ofList member
    if moduleName.isEmpty || member.isEmpty then
      .error (.config (.malformedReference reference))
    else
      match importModule modules moduleName with
      | .error fault =>
        if isMissingModule fault then .error (.config (.noSuchModule moduleName fault))
        else .error (.unforeseen fault)
      | .ok found =>
        match found.members.lookup member with
        | none => .error (.config (.noSuchMember moduleName member))
        | some (.reader reader) => .ok reader
        | some .unusable => .error (.unforeseen .wrongType)
        | some .other => .error (.config (.noReader reference))
  | none => .error (.config (.malformedReference reference))

/-- Readers by the extensions of the data files that they read. -/
abbrev Table := List (String × Reader)

/-- The readers that every run starts with. -/
def defaultTable : Table := [(".json", .entity)]

/-- A table with a reader for an extension; a known extension keeps its place. -/
def put (extension : String) (reader : Reader) : Table → Table
  | [] => [(extension, reader)]
  | (known, old) :: rest =>
    if known = extension then (known, reader) :: rest
    else (known, old) :: put extension reader rest

/-- Whether a text can be an extension: a dot and something after it. -/
def isExtension (extension : String) : Bool :=
  match extension.toList with
  | '.' :: _ :: _ => true
  | _ => false

/-- Add the readers of references to a table, one after the other. -/
def extend (modules : List Module) (table : Table) :
    List (String × String) → Act Table
  | [] => return table
  | (extension, reference) :: rest => do
    if !isExtension extension then
      throw (.config (.malformedExtension extension))
    let reader ← Act.lift (resolve modules reference)
    Act.detail ("Registered parser " ++ reference ++ " for " ++ extension)
    extend modules (put extension reader table) rest

/-- The table of the default readers and those of references. -/
def build (modules : List Module) (references : List (String × String)) : Act Table :=
  extend modules defaultTable references

end Stencil.Registry
