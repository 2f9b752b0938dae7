import Stencil.Template.Operator

/-!
# What lies outside of templates

Every value has more attributes than a template is meant for.  They lead to functions,
classes and modules, and from there to everything that a process can do.  Here it is only
known which names lead there; what is behind them is a foreign object, and somebody else
has to answer for it.
-/

namespace Stencil.Template

open Run

/-- Names that lead outside from every value. -/
def commonNames : List String :=
  ["__class__", "__delattr__", "__dir__", "__doc__", "__eq__", "__format__", "__ge__",
    "__getattribute__", "__getstate__", "__gt__", "__hash__", "__init__", "__init_subclass__",
    "__le__", "__lt__", "__ne__", "__new__", "__reduce__", "__reduce_ex__", "__repr__",
    "__setattr__", "__sizeof__", "__str__", "__subclasshook__"]

/-- Names that lead outside from every number. -/
def numberNames : List String :=
  ["__abs__", "__add__", "__bool__", "__ceil__", "__divmod__", "__float__", "__floor__",
    "__floordiv__", "__getnewargs__", "__int__", "__mod__", "__mul__", "__neg__", "__pos__",
    "__pow__", "__radd__", "__rdivmod__", "__rfloordiv__", "__rmod__", "__rmul__", "__round__",
    "__rpow__", "__rsub__", "__rtruediv__", "__sub__", "__truediv__", "__trunc__"]

/-- Names that lead outside from every value with members. -/
def containerNames : List String :=
  ["__contains__", "__getitem__", "__iter__", "__len__"]

def textNames : List String :=
  containerNames ++
    ["__add__", "__getnewargs__", "__mod__", "__mul__", "__rmod__", "__rmul__", "maketrans"]

def bytesNames : List String :=
  textNames ++
    ["__bytes__", "capitalize", "center", "count", "endswith", "expandtabs", "find", "fromhex",
      "index", "isalnum", "isalpha", "isascii", "isdigit", "islower", "isspace", "istitle",
      "isupper", "join", "ljust", "lower", "lstrip", "partition", "removeprefix",
      "removesuffix", "replace", "rfind", "rindex", "rjust", "rpartition", "rsplit", "rstrip",
      "split", "splitlines", "startswith", "strip", "swapcase", "title", "translate", "upper",
      "zfill"]

def tupleNames : List String :=
  containerNames ++ ["__add__", "__class_getitem__", "__getnewargs__", "__mul__", "__rmul__"]

def listNames : List String :=
  containerNames ++
    ["__add__", "__class_getitem__", "__delitem__", "__iadd__", "__imul__", "__mul__",
      "__reversed__", "__rmul__", "__setitem__"]

def dictNames : List String :=
  containerNames ++
    ["__class_getitem__", "__delitem__", "__ior__", "__or__", "__reversed__", "__ror__",
      "__setitem__"]

/-- Names of the operations between sets. -/
def setOperatorNames : List String :=
  ["__and__", "__or__", "__rand__", "__ror__", "__rsub__", "__rxor__", "__sub__", "__xor__"]

def rangeNames : List String :=
  containerNames ++ ["__bool__", "__reversed__"]

def dateNames : List String :=
  ["__add__", "__radd__", "__rsub__", "__sub__", "fromisocalendar", "fromisoformat",
    "fromordinal", "fromtimestamp", "isocalendar", "max", "min", "resolution", "timetuple",
    "today"]

def pathNames : List String :=
  ["__bytes__", "__enter__", "__exit__", "__fspath__", "__module__", "__rtruediv__",
    "__slots__", "__truediv__", "_cached_cparts", "_cparts", "_drv", "_flavour",
    "_format_parsed_parts", "_from_parsed_parts", "_from_parts", "_hash", "_make_child",
    "_make_child_relpath", "_parse_args", "_parts", "_pparts", "_root", "_scandir", "_str",
    "absolute", "anchor", "as_uri", "chmod", "cwd", "drive", "exists", "expanduser", "glob",
    "group", "hardlink_to", "home", "is_block_device", "is_char_device", "is_dir", "is_fifo",
    "is_file", "is_mount", "is_relative_to", "is_reserved", "is_socket", "is_symlink", "iterdir",
    "joinpath", "lchmod", "link_to", "lstat", "match", "mkdir", "open", "owner", "parents",
    "read_bytes", "read_text", "readlink", "relative_to", "rename", "replace", "resolve",
    "rglob", "rmdir", "samefile", "stat", "suffixes", "symlink_to", "touch", "unlink",
    "with_name", "with_stem", "with_suffix", "write_bytes", "write_text"]

def undefinedNames : List String :=
  containerNames ++
    ["__add__", "__aiter__", "__bool__", "__call__", "__complex__", "__div__", "__float__",
      "__floordiv__", "__getattr__", "__int__", "__mod__", "__module__", "__mul__", "__neg__",
      "__pos__", "__pow__", "__radd__", "__rdiv__", "__rfloordiv__", "__rmod__", "__rmul__",
      "__rpow__", "__rsub__", "__rtruediv__", "__slots__", "__sub__", "__truediv__",
      "_fail_with_undefined_error", "_undefined_exception", "_undefined_hint",
      "_undefined_message", "_undefined_name", "_undefined_obj"]

/-- Names that lead outside from a function. -/
def functionNames : List String :=
  ["__annotations__", "__builtins__", "__call__", "__closure__", "__code__", "__defaults__",
    "__dict__", "__get__", "__globals__", "__kwdefaults__", "__module__", "__name__",
    "__qualname__"]

/-- Names that lead outside from a class. -/
def classNames : List String :=
  ["__base__", "__bases__", "__basicsize__", "__call__", "__dict__", "__dictoffset__",
    "__flags__", "__instancecheck__", "__itemsize__", "__module__", "__mro__", "__name__",
    "__or__", "__prepare__", "__qualname__", "__ror__", "__subclasscheck__", "__subclasses__",
    "__text_signature__", "__weakrefoffset__", "mro"]

/-- Names that lead outside from everything that is made of a class of templates. -/
def instanceNames : List String :=
  ["__dict__", "__module__", "__weakref__"]

def standardNamesOutside : StandardName → List String
  | .range => classNames ++ rangeNames ++ ["count", "index", "start", "step", "stop"]
  | .dict => classNames ++ dictNames ++
    ["clear", "copy", "fromkeys", "get", "items", "keys", "pop", "popitem", "setdefault",
      "update", "values"]
  | .lipsum => functionNames
  | .cycler => classNames ++ ["__annotations__", "__next__", "__weakref__", "current", "next",
    "reset"]
  | .joiner => classNames ++ ["__annotations__", "__weakref__"]
  | .namespace_ => classNames ++ ["__annotations__", "__setitem__", "__weakref__"]

/-- Names that lead outside from an object of templates. -/
def objectNames : Object → List String
  | .routine _ => instanceNames ++
    ["__call__", "_argument_count", "_async_invoke", "_default_autoescape", "_environment",
      "_func", "_invoke"]
  | .recursion _ => functionNames
  | .loop _ => instanceNames ++
    ["__annotations__", "__call__", "__iter__", "__len__", "__next__", "_after", "_before",
      "_current", "_iterable", "_iterator", "_last_changed_value", "_length", "_peek_next",
      "_recurse", "_to_iterator", "_undefined"]
  | .attributes _ => []
  | .cycler _ _ => instanceNames ++ ["__next__"]
  | .joiner _ _ => instanceNames ++ ["__call__"]
  | .module_ _ _ _ => instanceNames ++ ["__html__", "__name__", "_body_stream"]
  | .selfReference _ => instanceNames ++ ["_TemplateReference__context", "__getitem__"]
  | .blockReference _ _ _ _ => instanceNames ++
    ["__call__", "_async_call", "_context", "_depth", "_stack"]
  | .stream _ =>
    ["__del__", "__iter__", "__name__", "__next__", "__qualname__", "close", "gi_code",
      "gi_frame", "gi_running", "gi_suspended", "gi_yieldfrom", "send", "throw"]
  | .foreign _ _ => []

/-- Names that lead outside from a value, apart from those that every value has. -/
def namesOutside : Value → List String
  | .none => ["__bool__"]
  | .bool _ => integerNames
  | .int _ => integerNames
  | .float _ => numberNames ++ ["__getformat__", "fromhex"]
  | .text _ => textNames
  | .markup _ => textNames ++
    ["__dict__", "__html__", "__html_format__", "__module__", "__slots__"]
  | .bytes _ => bytesNames
  | .date _ => dateNames
  | .time _ => ["fromisoformat", "max", "min", "resolution"]
  | .moment _ => dateNames ++
    ["astimezone", "combine", "now", "strptime", "timestamp", "timetz", "tzinfo",
      "utcfromtimestamp", "utcnow", "utctimetuple"]
  | .path _ => pathNames
  | .tuple _ => tupleNames
  | .group _ _ => tupleNames ++
    ["__annotations__", "__match_args__", "__module__", "__orig_bases__", "__slots__", "_asdict",
      "_field_defaults", "_fields", "_make", "_replace"]
  | .list _ => listNames
  | .dict _ => dictNames
  | .set _ => containerNames ++ setOperatorNames ++
    ["__class_getitem__", "__iand__", "__ior__", "__isub__", "__ixor__"]
  | .range _ _ _ => rangeNames
  | .view .values _ => ["__iter__", "__len__", "__reversed__", "mapping"]
  | .view _ _ => setOperatorNames ++
    ["__contains__", "__iter__", "__len__", "__reversed__", "isdisjoint", "mapping"]
  | .undefined _ => undefinedNames
  | .standard name => standardNamesOutside name
  | .method _ _ =>
    ["__call__", "__func__", "__module__", "__name__", "__qualname__", "__self__",
      "__text_signature__"]
  | .object _ => []
where
  integerNames := numberNames ++
    ["__and__", "__index__", "__invert__", "__lshift__", "__or__", "__rand__", "__rlshift__",
      "__ror__", "__rrshift__", "__rshift__", "__rxor__", "__xor__", "from_bytes"]

/-- What a name leads to outside of templates. -/
def foreign? (value : Value) (name : String) : Run (Option Value) := do
  let found := fun (origin : Value) (names : List String) => do
    return some (Value.object (← newObject (.foreign origin names)))
  match value with
  | .object place =>
    match ← object place with
    | .foreign origin names => found origin (names ++ [name])
    | .attributes _ =>
      if name == "__class__" || name == "_Namespace__attrs" then found value [name]
      else return none
    | known =>
      if (commonNames ++ objectNames known).contains name then found value [name]
      else return none
  | value =>
    if (commonNames ++ namesOutside value).contains name then found value [name]
    else return none

end Stencil.Template
