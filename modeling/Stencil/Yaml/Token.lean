import Stencil.Text.CodePoint

/-!
# Tokens of YAML documents

Indentation is turned into tokens of its own, so that blocks have a start and an end
as lists and mappings in brackets do.
-/

namespace Stencil.Yaml

/-- An instruction before a document. -/
inductive Directive
  | version (major minor : Int)
  | tagHandle (handle start : String)
  | reserved
deriving DecidableEq

inductive Token
  | streamStart
  | streamEnd
  | directive (directive : Directive)
  | documentStart
  | documentEnd
  | blockSequenceStart
  | blockMappingStart
  | blockEnd
  | flowSequenceStart
  | flowMappingStart
  | flowSequenceEnd
  | flowMappingEnd
  | blockEntry
  | flowEntry
  | key
  | value
  | alias (name : String)
  | anchor (name : String)
  | tag (handle : Option String) (suffix : String)
  | scalar (content : Text) (isPlain : Bool)
deriving DecidableEq

end Stencil.Yaml
