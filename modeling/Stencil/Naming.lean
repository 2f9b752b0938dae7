import Stencil.Failure
import Stencil.Text.Search

/-!
# Names of entities and outputs

A data file names an entity and, together with a template, an output: the names of
the data file and of the template follow one another without a mark between them.
-/

namespace Stencil.Naming

/-- The name of a file from its last dot on. -/
def extension? (path : Path) : Option String :=
  let name := path.name.toList
  (Text.findLast? ['.'] name).map fun place => String.ofList (name.drop place)

/-- How many characters at the end of a file's name do not belong to its entity. -/
def endingLength : Nat := 5

/-- The entity that a data file names. -/
def entityName (path : Path) : Except Failure String :=
  let name := path.name.toList
  if name.length ≤ endingLength then
    .error (.uninterpretable path .nameTooShort)
  else
    .ok (String.ofList (name.take (name.length - endingLength)))

/-- What the name of every output ends with. -/
def outputEnding : String := ".java"

/-- The name of the output of a template for a data file. -/
def outputName (dataFile template : Path) : String :=
  dataFile.name ++ template.name ++ outputEnding

/-- Where the output of a template for a data file is written. -/
def outputPath (dataFile template folder : Path) : Path :=
  folder.child (outputName dataFile template)

@[simp]
theorem parent_outputPath (dataFile template folder : Path) :
    (outputPath dataFile template folder).parent = folder := by
  simp [outputPath]

@[simp]
theorem name_outputPath (dataFile template folder : Path) :
    (outputPath dataFile template folder).name = outputName dataFile template := by
  simp [outputPath]

end Stencil.Naming
