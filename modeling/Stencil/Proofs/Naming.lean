import Stencil.Naming
import Stencil.Proofs.Text.Split

/-!
# Where outputs stand

A path that is read has names without slashes, none of them empty or a dot.  So the name of
an output is a single name as well, and joining it to the path of a directory only adds it at
the end: the output stands in this very directory, whatever the paths of the data file and of
the template are.
-/

namespace Stencil

namespace Text

variable {α : Type} [DecidableEq α] {separator : α} {items : List α}

/-- No piece holds the separator. -/
theorem not_mem_of_mem_pieces : ∀ piece ∈ pieces separator items, separator ∉ piece := by
  induction items with
  | nil => simp [pieces]
  | cons item items ih =>
    unfold pieces
    split
    · exact List.forall_mem_cons.mpr ⟨List.not_mem_nil, ih⟩
    · next other =>
      split
      · simp [Ne.symm other]
      · next piece more found =>
        rw [found] at ih
        obtain ⟨here, others⟩ := List.forall_mem_cons.mp ih
        refine List.forall_mem_cons.mpr ⟨fun member => ?_, others⟩
        rcases List.mem_cons.mp member with same | inside
        · exact other same.symm
        · exact here inside

end Text

namespace Path

/-- A name of one entry: it leads neither through other names, nor nowhere, nor back. -/
structure IsEntryName (name : String) : Prop where
  single : '/' ∉ name.toList
  nonempty : name ≠ ""
  notHere : name ≠ "."
  notAround : name ≠ ".."

/-- No name of a path that is read holds a slash. -/
theorem slash_not_mem_of_mem_parts (text : String) :
    ∀ part ∈ (ofString text).parts, '/' ∉ part.toList := by
  intro part member
  obtain ⟨piece, kept, rfl⟩ := List.mem_map.mp member
  rw [String.toList_ofList]
  exact Text.not_mem_of_mem_pieces piece (List.mem_filter.mp kept).1

theorem slash_not_mem_name (text : String) : '/' ∉ (ofString text).name.toList := by
  unfold name
  cases last : (ofString text).parts.getLast? with
  | none => exact List.not_mem_nil
  | some part => exact slash_not_mem_of_mem_parts text part (List.mem_of_getLast? last)

/-- The name of an entry is read as a path of this name alone. -/
theorem ofString_of_isEntryName {name : String} (isEntryName : IsEntryName name) :
    ofString name = ⟨.none, [name]⟩ := by
  have root : rootOf name.toList = .none := by
    cases split : name.toList with
    | nil => rfl
    | cons first rest =>
      have other : first ≠ '/' := by
        rintro rfl
        exact isEntryName.single (split ▸ List.mem_cons_self ..)
      unfold rootOf
      split <;> simp_all
  have parts : partsOf name.toList = [name] := by
    have nonempty : name.toList ≠ [] := fun empty =>
      isEntryName.nonempty (String.toList_injective empty)
    have notHere : name.toList ≠ ['.'] := fun dot =>
      isEntryName.notHere (String.toList_injective dot)
    rw [partsOf, Text.pieces_of_not_mem isEntryName.single]
    simp [nonempty, notHere]
  rw [ofString, root, parts]

/-- A path is that of an entry of a directory: the path of the directory with one name more. -/
structure IsEntry (path folder : Path) (name : String) : Prop where
  joined : path = folder.join (ofString name)
  parent : path.parent = folder
  named : path.name = name
  apart : path ≠ folder
  isEntryName : IsEntryName name

theorem isEntry_child {name : String} (isEntryName : IsEntryName name) (folder : Path) :
    IsEntry (folder.child name) folder name where
  joined := by
    rw [ofString_of_isEntryName isEntryName]
    rfl
  parent := parent_child folder name
  named := name_child folder name
  apart := by
    intro same
    have lengths := congrArg (fun path => path.parts.length) same
    simp [child] at lengths
  isEntryName := isEntryName

end Path

namespace Naming

/-- The name of an output is at least as long as its ending. -/
theorem outputName_ne_of_short {other : String} (short : other.length < outputEnding.length)
    (dataFile template : Path) : outputName dataFile template ≠ other := by
  rintro rfl
  rw [outputName, String.length_append] at short
  omega

/-- The name of an output is that of one entry, whatever the names it is made of. -/
theorem isEntryName_outputName {dataFile template : Path}
    (ofData : '/' ∉ dataFile.name.toList) (ofTemplate : '/' ∉ template.name.toList) :
    Path.IsEntryName (outputName dataFile template) where
  single := by
    have ofEnding : '/' ∉ outputEnding.toList := by decide
    simp [outputName, ofData, ofTemplate, ofEnding]
  nonempty := outputName_ne_of_short (by decide) _ _
  notHere := outputName_ne_of_short (by decide) _ _
  notAround := outputName_ne_of_short (by decide) _ _

/-- In one directory, outputs share a path exactly if their names together are the same. -/
theorem outputPath_inj {dataFile template other another folder : Path} :
    outputPath dataFile template folder = outputPath other another folder ↔
      dataFile.name ++ template.name = other.name ++ another.name := by
  constructor
  · intro same
    have names := congrArg Path.name same
    rw [name_outputPath, name_outputPath, outputName, outputName] at names
    exact String.append_left_inj _ |>.mp names
  · intro same
    rw [outputPath, outputPath, outputName, outputName, same]

/-- For one data file, outputs share a path exactly if their templates share a name. -/
theorem outputPath_eq_iff_name_eq {dataFile template other folder : Path} :
    outputPath dataFile template folder = outputPath dataFile other folder ↔
      template.name = other.name := by
  rw [outputPath_inj, String.append_right_inj]

end Naming

end Stencil
