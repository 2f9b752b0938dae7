import Stencil.Proofs.Entries
import Stencil.Proofs.Generation.Order
import Stencil.Proofs.Generation.TemplateFiles
import Stencil.Proofs.Naming

/-!
# The outputs of one data file

The outputs of a task are a table from its templates to paths, made by putting one template
after the other, so a template that comes again changes nothing.  All paths are those of
entries of the output directory.  They differ as long as the names of the templates do, and
the templates of a listed directory have different names.
-/

namespace Stencil

open Naming (outputPath)

namespace Task

/-- A template with its output. -/
def paired (task : Task) (template : Path) : Path × Path :=
  (template, outputPath task.source template task.folder)

variable {task : Task} {front templates : List Path}

/-- A template that is there is given the same output again. -/
private theorem put_paired_of_mem {template : Path} (member : template ∈ front) :
    Entries.put template (outputPath task.source template task.folder)
      (front.map task.paired) = front.map task.paired := by
  induction front with
  | nil => cases member
  | cons first rest ih =>
    rw [List.map_cons, paired, Entries.put]
    by_cases same : first = template
    · rw [if_pos same, same]
    · rw [if_neg same, ih ((List.mem_cons.mp member).resolve_left (Ne.symm same))]

/-- The new ones among further templates are added in their order. -/
private theorem putAll_paired (front templates : List Path) :
    Entries.putAll (front.map task.paired) (templates.map task.paired) =
      (front ++ (distinct templates).filter (· ∉ front)).map task.paired := by
  induction templates generalizing front with
  | nil => simp [distinct, Entries.putAll]
  | cons template rest ih =>
    rw [List.map_cons, paired, Entries.putAll, distinct]
    by_cases member : template ∈ front
    · have others : ∀ other ∈ distinct rest,
          (decide (other ∉ front) && other != template) = decide (other ∉ front) := by
        intro other _
        by_cases inside : other ∈ front
        · simp [inside]
        · have apart : other ≠ template := fun same => inside (same ▸ member)
          simp [inside, apart]
      rw [put_paired_of_mem member, ih, List.filter_cons_of_neg (by simp [member]),
        List.filter_filter, List.filter_congr others]
    · have absent : template ∉ (front.map task.paired).map Prod.fst := by
        simpa [paired] using member
      have longer : Entries.put template (outputPath task.source template task.folder)
          (front.map task.paired) = (front ++ [template]).map task.paired := by
        rw [Entries.put_of_absent absent, List.map_append]
        rfl
      have others : ∀ other ∈ distinct rest,
          decide (other ∉ front ++ [template]) =
            (decide (other ∉ front) && other != template) := by
        intro other _
        simp [bne, Bool.beq_eq_decide_eq]
      rw [longer, ih, List.filter_cons_of_pos (by simp [member]), List.filter_filter,
        List.filter_congr others, List.append_assoc]
      rfl

/-- The outputs of a task are put into a table one after the other. -/
theorem outputs_eq_putAll (task : Task) :
    task.outputs = Entries.putAll [] (task.templates.map task.paired) := by
  have all : Entries.putAll [] (task.templates.map task.paired) = _ :=
    putAll_paired [] task.templates
  have none : (distinct task.templates).filter (· ∉ ([] : List Path)) = distinct task.templates :=
    List.filter_eq_self.mpr fun _ _ => by simp
  rw [List.nil_append, none] at all
  exact all.symm

private theorem fst_paired (task : Task) : Prod.fst ∘ task.paired = id :=
  rfl

/-- Every template has one output, in the order in which the templates first come. -/
theorem firstSeen_outputs (task : Task) :
    Entries.FirstSeen (task.outputs.map Prod.fst) task.templates := by
  have seen := Entries.firstSeen_putAll_nil (task.templates.map task.paired)
  rwa [← outputs_eq_putAll, List.map_map, fst_paired, List.map_id] at seen

theorem paired_of_mem_outputs {pair : Path × Path} (member : pair ∈ task.outputs) :
    pair.2 = outputPath task.source pair.1 task.folder := by
  obtain ⟨template, -, rfl⟩ := List.mem_map.mp member
  rfl

/-- Templates that come once have their outputs in the same order. -/
theorem outputs_of_nodup (nodup : task.templates.Nodup) :
    task.outputs = task.templates.map task.paired := by
  rw [outputs_eq_putAll, Entries.putAll_of_nodup, List.nil_append]
  rwa [List.nil_append, List.map_map, fst_paired, List.map_id]

/-- Templates of different names have different outputs. -/
theorem nodup_outputs (nodup : (task.templates.map Path.name).Nodup) :
    (task.outputs.map Prod.snd).Nodup := by
  rw [outputs_of_nodup nodup.of_map, List.map_map]
  refine (List.nodup_map_iff_inj_on nodup.of_map).mpr fun first here second there same => ?_
  exact List.inj_on_of_nodup_map nodup here there (Naming.outputPath_eq_iff_name_eq.mp same)

/-- The templates of a listed directory have different names. -/
theorem nodup_names_listTemplates {files : Files.Tree} {folder : Path} (sound : files.Sound)
    (listed : Generation.listTemplates files folder = .ok templates) :
    (templates.map Path.name).Nodup := by
  rw [List.nodup_iff_pairwise_ne, List.pairwise_map]
  exact (Generation.sorted_listTemplates sound listed).imp String.ne_of_lt

/--
Whatever paths are read, an output is an entry of the output directory, and its name is made of
the two names.  For one data file, templates share an output exactly if they share a name.  A
task has an output for each of its templates, in the order in which these first come; if all
names differ, as those of listed templates do, every template has an output of its own.
-/
theorem outputs_confined :
    (∀ source template folder : String,
      Path.IsEntry
        (outputPath (.ofString source) (.ofString template) (.ofString folder))
        (.ofString folder)
        ((Path.ofString source).name ++ (Path.ofString template).name ++ ".java")) ∧
    (∀ source template other folder : Path,
      outputPath source template folder = outputPath source other folder ↔
        template.name = other.name) ∧
    (∀ task : Task,
      Entries.FirstSeen (task.outputs.map Prod.fst) task.templates ∧
      ∀ pair ∈ task.outputs, pair.2 = outputPath task.source pair.1 task.folder) ∧
    (∀ task : Task, (task.templates.map Path.name).Nodup →
      task.outputs = task.templates.map task.paired ∧
      (task.outputs.map Prod.snd).Nodup) ∧
    (∀ (files : Files.Tree) (folder : Path) (templates : List Path), files.Sound →
      Generation.listTemplates files folder = .ok templates →
      (templates.map Path.name).Nodup) := by
  refine ⟨fun source template folder => ?_, fun _ _ _ _ => Naming.outputPath_eq_iff_name_eq,
    fun task => ⟨task.firstSeen_outputs, fun _ => paired_of_mem_outputs⟩,
    fun task nodup => ⟨outputs_of_nodup nodup.of_map, nodup_outputs nodup⟩,
    fun _ _ _ => nodup_names_listTemplates⟩
  have isName := Naming.isEntryName_outputName (Path.slash_not_mem_name source)
    (Path.slash_not_mem_name template)
  exact Path.isEntry_child isName (.ofString folder)

theorem outputs_confined_partsFiles :
    Generation.partsFiles.Sound ∧
      ∃ templates,
        Generation.listTemplates Generation.partsFiles (.ofString "templates") = .ok templates ∧
        templates.length = 2 ∧
        ∀ task : Task, task.templates = templates →
          task.outputs = templates.map task.paired ∧ (task.outputs.map Prod.snd).Nodup := by
  have listed : Generation.listTemplates Generation.partsFiles (.ofString "templates") =
      .ok [.ofString "templates/Bean", Generation.partsPath] := by decide +kernel
  refine ⟨Generation.sound_partsFiles, _, listed, rfl, fun task same => ?_⟩
  rw [← same] at listed ⊢
  exact outputs_confined.2.2.2.1 task
    (outputs_confined.2.2.2.2 _ _ _ Generation.sound_partsFiles listed)

end Task

end Stencil
