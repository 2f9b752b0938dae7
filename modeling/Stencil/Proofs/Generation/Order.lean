import Mathlib.Data.List.Lex
import Stencil.Proofs.Generation.Walks

/-!
# The order of a walk

A data file stands at the names of its path, and an output at those of its data file and
the name of its template.  A walk goes through these positions in strict order: what has
been done comes before what is left, and the next job comes before all others.
-/

namespace Stencil.Generation

open Outcome
open Files (Place Tree)

/-! ## Positions -/

/-- Positions part somewhere, and there the name of the first one is less. -/
def Precedes (first second : List String) : Prop :=
  ∃ common name other, name < other ∧ common ++ [name] <+: first ∧
    common ++ [other] <+: second

namespace Precedes

variable {first second third fourth : List String}

/-- Precedence passes on to longer positions. -/
theorem extend (precedes : Precedes first second) (front : first <+: third)
    (back : second <+: fourth) : Precedes third fourth := by
  obtain ⟨common, name, other, less, here, there⟩ := precedes
  exact ⟨common, name, other, less, here.trans front, there.trans back⟩

theorem lt (precedes : Precedes first second) : first < second := by
  obtain ⟨common, name, other, less, ⟨front, rfl⟩, back, rfl⟩ := precedes
  rw [List.append_assoc, List.append_assoc]
  exact List.append_left_lt (List.cons_lt_cons_iff.mpr (.inl less))

theorem of_lt {common : List String} {name other : String} (less : name < other) :
    Precedes (common ++ [name]) (common ++ [other]) :=
  ⟨common, name, other, less, List.prefix_refl _, List.prefix_refl _⟩

end Precedes

/-- The position of an output. -/
def pairPosition (pair : Path × Path) : List String :=
  pair.1.parts ++ [pair.2.name]

/-- The position of what is to be done. -/
def Job.position : Job → List String
  | .folder path => path.parts
  | .file path => path.parts
  | .pair task template _ => pairPosition (task.source, template)

/-- The data file and the template of an output. -/
def Job.pair? : Job → Option (Path × Path)
  | .folder _ => none
  | .file _ => none
  | .pair task template _ => some (task.source, template)

/-- The outputs that have been attended to. -/
def pairsOf (steps : List Step) : List (Path × Path) :=
  steps.filterMap fun step => step.job.pair?

@[simp]
theorem pairsOf_append (first second : List Step) :
    pairsOf (first ++ second) = pairsOf first ++ pairsOf second :=
  List.filterMap_append ..

/-- What has been done comes before what is left, all in strict order. -/
def Ordered (done : List Step) (jobs : List Job) : Prop :=
  ((pairsOf done).map pairPosition ++ jobs.map Job.position).Pairwise Precedes

/-! ## Steps -/

variable {generation : Generation} {world finish after : World} {next rest left : List Job}
  {steps done : List Step} {outputs : List Path}

theorem position_ofEntry (path : Path) (isFolder : Bool) :
    (Job.ofEntry (path, isFolder)).position = path.parts := by
  cases isFolder <;> rfl

theorem distinct_sublist (templates : List Path) :
    (Task.distinct templates).Sublist templates := by
  induction templates with
  | nil => exact .slnil
  | cons first rest ih => exact .cons_cons _ (List.filter_sublist.trans ih)

/-- Templates are listed by name. -/
theorem sorted_listTemplates {files : Tree} {folder : Path} {templates : List Path}
    (sound : files.Sound) (listed : listTemplates files folder = .ok templates) :
    templates.Pairwise fun first second => first.name < second.name := by
  rcases listTemplates_ok listed with ⟨trail, place, -, rfl⟩ | ⟨-, rfl⟩
  · rw [List.pairwise_map]
    simpa only [Path.name_child] using sorted_childNames sound
  · exact .nil

/-- The jobs that take the place of one stand within its position, in order. -/
theorem positions_of_perform [rendering : Rendering] [rendering.IsQuiet] {job : Job}
    (readers : generation.readers.IsOwn)
    (sound : world.files.Sound)
    (performed : generation.perform job world = .ok (next, outputs) after) :
    (next.map Job.position).Pairwise Precedes ∧
      ∀ later ∈ next, job.position <+: later.position := by
  cases job with
  | folder path =>
    obtain ⟨rfl, -, trail, place, -, rfl⟩ := perform_folder_ok performed
    constructor
    · rw [List.map_map, List.pairwise_map]
      apply (sorted_childNames sound).imp
      intro first second less
      simp only [Function.comp_apply, position_ofEntry]
      exact .of_lt less
    · intro later member
      obtain ⟨name, -, rfl⟩ := List.mem_map.mp member
      rw [position_ofEntry]
      exact List.prefix_append ..
  | file path =>
    obtain ⟨-, -, ⟨-, rfl⟩ | ⟨-, task, -, isTask, rfl⟩⟩ := perform_file_ok readers performed
    · exact ⟨.nil, fun later member => nomatch member⟩
    · obtain rfl := isTask.source
      constructor
      · rw [Job.ofTask, Task.outputs, List.map_map, List.map_map, List.pairwise_map]
        refine ((sorted_listTemplates sound isTask.templates).sublist
          (distinct_sublist _)).imp fun less => ?_
        exact .of_lt less
      · intro later member
        obtain ⟨⟨template, output⟩, -, rfl⟩ := List.mem_map.mp member
        exact List.prefix_append ..
  | pair task template output =>
    obtain ⟨rfl, -⟩ := perform_pair_ok sound performed
    exact ⟨.nil, fun later member => nomatch member⟩

/-- In an ordered list several positions within one can take its place. -/
private theorem pairwise_refine {front back inner : List (List String)} {position : List String}
    (ordered : (front ++ position :: back).Pairwise Precedes)
    (sorted : inner.Pairwise Precedes)
    (within : ∀ other ∈ inner, position <+: other) :
    (front ++ (inner ++ back)).Pairwise Precedes := by
  obtain ⟨before, after, between⟩ := List.pairwise_append.mp ordered
  obtain ⟨first, others⟩ := List.pairwise_cons.mp after
  refine List.pairwise_append.mpr ⟨before, List.pairwise_append.mpr
    ⟨sorted, others, fun other member later follows => ?_⟩, fun earlier member later follows => ?_⟩
  · exact (first later follows).extend (within other member) (List.prefix_refl _)
  · rcases List.mem_append.mp follows with inside | behind
    · exact (between earlier member position (List.mem_cons_self ..)).extend
        (List.prefix_refl _) (within later inside)
    · exact between earlier member later (List.mem_cons_of_mem _ behind)

/-- Every step keeps the order. -/
theorem Ordered.perform [rendering : Rendering] [rendering.IsQuiet] {job : Job}
    (readers : generation.readers.IsOwn)
    (sound : world.files.Sound)
    (ordered : Ordered done (job :: rest))
    (performed : generation.perform job world = .ok (next, outputs) after) :
    Ordered (done ++ [⟨job, world, after, outputs⟩]) (next ++ rest) := by
  obtain ⟨sorted, within⟩ := positions_of_perform readers sound performed
  unfold Ordered at ordered ⊢
  rw [List.map_cons] at ordered
  rw [pairsOf_append, List.map_append, List.map_append]
  have refined := pairwise_refine ordered sorted fun other member => by
    obtain ⟨later, inside, rfl⟩ := List.mem_map.mp member
    exact within later inside
  cases job with
  | folder path => simpa [pairsOf, Job.pair?] using refined
  | file path => simpa [pairsOf, Job.pair?] using refined
  | pair task template output =>
    obtain ⟨rfl, -⟩ := perform_pair_ok sound performed
    simpa [pairsOf, Job.pair?, Job.position] using ordered

/-- A run from a directory goes through all positions in order. -/
theorem Runs.ordered [rendering : Rendering] [rendering.IsQuiet] {root : Path}
    (readers : generation.readers.IsOwn)
    (sound : world.files.Sound)
    (runs : Runs generation world [.folder root] steps finish left) : Ordered steps left := by
  have begun : world.files.Sound ∧ Ordered [] [.folder root] := ⟨sound, List.pairwise_singleton _ _⟩
  refine (runs.keeps (fun done world jobs => world.files.Sound ∧ Ordered done jobs)
    (fun ⟨sound, ordered⟩ performed => ?_) begun).2
  exact ⟨(evolves_of_perform readers sound performed).sound,
    ordered.perform readers sound performed⟩

end Stencil.Generation
