import Stencil.Proofs.Entries
import Stencil.Proofs.Template.InterpolationStatements
import Stencil.Template.Settle

/-!
# Programs of text with references

The statement of a plain template reads each of its names in the outermost scope.  So the
template becomes a program that fills one slot for each name when it starts, and then writes
the pieces in their order.
-/

namespace Stencil.Template

open Outcome
open Interpolated (Piece statements)

/-! ## Entries under names -/

namespace Level

variable {κ α : Type} [DecidableEq κ] {key : κ} {entries : List (κ × α)}

theorem put_of_new (new : ∀ entry ∈ entries, entry.1 ≠ key) (value : α) :
    put key value entries = entries ++ [(key, value)] := by
  have absent : ¬(entries.any fun entry => decide (entry.1 = key)) = true := by
    rw [List.any_eq_true]
    rintro ⟨entry, member, same⟩
    exact new entry member (of_decide_eq_true same)
  rw [put, if_neg absent]

end Level

/-- Under each name stands what is made for it. -/
theorem lookup_map {κ α β : Type} [BEq κ] [LawfulBEq κ] {form : α → κ} (value : α → β)
    (injective : Function.Injective form) {items : List α} {item : α} (member : item ∈ items) :
    (items.map fun item => (form item, value item)).lookup (form item) = some (value item) := by
  induction items with
  | nil => cases member
  | cons first rest ih =>
    by_cases same : item = first
    · rw [same, List.map_cons, List.lookup_cons_self]
    · have other : (form item == form first) = false :=
        beq_eq_false_iff_ne.mpr fun equal => same (injective equal)
      rw [List.map_cons, List.lookup_cons, other]
      exact ih (List.mem_of_ne_of_mem same member)

/-! ## Resolving -/

namespace Scope

/-- An outermost scope in which these names have been read. -/
def reading (names : List String) : Scope :=
  ⟨⟨0, names.map fun name => (name, ⟨0, name⟩),
    names.map fun name => (⟨0, name⟩, .resolve name), []⟩, []⟩

variable {names : List String} {name : String}

theorem slot?_reading (known : name ∈ names) : (reading names).slot? name = some ⟨0, name⟩ := by
  have found : (names.map fun name => (name, (⟨0, name⟩ : Slot))).lookup name =
      some ⟨0, name⟩ := lookup_map _ Function.injective_id known
  unfold slot? Level.slot? reading
  rw [found]
  rfl

theorem slot?_reading_eq_none (unknown : name ∉ names) : (reading names).slot? name = none := by
  have missing : (names.map fun name => (name, (⟨0, name⟩ : Slot))).lookup name = none :=
    Entries.lookup_eq_none (by simpa [Function.comp_def] using unknown)
  unfold slot? Level.slot? reading
  rw [missing]
  rfl

/-- A name gets a slot when it is read for the first time. -/
theorem load_reading (names : List String) (name : String) :
    (reading names).load name = reading (if name ∈ names then names else names ++ [name]) := by
  unfold load
  split
  · next slot found =>
    split
    · rfl
    · next unknown =>
      rw [slot?_reading_eq_none unknown] at found
      cases found
  · next missing =>
    have unknown : name ∉ names := fun known => by
      rw [slot?_reading known] at missing
      cases missing
    have newName : ∀ entry ∈ names.map fun name => (name, (⟨0, name⟩ : Slot)),
        entry.1 ≠ name := by
      intro entry member
      obtain ⟨other, among, rfl⟩ := List.mem_map.mp member
      exact fun same => unknown (same ▸ among)
    have newSlot : ∀ entry ∈ names.map fun name => ((⟨0, name⟩ : Slot), Load.resolve name),
        entry.1 ≠ ⟨0, name⟩ := by
      intro entry member same
      obtain ⟨other, among, rfl⟩ := List.mem_map.mp member
      cases same
      exact unknown among
    rw [if_neg unknown]
    unfold Level.define reading
    dsimp only
    rw [Level.put_of_new newName, Level.put_of_new newSlot, List.map_append, List.map_append]
    rfl

/-- The names of pieces are read beside those that have been read before. -/
theorem exists_loadParts (pieces : List Piece) (known : List String) :
    ∃ names, (reading known).loadParts (pieces.map Piece.part) = reading names ∧
      ∀ name, name ∈ names ↔ name ∈ known ∨ .reference name ∈ pieces := by
  induction pieces generalizing known with
  | nil => exact ⟨known, rfl, by simp⟩
  | cons piece more ih =>
    cases piece with
    | literal text =>
      obtain ⟨names, loaded, members⟩ := ih known
      exact ⟨names, loaded, by simpa using members⟩
    | reference name =>
      have step : (reading known).loadParts ((Piece.reference name :: more).map Piece.part) =
          ((reading known).load name).loadParts (more.map Piece.part) := rfl
      rw [step, load_reading]
      split
      · next found =>
        obtain ⟨names, loaded, members⟩ := ih known
        refine ⟨names, loaded, fun other => ?_⟩
        rw [members, List.mem_cons, Piece.reference.injEq]
        constructor
        · exact Or.imp_right .inr
        · rintro (among | rfl | among)
          · exact .inl among
          · exact .inl found
          · exact .inr among
      · next new =>
        obtain ⟨names, loaded, members⟩ := ih (known ++ [name])
        refine ⟨names, loaded, fun other => ?_⟩
        rw [members, List.mem_append, List.mem_singleton, List.mem_cons,
          Piece.reference.injEq, or_assoc]

end Scope

namespace Interpolated

/-- The part of an output step that a piece becomes. -/
def Piece.emit : Piece → EmitPart
  | .literal text => .text (Text.ofChars text)
  | .reference name => .value .never (.name ⟨0, name⟩)

/-- The steps of pieces: one, unless there are none. -/
def steps (pieces : List Piece) : List Step :=
  if pieces.isEmpty then [] else [.emit false (pieces.map Piece.emit)]

/-- A program that fills slots for these names and writes pieces. -/
def program (name : String) (names : List String) (pieces : List Piece) : Program where
  name := name
  main := ⟨(Scope.reading names).loads, none, none, steps pieces⟩
  blocks := []
  extends_ := false

end Interpolated

open Interpolated (program steps)

/-- A name is nothing that is known before a template runs. -/
theorem shown_name (escape : EscapeState) (name : String) :
    settler.shown escape (.name name) = none := rfl

theorem resolvePart_piece {piece : Piece} {position : Position} {names : List String}
    (scope : position.scope = .reading names) (plain : position.escape = {})
    (known : ∀ name, piece = .reference name → name ∈ names) (state : ExtendState) :
    resolvePart settler position piece.part state = .ok piece.emit state := by
  cases piece with
  | literal text => rfl
  | reference name =>
    have resolved : resolveAt settler position (.name name) state =
        .ok (.name ⟨0, name⟩) state := by
      unfold resolveAt resolveExpression slotOf
      rw [scope, Scope.slot?_reading (known name rfl)]
      rfl
    show resolvePart settler position (.expression (.name name)) state = _
    unfold resolvePart
    dsimp only
    rw [shown_name]
    refine (bind_apply_of_ok resolved).trans ?_
    rw [plain]
    rfl

theorem mapM_resolvePart {pieces : List Piece} {position : Position} {names : List String}
    (scope : position.scope = .reading names) (plain : position.escape = {})
    (known : ∀ name, .reference name ∈ pieces → name ∈ names) (state : ExtendState) :
    (pieces.map Piece.part).mapM (resolvePart settler position) state =
      .ok (pieces.map Piece.emit) state := by
  rw [List.mapM_map]
  exact mapM_apply_of_ok fun piece member =>
    resolvePart_piece scope plain (fun name same => known name (same ▸ member)) state

/-- The name that a piece reads. -/
def Piece.uses : Piece → List NameUse
  | .literal _ => []
  | .reference name => [⟨true, name⟩]

/-- The names that pieces read. -/
theorem inStatements_statements (pieces : List Piece) :
    NameUse.inStatements (statements pieces) = pieces.flatMap Piece.uses := by
  unfold statements
  split
  · next empty =>
    rw [List.isEmpty_iff.mp empty]
    rfl
  · show (pieces.map Piece.part).flatMap _ ++ [] = _
    rw [List.append_nil, List.flatMap_map]
    refine congrArg (List.flatMap · pieces) (funext fun piece => ?_)
    cases piece <;> rfl

/-- No piece asks for the template itself. -/
theorem undeclared_statements {pieces : List Piece} (free : .reference "self" ∉ pieces) :
    undeclared ["self"] (statements pieces) = [] := by
  unfold undeclared
  rw [inStatements_statements]
  dsimp only
  induction pieces with
  | nil => rfl
  | cons piece more ih =>
    obtain ⟨here, others⟩ := not_or.mp (mt List.mem_cons.mpr free)
    cases piece with
    | literal text => exact ih others
    | reference name =>
      have other : ¬"self" = name := fun same => here (congrArg Piece.reference same)
      rw [List.flatMap_cons, List.foldl_append, Piece.uses, List.foldl_cons, List.foldl_nil]
      simpa [other, Ne.symm other] using ih others

/-- The statements of pieces become their steps. -/
theorem resolveBody_statements {pieces : List Piece} {names : List String} (position : Position)
    (unguarded : position.guarded = false)
    (scope : position.scope = .reading names) (plain : position.escape = {})
    (known : ∀ name, .reference name ∈ pieces → name ∈ names) (state : ExtendState) :
    resolveBody settler position (statements pieces) state = .ok (steps pieces) state := by
  unfold statements steps
  split
  · rfl
  · have parts := mapM_resolvePart scope plain known state
    have step : resolveStatement settler position (.output (pieces.map Piece.part)) state =
        .ok ([.emit false (pieces.map Piece.emit)], false) state := by
      unfold resolveStatement
      refine (bind_apply_of_ok (get_apply state)).trans ?_
      rw [unguarded]
      exact (bind_apply_of_ok parts).trans rfl
    unfold resolveBody
    exact (bind_apply_of_ok step).trans rfl

theorem blocksInAll_statements (pieces : List Piece) :
    blocksInAll (statements pieces) = [] := by
  unfold statements
  split <;> rfl

theorem anyExtends_statements (pieces : List Piece) :
    anyExtends (statements pieces) = false := by
  unfold statements
  split <;> rfl

theorem visitAll_statements (scope : Scope) (pieces : List Piece) :
    scope.visitAll (statements pieces) = scope.loadParts (pieces.map Piece.part) := by
  unfold statements
  split
  · next empty =>
    rw [List.isEmpty_iff.mp empty]
    rfl
  · rfl

theorem resolveTemplate_statements (name : String) {pieces : List Piece}
    (free : .reference "self" ∉ pieces) :
    ∃ names, (∀ name, name ∈ names ↔ .reference name ∈ pieces) ∧
      resolveTemplate settler name (statements pieces) = .ok (program name names pieces) := by
  obtain ⟨names, loaded, members⟩ := Scope.exists_loadParts pieces []
  have known : ∀ name, name ∈ names ↔ .reference name ∈ pieces := fun name => by
    simpa using members name
  refine ⟨names, known, ?_⟩
  have scope : Scope.visitAll .outermost (statements pieces) = .reading names :=
    (visitAll_statements _ pieces).trans loaded
  have main : resolveSection settler ["self"]
      { scope := .outermost, isTop := true, isRoot := true, guarded := false }
      (statements pieces) {} = .ok (program name names pieces).main {} := by
    unfold resolveSection
    rw [undeclared_statements free]
    dsimp only [List.foldl_nil]
    rw [scope]
    have body := resolveBody_statements ⟨.reading names, true, true, false, false, {}⟩ rfl rfl
      rfl (fun name => (known name).mpr) {}
    exact (bind_apply_of_ok body).trans rfl
  unfold resolveTemplate
  rw [blocksInAll_statements, anyExtends_statements]
  dsimp only [repeatedBlock?]
  split
  · next ended =>
    cases ended.symm.trans ((bind_apply_of_ok main).trans rfl)
    rfl
  · next ended => cases ended.symm.trans ((bind_apply_of_ok main).trans rfl)

/-- A plain template is compiled to a program that writes its pieces, with unified line ends. -/
theorem compile_plain {text : Interpolated} (isPlain : text.IsPlain) (name : String) :
    ∃ names, (∀ name, name ∈ names ↔ name ∈ text.names) ∧
      compile .default name text.source = .ok (program name names text.unified.pieces) := by
  have among (name : String) : .reference name ∈ text.unified.pieces ↔ name ∈ text.names := by
    rw [Interpolated.reference_mem_pieces, Interpolated.names_unified]
  have free : .reference "self" ∉ text.unified.pieces := fun found =>
    (isPlain.names _ ((among _).mp found)).free (by decide)
  obtain ⟨names, known, resolved⟩ := resolveTemplate_statements name free
  refine ⟨names, fun name => (known name).trans (among name), ?_⟩
  unfold compile
  rw [parse_plain isPlain]
  exact resolved

end Stencil.Template
