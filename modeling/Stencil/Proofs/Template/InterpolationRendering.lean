import Stencil.Proofs.Template.InterpolationRun

/-!
# Rendering text with references

Rendering a plain template on a data model of texts gives its literal text, with unified line
ends, and the texts of the names between, as they are.  A name that neither the data model
nor every template knows makes rendering fail.
-/

namespace Stencil.Template

open Outcome
open Interpolated (Piece program steps)
open Run

/-! ## Rendering -/

/-- Running the steps of pieces is writing the pieces. -/
theorem runSteps_steps (evaluator : Evaluator) (site : Site) (pieces : List Piece)
    (machine : Machine) :
    runSteps evaluator site (steps pieces) machine =
      (pieces.map Piece.emit).forM (emitPart evaluator site) machine := by
  unfold steps
  split
  · next empty =>
    rw [List.isEmpty_iff.mp empty]
    rfl
  · show (runStep evaluator site (.emit false (pieces.map Piece.emit)) >>= fun _ =>
      runSteps evaluator site []) machine = _
    unfold runStep
    cases ended : (pieces.map Piece.emit).forM (emitPart evaluator site) machine with
    | ok nothing after => exact bind_apply_of_ok ended
    | error fault after => exact bind_apply_of_error ended

section Running

variable {outside : Outside} {depth place reached : Nat} {context : Context}
  {machine : Machine} {loaded : LoadedTemplate} {name : String} {names : List String}
  {pieces : List Piece}

/-- A program of pieces writes its pieces once its names have been looked up. -/
theorem runTemplate_program (stored : machine.templates[place]? = some loaded)
    (isProgram : loaded.program = program name names pieces) (fresh : context.assigned = [])
    (known : machine.contexts[reached]? = some context)
    (uncaptured : machine.captures = []) (stores : machine.storesOutput = true) :
    ∃ site entered, Ready site names (fun name => context.given.lookup name) entered ∧
      entered.written = machine.written ∧
      runTemplate (evaluator outside (depth + 1)) place reached machine =
        (pieces.map Piece.emit).forM (emitPart (evaluator outside depth) site) entered := by
  obtain ⟨site, entered, run, ready, written⟩ :=
    @runSection_program (evaluator outside (depth + 1)) place context machine reached fresh known
      uncaptured stores name names pieces
  refine ⟨site, entered, ready, written, ?_⟩
  have found : template place machine = .ok loaded machine := by
    refine (bind_apply_of_ok (get_apply machine)).trans ?_
    rw [Array.getD_eq_getD_getElem?, stored]
    rfl
  have wrote : runSection (evaluator outside (depth + 1)) place reached loaded.program.main none
      machine = (pieces.map Piece.emit).forM (emitPart (evaluator outside depth) site) entered := by
    rw [isProgram, run]
    exact runSteps_steps _ _ _ _
  have once : loaded.program.extends_ = false := by rw [isProgram]; rfl
  unfold runTemplate repeatFrom
  rw [show stepLimit = 4611686018427387903 + 1 from rfl, advance]
  cases ended : (pieces.map Piece.emit).forM (emitPart (evaluator outside depth) site) entered with
  | ok nothing after =>
    refine (bind_apply_of_ok (?_ : _ = EStateM.Result.ok (some place) after)).trans rfl
    refine (bind_apply_of_ok (?_ : _ = EStateM.Result.ok none after)).trans rfl
    refine (bind_apply_of_ok found).trans ?_
    refine (bind_apply_of_ok (get_apply machine)).trans ?_
    refine (bind_apply_of_ok (wrote.trans ended)).trans ?_
    rw [once]
    rfl
  | error fault after =>
    refine bind_apply_of_error (bind_apply_of_error ?_)
    refine (bind_apply_of_ok found).trans ?_
    refine (bind_apply_of_ok (get_apply machine)).trans ?_
    exact bind_apply_of_error (wrote.trans ended)

end Running

/-! ## Values of a data model -/

/-- The text that a value shows, if it is a text or a name that every template knows. -/
def shownText : Value → List Char
  | .text content => content.shown
  | .standard name => (Value.standardLiteral name).toList
  | _ => []

/-- What a name shows that a data model of texts or every template knows. -/
def shown? (model : List (Text × List Char)) (name : String) : Option (List Char) :=
  (givenValue? model name).map shownText

theorem exists_of_standardNames :
    ∀ entry ∈ standardNames, ∃ known, entry.2 = .standard known := by
  simp [standardNames]

theorem shows_givenValue? (model : List (Text × List Char)) (name : String) :
    Shows (givenValue? model name) (shown? model name) := by
  unfold shown? givenValue?
  cases model.lookup (Text.ofString name) with
  | some text =>
    refine .value fun evaluator machine => ?_
    rw [shownText, Text.shown_ofChars]
    rfl
  | none =>
    cases standard : standardNames.lookup name with
    | none => exact .missing
    | some value =>
      obtain ⟨front, back, split, -⟩ := List.lookup_eq_some_iff.mp standard
      have among : (name, value) ∈ standardNames := by
        rw [split]
        exact List.mem_append_right _ (List.mem_cons_self ..)
      obtain ⟨known, rfl⟩ := exists_of_standardNames _ among
      exact .value fun evaluator machine => rfl

/--
A program of pieces gives the texts of its pieces in a row, or fails with a name that neither
the data model nor every template knows.
-/
theorem renderTemplate_program {tree : Files.Tree} {engine : Engine} {place : Nat}
    {machine : Machine} {loaded : LoadedTemplate} {name : String} {names : List String}
    {pieces : List Piece} {model : List (Text × List Char)} {ref : Ref}
    (stored : machine.templates[place]? = some loaded)
    (isProgram : loaded.program = program name names pieces)
    (entries : machine.heap.entries ref = modelEntries model)
    (distinct : (model.map Prod.fst).Nodup) (stores : machine.storesOutput = true)
    (known : ∀ name, .reference name ∈ pieces → name ∈ names)
    (plain : ∀ name ∈ names, '\uFFFD' ∉ name.toList) :
    (∀ texts, pieces.mapM (Piece.text? (shown? model)) = some texts →
      ∃ after, renderTemplate tree engine place (.dict ref) machine =
        .ok (Text.ofChars texts.flatten) after) ∧
    ∀ name, pieces.find? (fun piece => (piece.text? (shown? model)).isNone) =
        some (.reference name) →
      ∃ after, renderTemplate tree engine place (.dict ref) machine =
        .error (undefinedFault name) after := by
  let cleared : Machine := { machine with captures := [], written := [] }
  obtain ⟨given, named, lookups⟩ := modelNames_eq distinct cleared
  let context : Context :=
    { template := place, given, blocks := blockStacks place loaded.program,
      escaping := machine.escapes.size }
  let prepared : Machine :=
    { cleared with
      escapes := machine.escapes.push false, contexts := machine.contexts.push context }
  obtain ⟨site, entered, ready, written, run⟩ := @runTemplate_program (engine.outside tree)
    599 place machine.contexts.size context prepared loaded name names pieces stored isProgram rfl
    Array.getElem?_push_size rfl stores
  have shows : ∀ name ∈ names, Shows (given.lookup name) (shown? model name) :=
    fun name member => lookups name (plain name member) ▸ shows_givenValue? model name
  have read : entriesOf (evaluator (engine.outside tree) callDepth) (.dict ref) cleared =
      .ok (modelEntries model) cleared := by
    refine (bind_apply_of_ok (get_apply cleared)).trans ?_
    rw [show cleared.heap.entries ref = modelEntries model from entries]
    rfl
  have found : template place cleared = .ok loaded cleared := by
    refine (bind_apply_of_ok (get_apply cleared)).trans ?_
    rw [Array.getD_eq_getD_getElem?, show cleared.templates[place]? = some loaded from stored]
    rfl
  have made : contextFor place given cleared = .ok machine.contexts.size prepared :=
    (bind_apply_of_ok found).trans rfl
  have start : renderTemplate tree engine place (.dict ref) machine = (do
      runTemplate (evaluator (engine.outside tree) callDepth) place machine.contexts.size
      return (← get).written.reverse.flatten) prepared := by
    unfold renderTemplate
    refine (bind_apply_of_ok (modify_apply _ machine)).trans ?_
    exact (bind_apply_of_ok read).trans ((bind_apply_of_ok named).trans (bind_apply_of_ok made))
  rw [start]
  constructor
  · intro texts areTexts
    have wrote := run.trans (ready.forM_emitPart shows known areTexts)
    have text : ((texts.map Text.ofChars).reverse ++ entered.written).reverse.flatten =
        Text.ofChars texts.flatten := by
      rw [written, show prepared.written = [] from rfl, List.append_nil, List.reverse_reverse]
      exact List.map_flatten.symm
    exact ⟨_, (bind_apply_of_ok wrote).trans (congrArg (EStateM.Result.ok · _) text)⟩
  · intro name missed
    obtain ⟨after, failed⟩ := ready.forM_emitPart_missing shows known missed
    exact ⟨after, bind_apply_of_error (run.trans failed)⟩

/-! ## Plain templates -/

namespace Interpolated

/-- The literal text of a template with a data model's texts in place of the references. -/
def rendered (text : Interpolated) (model : List (Text × List Char)) : List Char :=
  text.opening ++ text.references.flatMap fun (name, literal) =>
    (model.lookup (Text.ofString name)).getD [] ++ literal

/-- The text of a piece in which names stand for the texts of a data model. -/
private def Piece.filled (model : List (Text × List Char)) : Piece → List Char
  | .literal text => text
  | .reference name => (model.lookup (Text.ofString name)).getD []

private theorem flatMap_filled (text : Interpolated) (model : List (Text × List Char)) :
    text.pieces.flatMap (Piece.filled model) = text.rendered model := by
  have literal (literal : List Char) :
      (literalPieces literal).flatMap (Piece.filled model) = literal := by
    unfold literalPieces
    split
    · next empty => exact (List.isEmpty_iff.mp empty).symm
    · exact List.append_nil literal
  unfold pieces rendered referencePieces
  rw [List.flatMap_append, literal, List.flatMap_assoc]
  refine congrArg (text.opening ++ List.flatMap · text.references) (funext fun reference => ?_)
  rw [List.flatMap_cons, literal]
  rfl

/-- Where the data model knows all names, each piece has a text. -/
theorem mapM_text?_of_known {text : Interpolated} {model : List (Text × List Char)}
    (known : ∀ name ∈ text.names, (model.lookup (Text.ofString name)).isSome) :
    ∃ texts, text.pieces.mapM (Piece.text? (shown? model)) = some texts ∧
      texts.flatten = text.rendered model := by
  have each : ∀ piece ∈ text.pieces,
      piece.text? (shown? model) = some (piece.filled model) := by
    intro piece member
    cases piece with
    | literal text => rfl
    | reference name =>
      obtain ⟨value, found⟩ := Option.isSome_iff_exists.mp
        (known name (reference_mem_pieces.mp member))
      show shown? model name = some ((model.lookup (Text.ofString name)).getD [])
      unfold shown? givenValue?
      rw [found]
      exact congrArg some (Text.shown_ofChars value)
  have all : ∀ pieces : List Piece,
      (∀ piece ∈ pieces, piece.text? (shown? model) = some (piece.filled model)) →
        pieces.mapM (Piece.text? (shown? model)) = some (pieces.map (Piece.filled model)) := by
    intro pieces each
    induction pieces with
    | nil => rfl
    | cons piece more ih =>
      obtain ⟨here, others⟩ := List.forall_mem_cons.mp each
      rw [List.mapM_cons, here, ih others]
      rfl
  exact ⟨_, all _ each, flatMap_filled text model⟩

/-- The first name of a template that neither a data model of texts nor every template knows. -/
def unknown? (text : Interpolated) (model : List (Text × List Char)) : Option String :=
  text.names.find? fun name => (givenValue? model name).isNone

/-- The first piece without a text is the first reference to a name that nobody knows. -/
theorem find?_pieces (text : Interpolated) (model : List (Text × List Char)) :
    text.pieces.find? (fun piece => (piece.text? (shown? model)).isNone) =
      (text.unknown? model).map Piece.reference := by
  have literal (literal : List Char) :
      (literalPieces literal).find? (fun piece => (piece.text? (shown? model)).isNone) = none := by
    unfold literalPieces
    split <;> rfl
  unfold pieces unknown? names referencePieces
  rw [List.find?_append, literal, Option.none_or]
  induction text.references with
  | nil => rfl
  | cons reference more ih =>
    obtain ⟨name, behind⟩ := reference
    rw [List.flatMap_cons, List.find?_append, ih, List.map_cons]
    have isShown : (Piece.reference name).text? (shown? model) =
        (givenValue? model name).map shownText := rfl
    cases given : givenValue? model name with
    | none =>
      rw [given] at isShown
      rw [List.find?_cons_of_pos (by rw [isShown]; rfl),
        List.find?_cons_of_pos (by rw [given]; rfl)]
      rfl
    | some value =>
      rw [given] at isShown
      rw [List.find?_cons_of_neg (by rw [isShown]; simp), literal, Option.none_or,
        List.find?_cons_of_neg (by rw [given]; simp)]

end Interpolated

/-- No name stands for a character that cannot be stored. -/
theorem not_mem_of_isVariable {name : String} (isVariable : IsVariable name) :
    '\uFFFD' ∉ name.toList := by
  intro member
  have continues := isVariable.continues _ member
  revert continues
  decide

/-- What rendering a plain template on a data model of texts comes to. -/
theorem renderTemplate_plain {tree : Files.Tree} {engine : Engine} {place : Nat} {name : String}
    {machine : Machine} {loaded : LoadedTemplate} {text : Interpolated}
    {model : List (Text × List Char)} {ref : Ref} (isPlain : text.IsPlain)
    (stored : machine.templates[place]? = some loaded)
    (compiled : compile .default name text.source = .ok loaded.program)
    (entries : machine.heap.entries ref = modelEntries model)
    (distinct : (model.map Prod.fst).Nodup) (stores : machine.storesOutput = true) :
    ((∀ name ∈ text.names, (model.lookup (Text.ofString name)).isSome) →
      ∃ after, renderTemplate tree engine place (.dict ref) machine =
        .ok (Text.ofChars (text.unified.rendered model)) after) ∧
    ∀ missing, text.unknown? model = some missing →
      ∃ after, renderTemplate tree engine place (.dict ref) machine =
        .error (undefinedFault missing) after := by
  obtain ⟨names, known, resolved⟩ := compile_plain isPlain name
  rw [resolved] at compiled
  have isProgram : loaded.program = program name names text.unified.pieces :=
    (Except.ok.inj compiled).symm
  have among (name : String) : .reference name ∈ text.unified.pieces ↔ name ∈ text.names := by
    rw [Interpolated.reference_mem_pieces, Interpolated.names_unified]
  obtain ⟨complete, broken⟩ := @renderTemplate_program tree engine place machine loaded name names
    text.unified.pieces model ref stored isProgram entries distinct stores
    (fun name member => (known name).mpr ((among name).mp member))
    (fun name member => not_mem_of_isVariable (isPlain.names name ((known name).mp member)))
  constructor
  · intro given
    rw [← text.names_unified] at given
    obtain ⟨texts, areTexts, all⟩ := Interpolated.mapM_text?_of_known given
    rw [← all]
    exact complete texts areTexts
  · intro missing unknown
    apply broken
    have same : text.unified.unknown? model = text.unknown? model := by
      unfold Interpolated.unknown?
      rw [text.names_unified]
    rw [Interpolated.find?_pieces, same, unknown]
    rfl

end Stencil.Template
