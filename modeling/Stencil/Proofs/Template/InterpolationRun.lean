import Stencil.Proofs.Template.InterpolationProgram
import Stencil.Template.Load

/-!
# Running text with references

The program of a plain template looks up its names in the data model, and behind it among
the names that every template knows.  Then it writes its pieces one after the other, up to
the first name that has no value.
-/

namespace Stencil.Template

open Outcome
open Interpolated (Piece program steps)
open Run

/-! ## Entries under names -/

namespace Level

variable {κ α : Type} [DecidableEq κ] [BEq κ] [LawfulBEq κ]

private theorem lookup_replace (key other : κ) (value : α) (entries : List (κ × α)) :
    (entries.map fun entry => if entry.1 = key then (key, value) else entry).lookup other =
      if other = key then (entries.lookup other).map fun _ => value
      else entries.lookup other := by
  induction entries with
  | nil => simp
  | cons entry rest ih =>
    obtain ⟨known, old⟩ := entry
    by_cases wanted : other = known
    · subst wanted
      by_cases same : other = key
      · simp [same]
      · simp [same]
    · have passed : (other == known) = false := beq_eq_false_iff_ne.mpr wanted
      rw [List.map_cons, List.lookup_cons (k := known), passed, ← ih]
      by_cases same : known = key
      · simp [same, List.lookup_cons, same ▸ passed]
      · simp [same, List.lookup_cons, passed]

/-- What is put under a key is found there, and everything else as before. -/
theorem lookup_put (key other : κ) (value : α) (entries : List (κ × α)) :
    (put key value entries).lookup other =
      if other = key then some value else entries.lookup other := by
  unfold put
  split
  · next present =>
    rw [lookup_replace]
    split
    · next wanted =>
      obtain ⟨entry, member, same⟩ := List.any_eq_true.mp present
      have found : entries.lookup other ≠ none := fun absent =>
        bne_iff_ne.mp (List.lookup_eq_none_iff.mp absent entry member)
          (wanted.trans (of_decide_eq_true same).symm)
      obtain ⟨old, known⟩ := Option.ne_none_iff_exists'.mp found
      rw [known]
      rfl
    · rfl
  · next absent =>
    have new : entries.lookup key = none := by
      refine List.lookup_eq_none_iff.mpr fun entry member => bne_iff_ne.mpr fun same => ?_
      exact absent (List.any_eq_true.mpr ⟨entry, member, decide_eq_true same.symm⟩)
    rw [List.lookup_append]
    by_cases wanted : other = key
    · simp [wanted, new]
    · simp [wanted, List.lookup_cons, beq_eq_false_iff_ne.mpr wanted]

/-- Where entries are put in a row, the last one under a key wins. -/
theorem lookup_foldl_put (other : κ) (more entries : List (κ × α)) :
    (more.foldl (fun known entry => put entry.1 entry.2 known) entries).lookup other =
      (Entries.last? other more).or (entries.lookup other) := by
  induction more generalizing entries with
  | nil => rfl
  | cons entry more ih =>
    rw [List.foldl_cons, ih, lookup_put, Entries.last?, Option.or_assoc]
    by_cases same : entry.1 = other
    · simp [same]
    · simp [same, Ne.symm same]

end Level

/-! ## The names of a data model -/

/-- The entries of a data model whose values are texts. -/
def modelEntries (model : List (Text × List Char)) : List (Value × Value) :=
  model.map fun (key, value) => (.text key, .text (Text.ofChars value))

/-- What a data model gives to a template under a name, or every template knows by it. -/
def givenValue? (model : List (Text × List Char)) (name : String) : Option Value :=
  ((model.lookup (Text.ofString name)).map fun value => Value.text (Text.ofChars value)).or
    (standardNames.lookup name)

/-- A character that is no stand-in is what the code point is. -/
theorem ofChar_shown {point : CodePoint} (other : point.shown ≠ '\uFFFD') :
    CodePoint.ofChar point.shown = point := by
  unfold CodePoint.shown CodePoint.char? at *
  by_cases valid : point.number.isValidChar
  · rw [dif_pos valid]
    rfl
  · rw [dif_neg valid] at other
    exact absurd rfl other

/-- A key is spelled as an identifier only if it is the identifier. -/
theorem string_eq_iff {key : Text} {name : String} (plain : '\uFFFD' ∉ name.toList) :
    key.string = name ↔ key = Text.ofString name := by
  constructor
  · intro same
    have shown : key.shown = name.toList := by
      rw [← same]
      exact String.toList_ofList.symm
    unfold Text.ofString Text.ofChars
    rw [← shown] at plain ⊢
    unfold Text.shown at plain ⊢
    rw [List.map_map]
    refine (List.map_id key).symm.trans (List.map_congr_left fun point member => ?_)
    exact (ofChar_shown fun same => plain (same ▸ List.mem_map_of_mem member)).symm
  · rintro rfl
    exact Text.string_ofString name

theorem last?_map {κ ι α β : Type} [DecidableEq κ] [DecidableEq ι] {form : κ → ι}
    (change : α → β) {key : κ} {name : ι} {entries : List (κ × α)}
    (same : ∀ entry ∈ entries, form entry.1 = name ↔ entry.1 = key) :
    Entries.last? name (entries.map fun entry => (form entry.1, change entry.2)) =
      (Entries.last? key entries).map change := by
  induction entries with
  | nil => rfl
  | cons entry rest ih =>
    obtain ⟨here, others⟩ := List.forall_mem_cons.mp same
    rw [List.map_cons, Entries.last?, Entries.last?, ih others]
    simp only [here]
    split <;> simp

/-- A data model of texts gives its names, and the standard ones that it does not have. -/
theorem modelNames_eq {model : List (Text × List Char)}
    (distinct : (model.map Prod.fst).Nodup) (machine : Machine) :
    ∃ given, modelNames (modelEntries model) machine = .ok given machine ∧
      ∀ name : String, '\uFFFD' ∉ name.toList → given.lookup name = givenValue? model name := by
  let names : List (String × Value) :=
    model.map fun entry => (entry.1.string, .text (Text.ofChars entry.2))
  have given : modelNames (modelEntries model) machine =
      .ok (names.foldl (fun known entry => Level.put entry.1 entry.2 known) standardNames)
        machine := by
    unfold modelNames modelEntries
    rw [List.mapM_map]
    refine (bind_apply_of_ok (?_ : _ = EStateM.Result.ok names machine)).trans rfl
    exact mapM_apply_of_ok fun _ _ => rfl
  refine ⟨_, given, fun name plain => ?_⟩
  refine (Level.lookup_foldl_put name _ standardNames).trans ?_
  rw [last?_map (fun value => Value.text (Text.ofChars value))
    fun entry _ => string_eq_iff plain, Entries.last?_of_nodup distinct]
  rfl

/-! ## Running -/

/-- Slots hold the values of names, and what is written goes to the output. -/
structure Ready (site : Site) (names : List String) (value? : String → Option Value)
    (machine : Machine) : Prop where
  slots : ∀ name ∈ names, slotFrom machine.activations ⟨0, name⟩
    (machine.activations.size + 1) site.activation = value? name
  plain : site.constant = none
  uncaptured : machine.captures = []
  stores : machine.storesOutput = true

section Entering

variable {site : Site} {context : Context} {machine : Machine} {activation : Activation}

/-- A slot of the running activation is set. -/
theorem setSlot_apply (there : machine.activations[site.activation]? = some activation)
    (slot : Slot) (value : Option Value) :
    ∃ activations, setSlot site slot value machine = .ok () { machine with activations } ∧
      activations[site.activation]? =
        some { activation with values := Level.put slot value activation.values } := by
  refine ⟨_, rfl, ?_⟩
  rw [Array.getElem?_modify, if_pos rfl, there]
  rfl

/-- Entering a scope that reads names looks each of them up in the context. -/
theorem enterScope_reading (known : machine.contexts[site.context]? = some context)
    (there : machine.activations[site.activation]? = some activation) (names : List String) :
    ∃ activations entered,
      enterScope site (Scope.reading names).loads machine = .ok () { machine with activations } ∧
      activations[site.activation]? = some entered ∧
      ∀ name, entered.values.lookup ⟨0, name⟩ =
        if name ∈ names then some (resolve? context name)
        else activation.values.lookup ⟨0, name⟩ := by
  have found : Run.context site.context machine = .ok context machine := by
    refine (bind_apply_of_ok (get_apply machine)).trans ?_
    rw [Array.getD_eq_getD_getElem?, known]
    rfl
  unfold enterScope
  rw [bind_apply_of_ok found]
  clear found known
  unfold Scope.loads Scope.reading
  dsimp only
  induction names generalizing machine activation with
  | nil => exact ⟨_, activation, rfl, there, fun name => by simp⟩
  | cons name more ih =>
    obtain ⟨middle, set, held⟩ := setSlot_apply there ⟨0, name⟩ (resolve? context name)
    obtain ⟨activations, entered, filled, there, values⟩ :=
      @ih { machine with activations := middle } _ held
    refine ⟨activations, entered, (bind_apply_of_ok set).trans filled, there, fun other => ?_⟩
    rw [values, Level.lookup_put]
    by_cases again : other ∈ more
    · simp [again]
    · by_cases same : other = name
      · simp [same]
      · simp [again, same]

end Entering

/-- A program of pieces looks up its names, and then runs its steps. -/
theorem runSection_program {evaluator : Evaluator} {place : Nat} {context : Context}
    {machine : Machine} {reached : Nat} (fresh : context.assigned = [])
    (known : machine.contexts[reached]? = some context)
    (uncaptured : machine.captures = []) (stores : machine.storesOutput = true)
    (name : String) (names : List String) (pieces : List Piece) :
    ∃ site entered,
      runSection evaluator place reached (program name names pieces).main none machine =
        evaluator.steps site (steps pieces) entered ∧
      Ready site names (fun name => context.given.lookup name) entered ∧
      entered.written = machine.written := by
  let site : Site :=
    { template := place, context := reached, activation := machine.activations.size,
      depth := machine.captures.length }
  obtain ⟨activations, activation, filled, there, values⟩ :=
    @enterScope_reading site context { machine with activations := machine.activations.push {} }
      {} known Array.getElem?_push_size names
  have slots : ∀ name ∈ names, slotFrom activations ⟨0, name⟩ (activations.size + 1)
      site.activation = context.given.lookup name := by
    intro name member
    have found : activation.values.lookup ⟨0, name⟩ = some (context.given.lookup name) := by
      rw [values, if_pos member, resolve?, fresh]
      rfl
    rw [slotFrom, there]
    dsimp only
    rw [found]
  exact ⟨site, { machine with activations }, bind_apply_of_ok filled,
    ⟨slots, rfl, uncaptured, stores⟩, rfl⟩

/-! ## Writing pieces -/

/-- What a value shows where it is written: nothing where it is missing. -/
inductive Shows : Option Value → Option (List Char) → Prop
  | missing : Shows none none
  | value {value : Value} {text : List Char}
      (shown : ∀ evaluator machine,
        showValue evaluator value machine = .ok (Text.ofChars text) machine) :
      Shows (some value) (some text)

/-- The fault of writing a name that has no value. -/
def undefinedFault (name : String) : Fault :=
  .undefinedValue (Stencil.Text.quote name ++ " is undefined")

/-- The text of a piece, where what names show is known. -/
def Interpolated.Piece.text? (shown : String → Option (List Char)) : Piece → Option (List Char)
  | .literal text => some text
  | .reference name => shown name

section Pieces

variable {evaluator : Evaluator} {site : Site} {names : List String}
  {value? : String → Option Value} {shown : String → Option (List Char)} {machine : Machine}

theorem Ready.write (ready : Ready site names value? machine) (text : Text) :
    Ready site names value? { machine with written := text :: machine.written } :=
  ⟨ready.slots, ready.plain, ready.uncaptured, ready.stores⟩

theorem Ready.emit (ready : Ready site names value? machine) (text : List Char) :
    Run.emit (some (Text.ofChars text)) machine =
      .ok () { machine with written := Text.ofChars text :: machine.written } := by
  have stored : (machine.storesOutput && (Text.chars? (Text.ofChars text)).isNone) = false := by
    rw [Text.chars?_ofChars]
    exact Bool.and_false _
  refine (bind_apply_of_ok (get_apply machine)).trans ?_
  rw [ready.uncaptured]
  dsimp only
  rw [stored]
  rfl

theorem Ready.valueOf (ready : Ready site names value? machine) {name : String}
    (member : name ∈ names) :
    valueOf evaluator site (.name ⟨0, name⟩) machine =
      .ok ((value? name).getD (missing (Stencil.Text.quote name ++ " is undefined"))) machine := by
  have found : slot? site ⟨0, name⟩ machine = .ok (value? name) machine := by
    refine (bind_apply_of_ok (get_apply machine)).trans ?_
    rw [ready.slots name member]
    rfl
  unfold Template.valueOf
  rw [ready.plain]
  refine (bind_apply_of_ok found).trans ?_
  cases value? name <;> rfl

/-- A piece is written as its text. -/
theorem Ready.emitPart (ready : Ready site names value? machine)
    (shows : ∀ name ∈ names, Shows (value? name) (shown name)) {piece : Piece}
    (known : ∀ name, piece = .reference name → name ∈ names) {text : List Char}
    (isText : piece.text? shown = some text) :
    Template.emitPart evaluator site piece.emit machine =
      .ok () { machine with written := Text.ofChars text :: machine.written } := by
  cases piece with
  | literal content =>
    cases isText
    exact ready.emit _
  | reference name =>
    have member := known name rfl
    have isShown := shows name member
    rw [show shown name = some text from isText] at isShown
    cases given : value? name with
    | none =>
      rw [given] at isShown
      cases isShown
    | some value =>
      have taken := @Ready.valueOf evaluator _ _ _ _ ready name member
      rw [given] at taken isShown
      cases isShown with
      | value isShown =>
        have output : outputText evaluator site .never value machine =
            .ok (Text.ofChars text) machine := isShown evaluator machine
        exact (bind_apply_of_ok taken).trans
          ((bind_apply_of_ok output).trans (ready.emit text))

/-- A name without a value cannot be written. -/
theorem Ready.emitPart_missing (ready : Ready site names value? machine) {name : String}
    (member : name ∈ names) (missed : value? name = none) :
    Template.emitPart evaluator site (Piece.reference name).emit machine =
      .error (undefinedFault name) machine := by
  have taken := @Ready.valueOf evaluator _ _ _ _ ready name member
  rw [missed] at taken
  exact (bind_apply_of_ok taken).trans (bind_apply_of_error rfl)

/-- Pieces that all have a text are written in their order. -/
theorem Ready.forM_emitPart (ready : Ready site names value? machine)
    (shows : ∀ name ∈ names, Shows (value? name) (shown name)) {pieces : List Piece}
    (known : ∀ name, .reference name ∈ pieces → name ∈ names) {texts : List (List Char)}
    (areTexts : pieces.mapM (Piece.text? shown) = some texts) :
    (pieces.map Piece.emit).forM (Template.emitPart evaluator site) machine =
      .ok () { machine with
        written := (texts.map Text.ofChars).reverse ++ machine.written } := by
  induction pieces generalizing machine texts with
  | nil =>
    cases areTexts
    rfl
  | cons piece more ih =>
    rw [List.mapM_cons] at areTexts
    obtain ⟨text, isText, areTexts⟩ := Option.bind_eq_some_iff.mp areTexts
    obtain ⟨others, areOthers, same⟩ := Option.bind_eq_some_iff.mp areTexts
    cases same
    have first := @Ready.emitPart evaluator _ _ _ _ _ ready shows piece
      (fun name same => known name (same ▸ List.mem_cons_self ..)) text isText
    have rest := ih (ready.write (Text.ofChars text))
      (fun name among => known name (List.mem_cons_of_mem _ among)) areOthers
    refine (bind_apply_of_ok first).trans (rest.trans ?_)
    rw [List.map_cons, List.reverse_cons, List.append_assoc]
    rfl

/-- The first piece without a text ends the writing. -/
theorem Ready.forM_emitPart_missing (ready : Ready site names value? machine)
    (shows : ∀ name ∈ names, Shows (value? name) (shown name)) {pieces : List Piece}
    (known : ∀ name, .reference name ∈ pieces → name ∈ names) {name : String}
    (missed : pieces.find? (fun piece => (piece.text? shown).isNone) = some (.reference name)) :
    ∃ after, (pieces.map Piece.emit).forM (Template.emitPart evaluator site) machine =
      .error (undefinedFault name) after := by
  induction pieces generalizing machine with
  | nil => cases missed
  | cons piece more ih =>
    cases isText : piece.text? shown with
    | some text =>
      have first := @Ready.emitPart evaluator _ _ _ _ _ ready shows piece
        (fun name same => known name (same ▸ List.mem_cons_self ..)) text isText
      rw [List.find?_cons_of_neg (by rw [isText]; simp)] at missed
      obtain ⟨after, failed⟩ := ih (ready.write (Text.ofChars text))
        (fun name among => known name (List.mem_cons_of_mem _ among)) missed
      exact ⟨after, (bind_apply_of_ok first).trans failed⟩
    | none =>
      rw [List.find?_cons_of_pos (by rw [isText]; rfl)] at missed
      cases missed
      have member := known name (List.mem_cons_self ..)
      have isShown := shows name member
      rw [show shown name = none from isText] at isShown
      cases given : value? name with
      | some value =>
        rw [given] at isShown
        cases isShown
      | none => exact ⟨machine, bind_apply_of_error (ready.emitPart_missing member given)⟩

end Pieces

end Stencil.Template
