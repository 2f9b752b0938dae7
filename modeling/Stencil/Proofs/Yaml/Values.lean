import Stencil.Proofs.Heap
import Stencil.Proofs.Yaml.Reading
import Stencil.Yaml.Values

/-!
# Making the values of documents

Values of a document are made from new containers only: the containers that still wait to
be filled are new, and no other one is ever changed.  So the containers that were there
before a document is read hold what they held.  The keys of the new mappings are scalars,
which can always be compared, so making values only fails where a node has no value.
-/

namespace Stencil

open Outcome

/-! ## Scalars -/

/-- A value of a document that is no container. -/
inductive Value.IsScalar : Value → Prop
  | none : IsScalar .none
  | bool (flag : Bool) : IsScalar (.bool flag)
  | int (number : Int) : IsScalar (.int number)
  | float (amount : Float) : IsScalar (.float amount)
  | bytes (content : List UInt8) : IsScalar (.bytes content)
  | date (day : Calendar.Date) : IsScalar (.date day)
  | moment (instant : Calendar.Moment) : IsScalar (.moment instant)
  | text (content : Text) : IsScalar (.text content)

namespace Value.IsScalar

variable {key other : Value}

theorem checkKey (isScalar : key.IsScalar) : checkKey key = .ok () := by
  cases isScalar <;> rfl

/-- Scalars can be compared. -/
theorem exists_equalMember (heap : Heap) (isScalar : key.IsScalar)
    (isScalarToo : other.IsScalar) : ∃ same, equalMember heap key other = .ok same := by
  cases isScalar <;> cases isScalarToo <;> exact ⟨_, rfl⟩

end Value.IsScalar

namespace Yaml

/-- The keys of entries are scalars. -/
def Keyed (entries : List (Value × Value)) : Prop :=
  ∀ entry ∈ entries, entry.1.IsScalar

/-- An entry can be put under a scalar. -/
theorem Keyed.insertEntry (heap : Heap) {entries : List (Value × Value)} (keyed : Keyed entries)
    {key : Value} (isScalar : key.IsScalar) (value : Value) :
    ∃ more, heap.insertEntry key value entries = .ok more ∧ Keyed more := by
  induction entries with
  | nil => exact ⟨[(key, value)], rfl, by simpa [Keyed] using isScalar⟩
  | cons first rest ih =>
    rcases first with ⟨known, old⟩
    rcases List.forall_mem_cons.mp keyed with ⟨here, others⟩
    rcases ih others with ⟨more, inserted, still⟩
    rcases here.exists_equalMember heap isScalar with ⟨same, compared⟩
    cases same with
    | true =>
      refine ⟨(known, value) :: rest, ?_, List.forall_mem_cons.mpr ⟨here, others⟩⟩
      simp [Heap.insertEntry, compared, bind, Except.bind]
    | false =>
      refine ⟨(known, old) :: more, ?_, List.forall_mem_cons.mpr ⟨here, still⟩⟩
      simp [Heap.insertEntry, compared, inserted, bind, Except.bind, pure, Except.pure]

/-! ## Texts of scalars -/

namespace Make

open Fault (OfDocument Valueless)

private theorem reads_signed (content : Text) : Reads (signed content) := by
  unfold signed
  split
  · exact .error (.valueless .outOfRange)
  · exact .ite (.ok _) (.ite (.ok _) (.ok _))

private theorem reads_readWhole (base : Nat) (content : Text) :
    Reads (readWhole base content) := by
  unfold readWhole
  split
  · exact .ok _
  · exact .error (.valueless .wrongValue)

private theorem reads_readReal (content : Text) : Reads (readReal content) := by
  unfold readReal
  split
  · exact .ok _
  · exact .error (.valueless .wrongValue)

private theorem reads_integerOf (content : Text) : Reads (integerOf content) := by
  refine .bind (reads_signed _) fun found => .bind ?_ fun _ => .ok _
  rcases found with ⟨isNegative, content⟩
  refine .ite (.ok _) (.ite (reads_readWhole _ _) (.ite (reads_readWhole _ _) ?_))
  dsimp only
  split
  · exact .error (.valueless .outOfRange)
  · exact .ite (reads_readWhole _ _)
      (.bind (.mapM fun part _ => reads_readWhole 10 part) fun _ => .ok _)

private theorem reads_sumOfSixtieths (worth : Nat) (sum : Float) (numbers : List Float) :
    Reads (sumOfSixtieths worth sum numbers) := by
  induction numbers generalizing worth sum with
  | nil => exact .ok sum
  | cons number rest ih =>
    unfold sumOfSixtieths
    split
    · exact ih _ _
    · exact .error (.valueless .overflow)

private theorem reads_realOf (content : Text) : Reads (realOf content) := by
  refine .bind (reads_signed _) fun found => ?_
  rcases found with ⟨isNegative, content⟩
  refine .ite (.ok _) (.ite (.ok _) ?_)
  split
  · exact .bind (reads_readReal _) fun _ => .ok _
  · exact .bind (.mapM fun part _ => reads_readReal part) fun _ =>
      .bind (reads_sumOfSixtieths _ _ _) fun _ => .ok _

private theorem reads_flagOf (content : Text) : Reads (flagOf content) := by
  unfold flagOf
  split
  case h_7 => exact .error (.valueless .missingKey)
  all_goals exact .ok _

private theorem reads_bytesOf (content : Text) : Reads (bytesOf content) := by
  unfold bytesOf
  dsimp only
  split
  · exact .ok _
  · exact .error (.document .values)

private theorem reads_timestamp (timestamp : Timestamp) : Reads timestamp.value := by
  unfold Timestamp.value
  split
  · exact .error (.valueless .wrongValue)
  · split
    · exact .ok _
    · dsimp only
      split
      · exact .ok _
      · exact .ok _
      · exact .error (.valueless .wrongValue)

end Make

/-! ## Containers -/

/-- A value of a document; its containers are none of the known ones. -/
inductive Made (known : Heap) : Value → Prop
  | scalar {value : Value} (isScalar : value.IsScalar) : Made known value
  | list {ref : Ref} (isNew : known.cells.size ≤ ref) : Made known (.list ref)
  | set {ref : Ref} (isNew : known.cells.size ≤ ref) : Made known (.set ref)
  | dict {ref : Ref} (isNew : known.cells.size ≤ ref) : Made known (.dict ref)

theorem Made.isScalar {known : Heap} {key : Value} (made : Made known key)
    (isKey : Value.checkKey key = .ok ()) : key.IsScalar := by
  cases made with
  | scalar isScalar => exact isScalar
  | list isNew => cases isKey
  | set isNew => cases isKey
  | dict isNew => cases isKey

/-- The keys of a mapping are scalars. -/
def KeyedCell (cell : Cell) : Prop :=
  ∀ entries, cell = .dict entries → Keyed entries

/--
Known containers are as they were.  None of them waits to be filled or is part of the values
that were made, and the keys of all other mappings are scalars.
-/
structure Construction.Apart (known : Heap) (construction : Construction) : Prop where
  keeps : known.Keeps construction.heap
  unfilled : ∀ waiting ∈ construction.unfilled, known.cells.size ≤ waiting.2
  keyed : ∀ ref, known.cells.size ≤ ref → KeyedCell (construction.heap.get ref)
  made : ∀ made ∈ construction.values, Made known made.2

namespace Make

open Fault (OfDocument Valueless)

/-- A part of the making of values, with known containers apart. -/
abbrev Makes (known : Heap) {α : Type} (wanted : α → Prop) (make : Make α) : Prop :=
  Yields (Construction.Apart known) OfDocument wanted make

variable {known : Heap} {α : Type} {wanted : α → Prop}

private theorem makes_lift {result : Except Fault α} (reads : Reads result) :
    Makes known (fun value => result = .ok value) (lift result) := by
  cases result with
  | ok result => exact .pure rfl
  | error fault => exact .throw (reads fault rfl)

private theorem makes_meaningless : Makes known wanted meaningless :=
  .throw (.document .values)

private theorem makes_node (place : Nat) : Makes known (fun _ => True) (node place) :=
  .bind .get fun _ _ => .pure trivial

private theorem makes_content (place : Nat) : Makes known (fun _ => True) (content place) :=
  .bind (makes_node place) fun _ _ => .pure trivial

private theorem makes_pairs (place : Nat) : Makes known (fun _ => True) (pairs place) := by
  refine .bind (makes_content place) fun found _ => ?_
  cases found with
  | mapping pairs => exact .pure trivial
  | scalar content => exact makes_meaningless
  | sequence items => exact makes_meaningless

private theorem makes_setNode (place : Nat) (change : Node → Node) :
    Makes known (fun _ => True) (setNode place change) :=
  .modify fun _ apart => ⟨apart.keeps, apart.unfilled, apart.keyed, apart.made⟩

private theorem makes_scalarText (fuel place : Nat) :
    Makes known (fun _ => True) (scalarText fuel place) := by
  induction fuel generalizing place with
  | zero => exact .throw (.valueless .tooDeep)
  | succ fuel ih =>
    unfold scalarText
    refine .bind (makes_content place) fun found _ => ?_
    cases found with
    | scalar content => exact .pure trivial
    | sequence items => exact makes_meaningless
    | mapping pairs =>
      have isDefault (pair : Nat × Nat) : Makes known (fun _ => True)
          (do return (← node pair.1).tag == .default : Make Bool) :=
        .bind (makes_node pair.1) fun _ _ => .pure trivial
      refine .bind (.findM? isDefault pairs) fun found _ => ?_
      cases found with
      | none => exact makes_meaningless
      | some pair => exact ih pair.2

private theorem makes_scalar (place : Nat) : Makes known (fun _ => True) (scalar place) :=
  .bind .get fun _ _ => makes_scalarText _ place

private theorem makes_moment (place : Nat) : Makes known Value.IsScalar (moment place) := by
  refine .bind (makes_scalar place) fun _ _ => .bind (makes_content place) fun found _ => ?_
  cases found with
  | mapping pairs => exact .throw (.valueless .wrongType)
  | sequence items => exact .throw (.valueless .wrongType)
  | scalar content =>
    dsimp only
    split
    · exact .throw (.valueless .missingAttribute)
    · next timestamp _ =>
      split
      · exact .pure (.date _)
      · exact .pure (.moment _)
      · next fault failed => exact .throw (reads_timestamp timestamp fault failed)

/-- A new container waits to be filled and is none of the known ones. -/
private theorem makes_newContainer (place : Nat) {cell : Cell} (keyed : KeyedCell cell) :
    Makes known (fun ref => known.cells.size ≤ ref) (newContainer place cell) := by
  intro construction apart
  have isNew := apart.keeps.size_le_allocate cell
  refine ⟨⟨apart.keeps.allocate cell, fun waiting member => ?_, fun ref beyond => ?_,
    apart.made⟩, isNew⟩
  · rcases List.mem_append.mp member with earlier | new
    · exact apart.unfilled waiting earlier
    · rw [List.mem_singleton.mp new]
      exact isNew
  · show KeyedCell ((construction.heap.allocate cell).2.get ref)
    by_cases same : ref = (construction.heap.allocate cell).1
    · rw [same, Heap.get_allocate]
      exact keyed
    · rw [Heap.get_allocate_of_ne _ _ same]
      exact apart.keyed ref beyond

private theorem makes_newValue (place : Nat) : Makes known (Made known) (newValue place) := by
  have converted {β : Type} {convert : Text → Except Fault β}
      (reads : ∀ text, Reads (convert text)) {form : β → Value}
      (isScalar : ∀ result, (form result).IsScalar) : Makes known (Made known)
        (do return form (← lift (convert (← scalar place))) : Make Value) :=
    .bind (makes_scalar place) fun text _ => .bind (makes_lift (reads text)) fun result _ =>
      .pure (.scalar (isScalar result))
  have contained {form : Ref → Value} {cell : Cell} (keyed : KeyedCell cell)
      (made : ∀ {ref}, known.cells.size ≤ ref → Made known (form ref)) :
      Makes known (Made known) (do return form (← newContainer place cell) : Make Value) :=
    .bind (makes_newContainer place keyed) fun _ isNew => .pure (made isNew)
  refine .bind (makes_node place) fun found _ => ?_
  cases found.tag with
  | nothing => exact .bind (makes_scalar place) fun _ _ => .pure (.scalar .none)
  | flag => exact converted reads_flagOf .bool
  | integer => exact converted reads_integerOf .int
  | real => exact converted reads_realOf .float
  | binary => exact converted reads_bytesOf .bytes
  | timestamp => exact (makes_moment place).mono fun _ => .scalar
  | text => exact .bind (makes_scalar place) fun text _ => .pure (.scalar (.text text))
  | orderedEntries => exact contained (by simp [KeyedCell]) .list
  | pairs => exact contained (by simp [KeyedCell]) .list
  | list => exact contained (by simp [KeyedCell]) .list
  | set => exact contained (by simp [KeyedCell]) .set
  | table => exact contained (by simp [KeyedCell, Keyed]) .dict
  | merge => exact makes_meaningless
  | default => exact makes_meaningless
  | foreign => exact makes_meaningless

private theorem makes_value (place : Nat) : Makes known (Made known) (value place) := by
  refine .bind .get fun construction apart => ?_
  cases known : construction.values.lookup place with
  | some value =>
    rcases List.lookup_eq_some_iff.mp known with ⟨before, after, split, -⟩
    exact .pure (apart.made (place, value) (by simp [split]))
  | none =>
    refine .bind (makes_newValue place) fun value made =>
      .bind (.modify fun _ apart => ?_) fun _ _ => .pure made
    refine ⟨apart.keeps, apart.unfilled, apart.keyed, ?_⟩
    exact List.forall_mem_cons.mpr ⟨made, apart.made⟩

private theorem makes_flatten (fuel place : Nat) (merged : List (Nat × Nat)) :
    Makes known (fun _ => True) (flatten fuel place merged) := by
  induction fuel generalizing place merged with
  | zero => exact .throw (.valueless .tooDeep)
  | succ fuel ih =>
    unfold flatten
    refine .bind (makes_pairs place) fun own _ => .bind .get fun construction _ => ?_
    dsimp only
    cases own.find? (isMerge construction.nodes) with
    | none =>
      refine .bind (.forIn (fun pair _ => ?_) own _) fun _ _ => makes_setNode place _
      exact .bind (makes_setNode pair.1 _) fun _ _ => .pure trivial
    | some pair =>
      refine .bind (makes_setNode place _) fun _ _ => .bind (makes_content pair.2) fun found _ => ?_
      cases found with
      | scalar content => exact .throw (.document .values)
      | mapping pairs =>
        exact .bind (ih pair.2 []) fun _ _ => .bind (makes_pairs pair.2) fun _ _ => ih place _
      | sequence items =>
        have flattened (item : Nat) : Makes known (fun _ => True) (do
            let _ ← pairs item
            flatten fuel item []
            pairs item) :=
          .bind (makes_pairs item) fun _ _ => .bind (ih item []) fun _ _ => makes_pairs item
        exact .bind (.mapM flattened items) fun parts _ => ih place _

private theorem makes_makeEntries {entries : List (Value × Value)} (keyed : Keyed entries)
    (pairs : List (Nat × Nat)) : Makes known Keyed (makeEntries entries pairs) := by
  induction pairs generalizing entries with
  | nil => exact .pure keyed
  | cons pair rest ih =>
    unfold makeEntries
    refine .bind (makes_value pair.1) fun key made => ?_
    cases isKey : Value.checkKey key with
    | error fault => exact makes_meaningless
    | ok _ =>
      have isScalar := made.isScalar isKey
      refine .bind (makes_value pair.2) fun value _ => .bind .get fun construction _ => ?_
      rcases keyed.insertEntry construction.heap isScalar value with ⟨more, inserted, still⟩
      have insertion : construction.heap.insert entries key value = .ok more := by
        rw [Heap.insert, isScalar.checkKey]
        exact inserted
      rw [insertion]
      refine .bind (makes_lift (.ok more)) fun given same => ?_
      cases same
      exact ih still

private theorem makes_entries (place : Nat) : Makes known Keyed (entries place) :=
  .bind (makes_pairs place) fun _ _ => .bind .get fun _ _ =>
    .bind (makes_flatten _ place []) fun _ _ => .bind (makes_pairs place) fun _ _ =>
      makes_makeEntries (by simp [Keyed]) _

private theorem makes_items (place : Nat) : Makes known (fun _ => True) (items place) := by
  refine .bind (makes_content place) fun found _ => ?_
  cases found with
  | sequence items => exact .pure trivial
  | scalar content => exact makes_meaningless
  | mapping pairs => exact makes_meaningless

private theorem makes_singleEntry (place : Nat) :
    Makes known (fun _ => True) (singleEntry place) := by
  refine .bind (makes_pairs place) fun found _ => ?_
  split
  · exact .bind (makes_value _) fun _ _ => .bind (makes_value _) fun _ _ => .pure trivial
  · exact makes_meaningless

private theorem makes_setCell {ref : Ref} (isNew : known.cells.size ≤ ref) {cell : Cell}
    (keyed : KeyedCell cell) : Makes known (fun _ => True) (setCell ref cell) := by
  refine .modify fun construction apart =>
    ⟨apart.keeps.set isNew cell, apart.unfilled, fun other isNewToo => ?_, apart.made⟩
  rcases construction.heap.get_set ref cell other with changed | same
  · rw [changed]
    exact keyed
  · rw [same]
    exact apart.keyed other isNewToo

private theorem makes_fill (place : Nat) {ref : Ref} (isNew : known.cells.size ≤ ref) :
    Makes known (fun _ => True) (fill place ref) := by
  unfold fill
  refine .bind (makes_node place) fun found _ => ?_
  split
  · exact .bind (makes_items place) fun _ _ => .bind (.mapM makes_value _) fun _ _ =>
      makes_setCell isNew (by simp [KeyedCell])
  · refine .bind (makes_entries place) fun entries keyed => makes_setCell isNew ?_
    intro others same
    cases same
    exact keyed
  · exact .bind (makes_entries place) fun _ _ => makes_setCell isNew (by simp [KeyedCell])
  · exact .bind (makes_items place) fun _ _ => .bind (.mapM makes_singleEntry _) fun _ _ =>
      makes_setCell isNew (by simp [KeyedCell])

/-- A container that is filled waited for it, so it is none of the known ones. -/
private theorem makes_fillAll (fuel : Nat) : Makes known (fun _ => True) (fillAll fuel) := by
  induction fuel with
  | zero => exact .pure trivial
  | succ fuel ih =>
    unfold fillAll
    refine .bind .get fun construction apart => ?_
    split
    · exact .pure trivial
    · next place ref unfilled waiting =>
      have isNew := apart.unfilled (place, ref) (by simp [waiting])
      have rest : Construction.Apart known { construction with unfilled } :=
        ⟨apart.keeps, fun other member => apart.unfilled other (by simp [waiting, member]),
          apart.keyed, apart.made⟩
      exact .bind (.set rest) fun _ _ => .bind (makes_fill place isNew) fun _ _ => ih

end Make

/-! ## Documents -/

/-- What there is before any value is made. -/
private theorem apart_start (nodes : Array Node) (heap : Heap) :
    Construction.Apart heap { nodes, heap } where
  keeps := .refl _
  unfilled := by simp
  keyed := by
    intro ref isNew entries there
    have beyond : heap.get ref = default := by
      rw [Heap.get, Array.getD_eq_getD_getElem?, Array.getElem?_eq_none isNew]
      rfl
    rw [beyond] at there
    cases there
  made := by simp

/-- What a document is read as: known containers are kept, and mappings have scalar keys. -/
def Understood (heap : Heap) (result : Value × Heap) : Prop :=
  heap.Keeps result.2 ∧ ∀ ref, result.1 = .dict ref → Keyed (result.2.entries ref)

private theorem understood_documentValue (heap : Heap) (document : Document) :
    (∀ result, document.value heap = .ok result → Understood heap result) ∧
      Reads (document.value heap) := by
  have makes : Make.Makes heap (Made heap) (do
      let value ← Make.value document.root
      Make.fillAll (document.nodes.size + 1)
      return value) :=
    .bind (Make.makes_value _) fun _ made => .bind (Make.makes_fillAll _) fun _ _ => .pure made
  have start := apart_start document.nodes heap
  unfold Document.value
  dsimp only
  split
  · next value construction ended =>
    refine ⟨fun result same => ?_, .ok _⟩
    cases same
    rcases makes.of_ok ended start with ⟨apart, made⟩
    refine ⟨apart.keeps, fun ref isDict => ?_⟩
    cases isDict
    have isNew : heap.cells.size ≤ ref := by
      rcases made with ⟨⟨⟩⟩ | isNew | isNew | isNew
      exact isNew
    intro entry member
    unfold Heap.entries at member
    split at member
    · next entries there => exact apart.keyed ref isNew entries there entry member
    · cases member
  · next fault construction ended =>
    exact ⟨fun _ same => (nomatch same), .error (makes.of_error ended start)⟩

private theorem understood_read (heap : Heap) (characters : List Char) :
    (∀ result, read heap characters = .ok result → Understood heap result) ∧
      Reads (read heap characters) := by
  have composes := reads_compose characters
  unfold read
  split
  · exact ⟨fun _ same => (nomatch same), .error (.document .characters)⟩
  · cases composed : Document.ofEvents (Events.ofTokens (Tokens.ofChars characters)) with
    | error fault => exact ⟨fun _ same => (nomatch same), .error (composes fault composed)⟩
    | ok document =>
      cases document with
      | none =>
        refine ⟨fun _ same => ?_, .ok _⟩
        cases same
        exact ⟨.refl _, fun _ isDict => nomatch isDict⟩
      | some document => exact understood_documentValue heap document

variable {heap after : Heap} {characters : List Char}

/-- Reading a document leaves the containers that are there as they are. -/
theorem keeps_of_read {value : Value} (ended : read heap characters = .ok (value, after)) :
    heap.Keeps after :=
  ((understood_read heap characters).1 _ ended).1

/-- The keys of the mapping that a document holds are scalars. -/
theorem keyed_of_read {ref : Ref} (ended : read heap characters = .ok (.dict ref, after)) :
    Keyed (after.entries ref) :=
  ((understood_read heap characters).1 _ ended).2 ref rfl

/-- Without characters, there are only the marks of the start and the end. -/
theorem ofChars_nil : Tokens.ofChars [] = ⟨[.streamStart, .streamEnd], none⟩ := by
  -- One token is waiting, the other one is read, and each is taken.
  unfold Tokens.ofChars
  rw [TokenQueue.takeAll]
  change TokenQueue.takeAll 63 _ _ = _
  rw [TokenQueue.takeAll]
  change TokenQueue.takeAll.read 62 _ _ = _
  rw [TokenQueue.takeAll.read]
  change TokenQueue.takeAll 62 _ _ = _
  rw [TokenQueue.takeAll]
  change TokenQueue.takeAll 61 _ _ = _
  rw [TokenQueue.takeAll]
  rfl

/-- A document of no characters holds nothing. -/
theorem read_nil (heap : Heap) : read heap [] = .ok (.none, heap) := by
  unfold read
  rw [ofChars_nil]
  rfl

end Yaml

end Stencil
