import Mathlib.Data.List.Chain
import Stencil.Template.Token

/-!
# Text with references

The plainest templates are literal text with references to names in it.  No two neighbouring
characters of the literal text open a tag, so the tokens of such a template are its pieces
of literal text and, for each reference, the two ends of an interpolation around a name.
-/

namespace Stencil.Template

/-! ## Names -/

/-- The characters that an identifier may start with. -/
def startsIdentifier (character : Char) : Bool :=
  character.isAlpha || character == '_'

/-- The characters that an identifier may go on with. -/
def continuesIdentifier (character : Char) : Bool :=
  character.isAlphanum || character == '_'

/-- Words that stand for themselves in an interpolation: constants, an operator and `self`. -/
def ownWords : List String :=
  ["True", "False", "None", "true", "false", "none", "not", "self"]

/-- An identifier of plain letters, digits and low lines that no word takes the meaning of. -/
structure IsVariable (name : String) : Prop where
  starts : ∃ first ∈ name.toList.head?, startsIdentifier first = true
  continues : ∀ character ∈ name.toList, continuesIdentifier character = true
  free : name ∉ ownWords

theorem isVariable_iff {name : String} :
    IsVariable name ↔ name.toList.head?.any startsIdentifier = true ∧
      name.toList.all continuesIdentifier = true ∧ name ∉ ownWords := by
  rw [Option.any_eq_true, List.all_eq_true]
  exact ⟨fun ⟨starts, continues, free⟩ => ⟨starts, continues, free⟩,
    fun ⟨starts, continues, free⟩ => ⟨starts, continues, free⟩⟩

instance (name : String) : Decidable (IsVariable name) :=
  decidable_of_iff _ isVariable_iff.symm

theorem continuesIdentifier_of_starts {character : Char}
    (starts : startsIdentifier character = true) : continuesIdentifier character = true := by
  unfold startsIdentifier at starts
  unfold continuesIdentifier Char.isAlphanum
  rw [Bool.or_right_comm, starts, Bool.true_or]

private theorem toNat_lt_of_continues {character : Char}
    (continues : continuesIdentifier character = true) : character.toNat < 128 := by
  rcases Bool.or_eq_true_iff.mp continues with plain | line
  · delta Char.isAlphanum Char.isAlpha Char.isUpper Char.isLower Char.isDigit at plain
    simp only [Bool.or_eq_true, Bool.and_eq_true, decide_eq_true_eq, UInt32.le_iff_toNat_le,
      ge_iff_le] at plain
    have number : character.toNat = character.val.toNat := rfl
    have last : 'Z'.val.toNat = 90 ∧ 'z'.val.toNat = 122 ∧ '9'.val.toNat = 57 := by decide
    omega
  · rw [eq_of_beq line]
    decide

/-- A character that goes on an identifier is part of a name, and no sign of a tag. -/
structure GoesOn (character : Char) : Prop where
  inName : isNameChar character = true
  inIdentifier : (CodePoint.ofChar character).isIdentifierPart = true
  noSign : character ≠ '-' ∧ character ≠ '+' ∧ character ≠ '}' ∧ character ≠ '\r' ∧
    character ≠ '$'

/-- A character that starts an identifier begins neither a number nor blanks. -/
structure Starts (character : Char) : Prop where
  noBlank : Stencil.Text.isBlank character = false
  noDecimal : isDecimal character = false
  noNumeral : character ≠ '0' ∧ ¬('1' ≤ character ∧ character ≤ '9')
  ofIdentifier : (CodePoint.ofChar character).isIdentifierStart = true

theorem goesOn_of_continues {character : Char}
    (continues : continuesIdentifier character = true) : GoesOn character := by
  have each : ∀ number < 128, continuesIdentifier (Char.ofNat number) = true →
      isNameChar (Char.ofNat number) = true ∧
        (CodePoint.ofChar (Char.ofNat number)).isIdentifierPart = true ∧
        (Char.ofNat number ≠ '-' ∧ Char.ofNat number ≠ '+' ∧ Char.ofNat number ≠ '}' ∧
          Char.ofNat number ≠ '\r' ∧ Char.ofNat number ≠ '$') := by
    decide +kernel
  have found := each character.toNat (toNat_lt_of_continues continues)
  rw [Char.ofNat_toNat] at found
  obtain ⟨inName, inIdentifier, noSign⟩ := found continues
  exact ⟨inName, inIdentifier, noSign⟩

theorem starts_of_startsIdentifier {character : Char}
    (starts : startsIdentifier character = true) : Starts character := by
  have each : ∀ number < 128, startsIdentifier (Char.ofNat number) = true →
      Stencil.Text.isBlank (Char.ofNat number) = false ∧
        isDecimal (Char.ofNat number) = false ∧
        (Char.ofNat number ≠ '0' ∧ ¬('1' ≤ Char.ofNat number ∧ Char.ofNat number ≤ '9')) ∧
        (CodePoint.ofChar (Char.ofNat number)).isIdentifierStart = true := by
    decide +kernel
  have found :=
    each character.toNat (toNat_lt_of_continues (continuesIdentifier_of_starts starts))
  rw [Char.ofNat_toNat] at found
  obtain ⟨noBlank, noDecimal, noNumeral, ofIdentifier⟩ := found starts
  exact ⟨noBlank, noDecimal, noNumeral, ofIdentifier⟩

/-- The characters of a name, of which the first one is known. -/
theorem IsVariable.exists_cons {name : String} (isVariable : IsVariable name) :
    ∃ first rest, name.toList = first :: rest ∧ startsIdentifier first = true ∧
      ∀ character ∈ first :: rest, continuesIdentifier character = true := by
  obtain ⟨first, found, starts⟩ := isVariable.starts
  have continues := isVariable.continues
  cases split : name.toList with
  | nil =>
    rw [split] at found
    cases found
  | cons known rest =>
    rw [split] at found continues
    cases found
    exact ⟨first, rest, rfl, starts, continues⟩

/-! ## Literal text -/

/-- Two neighbouring characters that open a tag. -/
def Opens (first second : Char) : Prop :=
  [first, second] ∈ [Delimiters.default.interpolationStart, blockStart, commentStart]

instance (first second : Char) : Decidable (Opens first second) :=
  inferInstanceAs (Decidable (_ ∈ _))

theorem opens_iff {first second : Char} :
    Opens first second ↔
      first = '$' ∧ second = '{' ∨ first = '{' ∧ (second = '%' ∨ second = '#') := by
  simp [Opens, Delimiters.default, blockStart, commentStart, and_or_left]

/-- Text in which no tag is opened. -/
def IsLiteral (text : List Char) : Prop :=
  text.IsChain fun first second => ¬Opens first second

instance (text : List Char) : Decidable (IsLiteral text) :=
  inferInstanceAs (Decidable (List.IsChain _ text))

theorem afterStart?_of_other {first second initial : Char} {rest : List Char}
    (other : ∀ next ∈ rest.head?, ¬(initial = first ∧ next = second)) :
    Stencil.Text.afterStart? [first, second] (initial :: rest) = none := by
  cases rest with
  | nil => simp [Stencil.Text.afterStart?]
  | cons next rest =>
    have apart := other next rfl
    rw [Stencil.Text.afterStart?]
    split
    · next here =>
      rw [Stencil.Text.afterStart?, if_neg fun there => apart ⟨here.symm, there.symm⟩]
    · rfl

/-- A tag is only opened by two characters that open one. -/
theorem openingAt?_of_not_opens {first : Char} {rest : List Char}
    (closed : ∀ next ∈ rest.head?, ¬Opens first next) :
    openingAt? .default (first :: rest) = none := by
  have noReference : Stencil.Text.afterStart? ['$', '{'] (first :: rest) = none :=
    afterStart?_of_other fun next found same => closed next found (opens_iff.mpr (.inl same))
  have noBlock : Stencil.Text.afterStart? blockStart (first :: rest) = none :=
    afterStart?_of_other fun next found same =>
      closed next found (opens_iff.mpr (.inr ⟨same.1, .inl same.2⟩))
  have noComment : Stencil.Text.afterStart? commentStart (first :: rest) = none :=
    afterStart?_of_other fun next found same =>
      closed next found (opens_iff.mpr (.inr ⟨same.1, .inr same.2⟩))
  simp [openingAt?, rawOpening?, plainOpening?, Delimiters.default, noReference, noBlock,
    noComment]

/-- Literal text is passed over on the way to the next tag. -/
theorem splitAtOpening_literal {text after : List Char} (isLiteral : IsLiteral text)
    (begins : ∀ next ∈ after.head?, next = '$') :
    splitAtOpening .default (text ++ after) =
      (text ++ (splitAtOpening .default after).1, (splitAtOpening .default after).2) := by
  induction text with
  | nil => rfl
  | cons first rest ih =>
    obtain ⟨apart, others⟩ := List.isChain_cons.mp isLiteral
    have closed : ∀ next ∈ (rest ++ after).head?, ¬Opens first next := by
      intro next found
      cases rest with
      | nil =>
        rw [begins next found, opens_iff]
        simp
      | cons second rest => exact apart next found
    rw [List.cons_append, splitAtOpening, openingAt?_of_not_opens closed, ih others]
    rfl

/-! ## Line ends -/

section LineEnds

open Stencil.Text (unifyLineEnds)

theorem unifyLineEnds_cons_of_ne {character : Char} (other : character ≠ '\r')
    (rest : List Char) :
    unifyLineEnds (character :: rest) = character :: unifyLineEnds rest := by
  simp [unifyLineEnds, other]

theorem unifyLineEnds_return {rest : List Char} (noFeed : rest.head? ≠ some '\n') :
    unifyLineEnds ('\r' :: rest) = '\n' :: unifyLineEnds rest := by
  cases rest with
  | nil => rfl
  | cons second rest =>
    have other : second ≠ '\n' := fun same => noFeed (congrArg some same)
    simp [unifyLineEnds, other]

/-- The line ends before something else than a line feed are unified apart from it. -/
theorem unifyLineEnds_append {text after : List Char} (noFeed : after.head? ≠ some '\n') :
    unifyLineEnds (text ++ after) = unifyLineEnds text ++ unifyLineEnds after := by
  fun_induction unifyLineEnds text with
  | case1 => rfl
  | case2 rest ih =>
    show '\n' :: unifyLineEnds (rest ++ after) = _
    rw [ih, List.cons_append]
  | case3 rest single ih =>
    have alone : (rest ++ after).head? ≠ some '\n' := by
      cases rest with
      | nil => exact noFeed
      | cons second rest =>
        intro found
        cases found
        exact single rest rfl
    rw [List.cons_append, unifyLineEnds_return alone, ih, List.cons_append]
  | case4 character rest _ other ih =>
    rw [List.cons_append, unifyLineEnds_cons_of_ne other, ih, List.cons_append]

theorem unifyLineEnds_append_of_no_return {text : List Char} (noReturn : '\r' ∉ text)
    (after : List Char) : unifyLineEnds (text ++ after) = text ++ unifyLineEnds after := by
  induction text with
  | nil => rfl
  | cons first rest ih =>
    obtain ⟨other, others⟩ := not_or.mp (mt List.mem_cons.mpr noReturn)
    rw [List.cons_append, unifyLineEnds_cons_of_ne (Ne.symm other), ih others,
      List.cons_append]

theorem head?_of_unifyLineEnds {text : List Char} {first : Char}
    (found : (unifyLineEnds text).head? = some first) (noFeed : first ≠ '\n') :
    text.head? = some first := by
  fun_cases unifyLineEnds text with
  | case1 => cases found
  | case2 rest =>
    cases found
    exact absurd rfl noFeed
  | case3 rest single =>
    have alone : rest.head? ≠ some '\n' := fun starts => by
      obtain ⟨more, rfl⟩ := List.head?_eq_some_iff.mp starts
      exact single more rfl
    rw [unifyLineEnds_return alone] at found
    cases found
    exact absurd rfl noFeed
  | case4 character rest _ other =>
    rw [unifyLineEnds_cons_of_ne other] at found
    exact found

/-- Unifying line ends opens no tags. -/
theorem IsLiteral.unifyLineEnds {text : List Char} (isLiteral : IsLiteral text) :
    IsLiteral (unifyLineEnds text) := by
  have feed (rest : List Char) (others : IsLiteral (Text.unifyLineEnds rest)) :
      IsLiteral ('\n' :: Text.unifyLineEnds rest) := by
    refine List.isChain_cons.mpr ⟨fun next _ opens => ?_, others⟩
    simp [opens_iff] at opens
  fun_induction Text.unifyLineEnds text with
  | case1 => exact isLiteral
  | case2 rest ih =>
    exact feed rest (ih (List.isChain_cons.mp (List.isChain_cons.mp isLiteral).2).2)
  | case3 rest single ih => exact feed rest (ih (List.isChain_cons.mp isLiteral).2)
  | case4 character rest _ other ih =>
    obtain ⟨apart, others⟩ := List.isChain_cons.mp isLiteral
    refine List.isChain_cons.mpr ⟨fun next found opens => ?_, ih others⟩
    have noFeed : next ≠ '\n' := by
      rintro rfl
      simp [opens_iff] at opens
    exact apart next (head?_of_unifyLineEnds found noFeed) opens

end LineEnds

/-! ## References -/

/-- Literal text, and references to names, each with the literal text behind it. -/
structure Interpolated where
  opening : List Char
  references : List (String × List Char)

namespace Interpolated

/-- References as they are written down, each with the text behind it. -/
def written : List (String × List Char) → List Char
  | [] => []
  | (name, literal) :: more => '$' :: '{' :: name.toList ++ '}' :: (literal ++ written more)

/-- The text of a template. -/
def source (text : Interpolated) : List Char :=
  text.opening ++ written text.references

def names (text : Interpolated) : List String :=
  text.references.map Prod.fst

def literals (text : Interpolated) : List (List Char) :=
  text.opening :: text.references.map Prod.snd

/-- The references are to variables, and no tags are opened but those of references. -/
structure IsPlain (text : Interpolated) : Prop where
  names : ∀ name ∈ text.names, IsVariable name
  literals : ∀ literal ∈ text.literals, IsLiteral literal

/-- The same references in text with unified line ends. -/
def unified (text : Interpolated) : Interpolated where
  opening := Text.unifyLineEnds text.opening
  references := text.references.map fun (name, literal) => (name, Text.unifyLineEnds literal)

theorem head?_written (references : List (String × List Char)) :
    ∀ next ∈ (written references).head?, next = '$' := by
  intro next found
  cases references with
  | nil => cases found
  | cons reference more =>
    cases found
    rfl

theorem names_unified (text : Interpolated) : text.unified.names = text.names := by
  simp [names, unified]

theorem IsPlain.unified {text : Interpolated} (isPlain : text.IsPlain) :
    text.unified.IsPlain := by
  constructor
  · rw [names_unified]
    exact isPlain.names
  · obtain ⟨first, others⟩ := List.forall_mem_cons.mp isPlain.literals
    refine List.forall_mem_cons.mpr ⟨first.unifyLineEnds, fun literal member => ?_⟩
    simp only [Interpolated.unified, List.map_map, List.mem_map] at member
    obtain ⟨reference, among, rfl⟩ := member
    exact (others _ (List.mem_map_of_mem among)).unifyLineEnds

private theorem unifyLineEnds_append_written (text : List Char)
    (references : List (String × List Char)) :
    Text.unifyLineEnds (text ++ written references) =
      Text.unifyLineEnds text ++ Text.unifyLineEnds (written references) :=
  unifyLineEnds_append fun found => by cases head?_written references _ found

private theorem unifyLineEnds_written {references : List (String × List Char)}
    (names : ∀ reference ∈ references, IsVariable reference.1) :
    Text.unifyLineEnds (written references) =
      written (references.map fun (name, literal) => (name, Text.unifyLineEnds literal)) := by
  induction references with
  | nil => rfl
  | cons reference more ih =>
    obtain ⟨name, literal⟩ := reference
    obtain ⟨isVariable, others⟩ := List.forall_mem_cons.mp names
    have noReturn : '\r' ∉ '$' :: '{' :: name.toList ++ ['}'] := by
      have inName : '\r' ∉ name.toList := fun member =>
        (goesOn_of_continues (isVariable.continues _ member)).noSign.2.2.2.1 rfl
      simp [inName]
    have split (literal : List Char) (more : List (String × List Char)) :
        written ((name, literal) :: more) =
          ('$' :: '{' :: name.toList ++ ['}']) ++ (literal ++ written more) := by
      simp [written]
    rw [split, unifyLineEnds_append_of_no_return noReturn, unifyLineEnds_append_written,
      ih others, List.map_cons, split]

theorem unifyLineEnds_source {text : Interpolated} (isPlain : text.IsPlain) :
    Text.unifyLineEnds text.source = text.unified.source := by
  have names : ∀ reference ∈ text.references, IsVariable reference.1 := fun reference among =>
    isPlain.names _ (List.mem_map_of_mem among)
  rw [source, unifyLineEnds_append_written, unifyLineEnds_written names]
  rfl

/-! ## Pieces -/

/-- Literal text that is not empty, or a reference to a name. -/
inductive Piece
  | literal (text : List Char)
  | reference (name : String)

/-- The tokens of a piece. -/
def Piece.kinds : Piece → List TokenKind
  | .literal text => [.data text]
  | .reference name => [.interpolationStart, .name name, .interpolationEnd]

/-- Literal text is a piece unless it is empty. -/
def literalPieces (literal : List Char) : List Piece :=
  if literal.isEmpty then [] else [.literal literal]

def referencePieces (references : List (String × List Char)) : List Piece :=
  references.flatMap fun (name, literal) => .reference name :: literalPieces literal

/-- The pieces of a template in their order. -/
def pieces (text : Interpolated) : List Piece :=
  literalPieces text.opening ++ referencePieces text.references

/-- The references among the pieces are to the names of the template. -/
theorem reference_mem_pieces {text : Interpolated} {name : String} :
    .reference name ∈ text.pieces ↔ name ∈ text.names := by
  have noLiteral (literal : List Char) : .reference name ∉ literalPieces literal := by
    unfold literalPieces
    split <;> simp
  simp [pieces, referencePieces, names, noLiteral]

end Interpolated

open Interpolated (Piece head?_written literalPieces referencePieces written)

/-! ## Tokens -/

private theorem kinds_dataToken (line : Nat) (literal : List Char) :
    (dataToken line literal).map Token.kind = (literalPieces literal).flatMap Piece.kinds := by
  unfold dataToken literalPieces
  split <;> rfl

/-- No number starts where an identifier does. -/
private theorem no_numeral {first : Char} (starts : Starts first) (rest : List Char) :
    floatAt? (first :: rest) = none ∧ integerAt? (first :: rest) = none := by
  have noDigits : plainDigits (first :: rest) = ([], first :: rest) := by
    simp [plainDigits, starts.noDecimal]
  constructor
  · simp [floatAt?, noDigits]
  · obtain ⟨noZero, noOther⟩ := starts.noNumeral
    unfold integerAt?
    split
    · next same =>
      cases same
      exact absurd rfl noZero
    · split
      · next same =>
        cases same
        exact absurd rfl noZero
      · next same =>
        cases same
        simpa using noOther
      · next same => cases same

/-- A name inside of an interpolation is read as one, up to the end of the interpolation. -/
theorem scanInside_name {name : String} (isVariable : IsVariable name) (line : Nat)
    (rest : List Char) :
    scanInside line false (name.toList ++ '}' :: rest) =
      some ⟨some (.name name), name.toList, '}' :: rest⟩ := by
  obtain ⟨first, others, split, starts, continues⟩ := isVariable.exists_cons
  have begins := starts_of_startsIdentifier starts
  have inName : ∀ character ∈ name.toList, isNameChar character = true := fun character among =>
    (goesOn_of_continues (isVariable.continues character among)).inName
  have closed : isNameChar '}' = false := by decide +kernel
  have taken : (name.toList ++ '}' :: rest).takeWhile isNameChar = name.toList := by
    rw [List.takeWhile_append_of_pos inName, List.takeWhile_cons_of_neg (by simp [closed]),
      List.append_nil]
  have left : (name.toList ++ '}' :: rest).dropWhile isNameChar = '}' :: rest := by
    rw [List.dropWhile_append_of_pos inName, List.dropWhile_cons_of_neg (by simp [closed])]
  have kind : nameKind line name.toList = .name name := by
    have isIdentifier : Text.isIdentifier (Text.ofChars name.toList) = true := by
      rw [split]
      refine Bool.and_eq_true_iff.mpr ⟨begins.ofIdentifier, List.all_eq_true.mpr ?_⟩
      intro point member
      obtain ⟨character, among, rfl⟩ := List.mem_map.mp member
      exact (goesOn_of_continues (continues _ (List.mem_cons_of_mem _ among))).inIdentifier
    rw [nameKind, if_pos isIdentifier, String.ofList_toList]
  obtain ⟨noFloat, noInteger⟩ := no_numeral begins (others ++ '}' :: rest)
  have isName : isNameChar first = true :=
    (goesOn_of_continues (continues first (List.mem_cons_self ..))).inName
  rw [split, List.cons_append] at taken left
  rw [split, List.cons_append]
  unfold scanInside
  simp only [begins.noBlank, noFloat, noInteger, isName, taken, left, if_true, if_false,
    Bool.false_eq_true]
  rw [← split, kind]

/-- The tokens inside of a reference, and what follows its end. -/
theorem innerTokens_name {name : String} (isVariable : IsVariable name) (fuel line : Nat)
    (rest : List Char) :
    ∃ last after, innerTokens .default (fuel + 2) .interpolation line [] false
        (name.toList ++ '}' :: rest) =
      ⟨line, .name name⟩ :: ⟨last, .interpolationEnd⟩ ::
        outerTokens .default fuel after rest := by
  obtain ⟨first, others, split, -, continues⟩ := isVariable.exists_cons
  obtain ⟨noMinus, -, noEnd, -⟩ := (goesOn_of_continues (continues first (.head _))).noSign
  have onward : tagEnd? .default .interpolation (name.toList ++ '}' :: rest) = none := by
    rw [split, List.cons_append]
    simp [tagEnd?, noMinus, Delimiters.default, Stencil.Text.afterStart?, Ne.symm noEnd]
  have ended : tagEnd? .default .interpolation ('}' :: rest) = some rest := rfl
  rw [innerTokens]
  simp only [List.isEmpty_nil, if_true, onward, scanInside_name isVariable]
  rw [innerTokens]
  simp only [List.isEmpty_nil, if_true, ended]
  exact ⟨_, _, rfl⟩

/-- A reference opens an interpolation with its name. -/
theorem splitAtOpening_written {name : String} (isVariable : IsVariable name)
    (literal : List Char) (more : List (String × List Char)) :
    splitAtOpening .default (written ((name, literal) :: more)) =
      ([], some ⟨.interpolation, false, 0, name.toList ++ '}' :: (literal ++ written more)⟩) := by
  obtain ⟨first, others, split, -, continues⟩ := isVariable.exists_cons
  obtain ⟨noMinus, noPlus, -⟩ := (goesOn_of_continues (continues first (.head _))).noSign
  have sign : controlSign (name.toList ++ '}' :: (literal ++ written more)) =
      (false, name.toList ++ '}' :: (literal ++ written more)) := by
    rw [split, List.cons_append]
    unfold controlSign
    split <;> simp_all
  have opened : openingAt? .default (written ((name, literal) :: more)) =
      some ⟨.interpolation, false, 0, name.toList ++ '}' :: (literal ++ written more)⟩ := by
    simp only [written, openingAt?, rawOpening?, plainOpening?, Delimiters.default, blockStart,
      commentStart, List.cons_append, Stencil.Text.afterStart?]
    simp [sign]
    rfl
  rw [show written ((name, literal) :: more) =
    '$' :: ('{' :: name.toList ++ '}' :: (literal ++ written more)) from rfl] at opened ⊢
  rw [splitAtOpening, opened]

/-- Fuel for three steps for each reference is enough. -/
theorem kinds_outerTokens {literal : List Char} {references : List (String × List Char)}
    (isLiteral : IsLiteral literal) (names : ∀ reference ∈ references, IsVariable reference.1)
    (literals : ∀ reference ∈ references, IsLiteral reference.2) {fuel : Nat} (line : Nat)
    (enough : 3 * references.length < fuel) :
    (outerTokens .default fuel line (literal ++ written references)).map Token.kind =
      (literalPieces literal ++ referencePieces references).flatMap Piece.kinds := by
  induction references generalizing literal fuel line with
  | nil =>
    obtain ⟨fuel, rfl⟩ := Nat.exists_eq_add_one_of_ne_zero (Nat.ne_of_gt enough)
    have passed : splitAtOpening .default (literal ++ written []) = (literal, none) := by
      rw [splitAtOpening_literal isLiteral (head?_written [])]
      exact congrArg (·, none) (List.append_nil literal)
    rw [outerTokens, passed]
    exact (kinds_dataToken line literal).trans (by rw [referencePieces, List.flatMap_nil,
      List.append_nil])
  | cons reference more ih =>
    obtain ⟨name, behind⟩ := reference
    obtain ⟨isVariable, otherNames⟩ := List.forall_mem_cons.mp names
    obtain ⟨isBehind, otherLiterals⟩ := List.forall_mem_cons.mp literals
    obtain ⟨fuel, rfl, further⟩ : ∃ rest, fuel = rest + 3 ∧ 3 * more.length < rest :=
      ⟨fuel - 3, by simp only [List.length_cons] at enough; omega,
        by simp only [List.length_cons] at enough; omega⟩
    have opened : splitAtOpening .default (literal ++ written ((name, behind) :: more)) =
        (literal,
          some ⟨.interpolation, false, 0, name.toList ++ '}' :: (behind ++ written more)⟩) := by
      rw [splitAtOpening_literal isLiteral (head?_written _), splitAtOpening_written isVariable,
        List.append_nil]
    obtain ⟨last, after, inside⟩ := innerTokens_name isVariable fuel
      (line + countLines literal) (behind ++ written more)
    have rest := ih isBehind otherNames otherLiterals after further
    rw [outerTokens, opened]
    simp only [Bool.false_eq_true, if_false, Nat.add_zero, inside, List.map_append,
      List.map_cons, kinds_dataToken, rest, referencePieces, List.flatMap_cons,
      List.flatMap_append]
    rfl

private theorem length_le_written (references : List (String × List Char)) :
    3 * references.length ≤ (written references).length := by
  induction references with
  | nil => exact Nat.zero_le _
  | cons reference more ih =>
    simp only [written, List.length_append, List.length_cons]
    omega

/-- A plain template has the tokens of its parts, whatever its line ends are. -/
theorem kinds_tokens {text : Interpolated} (isPlain : text.IsPlain) :
    (tokens .default text.source).map Token.kind = text.unified.pieces.flatMap Piece.kinds := by
  have unified := isPlain.unified
  have names : ∀ reference ∈ text.unified.references, IsVariable reference.1 :=
    fun reference among => unified.names _ (List.mem_map_of_mem among)
  obtain ⟨isLiteral, others⟩ := List.forall_mem_cons.mp unified.literals
  have literals : ∀ reference ∈ text.unified.references, IsLiteral reference.2 :=
    fun reference among => others _ (List.mem_map_of_mem among)
  unfold tokens
  rw [Interpolated.unifyLineEnds_source isPlain]
  refine kinds_outerTokens isLiteral names literals 1 ?_
  have long := length_le_written text.unified.references
  rw [Interpolated.source, List.length_append]
  omega

end Stencil.Template
