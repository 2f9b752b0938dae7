import Stencil.Proofs.Number.Numeral
import Stencil.Proofs.Outcome
import Stencil.Toml.Document

/-!
# Faults of reading TOML documents

All that reads from the start of some characters leaves a suffix of them.  Characters that
make up no document are a fault of the document, and there is but one other fault: somewhere
a decimal number starts that has more digits than are read.
-/

namespace Stencil.Toml

open Data (Item Table)

/-- Somewhere a decimal number starts that has too many digits. -/
def HasLongNumber (characters : List Char) : Prop :=
  ∃ number, number <:+ characters ∧ readDecimal? number = some (.error .wrongValue)

/-- A fault of reading characters. -/
inductive FaultOf (characters : List Char) : Fault → Prop
  | malformed : FaultOf characters .descriptorSyntax
  | long (long : HasLongNumber characters) : FaultOf characters .wrongValue

/-- Reading leaves a suffix of some characters, or has a fault of these. -/
def Takes {α : Type} (left : α → List Char) (characters : List Char) : Except Fault α → Prop
  | .ok found => left found <:+ characters
  | .error fault => FaultOf characters fault

/-- A fault of a change of tables. -/
abbrev Changes {α : Type} (result : Except Fault α) : Prop :=
  FailsOnly (· = .descriptorSyntax) result

variable {α β : Type} {left : α → List Char} {characters rest : List Char}

theorem FaultOf.mono {fault : Fault} (faultOf : FaultOf rest fault) (part : rest <:+ characters) :
    FaultOf characters fault := by
  cases faultOf with
  | malformed => exact .malformed
  | long long =>
    obtain ⟨number, inside, isLong⟩ := long
    exact .long ⟨number, inside.trans part, isLong⟩

namespace Takes

variable {first : Except Fault α} {last : β → List Char} {next : α → Except Fault β}

theorem mono (takes : Takes left rest first) (part : rest <:+ characters) :
    Takes left characters first := by
  cases first with
  | ok found => exact List.IsSuffix.trans takes part
  | error fault => exact FaultOf.mono takes part

theorem bind (here : Takes left characters first)
    (there : ∀ found, Takes last (left found) (next found)) :
    Takes last characters (first >>= next) := by
  cases first with
  | ok found => exact (there found).mono here
  | error fault => exact here

/-- What has nothing to do with the characters only fails for the structure. -/
theorem after (here : Changes first) (there : ∀ found, Takes last characters (next found)) :
    Takes last characters (first >>= next) := by
  cases first with
  | ok found => exact there found
  | error fault =>
    cases here fault rfl
    exact .malformed

theorem map {change : α → β} (takes : Takes left characters first)
    (same : ∀ found, last (change found) = left found) :
    Takes last characters (first.map change) := by
  cases first with
  | ok found =>
    show last (change found) <:+ characters
    rw [same]
    exact takes
  | error fault => exact takes

theorem ite {condition : Prop} [Decidable condition] {second : Except Fault α}
    (here : Takes left characters first) (there : Takes left characters second) :
    Takes left characters (if condition then first else second) := by
  split
  · exact here
  · exact there

theorem dite {condition : Prop} [Decidable condition] {first : condition → Except Fault α}
    {second : ¬ condition → Except Fault α} (here : ∀ holds, Takes left characters (first holds))
    (there : ∀ fails, Takes left characters (second fails)) :
    Takes left characters (if holds : condition then first holds else second holds) := by
  by_cases holds : condition
  · rw [dif_pos holds]
    exact here holds
  · rw [dif_neg holds]
    exact there holds

end Takes

theorem takes_malformed : Takes left characters malformed := .malformed

theorem changes_malformed : Changes (malformed : Except Fault α) := .error rfl

/-! ## Spaces -/

private theorem skipSpaces_suffix (characters : List Char) : skipSpaces characters <:+ characters :=
  List.dropWhile_suffix _

private theorem skipSpaces_suffix_cons (mark : Char) (rest : List Char) :
    skipSpaces rest <:+ mark :: rest :=
  (skipSpaces_suffix rest).trans (List.suffix_cons ..)

/-- What stands behind a mark, spaces apart. -/
private theorem suffix_of_skipSpaces {mark : Char} (next : skipSpaces characters = mark :: rest) :
    rest <:+ characters := by
  have behind := skipSpaces_suffix characters
  rw [next] at behind
  exact (List.suffix_cons ..).trans behind

/-! ## Texts -/

private theorem takes_readEscapedPoint (width : Nat) (characters : List Char) :
    Takes Prod.snd characters (readEscapedPoint width characters) := by
  unfold readEscapedPoint
  exact .ite (.dite (fun _ => List.drop_suffix ..) fun _ => takes_malformed) takes_malformed

private theorem takes_readEscape (characters : List Char) :
    Takes Prod.snd characters (readEscape characters) := by
  unfold readEscape
  split
  · exact ((takes_readEscapedPoint 4 _).mono (List.suffix_cons ..)).map fun _ => rfl
  · exact ((takes_readEscapedPoint 8 _).mono (List.suffix_cons ..)).map fun _ => rfl
  · split
    · exact List.suffix_cons ..
    · exact takes_malformed
  · exact takes_malformed

private theorem takes_readEscapeInLines (characters : List Char) :
    Takes Prod.snd characters (readEscapeInLines characters) := by
  unfold readEscapeInLines
  split
  · exact (List.dropWhile_suffix _).trans (List.suffix_cons ..)
  · next mark rest _ =>
    refine .ite ?_ (takes_readEscape _)
    split
    · exact List.nil_suffix
    · next behind found =>
      exact (List.dropWhile_suffix _).trans
        ((suffix_of_skipSpaces found).trans (List.suffix_cons mark rest))
    · exact takes_malformed
  · exact takes_malformed

private theorem takes_readQuoted (fuel : Nat) (before characters : List Char) :
    Takes Prod.snd characters (readQuoted fuel before characters) := by
  induction fuel generalizing before characters with
  | zero => exact takes_malformed
  | succ fuel ih =>
    unfold readQuoted
    split
    · exact takes_malformed
    · exact List.suffix_cons ..
    · exact .bind ((takes_readEscape _).mono (List.suffix_cons ..)) fun _ => ih _ _
    · exact .ite takes_malformed ((ih _ _).mono (List.suffix_cons ..))

private theorem takes_readQuotedLines (fuel : Nat) (before characters : List Char) :
    Takes Prod.snd characters (readQuotedLines fuel before characters) := by
  induction fuel generalizing before characters with
  | zero => exact takes_malformed
  | succ fuel ih =>
    unfold readQuotedLines
    split
    · exact takes_malformed
    · exact List.suffix_append ['"', '"', '"'] _
    · exact .bind ((takes_readEscapeInLines _).mono (List.suffix_cons ..)) fun _ => ih _ _
    · exact .ite takes_malformed ((ih _ _).mono (List.suffix_cons ..))

private theorem suffix_of_cut? {separator content : List Char}
    (found : Text.cut? separator characters = some (content, rest)) : rest <:+ characters := by
  obtain ⟨place, -, same⟩ := Option.map_eq_some_iff.mp found
  cases same
  exact List.drop_suffix ..

private theorem takes_readLiteral (characters : List Char) :
    Takes Prod.snd characters (readLiteral characters) := by
  unfold readLiteral
  split
  · next found => exact .ite takes_malformed (suffix_of_cut? found)
  · exact takes_malformed

private theorem takes_readLiteralLines (characters : List Char) :
    Takes Prod.snd characters (readLiteralLines characters) := by
  unfold readLiteralLines
  split
  · next found => exact .ite takes_malformed (suffix_of_cut? found)
  · exact takes_malformed

private theorem withQuotes_suffix (quote : Char) (content characters : List Char) :
    (withQuotes quote content characters).2 <:+ characters := by
  unfold withQuotes
  split
  · next first second rest =>
    split
    · split
      · exact List.suffix_append [first, second] rest
      · exact List.suffix_cons ..
    · exact List.suffix_rfl
  · split
    · exact List.nil_suffix
    · exact List.suffix_rfl
  · exact List.suffix_rfl

private theorem withoutFirstLineEnd_suffix (characters : List Char) :
    withoutFirstLineEnd characters <:+ characters := by
  unfold withoutFirstLineEnd
  split
  · exact List.suffix_cons ..
  · exact List.suffix_rfl

private theorem takes_readText {reading : Except Fault (String × List Char)}
    (read : readText characters = some reading) : Takes Prod.snd characters reading := by
  unfold readText at read
  split at read
  · next rest =>
    cases read
    refine .bind ((takes_readQuotedLines _ _ _).mono ?_) fun _ => withQuotes_suffix ..
    exact (withoutFirstLineEnd_suffix _).trans (List.suffix_append ['"', '"', '"'] rest)
  · cases read
    exact (takes_readQuoted _ _ _).mono (List.suffix_cons ..)
  · next rest =>
    cases read
    refine .bind ((takes_readLiteralLines _).mono ?_) fun _ => withQuotes_suffix ..
    exact (withoutFirstLineEnd_suffix _).trans (List.suffix_append ['\'', '\'', '\''] rest)
  · cases read
    exact (takes_readLiteral _).mono (List.suffix_cons ..)
  · cases read

/-! ## Numbers, dates and times -/

/-- Reading that may find nothing leaves a suffix of some characters. -/
def Leaves (left : α → List Char) (characters : List Char) (reading : Option α) : Prop :=
  ∀ found, reading = some found → left found <:+ characters

namespace Leaves

variable {reading : Option α} {last : β → List Char} {next : α → Option β}

theorem none : Leaves left characters none :=
  fun _ found => nomatch found

theorem some {found : α} (part : left found <:+ characters) :
    Leaves left characters (some found) := by
  intro _ same
  cases same
  exact part

theorem mono (leaves : Leaves left rest reading) (part : rest <:+ characters) :
    Leaves left characters reading :=
  fun found same => (leaves found same).trans part

theorem bind (here : Leaves left characters reading)
    (there : ∀ found, Leaves last (left found) (next found)) :
    Leaves last characters (reading >>= next) := by
  cases reading with
  | none => exact .none
  | some found => exact (there found).mono (here found rfl)

/-- What has nothing to do with the characters comes first. -/
theorem after (there : ∀ found, Leaves last characters (next found)) :
    Leaves last characters (reading >>= next) := by
  cases reading with
  | none => exact .none
  | some found => exact there found

theorem ite {condition : Prop} [Decidable condition] {second : Option α}
    (here : Leaves left characters reading) (there : Leaves left characters second) :
    Leaves left characters (if condition then reading else second) := by
  split
  · exact here
  · exact there

end Leaves

private theorem digitRun_suffix (isDigit : Char → Bool) (characters : List Char) :
    (digitRun isDigit characters).2 <:+ characters := by
  fun_induction digitRun isDigit characters with
  | case1 character rest _ digits behind run ih =>
    rw [run] at ih
    exact ih.trans (List.suffix_append ['_', character] rest)
  | case2 => exact List.suffix_rfl
  | case3 character rest _ _ digits behind run ih =>
    rw [run] at ih
    exact ih.trans (List.suffix_cons ..)
  | case4 => exact List.suffix_rfl
  | case5 => exact List.suffix_rfl

private theorem leaves_digitsFrom? (isDigit : Char → Bool) (characters : List Char) :
    Leaves Prod.snd characters (digitsFrom? isDigit characters) := by
  unfold digitsFrom?
  split
  · exact .ite (.some ((digitRun_suffix ..).trans (List.suffix_cons ..))) .none
  · exact .none

private theorem leaves_readBased? (characters : List Char) :
    Leaves Prod.snd characters (readBased? characters) := by
  unfold readBased?
  split
  · next letter rest =>
    refine .after fun base => ?_
    refine .bind ((leaves_digitsFrom? _ rest).mono ?_) fun _ => .some List.suffix_rfl
    exact List.suffix_append ['0', letter] rest
  · exact .none

private theorem leaves_wholePart? (characters : List Char) :
    Leaves Prod.snd characters (wholePart? characters) := by
  unfold wholePart?
  split
  · exact .some (List.suffix_cons ..)
  · exact leaves_digitsFrom? _ _

private theorem fractionPart_suffix (characters : List Char) :
    (fractionPart characters).2 <:+ characters := by
  unfold fractionPart
  split
  · split
    · next found =>
      exact (leaves_digitsFrom? _ _ _ found).trans (List.suffix_cons ..)
    · exact List.suffix_rfl
  · exact List.suffix_rfl

private theorem signPart_suffix (characters : List Char) :
    (signPart characters).2 <:+ characters := by
  unfold signPart
  split
  · exact List.suffix_cons ..
  · exact List.suffix_cons ..
  · exact List.suffix_rfl

private theorem exponentPart_suffix (characters : List Char) :
    (exponentPart characters).2 <:+ characters := by
  unfold exponentPart
  split
  · split
    · dsimp only
      split
      · next found =>
        exact (leaves_digitsFrom? _ _ _ found).trans
          ((signPart_suffix _).trans (List.suffix_cons ..))
      · exact List.suffix_rfl
    · exact List.suffix_rfl
  · exact List.suffix_rfl

private theorem takes_readDecimal? {reading : Except Fault (Item × List Char)}
    (read : readDecimal? characters = some reading) : Takes Prod.snd characters reading := by
  have known := read
  unfold readDecimal? at read
  obtain ⟨⟨whole, rest⟩, isWhole, read⟩ := Option.bind_eq_some_iff.mp read
  have behind := (exponentPart_suffix _).trans ((fractionPart_suffix rest).trans
    ((leaves_wholePart? _ _ isWhole).trans (signPart_suffix characters)))
  dsimp only at read
  split at read
  · split at read
    · cases read
      exact behind
    · cases read
      exact .long ⟨characters, List.suffix_rfl, known⟩
  · split at read
    · cases read
      exact behind
    · cases read
      exact takes_malformed

private theorem takes_readNumber? {reading : Except Fault (Item × List Char)}
    (read : readNumber? characters = some reading) : Takes Prod.snd characters reading := by
  unfold readNumber? at read
  split at read
  · next found =>
    cases read
    exact leaves_readBased? _ _ found
  · exact takes_readDecimal? read

private theorem leaves_readSpecial? (characters : List Char) :
    Leaves Prod.snd characters (readSpecial? characters) := by
  have unsigned := signPart_suffix characters
  unfold readSpecial?
  dsimp only
  split
  · next rest found =>
    rw [found] at unsigned
    exact .some ((List.suffix_append ['i', 'n', 'f'] rest).trans unsigned)
  · next rest found =>
    rw [found] at unsigned
    exact .some ((List.suffix_append ['n', 'a', 'n'] rest).trans unsigned)
  · exact .none

private theorem leaves_readFixed? (width low high : Nat) (characters : List Char) :
    Leaves Prod.snd characters (readFixed? width low high characters) :=
  .ite (.some (List.drop_suffix ..)) .none

private theorem leaves_expect? (mark : Char) (characters : List Char) :
    Leaves id characters (expect? mark characters) := by
  unfold expect?
  split
  · exact .none
  · exact .ite (.some (List.suffix_cons ..)) .none

private theorem microseconds_suffix (characters : List Char) :
    (microseconds characters).2 <:+ characters := by
  unfold microseconds
  split
  · dsimp only
    split
    · exact List.suffix_rfl
    · exact (List.dropWhile_suffix _).trans (List.suffix_cons ..)
  · exact List.suffix_rfl

private theorem leaves_readTime? (characters : List Char) :
    Leaves Prod.snd characters (readTime? characters) :=
  .bind (leaves_readFixed? _ _ _ _) fun _ => .bind (leaves_expect? _ _) fun _ =>
    .bind (leaves_readFixed? _ _ _ _) fun _ => .bind (leaves_expect? _ _) fun _ =>
      .bind (leaves_readFixed? _ _ _ _) fun _ => .some (microseconds_suffix _)

private theorem readOffset_suffix (characters : List Char) :
    (readOffset characters).2 <:+ characters := by
  unfold readOffset
  split
  · exact List.suffix_cons ..
  · exact List.suffix_cons ..
  · next mark rest _ _ =>
    split
    · dsimp only
      split
      · next seconds behind found =>
        refine List.IsSuffix.trans ((?_ : Leaves Prod.snd rest _) (seconds, behind) found)
          (List.suffix_cons mark rest)
        exact .bind (leaves_readFixed? _ _ _ _) fun _ => .bind (leaves_expect? _ _) fun _ =>
          .bind (leaves_readFixed? _ _ _ _) fun _ => .some List.suffix_rfl
      · exact List.suffix_rfl
    · exact List.suffix_rfl
  · exact List.suffix_rfl

private theorem leaves_readDateTime? (characters : List Char) :
    Leaves Prod.snd characters (readDateTime? characters) := by
  unfold readDateTime?
  split
  · exact .ite ((leaves_readTime? _).mono (List.suffix_cons ..)) .none
  · exact .none

private theorem takes_readDate? {reading : Except Fault (Item × List Char)}
    (read : readDate? characters = some reading) : Takes Prod.snd characters reading := by
  unfold readDate? at read
  obtain ⟨⟨year, afterYear⟩, isYear, read⟩ := Option.bind_eq_some_iff.mp read
  obtain ⟨beforeMonth, isMark, read⟩ := Option.bind_eq_some_iff.mp read
  obtain ⟨⟨month, afterMonth⟩, isMonth, read⟩ := Option.bind_eq_some_iff.mp read
  obtain ⟨beforeDay, isOther, read⟩ := Option.bind_eq_some_iff.mp read
  obtain ⟨⟨day, behind⟩, isDay, read⟩ := Option.bind_eq_some_iff.mp read
  have part : behind <:+ characters :=
    (leaves_readFixed? _ _ _ _ _ isDay).trans <| (leaves_expect? _ _ _ isOther).trans <|
      (leaves_readFixed? _ _ _ _ _ isMonth).trans <| (leaves_expect? _ _ _ isMark).trans <|
        leaves_readFixed? _ _ _ _ _ isYear
  dsimp only at read
  split at read
  · cases read
    exact takes_malformed
  · split at read
    · cases read
      exact part
    · next time =>
      cases read
      exact (readOffset_suffix _).trans ((leaves_readDateTime? _ _ time).trans part)

private theorem leaves_readFlag? (characters : List Char) :
    Leaves Prod.snd characters (readFlag? characters) := by
  unfold readFlag?
  split
  · exact .some (List.suffix_append ['t', 'r', 'u', 'e'] _)
  · exact .some (List.suffix_append ['f', 'a', 'l', 's', 'e'] _)
  · exact .none

private theorem takes_readScalar (characters : List Char) :
    Takes Prod.snd characters (readScalar characters) := by
  unfold readScalar
  split
  · next text => exact (takes_readText text).map fun _ => rfl
  · split
    · next flag => exact leaves_readFlag? _ _ flag
    · split
      · next date => exact takes_readDate? date
      · split
        · next time => exact leaves_readTime? _ _ time
        · split
          · next number => exact takes_readNumber? number
          · split
            · next special => exact leaves_readSpecial? _ _ special
            · exact takes_malformed

/-! ## Numbers of too many digits -/

/-- Digits that are read are digits, and there are no more of them than characters. -/
private structure Digits (characters digits : List Char) : Prop where
  nonempty : digits ≠ []
  decimal : ∀ digit ∈ digits, isDigitIn 10 digit = true
  short : digits.length ≤ characters.length

private theorem digitRun_digits (characters : List Char) :
    (∀ digit ∈ (digitRun (isDigitIn 10) characters).1, isDigitIn 10 digit = true) ∧
      (digitRun (isDigitIn 10) characters).1.length ≤ characters.length := by
  fun_induction digitRun (isDigitIn 10) characters with
  | case1 character rest isDigit digits behind run ih =>
    rw [run] at ih
    refine ⟨List.forall_mem_cons.mpr ⟨isDigit, ih.1⟩, ?_⟩
    simpa using Nat.le_succ_of_le ih.2
  | case2 => simp
  | case3 character rest _ isDigit digits behind run ih =>
    rw [run] at ih
    exact ⟨List.forall_mem_cons.mpr ⟨isDigit, ih.1⟩, Nat.succ_le_succ ih.2⟩
  | case4 => simp
  | case5 => simp

private theorem wholePart?_digits {digits : List Char}
    (found : wholePart? characters = some (digits, rest)) : Digits characters digits := by
  unfold wholePart? at found
  split at found
  · cases found
    exact ⟨by simp, List.forall_mem_singleton.mpr rfl, by simp⟩
  · unfold digitsFrom? at found
    split at found
    · split at found
      · next character rest _ isDigit =>
        cases found
        obtain ⟨decimal, short⟩ := digitRun_digits rest
        exact ⟨by simp, List.forall_mem_cons.mpr ⟨isDigit, decimal⟩, Nat.succ_le_succ short⟩
      · cases found
    · cases found

private theorem isDigit_of_isDigitIn {character : Char} (isDigit : isDigitIn 10 character = true) :
    character.isDigit = true := by
  by_contra other
  have hasValue := (Bool.and_eq_true_iff.mp isDigit).2
  have large : ¬(if 'a' ≤ character && character ≤ 'z' then character.toNat - 'a'.toNat + 10
      else if 'A' ≤ character && character ≤ 'Z' then character.toNat - 'A'.toNat + 10
      else 36) < 10 := by
    split
    · omega
    · split <;> omega
  unfold Number.digitValue? at hasValue
  rw [if_neg other] at hasValue
  dsimp only at hasValue
  rw [if_neg large] at hasValue
  cases hasValue

private theorem isSign_signPart (characters : List Char) :
    Number.IsSign (signPart characters).1 := by
  unfold signPart
  split
  · exact .inr (.inl rfl)
  · exact .inr (.inr rfl)
  · exact .inl rfl

/-- A number of too many digits takes that many characters. -/
theorem HasLongNumber.length_gt (long : HasLongNumber characters) :
    Number.digitLimit < characters.length := by
  obtain ⟨number, inside, refused⟩ := long
  unfold readDecimal? at refused
  obtain ⟨⟨whole, rest⟩, isWhole, refused⟩ := Option.bind_eq_some_iff.mp refused
  have digits := wholePart?_digits isWhole
  dsimp only at refused
  split at refused
  · next plain =>
    obtain ⟨noFraction, noExponent⟩ := Bool.and_eq_true_iff.mp plain
    rw [List.isEmpty_iff.mp noFraction, List.isEmpty_iff.mp noExponent, List.append_nil,
      List.append_nil] at refused
    split at refused
    · cases refused
    · next failed =>
      have decimal : ∀ digit ∈ whole, digit.isDigit = true :=
        fun digit member => isDigit_of_isDigitIn (digits.decimal digit member)
      have many := ((Number.readInteger_eq_error_iff (isSign_signPart number) digits.nonempty
        decimal).mp failed).2
      have fewer := ((signPart_suffix number).trans inside).length_le
      exact Nat.lt_of_lt_of_le many (Nat.le_trans digits.short fewer)
  · split at refused <;> cases refused

/-! ## Keys, items and statements -/

private theorem takes_readKeyPart (characters : List Char) :
    Takes Prod.snd characters (readKeyPart characters) := by
  unfold readKeyPart
  split
  · exact (takes_readQuoted _ _ _).mono (List.suffix_cons ..)
  · exact (takes_readLiteral _).mono (List.suffix_cons ..)
  · exact .ite takes_malformed (List.dropWhile_suffix _)

private theorem takes_readKeyParts (fuel : Nat) (characters : List Char) :
    Takes Prod.snd characters (readKeyParts fuel characters) := by
  induction fuel generalizing characters with
  | zero => exact takes_malformed
  | succ fuel ih =>
    unfold readKeyParts
    refine .bind (takes_readKeyPart characters) fun found => ?_
    dsimp only
    split
    · next rest dotted =>
      refine .bind ((ih (skipSpaces rest)).mono ?_) fun _ => List.suffix_rfl
      exact (skipSpaces_suffix rest).trans (suffix_of_skipSpaces dotted)
    · exact skipSpaces_suffix found.2

private theorem takes_readKey (characters : List Char) :
    Takes Prod.snd characters (readKey characters) :=
  takes_readKeyParts _ characters

private theorem takes_skipComment (characters : List Char) :
    Takes id characters (skipComment characters) := by
  unfold skipComment
  split
  · exact .ite takes_malformed ((List.dropWhile_suffix _).trans (List.suffix_cons ..))
  · exact List.suffix_rfl

private theorem takes_skipFiller (fuel : Nat) (characters : List Char) :
    Takes id characters (skipFiller fuel characters) := by
  induction fuel generalizing characters with
  | zero => exact takes_malformed
  | succ fuel ih =>
    unfold skipFiller
    refine .bind ((takes_skipComment _).mono (List.dropWhile_suffix _)) fun rest => ?_
    exact .ite List.suffix_rfl (ih rest)

private theorem takes_skipBetween (characters : List Char) :
    Takes id characters (skipBetween characters) :=
  takes_skipFiller _ characters

private theorem changes_within {entersLists : Bool} {change : Table → Except Fault Table}
    (changes : ∀ table, Changes (change table)) (key : Key) (table : Table) :
    Changes (within entersLists change key table) := by
  induction key generalizing table with
  | nil => exact changes table
  | cons name names ih =>
    unfold within
    split
    · exact .bind (ih []) fun _ => .ok _
    · exact .bind (ih _) fun _ => .ok _
    · split
      · split
        · exact .bind (ih _) fun _ => .ok _
        · exact changes_malformed
      · exact changes_malformed
    · exact changes_malformed

private theorem changes_addNew (name : String) (item : Item) (table : Table) :
    Changes (addNew name item table) := by
  unfold addNew
  split
  · exact changes_malformed
  · exact .ok _

private theorem changes_addToList (name : String) (table : Table) :
    Changes (addToList name table) := by
  unfold addToList
  split
  · exact .ok _
  · exact changes_malformed
  · exact .ok _

/-- Reading with some fuel takes from the start of characters. -/
private def TakesWith (fuel : Nat) : Prop :=
  (∀ characters, Takes Prod.snd characters (readItem fuel characters)) ∧
    (∀ characters, Takes Prod.snd characters (readItems fuel characters)) ∧
    ∀ closed table characters,
      Takes Prod.snd characters (readEntries fuel closed table characters)

private theorem takes_item {fuel : Nat} (inner : TakesWith fuel) (characters : List Char) :
    Takes Prod.snd characters (readItem (fuel + 1) characters) := by
  obtain ⟨-, ofItems, ofEntries⟩ := inner
  unfold readItem
  split
  · refine .bind ((takes_skipBetween _).mono (List.suffix_cons ..)) fun rest => ?_
    split
    · exact List.suffix_cons ..
    · exact .bind (ofItems _) fun _ => List.suffix_rfl
  · next rest =>
    split
    · next behind closing => exact (suffix_of_skipSpaces closing).trans (List.suffix_cons ..)
    · exact ((ofEntries [] [] _).mono (skipSpaces_suffix_cons ..)).map fun _ => rfl
  · exact takes_readScalar characters

private theorem takes_items {fuel : Nat} (inner : TakesWith fuel) (characters : List Char) :
    Takes Prod.snd characters (readItems (fuel + 1) characters) := by
  obtain ⟨ofItem, ofItems, -⟩ := inner
  unfold readItems
  refine .bind (ofItem characters) fun _ => .bind (takes_skipBetween _) fun rest => ?_
  split
  · exact List.suffix_cons ..
  · refine .bind ((takes_skipBetween _).mono (List.suffix_cons ..)) fun rest => ?_
    split
    · exact List.suffix_cons ..
    · exact .bind (ofItems _) fun _ => List.suffix_rfl
  · exact takes_malformed

private theorem takes_entries {fuel : Nat} (inner : TakesWith fuel) (closed : List Key)
    (table : Table) (characters : List Char) :
    Takes Prod.snd characters (readEntries (fuel + 1) closed table characters) := by
  obtain ⟨ofItem, -, ofEntries⟩ := inner
  unfold readEntries
  refine .bind (takes_readKey characters) fun found => ?_
  obtain ⟨key, rest⟩ := found
  dsimp only
  split
  · next rest =>
    refine .bind ((ofItem _).mono (skipSpaces_suffix_cons ..)) fun found => ?_
    refine .ite takes_malformed ?_
    refine .after (changes_within (changes_addNew _ _) _ _) fun table => ?_
    split
    · next closing => exact suffix_of_skipSpaces closing
    · next further comma =>
      refine (ofEntries _ _ _).mono ?_
      exact (skipSpaces_suffix further).trans (suffix_of_skipSpaces comma)
    · exact takes_malformed
  · exact takes_malformed

private theorem takesWith (fuel : Nat) : TakesWith fuel := by
  induction fuel with
  | zero =>
    refine ⟨fun _ => ?_, fun _ => ?_, fun _ _ _ => ?_⟩
    · unfold readItem
      exact takes_malformed
    · unfold readItems
      exact takes_malformed
    · unfold readEntries
      exact takes_malformed
  | succ fuel ih => exact ⟨takes_item ih, takes_items ih, takes_entries ih⟩

namespace Document

private theorem changes_addItem (document : Document) (key : Key) (item : Item) :
    Changes (document.addItem key item) := by
  unfold addItem
  exact .checked changes_malformed fun _ => .checked changes_malformed fun _ =>
    .bind (changes_within (changes_addNew _ _) _ _) fun _ => .ok _

private theorem changes_openTable (document : Document) (key : Key) :
    Changes (document.openTable key) := by
  unfold openTable
  exact .checked changes_malformed fun _ =>
    .bind (changes_within (fun _ => .ok _) _ _) fun _ => .ok _

private theorem changes_openListed (document : Document) (key : Key) :
    Changes (document.openListed key) := by
  unfold openListed
  exact .checked changes_malformed fun _ =>
    .bind (changes_within (changes_addToList _) _ _) fun _ => .ok _

private theorem takes_readStatement (document : Document) (characters : List Char) :
    Takes Prod.snd characters (document.readStatement characters) := by
  unfold readStatement
  split
  · next rest =>
    have onward := (skipSpaces_suffix_cons '[' rest).trans (List.suffix_cons '[' _)
    refine .bind ((takes_readKey _).mono onward) fun found => ?_
    refine .after (changes_openListed _ _) fun document => ?_
    obtain ⟨key, rest⟩ := found
    dsimp only
    split
    · exact List.suffix_append [']', ']'] _
    · exact takes_malformed
  · next rest _ =>
    refine .bind ((takes_readKey _).mono (skipSpaces_suffix_cons ..)) fun found => ?_
    refine .after (changes_openTable _ _) fun document => ?_
    obtain ⟨key, rest⟩ := found
    dsimp only
    split
    · exact List.suffix_cons ..
    · exact takes_malformed
  · exact List.suffix_rfl
  · refine .bind (takes_readKey _) fun found => ?_
    obtain ⟨key, rest⟩ := found
    dsimp only
    split
    · next rest =>
      refine .bind (((takesWith _).1 _).mono (skipSpaces_suffix_cons ..)) fun found => ?_
      exact .after (changes_addItem _ _ _) fun _ => List.suffix_rfl
    · exact takes_malformed

/-- Reading all statements has no other faults than their characters have. -/
private theorem takes_readStatements (fuel : Nat) (document : Document)
    (characters : List Char) :
    Takes (fun _ => []) characters (readStatements fuel document characters) := by
  induction fuel generalizing document characters with
  | zero => exact takes_malformed
  | succ fuel ih =>
    unfold readStatements
    split
    · exact List.nil_suffix
    · next rest ended => exact (ih _ _).mono (suffix_of_skipSpaces ended)
    · refine .bind ((takes_readStatement _ _).mono (skipSpaces_suffix _)) fun found => ?_
      refine .bind ((takes_skipComment _).mono (skipSpaces_suffix found.2)) fun rest => ?_
      split
      · exact List.nil_suffix
      · exact (ih _ _).mono (List.suffix_cons ..)
      · exact takes_malformed

end Document

/-- Reading a document has no other faults than its characters have. -/
theorem failsOnly_read (characters : List Char) :
    FailsOnly (FaultOf (joinLineEnds characters)) (read characters) := by
  refine .bind (fun fault failed => ?_) fun _ => .ok _
  have takes := Document.takes_readStatements ((joinLineEnds characters).length + 1) {}
    (joinLineEnds characters)
  rw [failed] at takes
  exact takes

private theorem length_joinLineEnds_le (characters : List Char) :
    (joinLineEnds characters).length ≤ characters.length := by
  fun_induction joinLineEnds characters with
  | case1 => exact Nat.le_refl _
  | case2 rest ih => exact Nat.le_succ_of_le (Nat.succ_le_succ ih)
  | case3 character rest _ ih => exact Nat.succ_le_succ ih

/-- Only documents of many characters hold a number of too many digits. -/
theorem length_gt_of_read {characters : List Char}
    (failed : read characters = .error .wrongValue) :
    Number.digitLimit < characters.length := by
  cases failsOnly_read characters _ failed with
  | long long => exact Nat.lt_of_lt_of_le long.length_gt (length_joinLineEnds_le characters)

end Stencil.Toml
