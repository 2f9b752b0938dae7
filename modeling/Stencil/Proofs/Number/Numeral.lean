import Mathlib.Data.List.Induction
import Mathlib.Data.Nat.Digits.Defs
import Stencil.Number.Numeral
import Stencil.Proofs.Text.Split

/-!
# Decimal numerals

A sign and some decimal digits stand for an integer, unless there are too many digits.  The
digits may be those of any script: each has the value of the plain digit in its place.
-/

namespace Stencil

/-! ## Digits of every script -/

namespace Text

variable {number value : Nat}

/-- A decimal digit stands a little after the zero of its script. -/
theorem exists_zero (known : decimalValue? number = some value) :
    ∃ start ∈ decimalZeros, number = start + value ∧ value < 10 := by
  rcases Option.map_eq_some_iff.mp known with ⟨start, found, rfl⟩
  have near := Array.find?_some found
  simp only [Bool.and_eq_true, decide_eq_true_eq] at near
  exact ⟨start, Array.mem_of_find?_eq_some found, by omega, by omega⟩

/-- Of the first characters, only the plain digits are decimal. -/
theorem eq_of_decimalValue? (known : decimalValue? number = some value) (first : number < 128) :
    number = '0'.toNat + value := by
  have zeros : decimalZeros.all (fun start => start == '0'.toNat || 128 ≤ start) = true := by
    decide +kernel
  rcases exists_zero known with ⟨start, member, same, -⟩
  have plain := Array.all_eq_true_iff_forall_mem.mp zeros start member
  simp only [Bool.or_eq_true, beq_iff_eq, decide_eq_true_eq] at plain
  omega

/-- No decimal digit separates words. -/
theorem isBlankNumber_of_decimalValue? (known : decimalValue? number = some value) :
    isBlankNumber number = false := by
  have apart : decimalZeros.all (fun start =>
      (List.range 10).all fun value => !isBlankNumber (start + value)) = true := by
    decide +kernel
  rcases exists_zero known with ⟨start, member, rfl, below⟩
  have within := Array.all_eq_true_iff_forall_mem.mp apart start member
  simpa using List.all_eq_true.mp within value (List.mem_range.mpr below)

end Text

namespace Number

/-- A sign, which may be left out. -/
def IsSign (sign : List Char) : Prop :=
  sign = [] ∨ sign = ['+'] ∨ sign = ['-']

variable {character : Char} {sign digits : List Char}

/-! ## Plain numerals -/

/-- A digit is plain, has a value, and is no other mark of a numeral. -/
structure IsPlain (character : Char) : Prop where
  plain : plainNumeralChar character.toNat = character
  noBlank : isNumeralBlank character = false
  noBase : announcedBase? character = none
  hasValue : digitValue? 10 character = some (character.toNat - '0'.toNat)
  noLine : character ≠ '_'
  noSign : character ≠ '-' ∧ character ≠ '+'

/-- What holds of the ten plain digits holds of every plain digit. -/
private theorem forall_isDigit {holds : Char → Prop}
    (each : ∀ value < 10, holds (Char.ofNat ('0'.toNat + value)))
    (isDigit : character.isDigit = true) : holds character := by
  obtain ⟨low, high⟩ := Char.isDigit_iff_toNat.mp isDigit
  have top : '9'.toNat = '0'.toNat + 9 := rfl
  have found := each (character.toNat - '0'.toNat) (by omega)
  rwa [Nat.add_sub_cancel' low, Char.ofNat_toNat] at found

theorem isPlain_of_isDigit (isDigit : character.isDigit = true) : IsPlain character :=
  forall_isDigit (fun value below =>
    match value, below with
    | 0, _ | 1, _ | 2, _ | 3, _ | 4, _ | 5, _ | 6, _ | 7, _ | 8, _ | 9, _ => by
      constructor <;> decide) isDigit

private theorem plainNumeral_decimal (isSign : IsSign sign)
    (decimal : ∀ digit ∈ digits, digit.isDigit = true) :
    plainNumeral (Text.ofChars (sign ++ digits)) = sign ++ digits := by
  have plain : ∀ character ∈ sign ++ digits,
      plainNumeralChar character.toNat = character ∧ isNumeralBlank character = false := by
    intro character member
    rcases List.mem_append.mp member with ofSign | ofDigits
    · rcases isSign with rfl | rfl | rfl
      · cases ofSign
      · rw [List.mem_singleton.mp ofSign]
        decide
      · rw [List.mem_singleton.mp ofSign]
        decide
    · have isPlain := isPlain_of_isDigit (decimal character ofDigits)
      exact ⟨isPlain.plain, isPlain.noBlank⟩
  have mapped : (Text.ofChars (sign ++ digits)).map
      (fun point => plainNumeralChar point.number) = sign ++ digits := by
    rw [Text.ofChars, List.map_map]
    exact (List.map_congr_left fun character member => (plain character member).1).trans
      (List.map_id _)
  rw [plainNumeral, mapped]
  exact Text.trim_eq_self fun character member => (plain character member).2

private theorem splitSign_decimal (isSign : IsSign sign) (nonempty : digits ≠ [])
    (decimal : ∀ digit ∈ digits, digit.isDigit = true) :
    splitSign (sign ++ digits) = (decide (sign = ['-']), digits) := by
  rcases isSign with rfl | rfl | rfl
  · cases digits with
    | nil => exact absurd rfl nonempty
    | cons first rest =>
      obtain ⟨notMinus, notPlus⟩ :=
        (isPlain_of_isDigit (decimal first (List.mem_cons_self ..))).noSign
      simp [splitSign, notMinus, notPlus]
  · rfl
  · rfl

/-- The values of plain digits. -/
def plainValues (digits : List Char) : List Nat :=
  digits.map fun digit => digit.toNat - '0'.toNat

private theorem digitsBetweenLines_decimal {afterDigit : Bool}
    (started : afterDigit = true ∨ digits ≠ [])
    (decimal : ∀ digit ∈ digits, digit.isDigit = true) :
    digitsBetweenLines 10 afterDigit digits = some (plainValues digits) := by
  induction digits generalizing afterDigit with
  | nil =>
    rcases started with rfl | impossible
    · rfl
    · exact absurd rfl impossible
  | cons first rest ih =>
    obtain ⟨isDigit, others⟩ := List.forall_mem_cons.mp decimal
    have isPlain := isPlain_of_isDigit isDigit
    rw [digitsBetweenLines, isPlain.hasValue, ih (.inl rfl) others]
    · rfl
    · exact isPlain.noLine

private theorem unsignedDigits?_decimal (nonempty : digits ≠ [])
    (decimal : ∀ digit ∈ digits, digit.isDigit = true) :
    unsignedDigits? 10 digits = some (10, plainValues digits) := by
  have known : digitsBetweenLines 10 false digits = some (plainValues digits) :=
    digitsBetweenLines_decimal (.inr nonempty) decimal
  rw [unsignedDigits?.eq_def]
  dsimp only
  rw [if_neg (by decide), known]
  split
  · next letter rest =>
    have isDigit := decimal letter (List.mem_cons_of_mem _ (List.mem_cons_self ..))
    rw [(isPlain_of_isDigit isDigit).noBase]
    rfl
  · rfl

private theorem integerOfPlain_decimal (isSign : IsSign sign) (nonempty : digits ≠ [])
    (decimal : ∀ digit ∈ digits, digit.isDigit = true) :
    integerOfPlain 10 (sign ++ digits) =
      if digitLimit < digits.length then .error .tooLong
      else .ok (if sign = ['-'] then -(ofDigits 10 (plainValues digits) : Int)
        else ofDigits 10 (plainValues digits)) := by
  rw [integerOfPlain, splitSign_decimal isSign nonempty decimal]
  dsimp only
  rw [unsignedDigits?_decimal nonempty decimal]
  by_cases long : digitLimit < digits.length
  · simp [plainValues, long]
  · simp [plainValues, long]

/-- A decimal numeral is only refused for its length. -/
theorem readInteger_eq_error_iff {fault : NumeralFault} (isSign : IsSign sign)
    (nonempty : digits ≠ []) (decimal : ∀ digit ∈ digits, digit.isDigit = true) :
    readInteger 10 (Text.ofChars (sign ++ digits)) = .error fault ↔
      fault = .tooLong ∧ digitLimit < digits.length := by
  rw [readInteger, plainNumeral_decimal isSign decimal,
    integerOfPlain_decimal isSign nonempty decimal]
  by_cases long : digitLimit < digits.length
  · simp [long, eq_comm]
  · simp [long]

/-! ## Numerals of every script -/

/-- Characters that are decimal digits, at least one. -/
structure IsNumeral (digits : List Char) : Prop where
  nonempty : digits ≠ []
  digits : ∀ digit ∈ digits, (Text.decimalDigit? digit).isSome = true

/-- The number that decimal digits stand for, the last one counting ones. -/
def numberOf (digits : List Char) : Nat :=
  Nat.ofDigits 10 (digits.reverse.map fun digit => (Text.decimalDigit? digit).getD 0)

/-- The plain digit of the same value. -/
private def plainDigit (digit : Char) : Char :=
  Char.ofNat ('0'.toNat + (Text.decimalDigit? digit).getD 0)

private theorem plainNumeralChar_of_isSome
    (isDigit : (Text.decimalDigit? character).isSome = true) :
    plainNumeralChar character.toNat = plainDigit character := by
  obtain ⟨value, known⟩ := Option.isSome_iff_exists.mp isDigit
  have found : Text.decimalValue? character.toNat = some value := known
  unfold plainNumeralChar plainDigit
  rw [known, Option.getD_some]
  split
  · next first => rw [Text.eq_of_decimalValue? found (by omega)]
  · rw [Text.isBlankNumber_of_decimalValue? found, Bool.and_false, if_neg Bool.false_ne_true,
      found]

private theorem plainDigit_spec (isDigit : (Text.decimalDigit? character).isSome = true) :
    (plainDigit character).isDigit = true ∧
      (plainDigit character).toNat - '0'.toNat = (Text.decimalDigit? character).getD 0 := by
  obtain ⟨value, known⟩ := Option.isSome_iff_exists.mp isDigit
  have found : Text.decimalValue? character.toNat = some value := known
  obtain ⟨_, -, -, below⟩ := Text.exists_zero found
  rw [plainDigit, known, Option.getD_some]
  match value, below with
  | 0, _ | 1, _ | 2, _ | 3, _ | 4, _ | 5, _ | 6, _ | 7, _ | 8, _ | 9, _ => decide

theorem ofDigits_eq (base : Nat) (digits : List Nat) :
    ofDigits base digits = Nat.ofDigits base digits.reverse := by
  induction digits using List.reverseRecOn with
  | nil => rfl
  | append_singleton front last ih =>
    rw [List.reverse_append, List.reverse_singleton, List.singleton_append, Nat.ofDigits_cons,
      ← ih, ofDigits, ofDigits, List.foldl_append, List.foldl_cons, List.foldl_nil,
      Nat.mul_comm, Nat.add_comm]

/-- A numeral stands for its number, whatever the script, unless it is too long. -/
theorem readInteger_numeral (isNumeral : IsNumeral digits) :
    readInteger 10 (Text.ofChars digits) =
      if digitLimit < digits.length then .error .tooLong else .ok (numberOf digits) := by
  have decimal : ∀ digit ∈ digits.map plainDigit, digit.isDigit = true := by
    intro digit member
    obtain ⟨given, inside, rfl⟩ := List.mem_map.mp member
    exact (plainDigit_spec (isNumeral.digits given inside)).1
  have plain : plainNumeral (Text.ofChars digits) = [] ++ digits.map plainDigit := by
    have mapped : (Text.ofChars digits).map (fun point => plainNumeralChar point.number) =
        digits.map plainDigit := by
      rw [Text.ofChars, List.map_map]
      exact List.map_congr_left fun digit member =>
        plainNumeralChar_of_isSome (isNumeral.digits digit member)
    rw [plainNumeral, mapped, List.nil_append]
    exact Text.trim_eq_self fun digit member => (isPlain_of_isDigit (decimal digit member)).noBlank
  have values : plainValues (digits.map plainDigit) =
      digits.map fun digit => (Text.decimalDigit? digit).getD 0 := by
    rw [plainValues, List.map_map]
    exact List.map_congr_left fun digit member => (plainDigit_spec (isNumeral.digits digit member)).2
  rw [readInteger, plain, integerOfPlain_decimal (.inl rfl) (by simpa using isNumeral.nonempty)
    decimal, values, ofDigits_eq, ← List.map_reverse, List.length_map]
  rfl

end Number

end Stencil
