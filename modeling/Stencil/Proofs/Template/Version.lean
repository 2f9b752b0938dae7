import Stencil.Proofs.Number.Numeral
import Stencil.Template.Version

/-!
# Which versions are accepted

A version is written as numerals with dots between them, and blanks around the whole do not
count.  As a version number it is newer than another one if it is greater where the two first
differ, what is missing counting as zero.  Such versions are refused, and so are two kinds
that are not newer: the version of the engine itself with zeros after it, which is taken for
a newer one, and versions with a numeral that has too many digits, which is no wrong setting
but a fault that escapes as it is.
-/

namespace Stencil.Template

open Number (IsNumeral digitLimit numberOf)
open Stencil.Text (isBlank joinPieces pieces stripBlanks)

/-! ## Version numbers -/

/--
A version number is newer than another one: at the first place where they differ it has the
greater number, and what is missing counts as zero.
-/
def Surpasses (version other : Version) : Prop :=
  ∃ place, (∀ earlier < place, version.getD earlier 0 = other.getD earlier 0) ∧
    other.getD place 0 < version.getD place 0

/-- A version is another one with some zeros after it. -/
def IsPadded (version other : Version) : Prop :=
  ∃ count, version = other ++ List.replicate (count + 1) 0

variable {version other : Version}

/-- Version numbers are compared number by number. -/
theorem surpasses_iff :
    Surpasses version other ↔
      other.headD 0 < version.headD 0 ∨
        (version.headD 0 = other.headD 0 ∧ Surpasses version.tail other.tail) := by
  have headD (version : Version) : version.getD 0 0 = version.headD 0 := by cases version <;> rfl
  have tail (version : Version) (place : Nat) :
      version.getD (place + 1) 0 = version.tail.getD place 0 := by
    cases version <;> rfl
  constructor
  · rintro ⟨place, same, less⟩
    cases place with
    | zero =>
      rw [headD, headD] at less
      exact .inl less
    | succ place =>
      have first := same 0 (Nat.succ_pos place)
      rw [headD, headD] at first
      refine .inr ⟨first, place, fun earlier before => ?_, ?_⟩
      · rw [← tail, ← tail]
        exact same (earlier + 1) (Nat.succ_lt_succ before)
      · rwa [← tail, ← tail]
  · rintro (less | ⟨first, place, same, less⟩)
    · refine ⟨0, fun _ before => absurd before (Nat.not_lt_zero _), ?_⟩
      rwa [headD, headD]
    · refine ⟨place + 1, fun earlier before => ?_, by rwa [tail, tail]⟩
      cases earlier with
      | zero => rwa [headD, headD]
      | succ earlier =>
        rw [tail, tail]
        exact same earlier (Nat.lt_of_succ_lt_succ before)

/-- Nothing is newer without a number of its own. -/
theorem not_surpasses_nil (numbers : ∀ number ∈ other, 0 ≤ number) : ¬Surpasses [] other := by
  rintro ⟨place, -, less⟩
  rw [List.getD_nil, List.getD_eq_getElem?_getD] at less
  cases found : other[place]? with
  | none => simp [found] at less
  | some number =>
    have atLeast := numbers number (List.mem_of_getElem? found)
    simp only [found, Option.getD_some] at less
    omega

/-- Numbers are newer than none at all unless they are zeros. -/
private theorem surpasses_nil_iff (numbers : ∀ number ∈ version, 0 ≤ number) :
    Surpasses version [] ↔ ∃ number ∈ version, number ≠ 0 := by
  induction version with
  | nil => simp [not_surpasses_nil]
  | cons first rest ih =>
    obtain ⟨here, others⟩ := List.forall_mem_cons.mp numbers
    rw [surpasses_iff]
    simp only [List.headD_cons, List.headD_nil, List.tail_cons, List.tail_nil, ih others,
      List.mem_cons, exists_eq_or_imp]
    by_cases isZero : first = 0
    · simp [isZero]
    · have positive : 0 < first := by omega
      simp [isZero, positive]

/-- Besides newer versions, the other one with zeros after it is taken for newer. -/
theorem isNewer_eq_true_iff (numbers : ∀ number ∈ version, 0 ≤ number)
    (others : ∀ number ∈ other, 0 ≤ number) :
    isNewer version other = true ↔ Surpasses version other ∨ IsPadded version other := by
  induction version generalizing other with
  | nil => simp [isNewer, not_surpasses_nil others, IsPadded]
  | cons first rest ih =>
    obtain ⟨-, behind⟩ := List.forall_mem_cons.mp numbers
    cases other with
    | nil =>
      simp only [isNewer, surpasses_nil_iff numbers, true_iff]
      by_cases zeros : ∀ number ∈ first :: rest, number = 0
      · exact .inr ⟨rest.length, List.eq_replicate_of_mem zeros⟩
      · exact .inl (by simpa only [not_forall, exists_prop] using zeros)
    | cons head tail =>
      obtain ⟨-, further⟩ := List.forall_mem_cons.mp others
      have padded : IsPadded (first :: rest) (head :: tail) ↔ first = head ∧ IsPadded rest tail := by
        simp [IsPadded]
      rw [surpasses_iff, padded]
      simp only [List.headD_cons, List.tail_cons, isNewer]
      by_cases same : first = head
      · simp [same, ih behind further]
      · simp [same]

/-- Zeros alone are not newer than a version that does not end in a zero. -/
private theorem isNewer_zeros {zeros : Version} (all : ∀ number ∈ zeros, number = 0)
    (numbers : ∀ number ∈ other, 0 ≤ number) (nonempty : other ≠ [])
    (ends : other.getLast? ≠ some 0) : isNewer zeros other = false := by
  induction zeros generalizing other with
  | nil => rfl
  | cons first rest ih =>
    obtain ⟨rfl, behind⟩ := List.forall_mem_cons.mp all
    cases other with
    | nil => exact absurd rfl nonempty
    | cons head tail =>
      obtain ⟨atLeast, further⟩ := List.forall_mem_cons.mp numbers
      rw [isNewer]
      split
      · next same =>
        cases tail with
        | nil => exact absurd (by rw [← same]; rfl) ends
        | cons next more =>
          exact ih behind further (List.cons_ne_nil _ _) (by rwa [List.getLast?_cons_cons] at ends)
      · exact decide_eq_false (Int.not_lt.mpr atLeast)

/-- Zeros after a version only matter if it is the other one. -/
theorem isNewer_append_zeros {zeros : Version} (all : ∀ number ∈ zeros, number = 0)
    (further : zeros ≠ []) (numbers : ∀ number ∈ other, 0 ≤ number)
    (ends : other.getLast? ≠ some 0) :
    isNewer (version ++ zeros) other = true ↔ isNewer version other = true ∨ version = other := by
  induction version generalizing other with
  | nil =>
    cases other with
    | nil =>
      cases zeros with
      | nil => exact absurd rfl further
      | cons first rest => simp [isNewer]
    | cons head tail =>
      rw [List.nil_append, isNewer_zeros all numbers (List.cons_ne_nil _ _) ends]
      simp [isNewer]
  | cons first rest ih =>
    cases other with
    | nil => simp [isNewer]
    | cons head tail =>
      obtain ⟨-, others⟩ := List.forall_mem_cons.mp numbers
      have endsToo : tail.getLast? ≠ some 0 := by
        cases tail with
        | nil => simp
        | cons next more => rwa [List.getLast?_cons_cons] at ends
      rw [List.cons_append, isNewer, isNewer]
      by_cases same : first = head
      · simp [same, ih others endsToo]
      · simp [same]

/-! ## Written versions -/

/-- A text writes a version as numerals with dots between them, and perhaps blanks around. -/
structure Writes (text : String) (numerals : List (List Char)) : Prop where
  nonempty : numerals ≠ []
  all : ∀ numeral ∈ numerals, IsNumeral numeral
  written : ∃ front back, (∀ character ∈ front, isBlank character = true) ∧
    (∀ character ∈ back, isBlank character = true) ∧
    text.toList = front ++ (joinPieces '.' numerals ++ back)

/-- The version that numerals stand for. -/
def versionOf (numerals : List (List Char)) : Version :=
  numerals.map fun numeral => (numberOf numeral : Int)

/-- A numeral of a version has more digits than are read. -/
def HasLong (numerals : List (List Char)) : Prop :=
  ∃ numeral ∈ numerals, digitLimit < numeral.length

variable {text : String} {numerals : List (List Char)}

theorem nonneg_versionOf (numerals : List (List Char)) :
    ∀ number ∈ versionOf numerals, 0 ≤ number := by
  intro number member
  obtain ⟨numeral, -, rfl⟩ := List.mem_map.mp member
  exact Int.natCast_nonneg _

theorem isVersionNumber_eq_true_iff {characters : List Char} :
    isVersionNumber characters = true ↔ IsNumeral characters := by
  rw [isVersionNumber, Bool.and_eq_true, List.all_eq_true]
  constructor
  · rintro ⟨nonempty, digits⟩
    exact ⟨by simpa using nonempty, digits⟩
  · rintro ⟨nonempty, digits⟩
    exact ⟨by simpa using nonempty, digits⟩

/-- A digit is no dot, and neither of them is a blank. -/
private theorem dot_not_mem {numeral : List Char} (isNumeral : IsNumeral numeral) :
    '.' ∉ numeral := by
  intro member
  have isDigit := isNumeral.digits '.' member
  have noDigit : Stencil.Text.decimalDigit? '.' = none := by decide +kernel
  rw [noDigit] at isDigit
  cases isDigit

private theorem not_isBlank_of_mem {numeral : List Char} (isNumeral : IsNumeral numeral)
    {character : Char} (member : character ∈ numeral) : isBlank character = false := by
  obtain ⟨value, known⟩ := Option.isSome_iff_exists.mp (isNumeral.digits character member)
  exact Stencil.Text.isBlankNumber_of_decimalValue? known

private theorem not_isBlank_joinPieces (all : ∀ numeral ∈ numerals, IsNumeral numeral) :
    ∀ character ∈ joinPieces '.' numerals, isBlank character = false := by
  induction numerals with
  | nil => simp [joinPieces]
  | cons first rest ih =>
    obtain ⟨here, others⟩ := List.forall_mem_cons.mp all
    cases rest with
    | nil => exact fun character member => not_isBlank_of_mem here member
    | cons next more =>
      intro character member
      rcases List.mem_append.mp member with inside | behind
      · exact not_isBlank_of_mem here inside
      · rcases List.mem_cons.mp behind with rfl | further
        · decide
        · exact ih others character further

/-- The numerals of a version are its pieces between dots. -/
theorem Writes.pieces_eq (writes : Writes text numerals) :
    pieces '.' (stripBlanks text.toList) = numerals := by
  have stripped : stripBlanks text.toList = joinPieces '.' numerals :=
    Stencil.Text.Surrounds.trim_eq writes.written (.of_forall (not_isBlank_joinPieces writes.all))
  rw [stripped]
  exact Stencil.Text.pieces_joinPieces writes.nonempty fun numeral member =>
    dot_not_mem (writes.all numeral member)

/-- A text whose pieces are numerals writes them. -/
theorem writes_of_pieces (all : ∀ piece ∈ pieces '.' (stripBlanks text.toList), IsNumeral piece) :
    Writes text (pieces '.' (stripBlanks text.toList)) where
  nonempty := Stencil.Text.pieces_ne_nil _ _
  all := all
  written := by
    rw [Stencil.Text.joinPieces_pieces]
    exact Stencil.Text.surrounds_trim isBlank text.toList

/-! ## Accepting versions -/

private theorem mapM_readVersionNumber (all : ∀ numeral ∈ numerals, IsNumeral numeral) :
    (¬HasLong numerals → numerals.mapM readVersionNumber = .ok (versionOf numerals)) ∧
      (HasLong numerals → numerals.mapM readVersionNumber = .error (.unforeseen .wrongValue)) := by
  induction numerals with
  | nil => exact ⟨fun _ => rfl, fun long => by simp [HasLong] at long⟩
  | cons first rest ih =>
    obtain ⟨here, others⟩ := List.forall_mem_cons.mp all
    obtain ⟨short, long⟩ := ih others
    have either : HasLong (first :: rest) ↔ digitLimit < first.length ∨ HasLong rest := by
      simp [HasLong]
    rw [either, List.mapM_cons, readVersionNumber, Number.readInteger_numeral here]
    by_cases tooLong : digitLimit < first.length
    · simp only [tooLong, if_true, true_or, not_true_eq_false, false_implies, true_implies,
        true_and]
      rfl
    · simp only [tooLong, if_false, false_or]
      constructor
      · intro none
        rw [short none]
        rfl
      · intro some
        rw [long some]
        rfl

/-- What comes of a text that writes a version. -/
theorem Writes.checkVersion_eq (writes : Writes text numerals) :
    (HasLong numerals → checkVersion text = .error (.unforeseen .wrongValue)) ∧
    (¬HasLong numerals →
      checkVersion text =
        if isNewer (versionOf numerals) installedVersion then
          .error (.config (.versionTooNew text (versionText installedVersion)))
        else .ok ()) := by
  obtain ⟨short, long⟩ := mapM_readVersionNumber writes.all
  have read : readVersion text = numerals.mapM readVersionNumber := by
    have all : numerals.all isVersionNumber = true :=
      List.all_eq_true.mpr fun numeral member =>
        isVersionNumber_eq_true_iff.mpr (writes.all numeral member)
    unfold readVersion
    rw [writes.pieces_eq]
    exact if_pos all
  unfold checkVersion
  rw [read]
  constructor
  · intro some
    rw [long some]
    rfl
  · intro none
    rw [short none]
    rfl

theorem checkVersion_of_not_writes (none : ¬∃ numerals, Writes text numerals) :
    checkVersion text = .error (.config (.malformedVersion text)) := by
  have refused : ¬(pieces '.' (stripBlanks text.toList)).all isVersionNumber = true := by
    intro all
    refine none ⟨_, writes_of_pieces fun piece member => ?_⟩
    exact isVersionNumber_eq_true_iff.mp (List.all_eq_true.mp all piece member)
  have read : readVersion text = .error (.config (.malformedVersion text)) := if_neg refused
  unfold checkVersion
  rw [read]
  rfl

theorem Writes.accepted_iff (writes : Writes text numerals) :
    checkVersion text = .ok () ↔
      ¬HasLong numerals ∧ ¬isNewer (versionOf numerals) installedVersion = true := by
  obtain ⟨escapes, compared⟩ := writes.checkVersion_eq
  by_cases long : HasLong numerals
  · simp [escapes long, long]
  · rw [compared long]
    by_cases newer : isNewer (versionOf numerals) installedVersion = true
    · simp [newer]
    · simp [newer, long]

private theorem nonneg_installedVersion : ∀ number ∈ installedVersion, 0 ≤ number := by decide

/-- What a text has to write to be refused as too new. -/
theorem isNewer_versionOf_iff (numerals : List (List Char)) :
    isNewer (versionOf numerals) installedVersion = true ↔
      Surpasses (versionOf numerals) installedVersion ∨
        IsPadded (versionOf numerals) installedVersion :=
  isNewer_eq_true_iff (nonneg_versionOf numerals) nonneg_installedVersion

theorem checkVersion_eq_ok_iff :
    checkVersion text = .ok () ↔
      ∃ numerals, Writes text numerals ∧ ¬HasLong numerals ∧
        ¬Surpasses (versionOf numerals) installedVersion ∧
        ¬IsPadded (versionOf numerals) installedVersion := by
  constructor
  · intro accepted
    by_cases some : ∃ numerals, Writes text numerals
    · obtain ⟨numerals, writes⟩ := some
      obtain ⟨short, notNewer⟩ := writes.accepted_iff.mp accepted
      rw [isNewer_versionOf_iff, not_or] at notNewer
      exact ⟨numerals, writes, short, notNewer.1, notNewer.2⟩
    · rw [checkVersion_of_not_writes some] at accepted
      cases accepted
  · rintro ⟨numerals, writes, short, notNewer, notPadded⟩
    refine writes.accepted_iff.mpr ⟨short, ?_⟩
    rw [isNewer_versionOf_iff]
    exact not_or.mpr ⟨notNewer, notPadded⟩

/-- A text writes one version at most, so there is nothing to choose. -/
private theorem Writes.exists_iff (writes : Writes text numerals)
    {property : List (List Char) → Prop} :
    (∃ others, Writes text others ∧ property others) ↔ property numerals := by
  constructor
  · rintro ⟨others, also, holds⟩
    rwa [← writes.pieces_eq, also.pieces_eq]
  · exact fun holds => ⟨numerals, writes, holds⟩

theorem checkVersion_eq_error_iff {failure : Failure} :
    checkVersion text = .error failure ↔
      (failure = .config (.malformedVersion text) ∧ ¬∃ numerals, Writes text numerals) ∨
      (failure = .unforeseen .wrongValue ∧ ∃ numerals, Writes text numerals ∧ HasLong numerals) ∨
      (failure = .config (.versionTooNew text (versionText installedVersion)) ∧
        ∃ numerals, Writes text numerals ∧ ¬HasLong numerals ∧
          (Surpasses (versionOf numerals) installedVersion ∨
            IsPadded (versionOf numerals) installedVersion)) := by
  have same {given : Failure} :
      (.error given : Except Failure Unit) = .error failure ↔ failure = given := by
    rw [Except.error.injEq, eq_comm]
  by_cases some : ∃ numerals, Writes text numerals
  · have written := some
    obtain ⟨numerals, writes⟩ := some
    obtain ⟨escapes, compared⟩ := writes.checkVersion_eq
    rw [writes.exists_iff, writes.exists_iff, ← isNewer_versionOf_iff]
    by_cases long : HasLong numerals
    · simp [escapes long, long, written, same]
    · rw [compared long]
      by_cases newer : isNewer (versionOf numerals) installedVersion = true
      · simp [newer, long, written, same]
      · simp [newer, long, written]
  · have none {property : List (List Char) → Prop} :
        ¬∃ numerals, Writes text numerals ∧ property numerals :=
      fun ⟨numerals, writes, _⟩ => some ⟨numerals, writes⟩
    simp [checkVersion_of_not_writes some, some, none, same]

/-- A version with zeros after it is accepted like the version, unless this is the engine's. -/
theorem Writes.padded_accepted_iff {padded : String} {zeros : List (List Char)}
    (writes : Writes text numerals) (longer : Writes padded (numerals ++ zeros))
    (further : zeros ≠ []) (short : ¬HasLong zeros)
    (all : ∀ numeral ∈ zeros, numberOf numeral = 0) :
    checkVersion padded = .ok () ↔
      checkVersion text = .ok () ∧ versionOf numerals ≠ installedVersion := by
  have zerosOf : ∀ number ∈ versionOf zeros, number = 0 := by
    intro number member
    obtain ⟨numeral, inside, rfl⟩ := List.mem_map.mp member
    rw [all numeral inside, Int.natCast_zero]
  have versions : versionOf (numerals ++ zeros) = versionOf numerals ++ versionOf zeros :=
    List.map_append
  have long : HasLong (numerals ++ zeros) ↔ HasLong numerals := by
    have either : HasLong (numerals ++ zeros) ↔ HasLong numerals ∨ HasLong zeros := by
      simp [HasLong, or_and_right, exists_or]
    rw [either, or_iff_left short]
  have newer :
      isNewer (versionOf numerals ++ versionOf zeros) installedVersion = true ↔
        isNewer (versionOf numerals) installedVersion = true ∨
          versionOf numerals = installedVersion :=
    isNewer_append_zeros zerosOf (by simpa [versionOf] using further) nonneg_installedVersion
      (by decide)
  rw [longer.accepted_iff, writes.accepted_iff, long, versions, newer, not_or, and_assoc]

/--
A version is accepted if and only if it is written as one, has no numeral that is too long, is
not newer than the engine, and is not the version of the engine with zeros after it.  Otherwise
it is a wrong setting, malformed or too new, unless a numeral is too long, and then a fault
escapes.  Zeros after a version do not matter, unless the version is that of the engine.
-/
theorem checkVersion_law (text : String) :
    (checkVersion text = .ok () ↔
      ∃ numerals, Writes text numerals ∧ ¬HasLong numerals ∧
        ¬Surpasses (versionOf numerals) installedVersion ∧
        ¬IsPadded (versionOf numerals) installedVersion) ∧
    (∀ failure, checkVersion text = .error failure ↔
      (failure = .config (.malformedVersion text) ∧ ¬∃ numerals, Writes text numerals) ∨
      (failure = .unforeseen .wrongValue ∧ ∃ numerals, Writes text numerals ∧ HasLong numerals) ∨
      (failure = .config (.versionTooNew text (versionText installedVersion)) ∧
        ∃ numerals, Writes text numerals ∧ ¬HasLong numerals ∧
          (Surpasses (versionOf numerals) installedVersion ∨
            IsPadded (versionOf numerals) installedVersion))) ∧
    (∀ numerals zeros padded, Writes text numerals → Writes padded (numerals ++ zeros) →
      zeros ≠ [] → ¬HasLong zeros → (∀ numeral ∈ zeros, numberOf numeral = 0) →
      (checkVersion padded = .ok () ↔
        checkVersion text = .ok () ∧ versionOf numerals ≠ installedVersion)) := by
  refine ⟨checkVersion_eq_ok_iff, fun _ => checkVersion_eq_error_iff, ?_⟩
  intro numerals zeros padded writes longer further short all
  exact writes.padded_accepted_iff longer further short all

private theorem writes_of_toList {text : String} {numerals : List (List Char)}
    (nonempty : numerals ≠ []) (all : ∀ numeral ∈ numerals, isVersionNumber numeral = true)
    (written : text.toList = joinPieces '.' numerals) : Writes text numerals where
  nonempty := nonempty
  all := fun numeral member => isVersionNumber_eq_true_iff.mp (all numeral member)
  written := ⟨[], [], by simp, by simp, by simp [written]⟩

theorem checkVersion_law_zeros :
    Writes "3.1" [['3'], ['1']] ∧ Writes "3.1.0" ([['3'], ['1']] ++ [['0']]) ∧
      ¬HasLong [['0']] ∧ numberOf ['0'] = 0 ∧
      (checkVersion "3.1.0" = .ok () ↔
        checkVersion "3.1" = .ok () ∧ versionOf [['3'], ['1']] ≠ installedVersion) := by
  have writes : Writes "3.1" [['3'], ['1']] := writes_of_toList (by decide) (by decide) (by decide)
  have padded : Writes "3.1.0" ([['3'], ['1']] ++ [['0']]) :=
    writes_of_toList (by decide) (by decide) (by decide)
  have short : ¬HasLong [['0']] := by simp [HasLong, digitLimit]
  have isZero : numberOf ['0'] = 0 := by decide
  refine ⟨writes, padded, short, isZero, ?_⟩
  exact (checkVersion_law "3.1").2.2 _ _ _ writes padded (by decide) short (by simpa using isZero)

/-- A numeral with one digit more than are read. -/
def longNumeral : List Char := List.replicate (digitLimit + 1) '9'

theorem isNumeral_longNumeral : IsNumeral longNumeral where
  nonempty := by rw [longNumeral, List.replicate_succ]; exact List.cons_ne_nil _ _
  digits := by
    intro digit member
    rw [List.eq_of_mem_replicate member]
    decide +kernel

/-- The engine's version with a zero after it is not newer, and a long one is no other fault. -/
theorem not_accepted_versions :
    (Writes "3.1.6.0" [['3'], ['1'], ['6'], ['0']] ∧
      ¬Surpasses (versionOf [['3'], ['1'], ['6'], ['0']]) installedVersion ∧
      checkVersion "3.1.6.0" = .error (.config (.versionTooNew "3.1.6.0" "3.1.6"))) ∧
    (Writes (String.ofList longNumeral) [longNumeral] ∧
      checkVersion (String.ofList longNumeral) = .error (.unforeseen .wrongValue)) := by
  have padded : Writes "3.1.6.0" [['3'], ['1'], ['6'], ['0']] :=
    writes_of_toList (by decide) (by decide) (by decide)
  have version : versionOf [['3'], ['1'], ['6'], ['0']] = [3, 1, 6, 0] := by decide
  have long : Writes (String.ofList longNumeral) [longNumeral] := by
    refine writes_of_toList (List.cons_ne_nil _ _) (fun numeral member => ?_) String.toList_ofList
    rw [List.mem_singleton.mp member]
    exact isVersionNumber_eq_true_iff.mpr isNumeral_longNumeral
  have hasLong : HasLong [longNumeral] :=
    ⟨longNumeral, List.mem_singleton_self _, by rw [longNumeral, List.length_replicate]; decide⟩
  refine ⟨⟨padded, ?_, by decide +kernel⟩, long, long.checkVersion_eq.1 hasLong⟩
  rw [version]
  rintro ⟨place, -, less⟩
  rcases place with _ | _ | _ | _ | place <;> simp [installedVersion] at less

end Stencil.Template
