import Stencil.Command.Argument
import Stencil.Proofs.Text.Split

/-!
# Arguments that name a reader

An extension and the reference to its reader are given in one text, with an equals sign between
them.  Blanks around either of the two do not count, and an extension may be written without
its dot.  All texts of a pair are read as the same pair in its normal form, and the pair in
this form, with an equals sign in the middle, is one of these texts.  A text is refused if it
has no equals sign, or no colon after the first one.
-/

namespace Stencil.Command

open Stencil.Text (IsTrimmed Surrounds isBlank)

variable {given extension reference name : String} {before after written whole : List Char}

/-! ## Normal pairs and their texts -/

/-- An extension and a reference as they are once they have been read. -/
structure IsNormal (extension reference : String) : Prop where
  dot : extension.toList.head? = some '.'
  single : '=' ∉ extension.toList
  extensionTrimmed : IsTrimmed isBlank extension.toList
  colon : ':' ∈ reference.toList
  referenceTrimmed : IsTrimmed isBlank reference.toList

/-- Ways to write an extension: as it is, or without its dot unless another dot follows. -/
inductive Abbreviates : List Char → List Char → Prop
  | whole (rest : List Char) : Abbreviates ('.' :: rest) ('.' :: rest)
  | bare {rest : List Char} (noDot : rest.head? ≠ some '.') : Abbreviates rest ('.' :: rest)

/-- A text is one of those that stand for a normal pair. -/
structure Denotes (given extension reference : String) : Prop where
  normal : IsNormal extension reference
  written : ∃ before name after, given.toList = before ++ '=' :: after ∧
    Surrounds isBlank before name ∧ IsTrimmed isBlank name ∧
    Abbreviates name extension.toList ∧ Surrounds isBlank after reference.toList

/-- A text stands for no pair, with what is wrong with it. -/
inductive Malformed (given : String) : UsageFault → Prop
  | noEquals (absent : '=' ∉ given.toList) : Malformed given (.noExtension given)
  | noColon {before after : List Char} (split : given.toList = before ++ '=' :: after)
      (first : '=' ∉ before) (absent : ':' ∉ after) :
      Malformed given (.noReference (String.ofList after))

/-- A text stands for no pair without an equals sign, or without a colon after the first one. -/
theorem exists_malformed_iff :
    (∃ fault, Malformed given fault) ↔
      '=' ∉ given.toList ∨ ∃ before after, given.toList = before ++ '=' :: after ∧
        '=' ∉ before ∧ ':' ∉ after := by
  constructor
  · rintro ⟨_, absent | ⟨split, first, absent⟩⟩
    · exact .inl absent
    · exact .inr ⟨_, _, split, first, absent⟩
  · rintro (absent | ⟨before, after, split, first, absent⟩)
    · exact ⟨_, .noEquals absent⟩
    · exact ⟨_, .noColon split first absent⟩

/-- A normal pair is denoted by the two with an equals sign in the middle. -/
theorem IsNormal.denotes (normal : IsNormal extension reference) :
    Denotes (extension ++ "=" ++ reference) extension reference where
  normal := normal
  written := by
    obtain ⟨rest, split⟩ := List.head?_eq_some_iff.mp normal.dot
    refine ⟨extension.toList, extension.toList, reference.toList, by simp, .refl _ _,
      normal.extensionTrimmed, ?_, .refl _ _⟩
    rw [split]
    exact .whole rest

/-! ## Dots and blanks -/

namespace Abbreviates

theorem head?_eq (abbreviates : Abbreviates written whole) : whole.head? = some '.' := by
  cases abbreviates <;> rfl

/-- Only a dot may be missing from an extension. -/
theorem mem_iff (abbreviates : Abbreviates written whole) {character : Char}
    (noDot : character ≠ '.') : character ∈ whole ↔ character ∈ written := by
  cases abbreviates with
  | whole rest => rfl
  | bare _ => simp [noDot]

/-- A dot in front of a trimmed text leaves it trimmed. -/
theorem isTrimmed (abbreviates : Abbreviates written whole)
    (trimmed : IsTrimmed isBlank written) : IsTrimmed isBlank whole := by
  have dot : isBlank '.' = false := by decide
  cases abbreviates with
  | whole rest => exact trimmed
  | bare noDot =>
    refine ⟨fun character first => ?_, fun character last => ?_⟩
    · cases first
      exact dot
    · cases written with
      | nil =>
        cases last
        exact dot
      | cons first rest =>
        rw [List.getLast?_cons_cons] at last
        exact trimmed.ends character last

end Abbreviates

theorem toList_dotted (name : String) :
    (dotted name).toList =
      if name.toList.head? = some '.' then name.toList else '.' :: name.toList := by
  have starts : name.startsWith "." = true ↔ name.toList.head? = some '.' := by
    rw [String.startsWith_string_iff]
    exact List.singleton_prefix_iff_head?_eq_some
  simp only [dotted, starts]
  split
  · rfl
  · exact String.toList_append

/-- Putting a dot where it is missing undoes leaving it out. -/
theorem dotted_eq_iff : dotted name = extension ↔ Abbreviates name.toList extension.toList := by
  rw [← String.toList_inj, toList_dotted]
  constructor
  · intro same
    rw [← same]
    split
    · next dot =>
      obtain ⟨rest, split⟩ := List.head?_eq_some_iff.mp dot
      rw [split]
      exact .whole rest
    · next noDot => exact .bare noDot
  · generalize name.toList = written, extension.toList = whole
    intro abbreviates
    cases abbreviates with
    | whole rest => exact if_pos rfl
    | bare noDot => exact if_neg noDot

/-- Stripping gives the trimmed text that stands between the blanks. -/
theorem stripped_eq_iff :
    stripped before = name ↔
      Surrounds isBlank before name.toList ∧ IsTrimmed isBlank name.toList := by
  rw [← Stencil.Text.trim_eq_iff, ← String.toList_inj, stripped, String.toList_ofList]
  rfl

/-! ## Reading an argument -/

/-- What is read from a text depends on its parts around the first equals sign. -/
theorem parseExtension_of_split (split : given.toList = before ++ '=' :: after)
    (first : '=' ∉ before) :
    parseExtension given =
      if ':' ∈ after then .ok (dotted (stripped before), stripped after)
      else .error (.noReference (String.ofList after)) := by
  rw [parseExtension, Stencil.Text.cut?_eq_some_iff.mpr ⟨split, first⟩]
  simp only [List.contains_iff_mem]

/-- A text that denotes a pair is read as this pair. -/
theorem Denotes.parseExtension_eq (denotes : Denotes given extension reference) :
    parseExtension given = .ok (extension, reference) := by
  obtain ⟨before, name, after, split, ofName, trimmed, abbreviates, ofReference⟩ :=
    denotes.written
  -- Neither a blank nor a missing dot is an equals sign, so the cut is at the right place.
  have first : '=' ∉ before := by
    rw [ofName.mem_iff (by decide), ← abbreviates.mem_iff (by decide)]
    exact denotes.normal.single
  have colon : ':' ∈ after := (ofReference.mem_iff (by decide)).mpr denotes.normal.colon
  have front : stripped before = String.ofList name := by
    rw [stripped_eq_iff, String.toList_ofList]
    exact ⟨ofName, trimmed⟩
  have dots : dotted (String.ofList name) = extension := by
    rw [dotted_eq_iff, String.toList_ofList]
    exact abbreviates
  have back : stripped after = reference :=
    stripped_eq_iff.mpr ⟨ofReference, denotes.normal.referenceTrimmed⟩
  rw [parseExtension_of_split split first, if_pos colon, front, dots, back]

theorem Malformed.parseExtension_eq {fault : UsageFault} (malformed : Malformed given fault) :
    parseExtension given = .error fault := by
  cases malformed with
  | noEquals absent => rw [parseExtension, Stencil.Text.cut?_eq_none_iff.mpr absent]
  | noColon split first absent => rw [parseExtension_of_split split first, if_neg absent]

/-- The parts around the first equals sign, stripped and with a dot, are what a text denotes. -/
theorem denotes_of_split (split : given.toList = before ++ '=' :: after) (first : '=' ∉ before)
    (colon : ':' ∈ after) : Denotes given (dotted (stripped before)) (stripped after) := by
  obtain ⟨ofName, trimmed⟩ := stripped_eq_iff.mp (Eq.refl (stripped before))
  obtain ⟨ofReference, referenceTrimmed⟩ := stripped_eq_iff.mp (Eq.refl (stripped after))
  have abbreviates := dotted_eq_iff.mp (Eq.refl (dotted (stripped before)))
  have normal : IsNormal (dotted (stripped before)) (stripped after) :=
    { dot := abbreviates.head?_eq
      single := by rwa [abbreviates.mem_iff (by decide), ← ofName.mem_iff (by decide)]
      extensionTrimmed := abbreviates.isTrimmed trimmed
      colon := by rwa [← ofReference.mem_iff (by decide)]
      referenceTrimmed := referenceTrimmed }
  exact ⟨normal, before, _, after, split, ofName, trimmed, abbreviates, ofReference⟩

/-- Every text denotes a pair or is malformed. -/
theorem denotes_or_malformed (given : String) :
    (∃ extension reference, Denotes given extension reference) ∨
      ∃ fault, Malformed given fault := by
  by_cases member : '=' ∈ given.toList
  · obtain ⟨before, after, split, first⟩ := List.eq_append_cons_of_mem member
    by_cases colon : ':' ∈ after
    · exact .inl ⟨_, _, denotes_of_split split first colon⟩
    · exact .inr ⟨_, .noColon split first colon⟩
  · exact .inr ⟨_, .noEquals member⟩

theorem parseExtension_eq_ok_iff :
    parseExtension given = .ok (extension, reference) ↔ Denotes given extension reference := by
  refine ⟨fun accepted => ?_, Denotes.parseExtension_eq⟩
  obtain ⟨_, _, denotes⟩ | ⟨_, malformed⟩ := denotes_or_malformed given
  · rw [denotes.parseExtension_eq] at accepted
    cases accepted
    exact denotes
  · rw [malformed.parseExtension_eq] at accepted
    cases accepted

theorem parseExtension_eq_error_iff {fault : UsageFault} :
    parseExtension given = .error fault ↔ Malformed given fault := by
  refine ⟨fun refused => ?_, Malformed.parseExtension_eq⟩
  obtain ⟨_, _, denotes⟩ | ⟨_, malformed⟩ := denotes_or_malformed given
  · rw [denotes.parseExtension_eq] at refused
    cases refused
  · rw [malformed.parseExtension_eq] at refused
    cases refused
    exact malformed

/--
A text is read as a pair if and only if it denotes this pair.  Whatever is read is normal, and
with an equals sign in the middle it is read as the same pair again, as every normal pair is.
A text is refused if and only if it has no equals sign, or no colon after the first one.
-/
theorem parseExtension_normalizes :
    (∀ given extension reference,
      parseExtension given = .ok (extension, reference) ↔ Denotes given extension reference) ∧
    (∀ given extension reference, parseExtension given = .ok (extension, reference) →
      IsNormal extension reference ∧
        parseExtension (extension ++ "=" ++ reference) = .ok (extension, reference)) ∧
    (∀ extension reference, IsNormal extension reference →
      parseExtension (extension ++ "=" ++ reference) = .ok (extension, reference)) ∧
    (∀ given fault, parseExtension given = .error fault ↔ Malformed given fault) ∧
    (∀ given, (∃ fault, parseExtension given = .error fault) ↔
      '=' ∉ given.toList ∨ ∃ before after, given.toList = before ++ '=' :: after ∧
        '=' ∉ before ∧ ':' ∉ after) := by
  refine ⟨fun _ _ _ => parseExtension_eq_ok_iff, fun given extension reference accepted => ?_,
    fun _ _ normal => normal.denotes.parseExtension_eq, fun _ _ => parseExtension_eq_error_iff,
    fun given => ?_⟩
  · have normal := (parseExtension_eq_ok_iff.mp accepted).normal
    exact ⟨normal, normal.denotes.parseExtension_eq⟩
  · simp only [parseExtension_eq_error_iff]
    exact exists_malformed_iff

theorem parseExtension_normalizes_padded :
    parseExtension "\tyaml =\u2003readers:Yaml=2:x " = .ok (".yaml", "readers:Yaml=2:x") ∧
      IsNormal ".yaml" "readers:Yaml=2:x" ∧
      parseExtension (".yaml" ++ "=" ++ "readers:Yaml=2:x") =
        .ok (".yaml", "readers:Yaml=2:x") := by
  have accepted : parseExtension "\tyaml =\u2003readers:Yaml=2:x " =
      .ok (".yaml", "readers:Yaml=2:x") := by decide +kernel
  obtain ⟨normal, -⟩ := parseExtension_normalizes.2.1 _ _ _ accepted
  exact ⟨accepted, normal, parseExtension_normalizes.2.2.1 _ _ normal⟩

end Stencil.Command
