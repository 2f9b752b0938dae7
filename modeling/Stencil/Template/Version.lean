import Stencil.Failure
import Stencil.Number.Numeral
import Stencil.Text.Character
import Stencil.Text.Search

/-!
# Engine versions

A version is a sequence of numbers with dots between them, written in the digits of
any script.  Versions are compared number by number; of two versions of which one
starts with the other the longer one is the newer.
-/

namespace Stencil.Template

/-- A version as its numbers. -/
abbrev Version := List Int

/-- The version of the engine. -/
def installedVersion : Version := [3, 1, 6]

/-- A version as text. -/
def versionText (version : Version) : String :=
  String.intercalate "." (version.map toString)

/-- Whether a version is newer than another one. -/
def isNewer : Version → Version → Bool
  | [], _ => false
  | _ :: _, [] => true
  | left :: lefts, right :: rights =>
    if left = right then isNewer lefts rights else decide (right < left)

/-- Whether characters are the digits of one number of a version. -/
def isVersionNumber (characters : List Char) : Bool :=
  !characters.isEmpty && characters.all fun character =>
    (Text.decimalDigit? character).isSome

/-- Read a number of a version; a number of too many digits is refused. -/
def readVersionNumber (characters : List Char) : Except Failure Int :=
  match Number.readInteger 10 (Text.ofChars characters) with
  | .ok number => .ok number
  | .error _ => .error (.unforeseen .wrongValue)

/-- Read a version; blanks around it do not count. -/
def readVersion (text : String) : Except Failure Version :=
  let numbers := Stencil.Text.pieces '.' (Stencil.Text.stripBlanks text.toList)
  if numbers.all isVersionNumber then
    numbers.mapM readVersionNumber
  else
    .error (.config (.malformedVersion text))

/-- Refuse a version that cannot be read or is newer than the engine. -/
def checkVersion (text : String) : Except Failure Unit := do
  let version ← readVersion text
  if isNewer version installedVersion then
    throw (.config (.versionTooNew text (versionText installedVersion)))

/-- A version is never newer than itself. -/
theorem isNewer_self (version : Version) : isNewer version version = false := by
  induction version with
  | nil => rfl
  | cons number rest ih => simp [isNewer, ih]

/-- Of two versions at most one is newer than the other. -/
theorem isNewer_asymm (left right : Version) (newer : isNewer left right = true) :
    isNewer right left = false := by
  induction left generalizing right with
  | nil => simp [isNewer] at newer
  | cons number rest ih =>
    cases right with
    | nil => rfl
    | cons other others =>
      by_cases same : number = other
      · subst same
        simp [isNewer] at newer ⊢
        exact ih others newer
      · have less : other < number := by simpa [isNewer, same] using newer
        have different : other ≠ number := fun h => same h.symm
        simp [isNewer, different]
        omega

end Stencil.Template
