import Stencil.Text.Class

/-!
# Letter case

Full case mapping: an image may be longer than the character, and the last sigma
of a word has a lower-case form of its own.
-/

namespace Stencil.Text

/-- The image of a position under runs and expansions, itself where neither maps it. -/
def caseImage
    (runs : Array CaseRun)
    (expansions : Array (Nat × List Nat))
    (number : Nat) : List Nat :=
  match expansions.find? fun entry => entry.1 == number with
  | some (_, image) => image
  | none =>
    let covers := fun (run : CaseRun) =>
      run.first ≤ number && number ≤ run.last && (number - run.first) % run.stride == 0
    match runs.find? covers with
    | some run => [((number : Int) + run.distance).toNat]
    | none => [number]

def upperImage (number : Nat) : List Nat :=
  caseImage upperRuns upperExpansions number

def lowerImage (number : Nat) : List Nat :=
  caseImage lowerRuns lowerExpansions number

def titleImage (number : Nat) : List Nat :=
  match titleExceptions.find? fun entry => entry.1 == number with
  | some (_, image) => image
  | none => upperImage number

def foldImage (number : Nat) : List Nat :=
  match foldExceptions.find? fun entry => entry.1 == number with
  | some (_, image) => image
  | none => lowerImage number

/-- Positions as text. -/
def ofNumbers (numbers : List Nat) : Text :=
  numbers.map CodePoint.ofNat

/-- Whether the first character that does not interrupt a word has a case. -/
def meetsCased (points : Text) : Bool :=
  match points.dropWhile fun point => caseIgnorable.contains point.number with
  | [] => false
  | point :: _ => point.isCased

/-- Lower-case images of a text, given what stands before it in reverse. -/
def lowerAfter : Text → Text → Text
  | _, [] => []
  | before, point :: rest =>
    let image :=
      if point.number == 0x3A3 then
        if meetsCased before && !meetsCased rest then [0x3C2] else [0x3C3]
      else
        lowerImage point.number
    ofNumbers image ++ lowerAfter (point :: before) rest

def lower (text : Text) : Text :=
  lowerAfter [] text

def upper (text : Text) : Text :=
  text.flatMap fun point => ofNumbers (upperImage point.number)

def caseFold (text : Text) : Text :=
  text.flatMap fun point => ofNumbers (foldImage point.number)

/-- The first character in title case, the rest lower. -/
def capitalize : Text → Text
  | [] => []
  | point :: rest => ofNumbers (titleImage point.number) ++ lowerAfter [point] rest

/-- Words start in title case and go on in lower case. -/
def titleAfter : Bool → Text → Text → Text
  | _, _, [] => []
  | inWord, before, point :: rest =>
    let image :=
      if inWord then
        if point.number == 0x3A3 then
          if meetsCased before && !meetsCased rest then [0x3C2] else [0x3C3]
        else
          lowerImage point.number
      else
        titleImage point.number
    ofNumbers image ++ titleAfter point.isCased (point :: before) rest

def title (text : Text) : Text :=
  titleAfter false [] text

/-- Upper-case characters become lower, lower-case ones upper. -/
def swapCaseAfter : Text → Text → Text
  | _, [] => []
  | before, point :: rest =>
    let image :=
      if point.isUpper then
        if point.number == 0x3A3 then
          if meetsCased before && !meetsCased rest then [0x3C2] else [0x3C3]
        else
          lowerImage point.number
      else if point.isLower then
        upperImage point.number
      else
        [point.number]
    ofNumbers image ++ swapCaseAfter (point :: before) rest

def swapCase (text : Text) : Text :=
  swapCaseAfter [] text

end Stencil.Text
