import Stencil.Template.Filter.Basic

/-!
# Filters on numbers

Reading numbers, rounding them, and showing sizes of files.
-/

namespace Stencil.Template

open Run

/-- The characters of bytes, for reading numbers. -/
def plainBytes (bytes : List UInt8) : Text :=
  bytes.map fun byte => CodePoint.ofNat (if byte < 0x80 then byte.toNat else 0xFFFD)

/-- A value read as a float. -/
def readFloat (value : Value) : Run Float := do
  let read := fun (text : Text) =>
    match Number.readFloat? text with
    | some amount => pure amount
    | none => wrongValue
  match value with
  | .text content => read content
  | .markup content => read content
  | .bytes content => read (plainBytes content)
  | value => floatOfValue value

/-- A value read as an integer in a base. -/
def readInteger (base : Value) (value : Value) : Run Int := do
  let read := fun (base : Int) (text : Text) =>
    if base == 0 || (2 ≤ base && base ≤ 36) then
      match Number.readInteger base.toNat text with
      | .ok integer => pure integer
      | .error _ => wrongValue
    else
      wrongValue
  match value with
  | .bytes content => read 10 (plainBytes content)
  | .undefined missing => throw (.undefinedValue missing.message)
  | value =>
    match value.text? with
    | some content => read (← integerArgument base) content
    | none => integerOfNumber value

/-- Whether reading a number failed for its form. -/
def isUnreadable : Fault → Bool
  | .wrongType => true
  | .wrongValue => true
  | _ => false

/-- A value as an integer, its fraction cut off, or a default. -/
def integerFilter : FilterRule :=
  FilterRule.withParameters [optional "default" (.int 0), optional "base" (.int 10)]
    fun _ _ subject arguments => do
      try
        return .int (← readInteger (arguments.getD 1 .none) subject)
      catch fault =>
        if !isUnreadable fault then
          throw fault
        try
          return .int (← integerOfNumber (.float (← readFloat subject)))
        catch fault =>
          if isUnreadable fault || fault == .overflow then
            return arguments.getD 0 .none
          else
            throw fault

/-- A value as a float, or a default. -/
def floatFilter : FilterRule :=
  FilterRule.withParameters [optional "default" (.float 0.0)] fun _ _ subject arguments => do
    try
      return .float (← readFloat subject)
    catch fault =>
      if isUnreadable fault then return arguments.getD 0 .none else throw fault

/-- A number rounded to the nearest, a half to the even neighbour. -/
def roundNearest (subject precision : Value) : Run Value := do
  match subject with
  | .float amount =>
    match precision with
    | .none =>
      match Number.formOf amount with
      | .finite value => return .int value.roundToEven
      | .infinite _ => throw .overflow
      | .notANumber => wrongValue
    | precision =>
      let rounded := Number.roundPlaces amount (← integerArgument precision)
      if amount.isFinite && !rounded.isFinite then throw .overflow else return .float rounded
  | subject =>
    match integer? subject with
    | some integer =>
      match precision with
      | .none => return .int integer
      | precision => return .int (Number.roundIntPlaces integer (← integerArgument precision))
    | none => wrongType

/-- The least integer above, or the greatest one below. -/
def roundToward (isUp : Bool) (value : Value) : Run Int := do
  match value with
  | .float _ =>
    let value ← finitePart value
    return if isUp then value.ceiling else value.floor
  | value =>
    match integer? value with
    | some integer => return integer
    | none => wrongType

/-- A number rounded to places. -/
def roundFilter : FilterRule :=
  FilterRule.withParameters
    [optional "precision" (.int 0), optional "method" (Value.ofString "common")]
    fun _ _ subject arguments => do
      let precision := arguments.getD 0 .none
      let method := arguments.getD 1 .none
      lift (Value.checkKey method)
      let name := (method.text?.map Text.string).getD ""
      if name == "common" then
        roundNearest subject precision
      else if name == "ceil" || name == "floor" then
        let scale ← compute .power (.int 10) precision
        let scaled ← roundToward (name == "ceil") (← compute .multiply subject scale)
        compute .divide (.int scaled) scale
      else
        throw (.filterArgument "method must be common, ceil or floor")

/-- The unit of a size: its name and what one step up of it is worth. -/
def sizeUnit (amount : Float) (base : Nat) : List String → (scale : Nat) → String × Nat
  | [], scale => ("", scale)
  | [last], scale => (last, scale)
  | unit :: units, scale =>
    if amount < Number.ofRatio false scale 1 then (unit, scale)
    else sizeUnit amount base units (scale * base)

/-- The size of a file in a handy unit. -/
def fileSizeFilter : FilterRule :=
  FilterRule.withParameters [flag "binary" false] fun evaluator _ subject arguments => do
    let amount ← readFloat subject
    let isBinary ← truth evaluator (arguments.getD 0 .none)
    let base := if isBinary then 1024 else 1000
    let units :=
      if isBinary then ["KiB", "MiB", "GiB", "TiB", "PiB", "EiB", "ZiB", "YiB"]
      else ["kB", "MB", "GB", "TB", "PB", "EB", "ZB", "YB"]
    if amount == 1 then
      return Value.ofString "1 Byte"
    else if amount < Number.ofRatio false base 1 then
      let count ← integerOfNumber (.float amount)
      return .text (← lift (Value.integerDisplay count) >>= fun count =>
        pure (count ++ (" Bytes" : Text)))
    else
      let (unit, scale) := sizeUnit amount base units (base * base)
      let shown := Number.ofRatio false base 1 * amount / Number.ofRatio false scale 1
      let (negative, digits) := floatMagnitude 'f' 1 false shown
      return Value.ofChars ((if negative then ['-'] else []) ++ digits ++ ' ' :: unit.toList)

/-- The filters on numbers. -/
def numberFilters : List (String × FilterRule) :=
  [("abs", fun _ _ subject given => do
      noArguments given
      match subject with
      | .float amount => return .float amount.abs
      | subject =>
        match integer? subject with
        | some integer => return .int integer.natAbs
        | none => wrongType),
    ("filesizeformat", fileSizeFilter),
    ("float", floatFilter),
    ("int", integerFilter),
    ("round", roundFilter)]

end Stencil.Template
