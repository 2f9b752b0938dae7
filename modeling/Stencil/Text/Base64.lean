/-!
# Bytes written in sixty-four signs

Four signs stand for three bytes.  Characters that are no signs are skipped; padding
ends the data where it fills up a group of four.
-/

namespace Stencil.Text.Base64

/-- The value of a sign. -/
def signValue? (byte : UInt8) : Option Nat :=
  let character := Char.ofNat byte.toNat
  if 'A' ≤ character && character ≤ 'Z' then some (character.toNat - 'A'.toNat)
  else if 'a' ≤ character && character ≤ 'z' then some (character.toNat - 'a'.toNat + 26)
  else if character.isDigit then some (character.toNat - '0'.toNat + 52)
  else if character == '+' then some 62
  else if character == '/' then some 63
  else none

/-- A group of signs that is not complete: how many there are, and the bits they leave over. -/
structure Group where
  signs : Nat := 0
  pads : Nat := 0
  bits : Nat := 0

/-- Read signs into bytes. -/
def decodeFrom (group : Group) : List UInt8 → Option (List UInt8)
  | [] => if group.signs == 0 then some [] else none
  | byte :: rest =>
    if byte == '='.toUInt8 then
      if group.signs < 2 then decodeFrom group rest
      else if group.signs + group.pads + 1 ≥ 4 then some []
      else decodeFrom { group with pads := group.pads + 1 } rest
    else
      match signValue? byte with
      | none => decodeFrom group rest
      | some value =>
        match group.signs with
        | 0 => decodeFrom ⟨1, 0, value⟩ rest
        | 1 => add (group.bits * 4 + value / 16) ⟨2, 0, value % 16⟩ rest
        | 2 => add (group.bits * 16 + value / 4) ⟨3, 0, value % 4⟩ rest
        | _ => add (group.bits * 64 + value) ⟨0, 0, 0⟩ rest
where
  add (number : Nat) (group : Group) (rest : List UInt8) : Option (List UInt8) :=
    (decodeFrom group rest).map (UInt8.ofNat number :: ·)

/-- The bytes that signs stand for. -/
def decode? (signs : List UInt8) : Option (List UInt8) :=
  decodeFrom {} signs

end Stencil.Text.Base64
