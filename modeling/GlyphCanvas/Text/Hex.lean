namespace GlyphCanvas

namespace Hex

/-- The value of a hexadecimal digit of either case. -/
def digit? (c : Char) : Option Nat :=
  if '0' ≤ c ∧ c ≤ '9' then some (c.toNat - '0'.toNat)
  else if 'a' ≤ c ∧ c ≤ 'f' then some (c.toNat - 'a'.toNat + 10)
  else if 'A' ≤ c ∧ c ≤ 'F' then some (c.toNat - 'A'.toNat + 10)
  else none

/-- Why a text is not hexadecimal octets. -/
inductive Error where
  /-- A character is not a hexadecimal digit. -/
  | badDigit
  /-- The digits do not pair up. -/
  | oddLength
  deriving DecidableEq, Repr

/-- Octets from digit values taken two at a time; a last unpaired digit is dropped. -/
def pairs : List Nat → List UInt8
  | a :: b :: rest => (a * 16 + b).toUInt8 :: pairs rest
  | _ => []

/-- The octets of a hexadecimal text. -/
def decode (s : String) : Except Error (List UInt8) := do
  let digits ← s.toList.mapM fun c => match digit? c with
    | some d => pure d
    | none => throw Error.badDigit
  if digits.length % 2 = 1 then throw Error.oddLength
  pure (pairs digits)

/-- The two lowercase digits of an octet. -/
def octetText (b : UInt8) : String :=
  let s := String.ofList (Nat.toDigits 16 b.toNat)
  if s.length < 2 then "0" ++ s else s

/-- The hexadecimal text of octets. -/
def encode (bytes : List UInt8) : String := String.join (bytes.map octetText)

end Hex

end GlyphCanvas
