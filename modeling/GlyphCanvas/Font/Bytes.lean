namespace GlyphCanvas

namespace FontBytes

def u8? (d : ByteArray) (o : Nat) : Option Nat :=
  if o < d.size then some (d.get! o).toNat else none

def u16? (d : ByteArray) (o : Nat) : Option Nat :=
  if o + 2 ≤ d.size then some ((d.get! o).toNat * 256 + (d.get! (o + 1)).toNat) else none

def u24? (d : ByteArray) (o : Nat) : Option Nat :=
  if o + 3 ≤ d.size then
    some (((d.get! o).toNat * 256 + (d.get! (o + 1)).toNat) * 256 + (d.get! (o + 2)).toNat)
  else none

def u32? (d : ByteArray) (o : Nat) : Option Nat :=
  if o + 4 ≤ d.size then
    some ((((d.get! o).toNat * 256 + (d.get! (o + 1)).toNat) * 256 + (d.get! (o + 2)).toNat) * 256 +
      (d.get! (o + 3)).toNat)
  else none

/-- A 16-bit two's complement value. -/
def signed16 (v : Nat) : Int := if v ≥ 32768 then (v : Int) - 65536 else v

def i16? (d : ByteArray) (o : Nat) : Option Int := (u16? d o).map signed16

def u16 (d : ByteArray) (o : Nat) : Nat := (u16? d o).getD 0
def i16 (d : ByteArray) (o : Nat) : Int := (i16? d o).getD 0
def u32 (d : ByteArray) (o : Nat) : Nat := (u32? d o).getD 0

/-- A four-character tag as the number its bytes spell. -/
def tag (s : String) : Nat := s.toList.foldl (fun acc c => acc * 256 + c.toNat % 256) 0

/-- The bytes `[o, o + n)`, when they are all present. -/
def slice? (d : ByteArray) (o n : Nat) : Option ByteArray :=
  if o + n ≤ d.size then some (d.extract o (o + n)) else none

end FontBytes

end GlyphCanvas
