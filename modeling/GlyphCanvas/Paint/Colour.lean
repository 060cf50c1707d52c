import GlyphCanvas.Float.Binary32

namespace GlyphCanvas

structure Colour where
  r : UInt8
  g : UInt8
  b : UInt8
  deriving DecidableEq, Repr, Inhabited

namespace Colour

def black : Colour := ⟨0, 0, 0⟩
def white : Colour := ⟨255, 255, 255⟩

/-- Reads `0xBBGGRR`; the top byte is ignored. -/
def ofPacked (packed : Nat) : Colour :=
  ⟨(packed % 256).toUInt8, (packed / 256 % 256).toUInt8, (packed / 65536 % 256).toUInt8⟩

def packed (c : Colour) : Nat := c.r.toNat + c.g.toNat * 256 + c.b.toNat * 65536

end Colour

/-- A colour with alpha, channels in `[0, 1]`, not premultiplied. -/
structure RGBA where
  r : Binary32
  g : Binary32
  b : Binary32
  a : Binary32
  deriving DecidableEq, Repr

/-- A byte as a channel value. -/
def channelOfByte (v : UInt8) : Binary32 := Binary32.ofNat v.toNat / 255

/-- The colour with the given alpha byte. -/
def Colour.withAlpha (c : Colour) (alpha : UInt8) : RGBA :=
  ⟨channelOfByte c.r, channelOfByte c.g, channelOfByte c.b, channelOfByte alpha⟩

end GlyphCanvas
