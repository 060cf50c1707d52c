import GlyphCanvas.Layout.Service
import GlyphCanvas.Text.Utf8
import GlyphCanvas.Text.WhiteSpace

namespace GlyphCanvas

namespace FixedAdvance

/-- The share of the pixel size above the baseline. -/
def ascentRatio : Binary32 := 0.8

/-- The layout of a text of `codeUnits` units. -/
def layout (advance : Binary32) (codeUnits : Nat) : ShapedLayout where
  codeUnits := codeUnits
  cursorToX n := Binary32.ofNat (min n codeUnits) * advance

/-- Device metrics: ascent and descent split the pixel size four to one. -/
def metrics (advance : Binary32) (font : FontParameters) (device : DeviceContext) :
    DeviceFontMetrics :=
  let px := font.pixelSize device.logicalDpi
  let ascent := px * ascentRatio
  let descent := px - ascent
  { ascent, descent, height := ascent + descent, averageCharWidth := advance }

/-- The height of every glyph box: the rounded ascent, at least one pixel. -/
def boxHeight (font : FontParameters) (device : DeviceContext) : Nat :=
  ((font.pixelSize device.logicalDpi * ascentRatio).round.max 1).toUInt32

/-- The rounded caret after `units` units. -/
def caret (advance : Binary32) (units : Nat) : Int := (Binary32.ofNat units * advance).round.toInt32

/-- A 32-bit pattern read as a signed number. -/
def signed32 (n : Nat) : Int := if n < 2147483648 then n else (n : Int) - 4294967296

/-- `n` octets of full coverage. -/
def solidCoverage (n : Nat) : ByteArray :=
  let rec fill : Nat → ByteArray → ByteArray
    | 0, b => b
    | k + 1, b => fill k (b.push 255)
  fill n (ByteArray.emptyWithCapacity n)

/-- The box of a character `width` wide. Its top is the height negated as a signed 32-bit
number, and its area is a 32-bit product; either overflowing is a fault. -/
def box (left : Int) (width height : Nat) : Except String GlyphMask :=
  let signedHeight := signed32 height
  if signedHeight = -2147483648 then .error "attempt to negate with overflow"
  else if width * height ≥ 4294967296 then .error "attempt to multiply with overflow"
  else .ok ⟨left, -signedHeight, width, height, solidCoverage (width * height)⟩

/-- One box per character that is not white space and has a positive rounded width. -/
def boxes (advance : Binary32) (height : Nat) : List Char → Nat → Except String (List GlyphMask)
  | [], _ => .ok []
  | c :: cs, units =>
    let left := caret advance units
    let right := caret advance (units + charUnits c)
    let width := (max (right - left) 0).toNat
    if isWhiteSpace c || width == 0 then boxes advance height cs (units + charUnits c)
    else do
      let mask ← box left width height
      let rest ← boxes advance height cs (units + charUnits c)
      pure (mask :: rest)

/-- The boxes of a line's visible characters. -/
def rasterize (advance : Binary32) (text : String) (font : FontParameters) (device : DeviceContext) :
    Except String (List GlyphMask) :=
  boxes advance (boxHeight font device) text.toList 0

end FixedAdvance

def LayoutService.fixed (advance : Binary32) : LayoutService where
  shape text _ _ := some (FixedAdvance.layout advance (utf16Length text))
  fontMetrics font device := some (FixedAdvance.metrics advance font device)
  rasterize := FixedAdvance.rasterize advance

end GlyphCanvas
