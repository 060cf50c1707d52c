import GlyphCanvas.Font.Metrics

namespace GlyphCanvas

/-- The resolution used when none usable is given. -/
def defaultDpi : Binary32 := 96

structure DeviceContext where
  logicalDpi : Binary32
  deriving DecidableEq, Repr

namespace DeviceContext

/-- A resolution, with a non-finite or non-positive dpi replaced by the default. -/
def new (dpi : Binary32) : DeviceContext :=
  ⟨if dpi.isFinite && (0 : Binary32) < dpi then dpi else defaultDpi⟩

instance : Inhabited DeviceContext := ⟨⟨defaultDpi⟩⟩

end DeviceContext

/-- A shaped line as a caret sees it: how many UTF-16 units it spans and the pen position after
a given number of them. -/
structure ShapedLayout where
  codeUnits : Nat
  cursorToX : Nat → Binary32

/-- The pen position after the whole line. -/
def ShapedLayout.width (l : ShapedLayout) : Binary32 := l.cursorToX l.codeUnits

/-- A glyph's coverage, row-major, placed relative to the pen and the baseline. -/
structure GlyphMask where
  left : Int
  top : Int
  width : Nat
  height : Nat
  coverage : ByteArray

/-- A text layout service. Rasterizing fails, with the message of the fault, when the masks of a
line cannot be made. -/
structure LayoutService where
  shape : String → FontParameters → DeviceContext → Option ShapedLayout
  fontMetrics : FontParameters → DeviceContext → Option DeviceFontMetrics
  rasterize : String → FontParameters → DeviceContext → Except String (List GlyphMask)

end GlyphCanvas
