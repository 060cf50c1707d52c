import GlyphCanvas.Raster.Draw
import GlyphCanvas.Layout.Service

namespace GlyphCanvas

structure PaintDevice where
  pixmap : Pixmap
  logicalDpi : Binary32

namespace PaintDevice

/-- A transparent device; none when the pixmap cannot be allocated. -/
def new (w h : Nat) (dpi : Binary32) : Option PaintDevice :=
  (Pixmap.new w h).map fun p => ⟨p, (DeviceContext.new dpi).logicalDpi⟩

/-- The measurement context matching what is painted on the device. -/
def context (d : PaintDevice) : DeviceContext := DeviceContext.new d.logicalDpi

end PaintDevice

structure Pen where
  colour : Colour
  width : Binary32 := 1

/-- The paint state of a drawing session. -/
structure PaintContext where
  pen : Pen := ⟨Colour.black, 1⟩
  brush : Colour := Colour.white
  clip : Option Mask := none
  textAntialias : Bool := true

namespace PaintContext

/-- Back to the default pen and brush; the clip stays. -/
def resetPenAndBrush (p : PaintContext) : PaintContext :=
  { p with pen := ⟨Colour.black, 1⟩, brush := Colour.white }

end PaintContext

/-- Aliased solid paint of a colour with an alpha. -/
def solidShader (c : Colour) (alpha : UInt8) : Shader := .solid (c.withAlpha alpha)

/-- The centre of the pixel whose top-left corner is `p`: strokes along centres fill whole
pixels. -/
def pixelCentre (p : Point) : Point := ⟨p.x + 0.5, p.y + 0.5⟩

/-- The rectangle whose one-pixel outline covers exactly the pixels of `rc`: the trailing edges
are inset by one and the outline runs through pixel centres. -/
def outlineRect (rc : Bounds) : Option Rect :=
  let inset := rc.insetTrailing
  let start := pixelCentre ⟨inset.left, inset.top⟩
  let stop := pixelCentre ⟨inset.right, inset.bottom⟩
  Rect.ofLTRB start.x start.y stop.x stop.y

/-- The cubic approximation constant of a quarter ellipse. -/
def kappa : Binary32 := 0.5522848

/-- A rectangle with elliptic corners of radii `rx, ry` (each at most half the side); a plain
rectangle when either radius is not positive. -/
def roundedRectPath (rect : Rect) (rx ry : Binary32) : Option Path :=
  let rx := rx.min (rect.width / 2)
  let ry := ry.min (rect.height / 2)
  if rx ≤ 0 || ry ≤ 0 then some (Path.ofRect rect)
  else
    let kx := rx * kappa
    let ky := ry * kappa
    let l := rect.left; let t := rect.top; let r := rect.right; let b := rect.bottom
    let pb : PathBuilder := {}
    let pb := pb.moveTo ⟨l + rx, t⟩
    let pb := pb.lineTo ⟨r - rx, t⟩
    let pb := pb.cubicTo ⟨r - rx + kx, t⟩ ⟨r, t + ry - ky⟩ ⟨r, t + ry⟩
    let pb := pb.lineTo ⟨r, b - ry⟩
    let pb := pb.cubicTo ⟨r, b - ry + ky⟩ ⟨r - rx + kx, b⟩ ⟨r - rx, b⟩
    let pb := pb.lineTo ⟨l + rx, b⟩
    let pb := pb.cubicTo ⟨l + rx - kx, b⟩ ⟨l, b - ry + ky⟩ ⟨l, b - ry⟩
    let pb := pb.lineTo ⟨l, t + ry⟩
    let pb := pb.cubicTo ⟨l, t + ry - ky⟩ ⟨l + rx - kx, t⟩ ⟨l + rx, t⟩
    pb.close.finish

end GlyphCanvas
