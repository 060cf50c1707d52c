import GlyphCanvas.Raster.Blit
import GlyphCanvas.Raster.Stroke

namespace GlyphCanvas

namespace Raster

/-- A quarter of the largest 32-bit integer, as a float: the limit on path coordinates. -/
def coordinateLimit : Binary32 := Binary32.ofInt i32Max * 0.25

/-- Whether a path's bounds lie beyond the coordinate limit (or are not numbers). -/
def tooBigForMath (r : Rect) : Bool :=
  let m := coordinateLimit
  !(r.left ≥ -m && r.top ≥ -m && r.right ≤ m && r.bottom ≤ m)

/-- Whether a mask fits a pixmap. -/
def maskFits (p : Pixmap) (mask : Option Mask) : Bool :=
  match mask with
  | some m => m.width == p.width && m.height == p.height
  | none => true

/-- The pixel runs a path fills in an area, or none when it is too thin or too large. -/
def fillSpans (path : Path) (width height : Nat) : Array Span :=
  let b := path.bounds
  if b.width.isNearlyZero || b.height.isNearlyZero || tooBigForMath b then #[]
  else path.spans width height

end Raster

namespace Pixmap

/-- Fills a path in device coordinates. -/
def fillDevicePath (p : Pixmap) (path : Path) (shader : Shader) (mask : Option Mask) : Pixmap :=
  if !Raster.maskFits p mask then p
  else
    match Blitter.ofShader shader with
    | none => p
    | some bl =>
      let spans := Raster.fillSpans path p.width p.height
      if spans.isEmpty then p else p.blitSpans spans bl mask

/-- Fills a path (nonzero winding) mapped by a transform. -/
def fillPath (p : Pixmap) (path : Path) (shader : Shader) (ts : Transform) (mask : Option Mask) : Pixmap :=
  if ts.isIdentity then p.fillDevicePath path shader mask
  else
    match path.transform ts with
    | none => p
    | some path => p.fillDevicePath path (shader.transform ts) mask

/-- Strokes a path with a one-pixel pen. -/
def strokePath (p : Pixmap) (path : Path) (shader : Shader) (mask : Option Mask) : Pixmap :=
  match path.stroke 1 4 1 with
  | some outline => p.fillPath outline shader .identity mask
  | none => p

/-- The rectangle snapped to whole pixels, extents at least one. Each value is snapped as
`floor v + 1/2` truncated toward zero: the floor for non-negative values, one more than the
floor for negative ones, so a rectangle reaching past the top or left edge gains a pixel at the
far side. -/
def roundRect (r : Rect) : Option IntRect :=
  let sround (v : Binary32) : Int := (v.floor + 0.5).toInt32
  let w := sround r.width
  let h := sround r.height
  let toU32 (v : Int) : Nat := if v < 0 then (v + 4294967296).toNat else v.toNat
  IntRect.ofXYWH (sround r.left) (sround r.top) (max 1 (toU32 w)) (max 1 (toU32 h))

/-- Fills a rectangle mapped by a transform. -/
def fillRect (p : Pixmap) (r : Rect) (shader : Shader) (ts : Transform) (mask : Option Mask) : Pixmap :=
  if ts.isIdentity then
    if !Raster.maskFits p mask then p
    else
      match Blitter.ofShader shader with
      | none => p
      | some bl =>
        match roundRect r >>= fun ir => ir.intersect p.bounds with
        | some ir => p.blitSpans ir.spans bl mask
        | none => p
  else p.fillPath (Path.ofRect r) shader ts mask

/-- The message of the failed placement of a pixmap whose far edge leaves the 32-bit range. -/
def placementFailure : String := "called `Option::unwrap()` on a `None` value"

/-- Draws a pixmap with its top-left corner at `(x, y)`, then mapped by a transform; fails when
the placed rectangle leaves the 32-bit range. -/
def drawPixmap (p : Pixmap) (x y : Int) (src : Pixmap) (quality : FilterQuality) (ts : Transform)
    (mask : Option Mask) : Except String Pixmap :=
  match IntRect.ofXYWH x y src.width src.height with
  | none => .error placementFailure
  | some ir =>
    let fx := Binary32.ofInt ir.x
    let fy := Binary32.ofInt ir.y
    match Rect.ofLTRB fx fy (fx + Binary32.ofNat ir.width) (fy + Binary32.ofNat ir.height) with
    | none => .error placementFailure
    | some rect =>
      let shader : Shader := .pattern ⟨src, quality, Transform.translate fx fy⟩
      .ok (p.fillRect rect shader ts mask)

end Pixmap

/-- Sets the coverage of a path's interior (nonzero winding) to full. -/
def Mask.fillPath (m : Mask) (path : Path) : Mask :=
  let spans := Raster.fillSpans path m.width m.height
  let data := spans.foldl (fun data sp =>
    (List.range sp.width).foldl (fun data i => data.set! (sp.y * m.width + sp.x + i) 255) data) m.data
  { m with data }

end GlyphCanvas
