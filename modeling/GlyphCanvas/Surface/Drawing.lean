import GlyphCanvas.Surface.Text
import GlyphCanvas.Layout.Positions

namespace GlyphCanvas

/-- What a surface paints on. -/
inductive Binding where
  | unbound
  /-- A device lent by the caller, by its index. -/
  | borrowed (slot : Nat)
  | owned (device : PaintDevice)
  /-- An offscreen allocation failed; drawing does nothing until the surface is bound again. -/
  | unavailable

/-- The message of drawing on an unbound surface. -/
def unboundMessage : String := "drawing on a surface that is not bound to a device"

/-- The descent reported by a surface exceeds the font's by this much. -/
def descentCompensation : Binary32 := 1

/-- The radii of a rounded rectangle's corners, as a part of its half extents. -/
def roundedCornerRoundness : Binary32 := 0.25

/-- The side of the blocks a pattern is tiled with. -/
def patternTileSize : Nat := 8

structure DrawingSurface where
  layout : LayoutService
  defaultDpi : Binary32
  binding : Binding := .unbound
  paint : Option PaintContext := none
  current : Point := Point.zero

/-- What a primitive does inside a session: the new pixmap and paint state, and the message if
it stopped early. -/
abbrev Painter := Pixmap → PaintContext → Pixmap × PaintContext × Option String

namespace DrawingSurface

/-- A new unbound surface; the dpi is normalized. -/
def new (layout : LayoutService) (dpi : Binary32) : DrawingSurface :=
  { layout, defaultDpi := (DeviceContext.new dpi).logicalDpi }

/-- The bound device, if any. -/
def device (s : DrawingSurface) (devices : Array PaintDevice) : Option PaintDevice :=
  match s.binding with
  | .borrowed i => devices[i]?
  | .owned d => some d
  | _ => none

/-- The measurement context of the bound device, else of the default dpi. -/
def deviceContext (s : DrawingSurface) (devices : Array PaintDevice) : DeviceContext :=
  match s.device devices with
  | some d => d.context
  | none => DeviceContext.new s.defaultDpi

def initialised (s : DrawingSurface) (devices : Array PaintDevice) : Bool := (s.device devices).isSome

/-- Drops the paint state and the binding. -/
def release (s : DrawingSurface) : DrawingSurface :=
  { s with paint := none, current := Point.zero, binding := .unbound }

def initDevice (s : DrawingSurface) (slot : Nat) : DrawingSurface :=
  { s.release with binding := .borrowed slot }

/-- Allocates an owned transparent device of at least one pixel. -/
def initOffscreen (s : DrawingSurface) (w h : Nat) : DrawingSurface :=
  let s := s.release
  match PaintDevice.new (max w 1) (max h 1) s.defaultDpi with
  | some d => { s with binding := .owned d }
  | none => { s with binding := .unavailable }

/-- The owned device, if any, taken out of the surface. -/
def intoDevice (s : DrawingSurface) : Option PaintDevice :=
  match s.binding with
  | .owned d => some d
  | _ => none

/-- Runs a primitive in a drawing session. -/
def session (s : DrawingSurface) (devices : Array PaintDevice) (body : Painter) :
    DrawingSurface × Array PaintDevice × Option String :=
  let paint := s.paint.getD {}
  match s.binding with
  | .unbound => (s, devices, some unboundMessage)
  | .unavailable => (s, devices, none)
  | .owned d =>
    let (pix, paint, failure) := body d.pixmap paint
    ({ s with binding := .owned { d with pixmap := pix }, paint := some paint }, devices, failure)
  | .borrowed i =>
    match devices[i]? with
    | none => (s, devices, none)
    | some d =>
      let (pix, paint, failure) := body d.pixmap paint
      ({ s with paint := some paint }, devices.set! i { d with pixmap := pix }, failure)

/-! Metrics and measurement. -/

def metrics (s : DrawingSurface) (devices : Array PaintDevice) (font : Option FontParameters) : DeviceFontMetrics :=
  (font.bind fun p => s.layout.fontMetrics p (s.deviceContext devices)).getD {}

/-- Metrics as the surface reports them: the descent is compensated. -/
def reportedMetrics (s : DrawingSurface) (devices : Array PaintDevice) (font : Option FontParameters) :
    DeviceFontMetrics :=
  let m := s.metrics devices font
  { m with descent := m.descent + descentCompensation }

def logPixelsY (s : DrawingSurface) (devices : Array PaintDevice) : Binary32 :=
  (s.deviceContext devices).logicalDpi

/-- The width of a shaped text; zero without a font or a shape. -/
def textWidth (s : DrawingSurface) (devices : Array PaintDevice) (font : Option FontParameters)
    (text : String) : Binary32 :=
  match font with
  | none => 0
  | some p => ((s.layout.shape text p (s.deviceContext devices)).map ShapedLayout.width).getD 0

def measureWidths (s : DrawingSurface) (devices : Array PaintDevice) (font : Option FontParameters)
    (bytes : List UInt8) : PositionTable :=
  measure bytes font s.layout (s.deviceContext devices)

def widthText (s : DrawingSurface) (devices : Array PaintDevice) (font : Option FontParameters)
    (bytes : List UInt8) : Binary32 :=
  s.textWidth devices font (Utf8.textOf bytes)

def widthChar (s : DrawingSurface) (devices : Array PaintDevice) (font : Option FontParameters)
    (c : Char) : Binary32 :=
  s.textWidth devices font (String.singleton c)

end DrawingSurface

/-! Painters: what each primitive does inside its session. -/

namespace Painter

/-- A painter that cannot stop early. -/
def total (f : Pixmap → PaintContext → Pixmap × PaintContext) : Painter :=
  fun p c => let (p, c) := f p c; (p, c, none)

def fill (ops : RasterOps) (p : Pixmap) (c : PaintContext) (path : Path) (shader : Shader) : Pixmap :=
  ops.fillPath p path shader .identity c.clip

def stroke (ops : RasterOps) (p : Pixmap) (c : PaintContext) (path : Path) (shader : Shader) : Pixmap :=
  ops.strokePath p path shader c.clip

/-- Fills with the brush, then outlines with the pen. -/
def fillAndOutline (ops : RasterOps) (p : Pixmap) (c : PaintContext) (path : Path) : Pixmap :=
  let p := fill ops p c path (solidShader c.brush 255)
  stroke ops p c path (solidShader c.pen.colour 255)

def penColour (fore : Colour) : Painter := total fun p c => (p, { c with pen := ⟨fore, 1⟩ })

/-- A one-pixel line between two points, through pixel centres. -/
def line (ops : RasterOps) (src dst : Point) : Painter := total fun p c =>
  let a := pixelCentre src
  let b := pixelCentre dst
  match (({} : PathBuilder).moveTo a |>.lineTo b).finish with
  | some path => (stroke ops p c path (solidShader c.pen.colour 255), c)
  | none => (p, c)

def polygon (ops : RasterOps) (points : List Point) (fore back : Colour) : Painter := total fun p c =>
  let c := { c with pen := ⟨fore, 1⟩, brush := back }
  let pb := (points.map pixelCentre).foldl (fun (pb : PathBuilder) q =>
    if pb.points.isEmpty then pb.moveTo q else pb.lineTo q) {}
  match pb.close.finish with
  | some path => (fillAndOutline ops p c path, c)
  | none => (p, c)

def rectangle (ops : RasterOps) (rc : Bounds) (fore back : Colour) : Painter := total fun p c =>
  let c := { c with pen := ⟨fore, 1⟩, brush := back }
  match outlineRect rc with
  | some r => (fillAndOutline ops p c (Path.ofRect r), c)
  | none => (p, c)

def fillRectangle (ops : RasterOps) (rc : Bounds) (back : Colour) : Painter := total fun p c =>
  match rc.toRect with
  | some r => (fill ops p c (Path.ofRect r) (solidShader back 255), c)
  | none => (p, c)

def roundedRectangle (ops : RasterOps) (rc : Bounds) (fore back : Colour) : Painter := total fun p c =>
  let c := { c with pen := ⟨fore, 1⟩, brush := back }
  match outlineRect ⟨rc.left, rc.top, rc.right + 1, rc.bottom + 1⟩ with
  | none => (p, c)
  | some rect =>
    let rx := rect.width / 2 * roundedCornerRoundness
    let ry := rect.height / 2 * roundedCornerRoundness
    match roundedRectPath rect rx ry with
    | some path => (fillAndOutline ops p c path, c)
    | none => (p, c)

def alphaRectangle (ops : RasterOps) (rc : Bounds) (corner : Binary32) (fillC : Colour) (alphaFill : UInt8)
    (outline : Colour) (alphaOutline : UInt8) : Painter := total fun p c =>
  let c := { c with pen := ⟨outline, 1⟩, brush := fillC }
  match outlineRect rc >>= fun rect => roundedRectPath rect corner corner with
  | some path =>
    let p := fill ops p c path (solidShader fillC alphaFill)
    (stroke ops p c path (solidShader outline alphaOutline), c)
  | none => (p, c)

def ellipse (ops : RasterOps) (rc : Bounds) (fore back : Colour) : Painter := total fun p c =>
  let c := { c with pen := ⟨fore, 1⟩, brush := back }
  match rc.toRect >>= Path.ofOval with
  | some path => (fillAndOutline ops p c path, c)
  | none => (p, c)

/-- Premultiplied RGBA pixels scaled to the rectangle's width (nearest sampling at scale one,
bilinear otherwise); colour channels are capped by alpha. -/
def rgbaImage (ops : RasterOps) (rc : Bounds) (w h : Nat) (pixels : ByteArray) : Painter := fun p c =>
  if w = 0 || h = 0 || pixels.size < w * h * 4 then (p, c, none)
  else
    let data := (List.range (w * h)).foldl (fun (acc : ByteArray) i =>
      let a := pixels.get! (4 * i + 3)
      ((acc.push (min (pixels.get! (4 * i)) a)).push (min (pixels.get! (4 * i + 1)) a)
        |>.push (min (pixels.get! (4 * i + 2)) a)).push a) ByteArray.empty
    match ops.pixmapOf w h data with
    | none => (p, c, none)
    | some image =>
      let scale := rc.width / Binary32.ofNat w
      if !scale.isFinite || scale ≤ 0 then (p, c, none)
      else
        let quality : FilterQuality := if scale.eqv 1 then .nearest else .bilinear
        match ops.drawPixmap p 0 0 image quality (Transform.ofRow scale 0 0 scale rc.left rc.top) c.clip with
        | .ok p => (p, c, none)
        | .error m => (p, c, some m)

/-- Copies the source's pixels from `from` onwards to the rectangle's corner. -/
def copy (ops : RasterOps) (rc : Bounds) (src : Point) (source : Pixmap) : Painter := fun p c =>
  let fx := (src.x.max 0).toUInt32
  let fy := (src.y.max 0).toUInt32
  -- the offsets are reinterpreted as signed 32-bit values
  let sx : Int := if fx ≥ 2147483648 then fx - 4294967296 else fx
  let sy : Int := if fy ≥ 2147483648 then fy - 4294967296 else fy
  match IntRect.ofXYWH sx sy (source.width - fx) (source.height - fy) >>= ops.cloneRect source with
  | none => (p, c, none)
  | some pixels =>
    match ops.drawPixmap p rc.left.toInt32 rc.top.toInt32 pixels .nearest .identity c.clip with
    | .ok p => (p, c, none)
    | .error m => (p, c, some m)

/-- The message of a 32-bit subtraction that overflows. -/
def subOverflow : String := "attempt to subtract with overflow"

/-- The starts of the blocks that tile `[lo, hi)`, one block side apart from `lo`. -/
def tileStarts (lo hi : Int) : List Int :=
  if hi ≤ lo then []
  else
    (List.range ((hi - lo - 1).toNat / patternTileSize + 1)).map fun (i : Nat) =>
      lo + patternTileSize * (i : Int)

/-- The top-left `w × h` block of a pixmap, cut to the pixmap; none for a negative extent. -/
def sourceBlock (ops : RasterOps) (source : Pixmap) (w h : Int) : Option Pixmap :=
  if w < 0 || h < 0 then none else IntRect.ofXYWH 0 0 w.toNat h.toNat >>= ops.cloneRect source

/-- Tiles the rectangle with `8 × 8` blocks cut from the source's top-left corner. A column's
width and a row's height are 32-bit differences from the far edge, largest for the first column
and row: a rectangle wider or taller than the 32-bit range stops before anything is drawn. A
block the library fails to draw stops the fill there. -/
def pattern (ops : RasterOps) (rc : Bounds) (source : Pixmap) : Painter := fun p c =>
  let left := rc.left.toInt32
  let top := rc.top.toInt32
  let right := rc.right.toInt32
  let bottom := rc.bottom.toInt32
  let tile : Int := patternTileSize
  match sourceBlock ops source tile tile with
  | none => (p, c, none)
  | some full =>
    if left < right && (i32Max < right - left || (top < bottom && i32Max < bottom - top)) then
      (p, c, some subOverflow)
    else
      let (p, failure) := (tileStarts left right).foldl (fun (acc : Pixmap × Option String) x =>
        let width := min tile (right - x)
        (tileStarts top bottom).foldl (fun (acc : Pixmap × Option String) y =>
          match acc with
          | (p, some m) => (p, some m)
          | (p, none) =>
            let height := min tile (bottom - y)
            let pix :=
              if width = tile && height = tile then some full else sourceBlock ops source width height
            match pix with
            | none => (p, none)
            | some pix =>
              match ops.drawPixmap p x y pix .nearest .identity c.clip with
              | .ok p => (p, none)
              | .error m => (p, some m)) acc) (p, none)
      (p, c, failure)

/-- A clip mask covering the rectangle (nothing for an empty one). -/
def setClip (ops : RasterOps) (rc : Bounds) : Painter := total fun p c =>
  match Mask.new p.width p.height with
  | none => (p, c)
  | some m =>
    let m := match rc.toRect with
      | some r => ops.fillMask m (Path.ofRect r)
      | none => m
    (p, { c with clip := some m })

/-- Text from the rectangle's left edge on a baseline: the background from ascent to descent
(when given), then the glyphs in the foreground colour. A fault in rasterizing is reported after
the background is drawn. -/
def text (ops : RasterOps) (layout : LayoutService) (device : DeviceContext) (rc : Bounds)
    (font : Option FontParameters) (ybase : Binary32) (bytes : List UInt8) (fore : Colour)
    (back : Option Colour) : Painter := fun p c =>
  let c := { c with pen := ⟨fore, 1⟩ }
  match font with
  | none => (p, c, none)
  | some params =>
    let text := Utf8.textOf bytes
    let p := match back with
      | none => p
      | some back =>
        let width := ((layout.shape text params device).map ShapedLayout.width).getD 0
        let m := (layout.fontMetrics params device).getD {}
        let background : Bounds := ⟨rc.left, ybase - m.ascent, rc.left + width, ybase + m.descent⟩
        match background.toRect with
        | some r => ops.fillPath p (Path.ofRect r) (solidShader back 255) .identity c.clip
        | none => p
    match layout.rasterize text params device with
    | .error m => (p, c, some m)
    | .ok glyphs =>
      let antialias := c.textAntialias && params.antialias != .none
      let (p, failure) := p.compositeGlyphs ops glyphs rc.left ybase fore antialias c.clip
      (p, c, failure)

end Painter

namespace DrawingSurface

def moveTo (s : DrawingSurface) (x y : Binary32) : DrawingSurface := { s with current := ⟨x, y⟩ }

/-- A line from the current point, which then moves to its end. -/
def lineTo (s : DrawingSurface) (ops : RasterOps) (devices : Array PaintDevice) (x y : Binary32) :
    DrawingSurface × Array PaintDevice × Option String :=
  let (s', devices, failure) := s.session devices (Painter.line ops s.current ⟨x, y⟩)
  match failure with
  | some m => (s', devices, some m)
  | none => ({ s' with current := ⟨x, y⟩ }, devices, none)

/-- Draws text, on the surface's own layout service and device context. -/
def drawText (s : DrawingSurface) (ops : RasterOps) (devices : Array PaintDevice) (rc : Bounds)
    (font : Option FontParameters) (ybase : Binary32) (bytes : List UInt8) (fore : Colour)
    (back : Option Colour) : DrawingSurface × Array PaintDevice × Option String :=
  s.session devices (Painter.text ops s.layout (s.deviceContext devices) rc font ybase bytes fore back)

/-- Forgets the clip, when there is paint state. -/
def clearClip (s : DrawingSurface) : DrawingSurface :=
  { s with paint := s.paint.map fun c => { c with clip := none } }

/-- Resets pen and brush, when there is paint state. -/
def flushCachedState (s : DrawingSurface) : DrawingSurface :=
  { s with paint := s.paint.map PaintContext.resetPenAndBrush }

/-- Draws text clipped to its rectangle; the clip is cleared afterwards. -/
def drawTextClipped (s : DrawingSurface) (ops : RasterOps) (devices : Array PaintDevice)
    (rc : Bounds) (font : Option FontParameters) (ybase : Binary32) (bytes : List UInt8)
    (fore back : Colour) : DrawingSurface × Array PaintDevice × Option String :=
  match s.session devices (Painter.setClip ops rc) with
  | (s, devices, some m) => (s, devices, some m)
  | (s, devices, none) =>
    match s.drawText ops devices rc font ybase bytes fore (some back) with
    | (s, devices, some m) => (s, devices, some m)
    | (s, devices, none) => (s.clearClip, devices, none)

end DrawingSurface

end GlyphCanvas
