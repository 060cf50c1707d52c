import GlyphCanvas.Surface.Drawing

namespace GlyphCanvas

/-- A surface and the identity of its layout service. -/
structure SurfaceSlot where
  surface : DrawingSurface
  layoutId : Nat

/-- How a step went wrong: a request the workspace refuses, or a call that stopped. -/
inductive StepError where
  | badInput (message : String)
  | panic (message : String)
  deriving Repr

/-- An operation on a surface of the workspace. -/
inductive SurfaceStep where
  | initOffscreen (w h : Nat)
  | newDevice (w h : Nat) (dpi : Binary32)
  | initDevice (d : Nat)
  | devicePixels (d : Nat)
  | release
  | intoDevice
  | sharesLayout (src : Nat)
  | state
  | pixels
  | pixel (x y : Nat)
  | metrics (font : Nat)
  | deviceHeightFont (points : Binary32)
  | measureWidths (font : Nat) (bytes : List UInt8)
  | widthText (font : Nat) (bytes : List UInt8)
  | widthChar (c : Char) (font : Nat)
  | penColour (fore : Colour)
  | moveTo (x y : Binary32)
  | lineTo (x y : Binary32)
  | polygon (points : List Point) (fore back : Colour)
  | rectangleDraw (rc : Bounds) (fore back : Colour)
  | fillRectangle (rc : Bounds) (back : Colour)
  | roundedRectangle (rc : Bounds) (fore back : Colour)
  | ellipse (rc : Bounds) (fore back : Colour)
  | alphaRectangle (rc : Bounds) (corner : Binary32) (fill : Colour) (alphaFill : UInt8)
      (outline : Colour) (alphaOutline : UInt8)
  | drawRgbaImage (w h : Nat) (pixels : ByteArray) (rc : Bounds)
  | copy (src : Nat) (origin : Point) (rc : Bounds)
  | fillRectanglePattern (src : Nat) (rc : Bounds)
  | drawTextNoClip (rc : Bounds) (font : Nat) (ybase : Binary32) (bytes : List UInt8) (fore back : Colour)
  | drawTextClipped (rc : Bounds) (font : Nat) (ybase : Binary32) (bytes : List UInt8) (fore back : Colour)
  | drawTextTransparent (rc : Bounds) (font : Nat) (ybase : Binary32) (bytes : List UInt8) (fore : Colour)
  | setClip (rc : Bounds)
  | clearClip
  | flushCachedState

inductive StepResult where
  | none
  | flag (b : Bool)
  | number (x : Binary32)
  | numbers (xs : List Binary32)
  | metrics (m : DeviceFontMetrics) (logPixelsY : Binary32)
  | pixels (p : Option Pixmap)
  | pixel (p : Option Pixel)
  /-- A new device's index and dpi, or none when it could not be allocated. -/
  | newDevice (d : Option (Nat × Binary32))
  /-- A device taken out of a surface, if it owned one. -/
  | device (d : Option PaintDevice)
  /-- A device's pixels. -/
  | devicePixels (p : Pixmap)

/-- How a surface is bound, by name. -/
inductive BindingKind where
  | unbound
  | owned
  | borrowed
  | unavailable
  deriving DecidableEq, Repr

/-- How a surface is bound. -/
def BindingKind.of (s : DrawingSurface) : BindingKind :=
  match s.binding with
  | .unbound => .unbound
  | .owned _ => .owned
  | .borrowed _ => .borrowed
  | .unavailable => .unavailable

structure Workspace where
  surfaces : Array SurfaceSlot
  devices : Array PaintDevice := #[]
  /-- The surface each device is lent to. -/
  lentTo : Array (Option Nat) := #[]
  fonts : Array (Option FontParameters)

namespace Workspace

def setSurface (w : Workspace) (s : Nat) (surf : DrawingSurface) : Workspace :=
  { w with surfaces := w.surfaces.modify s fun slot => { slot with surface := surf } }

/-- Returns every device lent to surface `s`. -/
def returnDevices (w : Workspace) (s : Nat) : Workspace :=
  { w with lentTo := w.lentTo.map fun t => if t = some s then none else t }

def font (w : Workspace) (i : Nat) : Option FontParameters := (w.fonts[i]?).getD none

/-- The pixmap surface `s` paints on, if bound. -/
def pixmapOf (w : Workspace) (s : Nat) : Option Pixmap :=
  w.surfaces[s]? >>= fun slot => (slot.surface.device w.devices).map (·.pixmap)

/-- Runs a drawing call on surface `s`, here `surf`. -/
def draw (w : Workspace) (s : Nat) (surf : DrawingSurface)
    (call : DrawingSurface → Array PaintDevice → DrawingSurface × Array PaintDevice × Option String) :
    Workspace × Except StepError StepResult :=
  let (surf, devices, failure) := call surf w.devices
  let w := { w.setSurface s surf with devices }
  match failure with
  | some m => (w, .error (.panic m))
  | none => (w, .ok .none)

/-- A drawing primitive in a session on surface `s`. -/
def paint (w : Workspace) (s : Nat) (surf : DrawingSurface) (body : Painter) :
    Workspace × Except StepError StepResult :=
  w.draw s surf fun surf devices => surf.session devices body

/-- Applies a step to surface `s`, held in `slot`, drawing with the raster operations `ops`. -/
def applyAt (w : Workspace) (ops : RasterOps) (s : Nat) (slot : SurfaceSlot) :
    SurfaceStep → Workspace × Except StepError StepResult
  | .initOffscreen width height =>
    let w := w.returnDevices s
    (w.setSurface s (slot.surface.initOffscreen width height), .ok .none)
  | .newDevice width height dpi =>
    match PaintDevice.new width height dpi with
    | some d =>
      ({ w with devices := w.devices.push d, lentTo := w.lentTo.push none },
       .ok (.newDevice (some (w.devices.size, d.logicalDpi))))
    | none => (w, .ok (.newDevice none))
  | .initDevice d =>
    match w.lentTo[d]? with
    | some (some t) =>
      if t != s then (w, .error (.badInput "device is bound to another surface"))
      else (w.setSurface s (slot.surface.initDevice d), .ok .none)
    | _ =>
      let w := w.returnDevices s
      ({ w.setSurface s (slot.surface.initDevice d) with lentTo := w.lentTo.set! d (some s) }, .ok .none)
  | .devicePixels d =>
    match w.lentTo[d]?, w.devices[d]? with
    | some (some _), _ => (w, .error (.badInput "device is bound to a surface"))
    | _, some dev => (w, .ok (.devicePixels dev.pixmap))
    | _, none => (w, .error (.badInput "no such device"))
  | .release =>
    let w := w.returnDevices s
    (w.setSurface s slot.surface.release, .ok .none)
  | .intoDevice =>
    let surf := slot.surface
    let w := w.returnDevices s
    (w.setSurface s (DrawingSurface.new surf.layout surf.defaultDpi), .ok (.device surf.intoDevice))
  | .sharesLayout src =>
    (w, .ok (.flag (w.surfaces[src]?.map (·.layoutId) == some slot.layoutId)))
  | .state => (w, .ok .none)
  | .pixels => (w, .ok (.pixels (w.pixmapOf s)))
  | .pixel x y =>
    let p := (w.pixmapOf s).bind fun p => p.pixelAt? x y
    (w, .ok (.pixel p))
  | .metrics f =>
    let surf := slot.surface
    (w, .ok (.metrics (surf.reportedMetrics w.devices (w.font f)) (surf.logPixelsY w.devices)))
  | .deviceHeightFont points => (w, .ok (.number points))
  | .measureWidths f bytes =>
    (w, .ok (.numbers (slot.surface.measureWidths w.devices (w.font f) bytes).positions))
  | .widthText f bytes => (w, .ok (.number (slot.surface.widthText w.devices (w.font f) bytes)))
  | .widthChar c f => (w, .ok (.number (slot.surface.widthChar w.devices (w.font f) c)))
  | .penColour fore => w.paint s slot.surface (Painter.penColour fore)
  | .moveTo x y => (w.setSurface s (slot.surface.moveTo x y), .ok .none)
  | .lineTo x y => w.draw s slot.surface fun surf devices => surf.lineTo ops devices x y
  | .polygon points fore back => w.paint s slot.surface (Painter.polygon ops points fore back)
  | .rectangleDraw rc fore back => w.paint s slot.surface (Painter.rectangle ops rc fore back)
  | .fillRectangle rc back => w.paint s slot.surface (Painter.fillRectangle ops rc back)
  | .roundedRectangle rc fore back => w.paint s slot.surface (Painter.roundedRectangle ops rc fore back)
  | .ellipse rc fore back => w.paint s slot.surface (Painter.ellipse ops rc fore back)
  | .alphaRectangle rc corner fill af outline ao => w.paint s slot.surface (Painter.alphaRectangle ops rc corner fill af outline ao)
  | .drawRgbaImage width height px rc => w.paint s slot.surface (Painter.rgbaImage ops rc width height px)
  | .copy src origin rc =>
    match w.pixmapOf src with
    | some source => w.paint s slot.surface (Painter.copy ops rc origin source)
    | none => (w, .ok .none)
  | .fillRectanglePattern src rc =>
    match w.pixmapOf src with
    | some source => w.paint s slot.surface (Painter.pattern ops rc source)
    | none => (w, .ok .none)
  | .drawTextNoClip rc f ybase bytes fore back =>
    w.draw s slot.surface fun surf devices =>
      surf.drawText ops devices rc (w.font f) ybase bytes fore (some back)
  | .drawTextClipped rc f ybase bytes fore back =>
    w.draw s slot.surface fun surf devices =>
      surf.drawTextClipped ops devices rc (w.font f) ybase bytes fore back
  | .drawTextTransparent rc f ybase bytes fore =>
    w.draw s slot.surface fun surf devices =>
      surf.drawText ops devices rc (w.font f) ybase bytes fore none
  | .setClip rc => w.paint s slot.surface (Painter.setClip ops rc)
  | .clearClip => (w.setSurface s slot.surface.clearClip, .ok .none)
  | .flushCachedState => (w.setSurface s slot.surface.flushCachedState, .ok .none)

/-- Applies a step to surface `s`, drawing with the raster operations `ops`. -/
def apply (w : Workspace) (ops : RasterOps) (s : Nat) (step : SurfaceStep) :
    Workspace × Except StepError StepResult :=
  match w.surfaces[s]? with
  | some slot => w.applyAt ops s slot step
  | none => (w, .error (.badInput "no such surface"))

end Workspace

end GlyphCanvas
