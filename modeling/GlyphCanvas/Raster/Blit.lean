import GlyphCanvas.Raster.Scan
import GlyphCanvas.Raster.Transform
import GlyphCanvas.Paint.Colour

namespace GlyphCanvas

inductive FilterQuality where
  | nearest
  | bilinear
  deriving DecidableEq, Repr

/-- A pixmap used as paint, placed by a transform. -/
structure Pattern where
  pixmap : Pixmap
  quality : FilterQuality
  transform : Transform

inductive Shader where
  | solid (c : RGBA)
  | pattern (p : Pattern)

namespace Shader

/-- The shader seen through a further transform of the drawing. -/
def transform (s : Shader) (ts : Transform) : Shader :=
  match s with
  | .solid c => .solid c
  | .pattern p => .pattern { p with transform := p.transform.postConcat ts }

end Shader

/-- A colour channel as a byte: `v · 255 + 1/2`, truncated. -/
def channelByte (v : Binary32) : Nat := (v * 255 + 0.5).toUInt32 % 65536

/-- `(v + 255) >> 8`, the integer approximation of `v / 255` used by the compositor. -/
def div255 (v : Nat) : Nat := (v + 255) / 256

/-- The ulp below a positive value. -/
def Binary32.ulpBelow (v : Binary32) : Binary32 := ⟨v.bits - 1⟩

/-- The byte `b` as a channel in `[0, 1]`: `b · (1/255)`. -/
def byteChannel (b : UInt8) : Binary32 := Binary32.ofNat b.toNat * (1 / 255 : Binary32)

/-- A channel in `[0, 1]` back to a byte: clamped, scaled and rounded half to even. -/
def unnorm (v : Binary32) : UInt8 :=
  let v := if v > 0 then v else 0
  let v := if v < 1 then v else 1
  (v * 255).roundEven.toUInt8.toUInt8

/-- Four channels in single precision. -/
structure Channels where
  r : Binary32
  g : Binary32
  b : Binary32
  a : Binary32

namespace Channels

def zero : Channels := ⟨0, 0, 0, 0⟩

/-- `w · c + acc`, channel by channel. -/
def mad (w : Binary32) (c acc : Channels) : Channels :=
  ⟨w * c.r + acc.r, w * c.g + acc.g, w * c.b + acc.b, w * c.a + acc.a⟩

def ofPixel (p : Pixel) : Channels := ⟨byteChannel p.r, byteChannel p.g, byteChannel p.b, byteChannel p.a⟩

end Channels

namespace Pattern

/-- The pattern pixel nearest to `(x, y)`, clamping to the pattern's edges. -/
def gather (pix : Pixmap) (x y : Binary32) : Channels :=
  let w := (Binary32.ofNat pix.width).ulpBelow
  let h := (Binary32.ofNat pix.height).ulpBelow
  let clampTo (v lim : Binary32) : Binary32 :=
    let v := if v > 0 then v else 0
    if v < lim then v else lim
  let ix := (clampTo x w).toUInt32
  let iy := (clampTo y h).toUInt32
  Channels.ofPixel (pix.pixel ix iy)

/-- The colour at a device pixel centre after mapping by `inv`. -/
def sample (pix : Pixmap) (quality : FilterQuality) (inv : Option Transform) (px py : Nat) : Channels :=
  let x := Binary32.ofNat px + 0.5
  let y := Binary32.ofNat py + 0.5
  let (x, y) := match inv with
    | some t => (x * t.sx + (y * t.kx + t.tx), x * t.ky + (y * t.sy + t.ty))
    | none => (x, y)
  match quality with
  | .nearest => gather pix x y
  | .bilinear =>
    let fract (v : Binary32) : Binary32 := v - v.floor
    let fx := fract (x + 0.5)
    let fy := fract (y + 0.5)
    let wx := #[1 - fx, fx]
    let wy := #[1 - fy, fy]
    let y0 := y - 0.5
    let x0 := x - 0.5
    let y1 := y0 + 1
    let x1 := x0 + 1
    let acc := Channels.zero
    let acc := Channels.mad (wx[0]! * wy[0]!) (gather pix x0 y0) acc
    let acc := Channels.mad (wx[1]! * wy[0]!) (gather pix x1 y0) acc
    let acc := Channels.mad (wx[0]! * wy[1]!) (gather pix x0 y1) acc
    Channels.mad (wx[1]! * wy[1]!) (gather pix x1 y1) acc

end Pattern

/-- How covered pixels are painted. -/
inductive Blitter where
  /-- A solid colour, premultiplied, as bytes. -/
  | solid (r g b a : Nat)
  /-- A pattern, with the inverse transform applied to pixel centres (none for the identity). -/
  | pattern (pix : Pixmap) (quality : FilterQuality) (inv : Option Transform)

namespace Blitter

/-- The blitter for a shader; none when a pattern's transform cannot be inverted. -/
def ofShader (s : Shader) : Option Blitter :=
  match s with
  | .solid c =>
    let (r, g, b) := if c.a.eqv 1 then (c.r, c.g, c.b) else (c.r * c.a, c.g * c.a, c.b * c.a)
    some (.solid (channelByte r) (channelByte g) (channelByte b) (channelByte c.a))
  | .pattern p =>
    match p.transform.invert with
    | none => none
    | some inv =>
      let quality := if inv.isIdentity || inv.isTranslate then .nearest else p.quality
      let stage := if inv.isFinite && !inv.isIdentity then some inv else none
      some (.pattern p.pixmap quality stage)

/-- Paints one pixel with the given coverage (non-zero). -/
def paintPixel (bl : Blitter) (data : ByteArray) (o : Nat) (px py : Nat) (cov : Nat) : ByteArray :=
  match bl with
  | .solid r g b a =>
    let (r, g, b, a) := if cov = 255 then (r, g, b, a)
      else (div255 (r * cov), div255 (g * cov), div255 (b * cov), div255 (a * cov))
    let inv := 255 - a
    let blend (s : Nat) (i : Nat) (data : ByteArray) : ByteArray :=
      let d := (data.get! i).toNat
      data.set! i (s + div255 (d * inv)).toUInt8
    blend a (o + 3) (blend b (o + 2) (blend g (o + 1) (blend r o data)))
  | .pattern pix quality inv =>
    let s := Pattern.sample pix quality inv px py
    let s := if cov = 255 then s
      else
        let c := Binary32.ofNat cov / 255
        ⟨s.r * c, s.g * c, s.b * c, s.a * c⟩
    let ia := 1 - s.a
    let blend (sc : Binary32) (i : Nat) (data : ByteArray) : ByteArray :=
      let d := byteChannel (data.get! i)
      data.set! i (unnorm (d * ia + sc))
    blend s.a (o + 3) (blend s.b (o + 2) (blend s.g (o + 1) (blend s.r o data)))

end Blitter

/-- Paints the pixels of the runs, skipping those the mask does not cover. -/
def Pixmap.blitSpans (p : Pixmap) (spans : Array Span) (bl : Blitter) (mask : Option Mask) : Pixmap :=
  let data := spans.foldl (fun data sp =>
    (List.range sp.width).foldl (fun data i =>
      let px := sp.x + i
      let cov := match mask with
        | some m => (m.coverage px sp.y).toNat
        | none => 255
      if cov = 0 then data else bl.paintPixel data (p.offset px sp.y) px sp.y cov) data) p.data
  { p with data }

/-- The runs of an integer rectangle, one per row. -/
def IntRect.spans (r : IntRect) : Array Span :=
  (List.range r.height).toArray.map fun j => ⟨r.x.toNat, r.y.toNat + j, r.width⟩

end GlyphCanvas
