import GlyphCanvas.Surface.Device
import GlyphCanvas.Raster.Ops

namespace GlyphCanvas

/-- Coverage below this is dropped, and at or above it is solid, when text is aliased. -/
def aliasedThreshold : Nat := 128

/-- `channel · alpha / 255` in integer arithmetic: the nearest whole number, except that a value
exactly halfway rounds down. -/
def premultiply (channel alpha : Nat) : Nat :=
  let prod := channel * alpha + 127
  (prod + prod / 256) / 256

/-- The premultiplied pixel of a colour under one coverage byte: the coverage is the alpha, or,
when text is not antialiased, is made solid or dropped at `aliasedThreshold`. -/
def tintPixel (colour : Colour) (antialias : Bool) (cov : UInt8) : Pixel :=
  let alpha := if antialias then cov.toNat else if cov.toNat ≥ aliasedThreshold then 255 else 0
  ⟨(premultiply colour.r.toNat alpha).toUInt8, (premultiply colour.g.toNat alpha).toUInt8,
    (premultiply colour.b.toNat alpha).toUInt8, alpha.toUInt8⟩

/-- The premultiplied tile of a colour with a glyph's coverage as alpha, made by the raster
library; none for an empty mask, for coverage of the wrong length or for a size the library
refuses. -/
def tint (ops : RasterOps) (glyph : GlyphMask) (colour : Colour) (antialias : Bool) : Option Pixmap :=
  if glyph.width = 0 || glyph.height = 0 || glyph.coverage.size < glyph.width * glyph.height then none
  else
    let bytes := glyph.coverage.foldl (fun (acc : ByteArray) cov =>
      let px := tintPixel colour antialias cov
      ((acc.push px.r).push px.g |>.push px.b).push px.a) ByteArray.empty
    ops.pixmapOf glyph.width glyph.height bytes

/-- The message of a 32-bit addition that overflows. -/
def addOverflow : String := "attempt to add with overflow"

/-- Draws glyphs in a colour with the pen origin at `(x, baseline)`; stops with a message at a
glyph whose position leaves the 32-bit range. -/
def Pixmap.compositeGlyphs (p : Pixmap) (ops : RasterOps) (glyphs : List GlyphMask)
    (x baseline : Binary32) (colour : Colour) (antialias : Bool) (clip : Option Mask) :
    Pixmap × Option String :=
  let originX := x.round.toInt32
  let originY := baseline.round.toInt32
  let inRange (v : Int) : Bool := -2147483648 ≤ v && v ≤ 2147483647
  glyphs.foldl (fun (p, failure) glyph =>
    match failure with
    | some _ => (p, failure)
    | none =>
      match tint ops glyph colour antialias with
      | none => (p, none)
      | some tile =>
        let gx := originX + glyph.left
        let gy := originY + glyph.top
        if !inRange glyph.left || !inRange glyph.top || !inRange gx || !inRange gy then (p, some addOverflow)
        else
          match ops.drawPixmap p gx gy tile .nearest .identity clip with
          | .ok p => (p, none)
          | .error m => (p, some m)) (p, none)

end GlyphCanvas
