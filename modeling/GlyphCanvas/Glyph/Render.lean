import GlyphCanvas.Glyph.Coverage
import GlyphCanvas.Hinting.Styles
import GlyphCanvas.Shaping.Run
import GlyphCanvas.Font.Face

namespace GlyphCanvas

open Hinting

/-- A rendered glyph: its coverage rows and the position of its top left corner relative to the
glyph origin (pixels right, pixels up). -/
structure GlyphImage where
  left : Int
  top : Int
  width : Nat
  height : Nat
  coverage : ByteArray

/-- The image of an outline in 1/64 pixel; none when it has no points. -/
def GlyphOutline.image? (o : GlyphOutline) : Option GlyphImage :=
  let pts := o.points
  if pts.isEmpty then none
  else
    let xmin := pts.foldl (fun m p => min m p.x) pts[0]!.x
    let xmax := pts.foldl (fun m p => max m p.x) pts[0]!.x
    let ymin := pts.foldl (fun m p => min m p.y) pts[0]!.y
    let ymax := pts.foldl (fun m p => max m p.y) pts[0]!.y
    let left := xmin / 64 - 1
    let right := -((-xmax) / 64) + 1
    let top := -((-ymax) / 64)
    let bottom := ymin / 64
    let width := (right - left).toNat
    let height := (top - bottom).toNat
    let grid := o.contours.foldl (fun g c => g.contour c 4) (CellGrid.empty left bottom width height)
    some { left, top, width, height, coverage := grid.rows }

/-- The hinting scale for a pixel size: 64 times the size, truncated, over the em, in 16.16. -/
def hintingScale (size : Binary32) (unitsPerEm : Nat) : Int :=
  divFix (size * 64).toInt32 unitsPerEm

/-- The glyph masks of a run shaped from a face. -/
def FontFace.glyphMasks (face : FontFace) (run : ShapedRun) : List GlyphMask :=
  let hinter := FaceHinter.ofFace face.sfnt
  if hinter.unitsPerEm = 0 then []
  else
    let scale := hintingScale run.fontSize hinter.unitsPerEm
    (run.glyphs.zip run.positions).filterMap fun (g, pos) => do
      let image ← (hinter.hinted? g scale).bind (·.image?)
      if image.width = 0 ∨ image.height = 0 then none
      else
        some { left := (pos.x + Binary32.ofInt image.left).round.toInt32,
               top := (pos.y - Binary32.ofInt image.top).round.toInt32,
               width := image.width, height := image.height, coverage := image.coverage }

end GlyphCanvas
