import GlyphCanvas.Font.Substitution
import GlyphCanvas.Hinting.Ideographic

namespace GlyphCanvas.Hinting

/-- The hinting style of a glyph. -/
inductive GlyphStyle where
  | latin
  | latinMark
  | ideographic
  deriving DecidableEq, Repr, Inhabited

/-- Character ranges of the Latin script. -/
def latinRanges : List (Nat × Nat) :=
  [(0x0020, 0x007F), (0x00A0, 0x00A9), (0x00AB, 0x00B1), (0x00B4, 0x00B8), (0x00BB, 0x00FF),
   (0x0100, 0x017F), (0x0180, 0x024F), (0x0250, 0x02AF), (0x02B9, 0x02DF), (0x02E5, 0x02FF),
   (0x0300, 0x036F), (0x1AB0, 0x1ABE), (0x1D00, 0x1D2B), (0x1D6B, 0x1D77), (0x1D79, 0x1D7F),
   (0x1D80, 0x1D9A), (0x1DC0, 0x1DFF), (0x1E00, 0x1EFF), (0x2000, 0x206F), (0x20A0, 0x20B5),
   (0x20B9, 0x20BF), (0x2150, 0x218F), (0x2C60, 0x2C7B), (0x2C7E, 0x2C7F), (0x2E00, 0x2E7F),
   (0xA720, 0xA76F), (0xA771, 0xA7FF), (0xAB30, 0xAB5B), (0xAB60, 0xAB6F), (0xFB00, 0xFB06),
   (0x1D400, 0x1D7FF), (0x1F100, 0x1F1FF)]

/-- Latin characters that are marks or accents rather than letters. -/
def latinMarkRanges : List (Nat × Nat) :=
  [(0x005E, 0x0060), (0x007E, 0x007E), (0x00A8, 0x00A9), (0x00AE, 0x00B0), (0x00B4, 0x00B4),
   (0x00B8, 0x00B8), (0x00BC, 0x00BE), (0x02B9, 0x02DF), (0x02E5, 0x02FF), (0x0300, 0x036F),
   (0x1AB0, 0x1ABE), (0x1DC0, 0x1DFF), (0x2017, 0x2017), (0x203E, 0x203E), (0xA788, 0xA788),
   (0xA7F8, 0xA7FA)]

/-- Marks the glyphs that characters of some ranges map to. -/
def markGlyphs (glyph? : Nat → Option Nat) (ranges : List (Nat × Nat)) (marks : Array Bool) : Array Bool :=
  ranges.foldl (fun marks (lo, hi) =>
    (List.range (hi + 1 - lo)).foldl (fun marks k =>
      match glyph? (lo + k) with
      | some g => if g < marks.size then marks.set! g true else marks
      | none => marks) marks) marks

/-- The style of every glyph of a face with `count` glyphs. -/
def glyphStyles (glyph? : Nat → Option Nat) (substituted : List Nat) (count : Nat) : Array GlyphStyle :=
  let none := Array.replicate count false
  let mapped := markGlyphs glyph? latinRanges none
  let marks := markGlyphs glyph? latinMarkRanges none
  let latin := substituted.foldl (fun l g => if g < count then l.set! g true else l) mapped
  (List.range count).toArray.map fun g =>
    if mapped[g]! && marks[g]! then .latinMark
    else if latin[g]! then .latin
    else .ideographic

/-- What the hinter keeps of a face. -/
structure FaceHinter where
  glyphs : Option GlyphTable
  unitsPerEm : Nat
  styles : Array GlyphStyle
  latin : LatinMetrics

/-- The hinter of a face. -/
def FaceHinter.ofFace (f : SfntFace) : FaceHinter :=
  let glyphs := f.glyphTable?
  let unitsPerEm := (f.unitsPerEm?).getD 0
  let cmap := f.charMap?
  let glyph? (c : Nat) : Option Nat := cmap.bind (·.glyph? c)
  let outline? (c : Nat) : Option GlyphOutline :=
    (glyph? c).bind fun g => glyphs.bind (·.outline? g)
  { glyphs, unitsPerEm,
    styles := glyphStyles glyph? (f.substitutionOutputs ["latn", "DFLT"]) f.glyphCount,
    latin := LatinMetrics.measure outline? unitsPerEm }

/-- A glyph's outline hinted at a scale (16.16, 64 times pixels per font unit), with coordinates in
1/64 pixel; none when the glyph has no readable record. -/
def FaceHinter.hinted? (fh : FaceHinter) (g : Nat) (scale : Int) : Option GlyphOutline := do
  let o ← fh.glyphs.bind (·.outline? g)
  if o.contours.isEmpty then pure o
  else
    let h := match fh.styles[g]?.getD .ideographic with
      | .latin => fh.latin.hint o scale false
      | .latinMark => fh.latin.hint o scale true
      | .ideographic => hintIdeographic o fh.unitsPerEm scale
    let (contours, _) := o.contours.foldl (fun (acc : Array (Array OutlinePoint) × Nat) contour =>
      let pts := (List.range contour.size).toArray.map fun k =>
        let p := h.pt (acc.2 + k)
        (⟨p.x, p.y, contour[k]!.onCurve⟩ : OutlinePoint)
      (acc.1.push pts, acc.2 + contour.size)) (#[], 0)
    pure ⟨contours⟩

end GlyphCanvas.Hinting
