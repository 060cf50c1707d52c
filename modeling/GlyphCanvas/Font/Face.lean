import GlyphCanvas.Font.Sfnt
import GlyphCanvas.Font.Metrics

namespace GlyphCanvas

open FontBytes

/-- The `OS/2` flag asking for typographic line metrics. -/
def useTypoMetricsFlag : Nat := 0x80

/-- Metrics in font units, as read from a face's tables. -/
def SfntFace.metrics (f : SfntFace) : FontMetrics :=
  let unitsPerEm := match f.table? "head" with
    | some head => u16 head 18
    | none => 1
  let os2 := f.table? "OS/2"
  let average := match os2 with
    | some t => u16 t 2
    | none => 0
  let typo : Option (Int × Int × Int) := os2.bind fun t =>
    if (u16 t 62 / useTypoMetricsFlag) % 2 = 1 ∧ i16 t 68 ≠ 0 then some (i16 t 68, -i16 t 70, i16 t 72)
    else none
  let (ascent, descent, gap) : Int × Int × Int := match typo with
    | some m => m
    | none => match f.table? "hhea" with
      | some h => (i16 h 4, -i16 h 6, i16 h 8)
      | none => (0, 0, 0)
  { ascent := Binary32.ofInt ascent, descent := Binary32.ofInt descent, lineGap := Binary32.ofInt gap,
    averageWidth := Binary32.ofNat average, unitsPerEm }

/-- A face loaded from a font file. -/
structure FontFace where
  sfnt : SfntFace
  index : Nat
  metrics : FontMetrics

namespace FontFace

/-- Face `index` of the bytes, or none when they do not lead to a face. -/
def ofBytes (data : ByteArray) (index : Nat) : Option FontFace :=
  (SfntFace.locate data index).map fun f => ⟨f, index, f.metrics⟩

def data (f : FontFace) : ByteArray := f.sfnt.data

def scaledMetricsFromPoints (f : FontFace) (points dpi : Binary32) : ScaledFontMetrics :=
  f.metrics.scaleFromPoints points dpi

end FontFace

end GlyphCanvas
