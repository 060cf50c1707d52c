import GlyphCanvas.Font.Parameters

namespace GlyphCanvas

/-- Vertical metrics and average width of a face, in font units. -/
structure FontMetrics where
  ascent : Binary32
  descent : Binary32
  lineGap : Binary32
  averageWidth : Binary32
  unitsPerEm : Nat
  deriving Repr

/-- Metrics scaled to a pixel size. -/
structure ScaledFontMetrics where
  ascent : Binary32
  descent : Binary32
  lineGap : Binary32
  averageWidth : Binary32
  fontSize : Binary32
  deriving Repr

namespace FontMetrics

/-- Ascent, descent and line gap together. -/
def lineHeight (m : FontMetrics) : Binary32 := m.ascent + m.descent + m.lineGap

/-- Scales every metric by `fontSize / unitsPerEm`. -/
def scaleToPixels (m : FontMetrics) (fontSize : Binary32) : ScaledFontMetrics :=
  let scale := if m.unitsPerEm ≠ 0 then fontSize / Binary32.ofNat m.unitsPerEm else 1
  ⟨m.ascent * scale, m.descent * scale, m.lineGap * scale, m.averageWidth * scale, fontSize⟩

/-- Scales to the pixel size of a point size at a resolution. -/
def scaleFromPoints (m : FontMetrics) (points dpi : Binary32) : ScaledFontMetrics :=
  m.scaleToPixels (pointsToPixels points dpi)

end FontMetrics

/-- The metrics a device reports for a font, in pixels. -/
structure DeviceFontMetrics where
  ascent : Binary32 := 0
  descent : Binary32 := 0
  internalLeading : Binary32 := 0
  externalLeading : Binary32 := 0
  height : Binary32 := 0
  averageCharWidth : Binary32 := 0
  deriving Repr, Inhabited

end GlyphCanvas
