import GlyphCanvas.Font.Library
import GlyphCanvas.Shaping.Shaper
import GlyphCanvas.Glyph.Render

namespace GlyphCanvas

/-- The pixel size a font is shaped at on a device. -/
def shapingSize (font : FontParameters) (device : DeviceContext) : Binary32 :=
  (font.pixelSize device.logicalDpi).max 1

/-- Device metrics of a face for a font on a device. -/
def FontFace.deviceMetrics (face : FontFace) (font : FontParameters) (device : DeviceContext) :
    DeviceFontMetrics :=
  let scaled := face.scaledMetricsFromPoints font.sizePoints device.logicalDpi
  let average :=
    if (0 : Binary32) < scaled.averageWidth then scaled.averageWidth
    else ((face.shape "x" (scaled.fontSize.max 1)).map (·.width)).getD 0
  { ascent := scaled.ascent, descent := scaled.descent, internalLeading := 0,
    externalLeading := scaled.lineGap, height := scaled.ascent + scaled.descent,
    averageCharWidth := average }

/-- The layout service of a font library. -/
def LayoutService.ofLibrary (lib : FontLibrary) : LayoutService where
  shape text font device := do
    let face ← lib.face? font
    let run ← face.shape text (shapingSize font device)
    pure run.toLayout
  fontMetrics font device := (lib.face? font).map (·.deviceMetrics font device)
  rasterize text font device :=
    match lib.face? font with
    | none => pure []
    | some face =>
      match face.shape text (shapingSize font device) with
      | none => pure []
      | some run => pure (face.glyphMasks run)

end GlyphCanvas
