import GlyphCanvas.Raster.Draw

namespace GlyphCanvas

/-- Operations of a raster library on pixmaps and coverage masks. -/
structure RasterOps where
  /-- Fills a path mapped by a transform, under an optional coverage mask. -/
  fillPath : Pixmap → Path → Shader → Transform → Option Mask → Pixmap
  /-- Strokes a path with a one-pixel butt-capped pen, under an optional coverage mask. -/
  strokePath : Pixmap → Path → Shader → Option Mask → Pixmap
  /-- Draws a pixmap with its corner at an integer offset, mapped by a transform, under an
  optional mask; fails when the placed rectangle leaves the 32-bit range. -/
  drawPixmap : Pixmap → Int → Int → Pixmap → FilterQuality → Transform → Option Mask →
    Except String Pixmap
  /-- Copies the part of a rectangle that lies inside a pixmap. -/
  cloneRect : Pixmap → IntRect → Option Pixmap
  /-- Makes a `w × h` pixmap of premultiplied bytes, row-major, if the size and the bytes allow
  one. -/
  pixmapOf : Nat → Nat → ByteArray → Option Pixmap
  /-- Sets the coverage of a path's interior to full. -/
  fillMask : Mask → Path → Mask

/-- The raster operations of this library. -/
def RasterOps.tinySkia : RasterOps where
  fillPath := Pixmap.fillPath
  strokePath := Pixmap.strokePath
  drawPixmap := Pixmap.drawPixmap
  cloneRect := Pixmap.cloneRect
  pixmapOf := Pixmap.ofBytes
  fillMask := Mask.fillPath

end GlyphCanvas
