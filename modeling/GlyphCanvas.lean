import GlyphCanvas.Float.Format
import GlyphCanvas.Float.Binary32
import GlyphCanvas.Float.Binary64
import GlyphCanvas.Float.Elementary
import GlyphCanvas.Decimal.Shortest
import GlyphCanvas.Decimal.Text
import GlyphCanvas.Text.Utf8
import GlyphCanvas.Text.WhiteSpace
import GlyphCanvas.Font.Parameters
import GlyphCanvas.Font.Metrics
import GlyphCanvas.Font.Handle
import GlyphCanvas.Layout.Service
import GlyphCanvas.Layout.Positions
import GlyphCanvas.Layout.Fixed
import GlyphCanvas.Shaping.Run
import GlyphCanvas.Paint.Colour
import GlyphCanvas.Geometry.Bounds
import GlyphCanvas.Raster.Pixmap
import GlyphCanvas.Raster.Geometry
import GlyphCanvas.Raster.Transform
import GlyphCanvas.Raster.Path
import GlyphCanvas.Raster.Curve
import GlyphCanvas.Raster.Cubic64
import GlyphCanvas.Raster.Clip
import GlyphCanvas.Raster.Edge
import GlyphCanvas.Raster.Scan
import GlyphCanvas.Raster.Blit
import GlyphCanvas.Raster.Stroke
import GlyphCanvas.Raster.Draw
import GlyphCanvas.Surface.Device
import GlyphCanvas.Surface.Text
import GlyphCanvas.Surface.Drawing
import GlyphCanvas.Surface.Workspace
import GlyphCanvas.Text.Properties
import GlyphCanvas.Text.Escape
import GlyphCanvas.Font.Bytes
import GlyphCanvas.Font.Sfnt
import GlyphCanvas.Font.Face
import GlyphCanvas.Font.Tables
import GlyphCanvas.Font.Substitution
import GlyphCanvas.Font.Description
import GlyphCanvas.Font.Library
import GlyphCanvas.Shaping.Buffer
import GlyphCanvas.Shaping.Shaper
import GlyphCanvas.Font.Outline
import GlyphCanvas.Hinting.Arith
import GlyphCanvas.Hinting.Points
import GlyphCanvas.Hinting.Segments
import GlyphCanvas.Hinting.Edges
import GlyphCanvas.Hinting.Align
import GlyphCanvas.Hinting.Latin
import GlyphCanvas.Hinting.Ideographic
import GlyphCanvas.Hinting.Styles
import GlyphCanvas.Glyph.Coverage
import GlyphCanvas.Glyph.Render
import GlyphCanvas.Layout.System
import GlyphCanvas.Decimal.Read
import GlyphCanvas.Toml.Failure
import GlyphCanvas.Toml.Scan
import GlyphCanvas.Toml.Lexical
import GlyphCanvas.Toml.Scalar
import GlyphCanvas.Toml.Table
import GlyphCanvas.Toml.Parse
import GlyphCanvas.Toml.Report
import GlyphCanvas.Toml.Print
import GlyphCanvas.Settings.Basic
import GlyphCanvas.Settings.Format
import GlyphCanvas.Toml.Format
import GlyphCanvas.Settings.Decode
import GlyphCanvas.Settings.Encode
import GlyphCanvas.Settings.Environment
import GlyphCanvas.Settings.Load
import GlyphCanvas.Platform.Basic
import GlyphCanvas.Text.Hex
import GlyphCanvas.Proofs.Float.Rounding
import GlyphCanvas.Proofs.Float.Order
import GlyphCanvas.Proofs.Float.Arith
import GlyphCanvas.Proofs.Float.Distance
import GlyphCanvas.Proofs.Float.Integral
import GlyphCanvas.Proofs.Float.Exact
import GlyphCanvas.Proofs.Float.Widen
import GlyphCanvas.Proofs.Float.Between
import GlyphCanvas.Proofs.Text.Utf8
import GlyphCanvas.Proofs.Layout.Caret
import GlyphCanvas.Proofs.Layout.Prefix
import GlyphCanvas.Proofs.Layout.HitTest
import GlyphCanvas.Proofs.Layout.FixedBoxes
import GlyphCanvas.Proofs.Font.Cache
import GlyphCanvas.Proofs.Shaping.Offsets
import GlyphCanvas.Proofs.Shaping.Carets
import GlyphCanvas.Proofs.Surface.Widths
import GlyphCanvas.Proofs.Surface.Binding
import GlyphCanvas.Proofs.Settings.Contract
import GlyphCanvas.Proofs.Settings.Schema
import GlyphCanvas.Proofs.Settings.RoundTrip
import GlyphCanvas.Proofs.Shaping.Stops
import GlyphCanvas.Proofs.Shaping.ExactStops
import GlyphCanvas.Proofs.Shaping.StopWrites
import GlyphCanvas.Proofs.Raster.Contract
import GlyphCanvas.Proofs.Raster.Centres
import GlyphCanvas.Proofs.Surface.Pattern
import GlyphCanvas.Proofs.Surface.Glyphs
import GlyphCanvas.Proofs.Surface.ClippedText
import GlyphCanvas.Proofs.Surface.Rectangles
import GlyphCanvas.Proofs.Surface.Faults
