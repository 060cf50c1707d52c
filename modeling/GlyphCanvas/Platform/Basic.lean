import GlyphCanvas.Settings.Load
import GlyphCanvas.Layout.Fixed
import GlyphCanvas.Layout.System
import GlyphCanvas.Surface.Drawing

namespace GlyphCanvas

/-- The family used when no sans-serif face is installed. -/
def fallbackFamily : String := "sans-serif"

/-- The size, in points, when none is configured. -/
def fallbackSize : Binary32 := 10

/-- A default font: a family at a size in points. -/
structure DefaultFont where
  family : String
  size : Binary32
  deriving DecidableEq, Repr

namespace DefaultFont

def parameters (d : DefaultFont) : FontParameters := FontParameters.new d.family d.size

/-- The default derived from the installed fonts. -/
def fromSystem (installed : FontLibrary) : DefaultFont :=
  ⟨installed.sansSerifFamily.getD fallbackFamily, fallbackSize⟩

end DefaultFont

/-- The library of the host's installed fonts. -/
def Host.installedLibrary (h : Host) : FontLibrary :=
  h.installedFonts.foldl FontLibrary.loadData FontLibrary.empty

/-- The process-wide default font, unset until set or first asked for. -/
structure DefaultFontCell where
  value : Option DefaultFont := none
  deriving DecidableEq, Repr

namespace DefaultFontCell

/-- Sets the default if it is unset; otherwise the offered font is handed back. -/
def init (c : DefaultFontCell) (d : DefaultFont) : DefaultFontCell × Except DefaultFont Unit :=
  match c.value with
  | none => ({ value := some d }, .ok ())
  | some _ => (c, .error d)

/-- The default, set from the installed fonts if it was unset. -/
def get (c : DefaultFontCell) (h : Host) : DefaultFontCell × DefaultFont :=
  match c.value with
  | some d => (c, d)
  | none =>
    let d := DefaultFont.fromSystem h.installedLibrary
    ({ value := some d }, d)

end DefaultFontCell

/-- A layout service with the settings it was chosen by. -/
structure Platform where
  layout : LayoutService
  settings : Settings

/-- Why a platform on installed fonts could not be made. -/
inductive PlatformError where
  | noFonts (systemFonts : Bool) (directories : Nat)
  deriving DecidableEq, Repr

/-- The text of a platform error. -/
def PlatformError.message : PlatformError → String
  | .noFonts s n =>
    "no fonts available (system fonts: " ++ toString s ++ ", " ++ toString n ++ " font directories)"

namespace Platform

/-- A platform; a configured family becomes the process-wide default if none is set yet. -/
def new (layout : LayoutService) (settings : Settings) (cell : DefaultFontCell) :
    Platform × DefaultFontCell :=
  let cell := match settings.text.defaultFamily with
    | some f => (cell.init ⟨f, settings.text.defaultSize.getD fallbackSize⟩).1
    | none => cell
  (⟨layout, settings⟩, cell)

/-- A platform whose every UTF-16 unit is `advance` pixels wide. -/
def headless (advance : Binary32) (settings : Settings) (cell : DefaultFontCell) :
    Platform × DefaultFontCell :=
  new (LayoutService.fixed advance) settings cell

/-- The font library of the settings: installed fonts if asked for, then the fonts of each
configured directory that exists, in order. -/
def library (h : Host) (settings : Settings) : FontLibrary :=
  let base := if settings.text.loadSystemFonts then h.installedLibrary else FontLibrary.empty
  settings.text.fontDirs.foldl (fun lib dir =>
    if h.isDirectory dir then (h.fontFilesIn dir).foldl FontLibrary.loadData lib else lib) base

/-- A platform shaping with real fonts; refused when no face is available. -/
def system (h : Host) (settings : Settings) (cell : DefaultFontCell) :
    Except PlatformError (Platform × DefaultFontCell) :=
  let lib := library h settings
  if lib.isEmpty then .error (.noFonts settings.text.loadSystemFonts settings.text.fontDirs.length)
  else .ok (new (LayoutService.ofLibrary lib) settings cell)

def defaultFont (p : Platform) (cell : DefaultFontCell) (h : Host) : FontParameters × DefaultFontCell :=
  match p.settings.text.defaultFamily with
  | some f => (FontParameters.new f (p.settings.text.defaultSize.getD fallbackSize), cell)
  | none =>
    let (cell, d) := cell.get h
    let params := d.parameters
    match p.settings.text.defaultSize with
    | some size => ({ params with sizePoints := size }, cell)
    | none => (params, cell)

/-- An unbound surface on the platform's service, at its effective dpi. -/
def surface (p : Platform) : DrawingSurface :=
  DrawingSurface.new p.layout p.settings.surface.effectiveDpi

/-- What a platform shows of itself: its settings, its default font, and how a surface of it
measures a line in that font. -/
structure Report where
  settings : Settings
  defaultFont : FontParameters
  logPixelsY : Binary32
  initialised : Bool
  widthText : Binary32
  metrics : DeviceFontMetrics
  positions : List Binary32

/-- The platform's report for a line, and the default font cell after asking for the default. -/
def report (p : Platform) (cell : DefaultFontCell) (h : Host) (line : List UInt8) :
    Report × DefaultFontCell :=
  let (font, cell) := p.defaultFont cell h
  let surf := p.surface
  ({ settings := p.settings, defaultFont := font, logPixelsY := surf.logPixelsY #[],
     initialised := surf.initialised #[], widthText := surf.widthText #[] (some font) line,
     metrics := surf.reportedMetrics #[] (some font),
     positions := (surf.measureWidths #[] (some font) line).positions }, cell)

/-- The diagnostic text of a platform. -/
def debugText (p : Platform) : String :=
  "Platform \x7b config: " ++ p.settings.debugText ++ ", .. \x7d"

end Platform

end GlyphCanvas
