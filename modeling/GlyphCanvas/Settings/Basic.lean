import GlyphCanvas.Layout.Service
import GlyphCanvas.Decimal.Text
import GlyphCanvas.Text.Escape

namespace GlyphCanvas

structure TextSettings where
  defaultFamily : Option String := none
  defaultSize : Option Binary32 := none
  fontDirs : List String := []
  loadSystemFonts : Bool := true
  deriving DecidableEq, Repr

structure SurfaceSettings where
  defaultDpi : Binary32 := GlyphCanvas.defaultDpi
  deriving DecidableEq, Repr

structure Settings where
  text : TextSettings := {}
  surface : SurfaceSettings := {}
  deriving DecidableEq, Repr

instance : Inhabited Settings := ⟨{}⟩

/-- The dpi for new offscreen bitmaps: the setting when it is finite and positive, else the
default. -/
def SurfaceSettings.effectiveDpi (s : SurfaceSettings) : Binary32 :=
  if s.defaultDpi.isFinite && (0 : Binary32) < s.defaultDpi then s.defaultDpi else GlyphCanvas.defaultDpi

/-- Optional floats compared as numbers. -/
def sameSize : Option Binary32 → Option Binary32 → Bool
  | none, none => true
  | some a, some b => a.eqv b
  | _, _ => false

/-- Whether two settings values are the same, floats compared as numbers. -/
def Settings.sameAs (a b : Settings) : Bool :=
  a.text.defaultFamily == b.text.defaultFamily &&
  sameSize a.text.defaultSize b.text.defaultSize &&
  a.text.fontDirs == b.text.fontDirs &&
  a.text.loadSystemFonts == b.text.loadSystemFonts &&
  a.surface.defaultDpi.eqv b.surface.defaultDpi

/-! ### Diagnostic text -/

/-- A path between double quotes, apostrophes escaped too. -/
def pathDebug (p : String) : String :=
  "\"" ++ String.join (p.toList.map fun c => if c == '\'' then "\\'" else debugEscape c) ++ "\""

/-- The diagnostic text of an optional value. -/
def optionDebug (f : α → String) : Option α → String
  | none => "None"
  | some a => "Some(" ++ f a ++ ")"

/-- The diagnostic text of the settings, field by field. -/
def Settings.debugText (s : Settings) : String :=
  "ScribeConfig \x7b text: TextConfig \x7b default_family: " ++
    optionDebug debugQuote s.text.defaultFamily ++
  ", default_size: " ++ optionDebug (·.toText .diagnostic) s.text.defaultSize ++
  ", font_dirs: [" ++ ", ".intercalate (s.text.fontDirs.map pathDebug) ++
  "], load_system_fonts: " ++ toString s.text.loadSystemFonts ++
  " \x7d, surface: SurfaceConfig \x7b default_dpi: " ++ s.surface.defaultDpi.toText .diagnostic ++
  " \x7d \x7d"

end GlyphCanvas
