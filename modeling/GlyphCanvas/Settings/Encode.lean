import GlyphCanvas.Settings.Decode

namespace GlyphCanvas

/-- The text settings' entries in declaration order, an absent family or size left out. -/
def TextSettings.toEntries (t : TextSettings) : List (String × Written) :=
  (t.defaultFamily.map fun f => ("default_family", Written.string f)).toList ++
    (t.defaultSize.map fun x => ("default_size", Written.number x)).toList ++
    [("font_dirs", .strings t.fontDirs), ("load_system_fonts", .flag t.loadSystemFonts)]

/-- The surface settings' one entry. -/
def SurfaceSettings.toEntries (s : SurfaceSettings) : List (String × Written) :=
  [("default_dpi", .number s.defaultDpi)]

/-- The document of the settings. -/
def Settings.toDocument (s : Settings) : List WrittenTable :=
  [⟨"text", s.text.toEntries⟩, ⟨"surface", s.surface.toEntries⟩]

/-- The text of the settings' document, if the format can write it. -/
def Settings.toToml (fmt : ConfigFormat) (s : Settings) : Option String := fmt.print s.toDocument

/-- Whether the written settings read back as the same settings. -/
def Settings.roundTrips (fmt : ConfigFormat) (s : Settings) : Bool :=
  match s.toToml fmt with
  | none => false
  | some text =>
    match Settings.ofToml fmt text with
    | .ok again => again.sameAs s
    | .error _ => false

end GlyphCanvas
