import GlyphCanvas.Settings.Basic
import GlyphCanvas.Decimal.Read
import GlyphCanvas.Text.WhiteSpace

namespace GlyphCanvas

/-- The environment variables that override settings. -/
inductive Override where
  | family
  | size
  | fontDir
  | systemFonts
  | dpi
  deriving DecidableEq, Repr

namespace Override

/-- Every override, in the order they apply. -/
def all : List Override := [.family, .size, .fontDir, .systemFonts, .dpi]

def name : Override → String
  | .family => "SCRIBE_FONT_FAMILY"
  | .size => "SCRIBE_FONT_SIZE"
  | .fontDir => "SCRIBE_FONT_DIR"
  | .systemFonts => "SCRIBE_SYSTEM_FONTS"
  | .dpi => "SCRIBE_DPI"

/-- The override a variable name stands for. -/
def ofName? (n : String) : Option Override := all.find? (·.name == n)

end Override

/-- Whether a flag's text turns it on: `1`, or `true` in any case. -/
def flagOn (v : String) : Bool := v == "1" || v.toLower == "true"

/-- Whether a text is empty once white space is trimmed from both ends. -/
def isBlankText (v : String) : Bool := v.toList.all isWhiteSpace

/-- Applies one override with its value. -/
def Settings.override (s : Settings) (o : Override) (v : String) : Settings :=
  match o with
  | .family => if isBlankText v then s else { s with text := { s.text with defaultFamily := some v } }
  | .size =>
    match Binary32.ofText? v with
    | some x => { s with text := { s.text with defaultSize := some x } }
    | none => s
  | .fontDir => { s with text := { s.text with fontDirs := s.text.fontDirs ++ [v] } }
  | .systemFonts => { s with text := { s.text with loadSystemFonts := flagOn v } }
  | .dpi =>
    match Binary32.ofText? v with
    | some x => { s with surface := { defaultDpi := x } }
    | none => s

/-- Applies every variable that is set; `lookup` gives a variable's value. -/
def Settings.withEnvironment (s : Settings) (lookup : String → Option String) : Settings :=
  Override.all.foldl (fun s o => match lookup o.name with
    | some v => s.override o v
    | none => s) s

end GlyphCanvas
