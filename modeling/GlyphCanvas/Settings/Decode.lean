import GlyphCanvas.Settings.Basic
import GlyphCanvas.Settings.Format

namespace GlyphCanvas

open Toml

variable {α : Type}

/-- Applies `field` to the value of every key of a table, in order. -/
def decodeEntries (fmt : ConfigFormat) (entries : List (Key × Item)) (init : α)
    (field : α → String → Item → Except DecodeError α) : Except DecodeError α :=
  entries.foldlM (fun acc (k, v) => (field acc k.name v).mapError (fmt.within · k v)) init

/-- A structure read from a value, starting from its defaults: by key, or by position against its
fields in declaration order. -/
def decodeStruct (fmt : ConfigFormat) (what : String) (fields : List String) (init : α)
    (field : α → String → Item → Except DecodeError α) (item : Item) : Except DecodeError α :=
  match fmt.fieldsOf item with
  | some (.byKey entries) => decodeEntries fmt entries init field
  | some (.byPosition items) => (fields.zip items).foldlM (fun a (name, v) => field a name v) init
  | none => .error (fmt.mismatch item what)

/-- The text fields in declaration order. -/
def TextSettings.fields : List String := ["default_family", "default_size", "font_dirs", "load_system_fonts"]

/-- One text setting by key; unknown keys are ignored. -/
def TextSettings.decodeField (fmt : ConfigFormat) (t : TextSettings) (name : String) (v : Item) :
    Except DecodeError TextSettings :=
  match name with
  | "default_family" => do pure { t with defaultFamily := some (← fmt.name v) }
  | "default_size" => do pure { t with defaultSize := some (← fmt.number v) }
  | "font_dirs" => do pure { t with fontDirs := ← fmt.paths v }
  | "load_system_fonts" => do pure { t with loadSystemFonts := ← fmt.flag v }
  | _ => pure t

/-- The text settings of a value. -/
def TextSettings.decode (fmt : ConfigFormat) : Item → Except DecodeError TextSettings :=
  decodeStruct fmt "struct TextConfig" TextSettings.fields {} (TextSettings.decodeField fmt)

/-- The surface fields in declaration order. -/
def SurfaceSettings.fields : List String := ["default_dpi"]

/-- One surface setting by key; unknown keys are ignored. -/
def SurfaceSettings.decodeField (fmt : ConfigFormat) (s : SurfaceSettings) (name : String) (v : Item) :
    Except DecodeError SurfaceSettings :=
  match name with
  | "default_dpi" => do pure { s with defaultDpi := ← fmt.number v }
  | _ => pure s

/-- The surface settings of a value. -/
def SurfaceSettings.decode (fmt : ConfigFormat) : Item → Except DecodeError SurfaceSettings :=
  decodeStruct fmt "struct SurfaceConfig" SurfaceSettings.fields {} (SurfaceSettings.decodeField fmt)

/-- The settings of a document's root table. -/
def Settings.decode (fmt : ConfigFormat) (root : Table) : Except DecodeError Settings :=
  decodeEntries fmt root.entries {} fun s name v =>
    match name with
    | "text" => do pure { s with text := ← TextSettings.decode fmt v }
    | "surface" => do pure { s with surface := ← SurfaceSettings.decode fmt v }
    | _ => pure s

/-- Reads settings from a document's text; a failure is the report of the first problem. -/
def Settings.ofToml (fmt : ConfigFormat) (text : String) : Except String Settings :=
  match fmt.parse text with
  | .error e => .error (fmt.report text e)
  | .ok root =>
    match Settings.decode fmt root with
    | .error e => .error (fmt.report text e)
    | .ok s => .ok s

end GlyphCanvas
