import GlyphCanvas.Settings.Decode
import GlyphCanvas.Settings.Environment

namespace GlyphCanvas

/-- Why a file could not be read. -/
inductive ReadError where
  | notFound
  | isDirectory
  /-- The file's bytes are not UTF-8. -/
  | invalidUtf8
  deriving DecidableEq, Repr

/-- The system's text for a read error. -/
def ReadError.message : ReadError → String
  | .notFound => "No such file or directory (os error 2)"
  | .isDirectory => "Is a directory (os error 21)"
  | .invalidUtf8 => "stream did not contain valid UTF-8"

/-- The files and directories of the host that the layer can see. -/
structure Host where
  /-- Files by path, with their bytes. -/
  files : List (String × ByteArray) := []
  /-- Directories besides the root, the working directory and their parents. -/
  dirs : List String := []
  /-- The installed font files. -/
  installedFonts : List ByteArray := []

namespace Host

/-- Whether a path names the root, the working directory or one of their parents: every
component is empty, `.` or `..`. -/
def isAlwaysDirectory (p : String) : Bool :=
  !p.isEmpty && (p.splitOn "/").all fun c => c.isEmpty || c == "." || c == ".."

/-- Whether a path is a directory. -/
def isDirectory (h : Host) (p : String) : Bool := isAlwaysDirectory p || h.dirs.contains p

def hasPath (h : Host) (p : String) : Bool :=
  h.isDirectory p || h.files.any (·.1 == p)

/-- The text of a file, which must be UTF-8. -/
def readText (h : Host) (p : String) : Except ReadError String :=
  if h.isDirectory p then .error .isDirectory
  else
    match h.files.find? (·.1 == p) with
    | some (_, bytes) =>
      match String.fromUTF8? bytes with
      | some text => .ok text
      | none => .error .invalidUtf8
    | none => .error .notFound

/-- A host with one directory holding the given font files, named `font0.ttf`, `font1.ttf`, ...
in order. -/
def withFontFiles (dir : String) (blobs : List ByteArray) : Host :=
  { dirs := [dir],
    files := ((List.range blobs.length).zip blobs).map fun (i, b) =>
      (dir ++ "/font" ++ toString i ++ ".ttf", b) }

/-- The file names that font scanning picks up: TrueType and OpenType files and collections. -/
def isFontFileName (name : String) : Bool :=
  [".ttf", ".ttc", ".otf", ".otc", ".TTF", ".TTC", ".OTF", ".OTC"].any fun (e : String) => name.endsWith e

/-- The font files directly inside a directory, in order. -/
def fontFilesIn (h : Host) (dir : String) : List ByteArray :=
  h.files.filterMap fun (p, bytes) =>
    let name := (p.drop (dir.length + 1)).toString
    if p.startsWith (dir ++ "/") && !name.contains '/' && isFontFileName name then some bytes
    else none

end Host

/-- Why settings could not be loaded from a file. -/
inductive SettingsError where
  | read (path : String) (reason : ReadError)
  | parse (path : String) (report : String)
  deriving Repr

/-- The text of a settings error. -/
def SettingsError.message : SettingsError → String
  | .read path reason => "failed to read config file " ++ path ++ ": " ++ reason.message
  | .parse path report => "failed to parse config file " ++ path ++ ": " ++ report

/-- The settings file read from the working directory. -/
def settingsFileName : String := "scribe.toml"

/-- Loads settings from a file of the host. -/
def Settings.loadFile (fmt : ConfigFormat) (h : Host) (path : String) : Except SettingsError Settings :=
  match h.readText path with
  | .error r => .error (.read path r)
  | .ok text =>
    match Settings.ofToml fmt text with
    | .error rep => .error (.parse path rep)
    | .ok s => .ok s

/-- The settings of the default file, or the defaults when it cannot be loaded. -/
def Settings.loadOrDefault (fmt : ConfigFormat) (h : Host) : Settings :=
  match Settings.loadFile fmt h settingsFileName with
  | .ok s => s
  | .error _ => {}

/-- The settings of the default file (or the defaults), overridden by the environment. -/
def Settings.load (fmt : ConfigFormat) (h : Host) (lookup : String → Option String) : Settings :=
  (Settings.loadOrDefault fmt h).withEnvironment lookup

end GlyphCanvas
