namespace GlyphCanvas.Toml

/-- Something the reader expected to see. -/
inductive Expected where
  | char (c : Char)
  | text (s : String)
  | description (s : String)
  deriving DecidableEq, Repr

/-- How an expectation is written: a newline by name, a backtick between apostrophes, other
control characters escaped, everything else between backticks. -/
def Expected.render : Expected → String
  | .char '\n' => "newline"
  | .char '`' => "'`'"
  | .char c =>
    if c.toNat < 0x20 || c.toNat == 0x7F then "`" ++ controlEscape c ++ "`"
    else "`" ++ c.toString ++ "`"
  | .text s => "`" ++ s ++ "`"
  | .description s => s
where
  /-- The escaped spelling of an ASCII control character. -/
  controlEscape (c : Char) : String :=
    match c with
    | '\t' => "\\t"
    | '\r' => "\\r"
    | '\x00' => "\\0"
    | _ => "\\u" ++ "\x7b" ++ String.ofList (Nat.toDigits 16 c.toNat) ++ "\x7d"

/-- What the reader was doing when it failed. -/
inductive Context where
  | label (construct : String)
  | expected (e : Expected)
  deriving DecidableEq, Repr

/-- Why a document is not a valid table, beyond its syntax. -/
inductive Cause where
  /-- A key defined twice; the table is named by its path, the root by the empty path, or not
  named at all. -/
  | duplicateKey (key : String) (table : Option (List String))
  /-- A dotted key or header path runs through a value that is not a table. -/
  | extendsValue (path : List String) (typeName : String)
  | outOfRange
  | tooDeep
  | integerTooLarge
  | integerTooSmall
  deriving DecidableEq, Repr

/-- The text of a cause. -/
def Cause.message : Cause → String
  | .duplicateKey key none => "duplicate key `" ++ key ++ "`"
  | .duplicateKey key (some []) => "duplicate key `" ++ key ++ "` in document root"
  | .duplicateKey key (some path) =>
    "duplicate key `" ++ key ++ "` in table `" ++ ".".intercalate path ++ "`"
  | .extendsValue path t =>
    "dotted key `" ++ ".".intercalate path ++ "` attempted to extend non-table type (" ++ t ++ ")"
  | .outOfRange => "value is out of range"
  | .tooDeep => "recursion limit exceeded"
  | .integerTooLarge => "number too large to fit in target type"
  | .integerTooSmall => "number too small to fit in target type"

structure Failure where
  /-- The byte offset where the scan stood. -/
  pos : Nat
  /-- A final failure: no alternative reading is tried. -/
  cut : Bool := false
  /-- Innermost first. -/
  contexts : List Context := []
  cause : Option Cause := none
  deriving Repr

/-- The message of a failure: the innermost label, the expectations, then the cause. -/
def Failure.message (f : Failure) : String :=
  let label := f.contexts.findSome? fun
    | .label s => some s
    | .expected _ => none
  let expected := f.contexts.filterMap fun
    | .expected e => some e.render
    | .label _ => none
  let parts :=
    (label.map ("invalid " ++ ·)).toList ++
    (if expected.isEmpty then [] else ["expected " ++ ", ".intercalate expected]) ++
    (f.cause.map Cause.message).toList
  "\n".intercalate parts

end GlyphCanvas.Toml
