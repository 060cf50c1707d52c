import GlyphCanvas.Decimal.Text

namespace GlyphCanvas.Toml

/-- How a string is laid out. -/
inductive StringLayout where
  | multiline
  | triple
  | single
  deriving DecidableEq, Repr

/-- What a scan of a string decides: its layout and whether it is written literally. -/
structure StringChoice where
  layout : StringLayout
  literal : Bool
  deriving DecidableEq, Repr

/-- A control character that has no place in a literal string. -/
def isEscapeOnly (c : Char) : Bool := c.toNat ≤ 0x1F || c.toNat == 0x7F

/-- One character of the scan that chooses how to write a string. The state is the layout so far,
the longest run of apostrophes before the current one, the current run, whether a quote or a
backslash makes a literal string worth having, and whether one is still possible. -/
def StringChoice.step (acc : StringLayout × Nat × Nat × Bool × Bool) (c : Char) :
    StringLayout × Nat × Nat × Bool × Bool :=
  let (layout, maxRun, run, preferLiteral, canBeLiteral) := acc
  if canBeLiteral then
    let (maxRun, run, canBeLiteral) :=
      if c == '\'' then (maxRun, run + 1, decide (run + 1 < 3))
      else (Nat.max maxRun run, 0, true)
    if c == '\t' then (layout, maxRun, run, preferLiteral, canBeLiteral)
    else if c == '"' || c == '\\' then (layout, maxRun, run, true, canBeLiteral)
    else if c == '\n' then (.multiline, maxRun, run, preferLiteral, canBeLiteral)
    else if isEscapeOnly c then (layout, maxRun, run, preferLiteral, false)
    else (layout, maxRun, run, preferLiteral, canBeLiteral)
  else
    (if c == '\n' then .multiline else layout, maxRun, run, preferLiteral, canBeLiteral)

/-- Chooses how to write a string. -/
def StringChoice.of (s : String) : StringChoice :=
  let (layout, maxRun, run, preferLiteral, canBeLiteral) :=
    s.foldl StringChoice.step (StringLayout.single, 0, 0, false, true)
  let canBeLiteral := canBeLiteral && !(run > 0 && s.endsWith "'") && preferLiteral
  if !canBeLiteral then { layout, literal := false }
  else
    let maxRun := Nat.max maxRun run
    if layout == .single && maxRun ≥ 1 then { layout := .triple, literal := true }
    else { layout, literal := true }

def hex4 (n : Nat) : String :=
  let ds := (Nat.toDigits 16 n).map Char.toUpper
  String.ofList (List.replicate (4 - ds.length) '0' ++ ds)

/-- A character inside a basic string. -/
def basicEscape (multiline : Bool) (c : Char) : String :=
  match c with
  | '\x08' => "\\b"
  | '\t' => "\\t"
  | '\n' => if multiline then "\n" else "\\n"
  | '\x0c' => "\\f"
  | '\r' => "\\r"
  | '"' => "\\\""
  | '\\' => "\\\\"
  | _ => if isEscapeOnly c then "\\u" ++ hex4 c.toNat else c.toString

/-- The TOML text of a string. -/
def stringText (s : String) : String :=
  let choice := StringChoice.of s
  if choice.literal then
    match choice.layout with
    | .multiline => "'''\n" ++ s ++ "'''"
    | .triple => "'''" ++ s ++ "'''"
    | .single => "'" ++ s ++ "'"
  else
    let body := String.join (s.toList.map (basicEscape (choice.layout == .multiline)))
    if choice.layout == .multiline then "\"\"\"\n" ++ body ++ "\"\"\"" else "\"" ++ body ++ "\""

/-- The TOML text of a double-precision float. -/
def floatText (x : Binary64) : String := x.toText .config

/-- The TOML text of a boolean. -/
def boolText (b : Bool) : String := if b then "true" else "false"

/-- The TOML text of an array of written elements. -/
def arrayText (elements : List String) : String :=
  match elements with
  | [] => "[]"
  | [e] => "[" ++ e ++ "]"
  | es => "[" ++ String.join (es.map fun e => "\n    " ++ e ++ ",") ++ "\n]"

end GlyphCanvas.Toml
