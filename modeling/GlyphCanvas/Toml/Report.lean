import GlyphCanvas.Toml.Parse

namespace GlyphCanvas.Toml

/-- The line and column, both from zero, of a byte offset of a text. -/
def lineColumn (src : ByteArray) (index : Nat) : Nat × Nat :=
  if src.size = 0 then (0, index)
  else
    let safe := Nat.min index (src.size - 1)
    let past := index - safe
    let before := (List.range safe).filter fun i => src[i]? == some 0x0A
    let lineStart := match before.getLast? with
      | some nl => nl + 1
      | none => 0
    let line := before.length
    let column := match String.fromUTF8? (src.extract lineStart (safe + 1)) with
      | some s => s.length - 1
      | none => safe - lineStart
    (line, column + past)

def spaces (n : Nat) : String := String.ofList (List.replicate n ' ')

/-- The report of an error in a text. -/
def report (text : String) (message : String) (span : Option Span) : String :=
  match span with
  | none => message ++ "\n"
  | some sp =>
    let src := text.toUTF8
    let (line, column) := lineColumn src sp.start
    let lineNo := toString (line + 1)
    let gutter := lineNo.length
    let content := ((text.splitOn "\n")[line]?).getD ""
    let highlight := Nat.min (sp.stop - sp.start) (content.utf8ByteSize - column)
    "TOML parse error at line " ++ lineNo ++ ", column " ++ toString (column + 1) ++ "\n" ++
    spaces (gutter + 1) ++ "|\n" ++
    lineNo ++ " | " ++ content ++ "\n" ++
    spaces (gutter + 1) ++ "|" ++ spaces (column + 1) ++
    String.ofList (List.replicate (Nat.max 1 highlight) '^') ++ "\n" ++
    message ++ "\n"

end GlyphCanvas.Toml
