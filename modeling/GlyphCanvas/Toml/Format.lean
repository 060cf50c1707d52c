import GlyphCanvas.Settings.Format
import GlyphCanvas.Toml.Parse
import GlyphCanvas.Toml.Print
import GlyphCanvas.Toml.Report
import GlyphCanvas.Text.Escape

namespace GlyphCanvas

open Toml

/-- A float as a mismatch report writes it: plain, with `.0` added when it has no point. -/
def pointedText (x : Binary64) : String :=
  let t := x.toText .plain
  if x.isFinite && !t.contains '.' then t ++ ".0" else t

/-- How an item is described when it is not what was expected. -/
def Toml.Item.unexpected : Item → String
  | .string s _ => "string " ++ debugQuote s
  | .integer i _ => "integer `" ++ toString i ++ "`"
  | .float x _ => "floating point `" ++ pointedText x ++ "`"
  | .boolean b _ => "boolean `" ++ toString b ++ "`"
  | .datetime .. => "map"
  | .array .. | .tables .. => "sequence"
  | .table .. => "map"

/-- The mismatch of an item with what a field expects. -/
def invalidType (item : Item) (expected : String) : DecodeError :=
  { message := "invalid type: " ++ item.unexpected ++ ", expected " ++ expected, span := item.span? }

/-- Gives an error without a span the span of the value it concerns, or of that value's key. -/
def DecodeError.within (e : DecodeError) (key : Key) (item : Item) : DecodeError :=
  match e.span with
  | some _ => e
  | none => { e with span := some (item.span?.getD key.span) }

/-- How a value offers itself to a structure: a table by its entries, an array or an array of
tables by its elements, and a date-time as a map with no field (its one private entry is no
structure's field). -/
def Toml.Item.structFields : Item → Option StructFields
  | .table _ entries _ => some (.byKey entries)
  | .array items _ | .tables items _ => some (.byPosition items)
  | .datetime .. => some (.byKey [])
  | _ => none

def decodeNumber (item : Item) : Except DecodeError Binary32 :=
  match item with
  | .integer i _ => .ok (Binary32.ofInt i)
  | .float x _ => .ok x.toBinary32
  | _ => .error (invalidType item "f32")

def decodeFlag (item : Item) : Except DecodeError Bool :=
  match item with
  | .boolean b _ => .ok b
  | _ => .error (invalidType item "a boolean")

def decodeName (item : Item) : Except DecodeError String :=
  match item with
  | .string s _ => .ok s
  | _ => .error (invalidType item "a string")

def decodePath (item : Item) : Except DecodeError String :=
  match item with
  | .string s _ => .ok s
  | _ => .error (invalidType item "path string")

def decodePaths (item : Item) : Except DecodeError (List String) :=
  match item with
  | .array items _ | .tables items _ => items.mapM decodePath
  | _ => .error (invalidType item "a sequence")

/-- The text of a written value. -/
def writtenText : Written → String
  | .string s => stringText s
  | .number x => floatText x.toBinary64
  | .flag b => boolText b
  | .strings ss => arrayText (ss.map stringText)

/-- A written document as text; keys are written bare. -/
def documentText (doc : List WrittenTable) : String :=
  "\n".intercalate (doc.map fun t =>
    "[" ++ t.name ++ "]\n" ++ String.join (t.entries.map fun (k, v) => k ++ " = " ++ writtenText v ++ "\n"))

/-- The settings' document format as TOML. -/
def ConfigFormat.toml : ConfigFormat where
  parse text := (Toml.parse text).mapError fun e => ⟨e.message, e.span⟩
  print doc := some (documentText doc)
  report text e := Toml.report text e.message e.span
  fieldsOf := Item.structFields
  mismatch := invalidType
  within := DecodeError.within
  name := decodeName
  number := decodeNumber
  flag := decodeFlag
  paths := decodePaths

end GlyphCanvas
