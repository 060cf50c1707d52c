import GlyphCanvas.Toml.Table

namespace GlyphCanvas

open Toml

/-- A setting that does not fit its field, or a document that cannot be read: the message and
the span it concerns. -/
structure DecodeError where
  message : String
  span : Option Toml.Span
  deriving Repr

/-- A value as the settings write it. -/
inductive Written where
  | string (s : String)
  | number (x : Binary32)
  | flag (b : Bool)
  | strings (ss : List String)
  deriving DecidableEq, Repr

/-- A table of a written document: its name, and its values by key in order. -/
structure WrittenTable where
  name : String
  entries : List (String × Written)
  deriving DecidableEq, Repr

/-- How a value offers itself to a structure: its entries by key, or its elements by position. -/
inductive StructFields where
  | byKey (entries : List (Key × Item))
  | byPosition (items : List Item)

/-- The document format the settings are stored in, as the settings use it: reading a text into
its root table, writing a document, the report of a problem in a text, how a value offers itself
to a structure, the mismatch of a value with a structure, how a problem under a key is placed,
and the readers of the field types. -/
structure ConfigFormat where
  parse : String → Except DecodeError Table
  print : List WrittenTable → Option String
  report : String → DecodeError → String
  fieldsOf : Item → Option StructFields
  mismatch : Item → String → DecodeError
  within : DecodeError → Key → Item → DecodeError
  name : Item → Except DecodeError String
  number : Item → Except DecodeError Binary32
  flag : Item → Except DecodeError Bool
  paths : Item → Except DecodeError (List String)

end GlyphCanvas
