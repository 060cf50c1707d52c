import GlyphCanvas.Toml.Table

namespace GlyphCanvas.Toml

open GlyphCanvas.Toml.Scan

/-- Arrays and inline tables may nest one level less than this. -/
def nestingLimit : Nat := 80

/-- Reads the first word of a value that is neither quoted, bracketed nor a number: committed
readings of `true`, `false`, `inf` and `nan`, reported as a failed string otherwise. -/
def asStringContext (m : Scan α) : Scan α :=
  expecting (.char '\'') (expecting (.char '"') (label "string" m))

/-- The items of an array: values separated by commas, an extra comma allowed at the end,
blanks, newlines and comment lines anywhere between. -/
def arrayOf (element : Scan Item) : Scan (List Item) := do
  char '['
  let items ← cut do
    let items ← opt do
      let vs ← sepBy1 (do blanksComments; let v ← element; blanksComments; pure v) (char ',')
      let _ ← opt (char ',')
      pure vs
    blanksComments
    pure (items.getD [])
  expecting (.char ']') (cut (char ']'))
  pure items

/-- A key/value pair whose value is read by `element` and followed by `after`. -/
def keyValueOf (element : Scan Item) (after : Scan Unit) : Scan KeyValue := do
  let path ← key
  cut do
    expecting (.char '=') (expecting (.char '.') (char '='))
    let _ ← blanks
    let v ← element
    after
    match path.reverse with
    | k :: init => pure { path := init.reverse, key := k, value := v }
    | [] => fail

/-- An inline table: key/value pairs between braces, separated by commas, on one line. -/
def inlineTableOf (element : Scan Item) : Scan Table := do
  char '{'
  let t ← cut (tryMap (do
      let kvs ← sepBy (keyValueOf element (do let _ ← blanks; pure ())) (char ',')
      let _ ← blanks
      pure kvs) inlineTable)
  expecting (.char '}') (label "inline table" (cut (char '}')))
  pure t

/-- The kind-dependent part of a value, which its span completes; `nested` reads the values
inside an array or inline table, or is `none` at the nesting limit. -/
def valueBody (nested : Option (Scan Item)) : Scan (Span → Item) := do
  match ← peek? with
  | none => fail
  | some b =>
    if b == 0x22 || b == 0x27 then do
      let s ← stringValue
      pure (.string s)
    else if b == 0x5B then
      match nested with
      | none => cut (failWith .tooDeep)
      | some element => do
        let items ← arrayOf element
        pure (.array items)
    else if b == 0x7B then
      match nested with
      | none => cut (failWith .tooDeep)
      | some element => do
        let t ← inlineTableOf element
        pure (fun sp => .table t.form t.entries (some sp))
    else if b == 0x2B || b == 0x2D || (0x30 ≤ b && b ≤ 0x39) then
      firstOf [
        do let d ← datetime; pure (.datetime d),
        do let x ← float; pure (.float x),
        do let i ← integer; pure (.integer i)]
    else if b == 0x5F then do
      let i ← expecting (.description "leading digit") integer
      pure (.integer i)
    else if b == 0x2E then do
      let x ← expecting (.description "leading digit") float
      pure (.float x)
    else if b == 0x74 then do
      let v ← asStringContext trueValue
      pure (.boolean v)
    else if b == 0x66 then do
      let v ← asStringContext falseValue
      pure (.boolean v)
    else if b == 0x69 then do
      let x ← asStringContext (do literal "inf"; pure Binary64.inf)
      pure (.float x)
    else if b == 0x6E then do
      let x ← asStringContext (do literal "nan"; pure (Binary64.ofDatum FloatFormat.binary64.quietNaN))
      pure (.float x)
    else asStringContext fail

/-- A value, with `room` levels of nesting left. -/
def value : Nat → Scan Item
  | 0 => cut (failWith .tooDeep)
  | room + 1 => do
    let nested := if room = 0 then none else some (value room)
    let (mk, sp) ← withSpan (valueBody nested)
    pure (mk sp)

def keyValueLine : Scan KeyValue :=
  keyValueOf (value nestingLimit) (expecting (.char '#') (expecting (.char '\n') lineTrailing))

/-- A `[...]` or `[[...]]` header and the rest of its line: the path and the header's span. -/
def header (opening closing : String) : Scan (List Key × Span) := do
  let (path, sp) ← withSpan do
    literal opening
    let path ← cut key
    let close : Expected := if closing.length = 1 then .char ']' else .text closing
    expecting close (expecting (.char '.') (cut (literal closing)))
    pure path
  expecting (.char '#') (expecting (.char '\n') (cut lineTrailing))
  pure (path, sp)

/-- A header line, applied to the document. -/
def headerLine (b : DocumentBuilder) : Scan DocumentBuilder :=
  label "table header" do
    match ← peekTwo with
    | [0x5B, 0x5B] => tryMap (header "[[" "]]") fun (path, sp) => b.openArrayTable path sp
    | _ => tryMap (header "[" "]") fun (path, sp) => b.openTable path sp

/-- One line of a document, chosen by its first byte and applied to the builder, with the blanks
after it. -/
def documentLine (b : DocumentBuilder) : Scan DocumentBuilder := fun src pos =>
  let line : Scan DocumentBuilder := match src[pos]? with
    | none => fail
    | some 0x23 => cut do comment; lineEnding; pure b
    | some 0x5B => cut (headerLine b)
    | some 0x0A | some 0x0D => do newline; pure b
    | some _ => cut (tryMap keyValueLine b.addKeyValue)
  (do let b ← line; let _ ← blanks; pure b) src pos

/-- The lines of a document, applied in turn; a line that fails without a cut ends them. -/
def linesFuel (b : DocumentBuilder) : Nat → Scan DocumentBuilder
  | 0 => pure b
  | fuel + 1 => fun src pos =>
    match documentLine b src pos with
    | .error e => if e.cut then .error e else .ok (b, pos)
    | .ok (b', next) => if next ≤ pos then .ok (b', next) else linesFuel b' fuel src next

/-- A whole document, up to the end of its input. -/
def document : Scan DocumentBuilder := do
  let _ ← opt (literal "\uFEFF")
  let _ ← blanks
  let b ← fun src pos => linesFuel {} (src.size + 1 - pos) src pos
  eof
  pure b

/-- Why a text is not a TOML document: a message and, when known, the span it concerns. -/
structure ParseError where
  message : String
  span : Option Span
  deriving Repr

/-- Reads a document into its root table. -/
def parse (text : String) : Except ParseError Table :=
  let src := text.toUTF8
  match document src 0 with
  | .error f =>
    let sp : Span := if f.pos ≥ src.size then ⟨f.pos, f.pos⟩ else ⟨f.pos, f.pos + 1⟩
    .error { message := f.message, span := some sp }
  | .ok (b, _) =>
    match b.finish with
    | .ok t => .ok t
    | .error c => .error { message := c.message, span := none }

end GlyphCanvas.Toml
