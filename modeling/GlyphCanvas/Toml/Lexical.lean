import GlyphCanvas.Toml.Scan

namespace GlyphCanvas.Toml

open GlyphCanvas.Toml.Scan

/-! ### Byte classes -/

namespace ByteClass

/-- A blank: space or tab. -/
def isBlank (b : UInt8) : Bool := b == 0x20 || b == 0x09

/-- A byte of a non-ASCII character. -/
def isNonAscii (b : UInt8) : Bool := b ≥ 0x80

/-- A byte allowed in a comment. -/
def isCommentByte (b : UInt8) : Bool := b == 0x09 || (0x20 ≤ b && b ≤ 0x7E) || isNonAscii b

/-- A byte that stands for itself in a basic string. -/
def isBasicUnescaped (b : UInt8) : Bool :=
  isBlank b || b == 0x21 || (0x23 ≤ b && b ≤ 0x5B) || (0x5D ≤ b && b ≤ 0x7E) || isNonAscii b

/-- A byte allowed in a literal string. -/
def isLiteralByte (b : UInt8) : Bool :=
  b == 0x09 || (0x20 ≤ b && b ≤ 0x26) || (0x28 ≤ b && b ≤ 0x7E) || isNonAscii b

def isDigit (b : UInt8) : Bool := 0x30 ≤ b && b ≤ 0x39

/-- A hexadecimal digit of either case. -/
def isHexDigit (b : UInt8) : Bool :=
  isDigit b || (0x41 ≤ b && b ≤ 0x46) || (0x61 ≤ b && b ≤ 0x66)

/-- A byte of a bare key: a letter, a digit, a dash or an underscore. -/
def isBareKeyByte (b : UInt8) : Bool :=
  (0x41 ≤ b && b ≤ 0x5A) || (0x61 ≤ b && b ≤ 0x7A) || isDigit b || b == 0x2D || b == 0x5F

end ByteClass

open ByteClass

/-- The text of the bytes a span covers. -/
def textOf (s : Span) : Scan String := fun src pos => .ok (s.text src, pos)

/-- The value of a run of digits in a base. -/
def digitsValue (base : Nat) (s : String) : Nat :=
  s.foldl (fun n c =>
    let d := if c.isDigit then c.toNat - '0'.toNat
      else if 'a' ≤ c && c ≤ 'f' then c.toNat - 'a'.toNat + 10
      else c.toNat - 'A'.toNat + 10
    base * n + d) 0

/-! ### Blanks, comments and line ends -/

def blanks : Scan Span := takeAll isBlank

/-- A comment, up to but not including its line end. -/
def comment : Scan Unit := do
  char '#'
  let _ ← takeAll isCommentByte
  pure ()

/-- A line feed, or a carriage return and a line feed. -/
def newline : Scan Unit := firstOf [char '\n', do char '\r'; char '\n']

/-- A newline or the end of the input. -/
def lineEnding : Scan Unit := firstOf [newline, eof]

/-- What may follow a value or a header on its line: blanks, a comment, and the line end. -/
def lineTrailing : Scan Unit := do
  let _ ← blanks
  let _ ← opt comment
  lineEnding

/-- Blanks and newlines, possibly none. -/
def blanksAndNewlines : Scan Unit := do
  let _ ← many (firstOf [newline, do let _ ← takeSome isBlank; pure ()])
  pure ()

/-- Blanks, newlines and whole comment lines, possibly none. A comment must end with a newline. -/
def blanksCommentsFuel : Nat → Scan Unit
  | 0 => pure ()
  | fuel + 1 => fun src pos =>
    match blanks src pos with
    | .error e => .error e
    | .ok (_, afterBlanks) =>
      let step : Option (Scan Unit) := match src[afterBlanks]? with
        | some 0x23 => some do comment; newline
        | some 0x0A | some 0x0D => some newline
        | _ => none
      match step with
      | none => .ok ((), afterBlanks)
      | some m =>
        match m src afterBlanks with
        | .error e => .error e
        | .ok (_, next) => if next ≤ pos then .ok ((), next) else blanksCommentsFuel fuel src next

/-- Blanks, newlines and whole comment lines, as between the values of an array. -/
def blanksComments : Scan Unit := fun src pos => blanksCommentsFuel (src.size + 1 - pos) src pos

/-! ### Strings -/

/-- A scalar value written as four or eight hexadecimal digits after `\u` or `\U`. -/
def hexEscape (n : Nat) : Scan Char :=
  tryMap (do
      let s ← verify (takeWhile 0 n isHexDigit) fun s => s.stop - s.start == n
      textOf s)
    fun t =>
      let v := digitsValue 16 t
      if v < 0xD800 || (0xE000 ≤ v && v ≤ 0x10FFFF) then .ok (Char.ofNat v) else .error .outOfRange

/-- The character after a backslash. -/
def escapeSeqChar : Scan String := do
  let b ← anyByte
  match b with
  | 0x62 => pure "\x08"
  | 0x66 => pure "\x0c"
  | 0x6E => pure "\n"
  | 0x72 => pure "\r"
  | 0x74 => pure "\t"
  | 0x75 => label "unicode 4-digit hex code" (cut (do let c ← hexEscape 4; pure c.toString))
  | 0x55 => label "unicode 8-digit hex code" (cut (do let c ← hexEscape 8; pure c.toString))
  | 0x5C => pure "\\"
  | 0x22 => pure "\""
  | _ =>
    ['b', 'f', 'n', 'r', 't', 'u', 'U', '\\', '"'].foldl (fun m c => expecting (.char c) m)
      (label "escape sequence" (cut fail))

def escaped : Scan String := do
  char '\\'
  escapeSeqChar

/-- A run of characters of a basic string, or one escape. -/
def basicChars : Scan String :=
  firstOf [do let s ← takeSome isBasicUnescaped; textOf s, escaped]

/-- A basic string: between double quotes, with escapes. -/
def basicString : Scan String := do
  char '"'
  let parts ← many basicChars
  label "basic string" (cut (char '"'))
  pure (String.join parts)

/-- A backslash at a line end, with the blanks and newlines after it. -/
def escapedLineEnd : Scan Unit := do
  let _ ← many1 do
    char '\\'
    let _ ← blanks
    newline
    blanksAndNewlines
  pure ()

/-- A piece of a multi-line basic string. -/
def multilineBasicContent : Scan String :=
  firstOf [
    do let s ← takeSome isBasicUnescaped; textOf s,
    do escapedLineEnd; pure "",
    escaped,
    do newline; pure "\n"]

/-- One or two quotes followed by `term`, the longer when both fit. -/
def quotesBefore (q : Char) (term : Scan Unit) : Scan String := fun src pos =>
  let two := q.toString ++ q.toString
  match (do literal two; lookahead term : Scan Unit) src pos with
  | .ok (_, next) => .ok (two, next)
  | .error e =>
    if e.cut then .error e
    else (do char q; lookahead term; pure q.toString : Scan String) src pos

/-- Anything but the byte of `c`. -/
def noneOf (c : Char) : Scan Unit := do
  let _ ← satisfy (· != c.toNat.toUInt8)
  pure ()

/-- The body of a multi-line basic string: content, with runs of one or two quotes inside it and
possibly at its end. -/
def multilineBasicBodyFuel (acc : String) : Nat → Scan String
  | 0 => pure acc
  | fuel + 1 => fun src pos =>
    match opt (quotesBefore '"' (noneOf '"')) src pos with
    | .error e => .error e
    | .ok (none, next) => .ok (acc, next)
    | .ok (some q, afterQuotes) =>
      match opt multilineBasicContent src afterQuotes with
      | .error e => .error e
      | .ok (none, next) => .ok (acc, next)
      | .ok (some c, afterContent) =>
        match many multilineBasicContent src afterContent with
        | .error e => .error e
        | .ok (cs, next) =>
          if next ≤ pos then .ok (acc ++ q ++ c ++ String.join cs, next)
          else multilineBasicBodyFuel (acc ++ q ++ c ++ String.join cs) fuel src next

/-- The body of a multi-line basic string. -/
def multilineBasicBody : Scan String := do
  let first ← many multilineBasicContent
  let body ← fun src pos => multilineBasicBodyFuel (String.join first) (src.size + 1 - pos) src pos
  let last ← opt (quotesBefore '"' (literal "\"\"\""))
  pure (body ++ last.getD "")

/-- A multi-line basic string: between triple double quotes. -/
def multilineBasicString : Scan String := label "multiline basic string" do
  literal "\"\"\""
  let _ ← opt newline
  let body ← cut multilineBasicBody
  cut (literal "\"\"\"")
  pure body

/-- A literal string: between apostrophes, taken as it stands. -/
def literalString : Scan String := label "literal string" do
  char '\''
  let s ← cut (takeAll isLiteralByte)
  cut (char '\'')
  textOf s

/-- A piece of a multi-line literal string. -/
def multilineLiteralContent : Scan Unit :=
  firstOf [do let _ ← satisfy isLiteralByte; pure (), newline]

/-- A text with the carriage return of each carriage return and line feed pair dropped. -/
def dropCarriageReturns : List Char → List Char
  | '\r' :: '\n' :: rest => '\n' :: dropCarriageReturns rest
  | c :: rest => c :: dropCarriageReturns rest
  | [] => []

/-- One or two apostrophes inside a multi-line literal string, and the content after them. -/
def literalQuoteGroup : Scan Unit := do
  let _ ← quotesBefore '\'' (noneOf '\'')
  let _ ← many1 multilineLiteralContent
  pure ()

/-- The body of a multi-line literal string: content, then groups of one or two apostrophes each
followed by content, then possibly one or two apostrophes just before the closing three. -/
def multilineLiteralBody : Scan Unit := do
  let _ ← many multilineLiteralContent
  let _ ← many literalQuoteGroup
  let _ ← opt (quotesBefore '\'' (literal "'''"))
  pure ()

/-- A multi-line literal string: between triple apostrophes, taken as it stands except that a
carriage return before a line feed is dropped. -/
def multilineLiteralString : Scan String := label "multiline literal string" do
  literal "'''"
  let _ ← opt newline
  let body ← cut (span multilineLiteralBody)
  cut (literal "'''")
  let t ← textOf body
  pure (String.ofList (dropCarriageReturns t.toList))

/-- A string of any of the four kinds. -/
def stringValue : Scan String :=
  firstOf [multilineBasicString, basicString, multilineLiteralString, literalString]

/-! ### Keys -/

/-- A key as written: its name, its source text (quotes included) and where it stands. -/
structure Key where
  name : String
  raw : String
  span : Span
  deriving Repr, Inhabited

/-- One key: bare, basic or literal. -/
def simpleKey : Scan Key := do
  let (name, sp) ← withSpan do
    match ← peek? with
    | none => fail
    | some 0x22 => basicString
    | some 0x27 => literalString
    | some _ => do let s ← takeSome isBareKeyByte; textOf s
  let raw ← textOf sp
  pure { name, raw, span := sp }

/-- The most parts a dotted key may have, less one. -/
def keyDepthLimit : Nat := 80

/-- A dotted key: simple keys joined by dots, blanks allowed around each. -/
def key : Scan (List Key) :=
  tryMap
    (label "key" (sepBy1 (do let _ ← blanks; let k ← simpleKey; let _ ← blanks; pure k) (char '.')))
    fun ks => if keyDepthLimit ≤ ks.length then .error .tooDeep else .ok ks

end GlyphCanvas.Toml
