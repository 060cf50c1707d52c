import GlyphCanvas.Toml.Lexical
import GlyphCanvas.Decimal.Read

namespace GlyphCanvas.Toml

open GlyphCanvas.Toml.Scan ByteClass

/-! ### Integers -/

/-- A digit of class `isD`, then more, an underscore standing only between two digits. -/
def digitRun (isD : UInt8 → Bool) : Scan Unit := do
  let _ ← satisfy isD
  let _ ← many (firstOf [
    do let _ ← satisfy isD; pure (),
    do char '_'; let _ ← expecting (.description "digit") (cut (satisfy isD)); pure ()])
  pure ()

/-- A decimal integer's text: an optional sign, then `0` or a digit run not starting with `0`. -/
def decimalInteger : Scan Span := label "integer" (span do
  let _ ← opt (satisfy fun b => b == 0x2B || b == 0x2D)
  firstOf [
    do let _ ← satisfy fun b => 0x31 ≤ b && b ≤ 0x39
       let _ ← many (firstOf [
         do let _ ← satisfy isDigit; pure (),
         do char '_'; let _ ← expecting (.description "digit") (cut (satisfy isDigit)); pure ()])
       pure (),
    do let _ ← satisfy isDigit; pure ()])

/-- The largest value of a 64-bit signed integer. -/
def int64Max : Int := Int.pow 2 63 - 1

/-- The smallest value of a 64-bit signed integer. -/
def int64Min : Int := -(Int.pow 2 63)

/-- Checks that an integer fits in 64 signed bits. -/
def checkInt64 (v : Int) : Except Cause Int :=
  if v > int64Max then .error .integerTooLarge
  else if v < int64Min then .error .integerTooSmall
  else .ok v

/-- Reads a decimal integer's text, underscores dropped. -/
def decimalValue (t : String) : Except Cause Int :=
  let digits := t.toList.filter (· != '_')
  match digits with
  | '-' :: ds => checkInt64 (-(digitsValue 10 (String.ofList ds) : Int))
  | '+' :: ds => checkInt64 (digitsValue 10 (String.ofList ds))
  | ds => checkInt64 (digitsValue 10 (String.ofList ds))

/-- Digits of a base after a prefix, as text. -/
def prefixedDigits (pre name : String) (isD : UInt8 → Bool) : Scan String :=
  label name do
    literal pre
    let s ← cut (span (digitRun isD))
    textOf s

/-- Reads the digits of a base, underscores dropped. -/
def radixValue (base : Nat) (t : String) : Except Cause Int :=
  checkInt64 (digitsValue base (String.ofList (t.toList.filter (· != '_'))))

/-- `m`, then a reading of its text that, when it fails, fails finally from where `m` began. -/
def committedValue (m : Scan String) (f : String → Except Cause Int) : Scan Int := fun src pos =>
  match m src pos with
  | .error e => .error e
  | .ok (t, next) =>
    match f t with
    | .ok v => .ok (v, next)
    | .error c => .error { pos, cut := true, cause := some c }

/-- An integer of any base. -/
def integer : Scan Int := do
  match ← peekTwo with
  | [0x30, 0x78] =>
    cut (tryMap (prefixedDigits "0x" "hexadecimal integer" isHexDigit) (radixValue 16))
  | [0x30, 0x6F] =>
    cut (tryMap (prefixedDigits "0o" "octal integer" fun b => 0x30 ≤ b && b ≤ 0x37) (radixValue 8))
  | [0x30, 0x62] =>
    cut (tryMap (prefixedDigits "0b" "binary integer" fun b => b == 0x30 || b == 0x31) (radixValue 2))
  | _ => committedValue (do let s ← decimalInteger; textOf s) decimalValue

/-! ### Floats -/

/-- An exponent: `e` or `E`, an optional sign, digits. -/
def exponentPart : Scan Unit := do
  let _ ← satisfy fun b => b == 0x65 || b == 0x45
  let _ ← opt (satisfy fun b => b == 0x2B || b == 0x2D)
  cut (digitRun isDigit)

/-- A fraction: a point and digits. -/
def fractionPart : Scan Unit := do
  char '.'
  expecting (.description "digit") (cut (digitRun isDigit))

/-- The text of a finite float: an integer part, then an exponent, or a fraction and possibly an
exponent. -/
def finiteFloatText : Scan Span := span do
  let _ ← decimalInteger
  firstOf [exponentPart, do fractionPart; let _ ← opt exponentPart; pure ()]

/-- The positive infinity of double precision. -/
def Binary64.inf : Binary64 := Binary64.ofDatum (FloatFormat.binary64.infinity false)

/-- A finite float, rounded once; refused from its start when it rounds to positive infinity. -/
def finiteFloat : Scan Binary64 := fun src pos =>
  match finiteFloatText src pos with
  | .error e => .error e
  | .ok (s, next) =>
    let t := String.ofList ((s.text src).toList.filter (· != '_'))
    let x := (Binary64.ofText? t).getD Binary64.inf
    if x == Binary64.inf then .error { pos, cut := true } else .ok (x, next)

def specialName : Scan Binary64 :=
  firstOf [
    do literal "inf"; pure Binary64.inf,
    do literal "nan"; pure (Binary64.ofDatum FloatFormat.binary64.quietNaN)]

/-- `inf` or `nan` with an optional sign. -/
def specialFloat : Scan Binary64 := do
  let sign ← opt (satisfy fun b => b == 0x2B || b == 0x2D)
  let x ← specialName
  pure (if sign == some 0x2D then x.neg else x)

def float : Scan Binary64 := label "floating-point number" (firstOf [finiteFloat, specialFloat])

/-! ### Booleans -/

/-- `true`, committed once its first letter is seen. -/
def trueValue : Scan Bool := do
  let _ ← lookahead (char 't')
  cut (literal "true")
  pure true

/-- `false`, committed once its first letter is seen. -/
def falseValue : Scan Bool := do
  let _ ← lookahead (char 'f')
  cut (literal "false")
  pure false

/-! ### Date-times -/

structure Date where
  year : Nat
  month : Nat
  day : Nat
  deriving DecidableEq, Repr

/-- A time of day, to the nanosecond. -/
structure TimeOfDay where
  hour : Nat
  minute : Nat
  second : Nat
  nanosecond : Nat
  deriving DecidableEq, Repr

/-- An offset from UTC: `Z`, or signed minutes. -/
inductive Offset where
  | utc
  | minutes (m : Int)
  deriving DecidableEq, Repr

/-- A date-time: a date, a time or both, the offset only with both. -/
structure Datetime where
  date : Option Date
  time : Option TimeOfDay
  offset : Option Offset
  deriving DecidableEq, Repr

/-- Exactly `n` digits, read as a number. -/
def fixedDigits (n : Nat) : Scan Nat := do
  let s ← takeWhile n n isDigit
  let t ← textOf s
  pure (digitsValue 10 t)

/-- `n` digits whose value lies in `[lo, hi]`. -/
def boundedDigits (n lo hi : Nat) : Scan Nat :=
  tryMap (fixedDigits n) fun v => if lo ≤ v && v ≤ hi then .ok v else .error .outOfRange

/-- Whether a year is a leap year of the Gregorian calendar. -/
def isLeapYear (y : Nat) : Bool := y % 4 == 0 && (y % 100 != 0 || y % 400 == 0)

/-- The number of days of a month. -/
def daysInMonth (y m : Nat) : Nat :=
  if m == 2 then (if isLeapYear y then 29 else 28)
  else if m == 4 || m == 6 || m == 9 || m == 11 then 30 else 31

/-- A full date `YYYY-MM-DD`; past the first dash every field is committed. -/
def fullDate : Scan Date := do
  let year ← fixedDigits 4
  char '-'
  let month ← cut (boundedDigits 2 1 12)
  cut (char '-')
  let day ← cut (fromStart (tryMap (boundedDigits 2 1 31) fun d =>
    if daysInMonth year month < d then .error .outOfRange else .ok d))
  pure { year, month, day }

/-- A fraction of a second, kept to nanoseconds and truncated beyond. -/
def secondFraction : Scan Nat := do
  char '.'
  let s ← takeSome isDigit
  let t ← textOf s
  let kept := String.ofList (t.toList.take 9)
  pure (digitsValue 10 kept * Nat.pow 10 (9 - kept.length))

/-- A time `HH:MM:SS` with an optional fraction; past the first colon every field is
committed. -/
def partialTime : Scan TimeOfDay := do
  let hour ← boundedDigits 2 0 23
  char ':'
  cut do
    let minute ← boundedDigits 2 0 59
    char ':'
    let second ← boundedDigits 2 0 60
    let nanosecond ← opt secondFraction
    pure { hour, minute, second, nanosecond := nanosecond.getD 0 }

/-- An offset: `Z` or `z`, or a sign with hours and minutes. -/
def timeOffset : Scan Offset := label "time offset" (firstOf [
  do let _ ← satisfy fun b => b == 0x5A || b == 0x7A; pure Offset.utc,
  verify (do
      let sign ← satisfy fun b => b == 0x2B || b == 0x2D
      let (h, m) ← cut do
        let h ← boundedDigits 2 0 23
        char ':'
        let m ← boundedDigits 2 0 59
        pure (h, m)
      let total : Int := (h * 60 + m : Nat)
      pure (Offset.minutes (if sign == 0x2D then -total else total)))
    fun
      | .minutes m => -1440 ≤ m && m ≤ 1440
      | .utc => true])

/-- A date-time, a date alone, or a time alone. -/
def datetime : Scan Datetime := firstOf [
  label "date-time" do
    let date ← fullDate
    let rest ← opt do
      let _ ← satisfy fun b => b == 0x54 || b == 0x74 || b == 0x20
      let time ← partialTime
      let offset ← opt timeOffset
      pure (time, offset)
    match rest with
    | some (time, offset) => pure { date := some date, time := some time, offset }
    | none => pure { date := some date, time := none, offset := none },
  label "time" do
    let time ← partialTime
    pure { date := none, time := some time, offset := none }]

end GlyphCanvas.Toml
