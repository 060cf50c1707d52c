import GlyphCanvas.Float.Binary64

namespace GlyphCanvas

/-- The number of decimal digits of `m`. -/
def decimalLength (m : Nat) : Nat := (Nat.toDigits 10 m).length

/-- Rounds `m · 10^e`, with sign `neg`, to the nearest datum of `f`. With `L` the decimal length
of `m` plus `e`, the value lies in `[10^(L-1), 10^L)`; since `2^(3x) ≤ 10^x`, a value with
`3 (L-1)` past the largest binary exponent is infinite, and one with `3 L` below half the least
subnormal rounds to zero. -/
def FloatFormat.ofDecimal (f : FloatFormat) (neg : Bool) (m : Nat) (e : Int) : Nat :=
  if m = 0 then f.zero neg
  else
    let lead : Int := decimalLength m + e
    if 3 * (lead - 1) > (Nat.pow 2 (f.exponentBits - 1) : Nat) then f.infinity neg
    else if 3 * lead < f.minQuantum - 1 then f.zero neg
    else if 0 ≤ e then f.round neg (m * Nat.pow 10 e.toNat) 1 0
    else f.round neg m (Nat.pow 10 e.natAbs) 0

/-- What a float text denotes before rounding. -/
inductive FloatText where
  | finite (neg : Bool) (digits : Nat) (exp : Int)
  | infinite (neg : Bool)
  | nan (neg : Bool)
  deriving DecidableEq, Repr

namespace FloatText

/-- The value of a run of decimal digits. -/
def digitsValue (ds : List Char) : Nat :=
  ds.foldl (fun n c => 10 * n + (c.toNat - '0'.toNat)) 0

/-- Splits off a leading run of decimal digits. -/
def spanDigits (cs : List Char) : List Char × List Char :=
  (cs.takeWhile Char.isDigit, cs.dropWhile Char.isDigit)

/-- Reads an exponent: an optional sign, then at least one digit, then nothing. -/
def readExponent (cs : List Char) : Option Int :=
  let (neg, rest) := match cs with
    | '-' :: r => (true, r)
    | '+' :: r => (false, r)
    | r => (false, r)
  let (ds, tail) := spanDigits rest
  if ds.isEmpty || !tail.isEmpty then none
  else
    let v : Int := digitsValue ds
    some (if neg then -v else v)

/-- Reads an unsigned number: digits, an optional point and digits, at least one digit in all,
and an optional exponent. -/
def readNumber (neg : Bool) (cs : List Char) : Option FloatText :=
  let (whole, rest) := spanDigits cs
  let (frac, rest) := match rest with
    | '.' :: r => spanDigits r
    | r => ([], r)
  if whole.isEmpty && frac.isEmpty then none
  else
    let exp? : Option Int := match rest with
      | [] => some 0
      | c :: r => if c == 'e' || c == 'E' then readExponent r else none
    exp?.map fun e => .finite neg (digitsValue (whole ++ frac)) (e - frac.length)

/-- The special values, whose names are matched without regard to case. -/
def readSpecial (neg : Bool) (cs : List Char) : Option FloatText :=
  match String.ofList (cs.map Char.toLower) with
  | "inf" | "infinity" => some (.infinite neg)
  | "nan" => some (.nan neg)
  | _ => none

/-- Reads a whole float text. -/
def read? (s : String) : Option FloatText :=
  let (neg, rest) := match s.toList with
    | '-' :: r => (true, r)
    | '+' :: r => (false, r)
    | r => (false, r)
  if rest.isEmpty then none
  else (readNumber neg rest).orElse fun _ => readSpecial neg rest

/-- The datum of format `f` that the text denotes, rounded once. -/
def toDatum (f : FloatFormat) : FloatText → Nat
  | .finite neg m e => f.ofDecimal neg m e
  | .infinite neg => f.infinity neg
  | .nan neg => if neg then f.quietNaN + f.signBit else f.quietNaN

end FloatText

/-- Reads a float text as a single-precision value, rounded once. -/
def Binary32.ofText? (s : String) : Option Binary32 :=
  (FloatText.read? s).map fun t => Binary32.ofDatum (t.toDatum FloatFormat.binary32)

/-- Reads a float text as a double-precision value, rounded once. -/
def Binary64.ofText? (s : String) : Option Binary64 :=
  (FloatText.read? s).map fun t => Binary64.ofDatum (t.toDatum FloatFormat.binary64)

end GlyphCanvas
