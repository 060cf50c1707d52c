namespace GlyphCanvas

/-- A binary format: `precision` counts the significand bits with the hidden one. -/
structure FloatFormat where
  precision : Nat
  exponentBits : Nat
  deriving DecidableEq, Repr

/-- A datum read as a value: the sign is `true` for negative. -/
inductive FloatValue where
  | nan
  | infinite (neg : Bool)
  | finite (neg : Bool) (m : Nat) (q : Int)
  deriving DecidableEq, Repr

/-- `n / d` rounded to the nearest natural number, a tie going to the even one. -/
def divRoundEven (n d : Nat) : Nat :=
  if 2 * (n % d) > d ∨ (2 * (n % d) = d ∧ n / d % 2 = 1) then n / d + 1 else n / d

/-- The pair `(n · 2^s, d)` or `(n, d · 2^-s)`: the ratio `n / d · 2^s` without a power below one. -/
def shiftRatio (n d : Nat) (s : Int) : Nat × Nat :=
  if 0 ≤ s then (n * Nat.pow 2 s.toNat, d) else (n, d * Nat.pow 2 (-s).toNat)

namespace FloatFormat

/-- Bits of the stored fraction. -/
def fractionBits (f : FloatFormat) : Nat := f.precision - 1

/-- The value of the sign bit. -/
def signBit (f : FloatFormat) : Nat := Nat.pow 2 (f.fractionBits + f.exponentBits)

/-- The biased exponent of infinities and NaNs. -/
def maxBiased (f : FloatFormat) : Nat := Nat.pow 2 f.exponentBits - 1

/-- The exponent of the smallest subnormal: `-149` for binary32, `-1074` for binary64. -/
def minQuantum (f : FloatFormat) : Int := 3 - (Nat.pow 2 (f.exponentBits - 1) : Nat) - (f.precision : Int)

/-- Packs sign, biased exponent and fraction into a datum. -/
def pack (f : FloatFormat) (neg : Bool) (e frac : Nat) : Nat :=
  (if neg then f.signBit else 0) + e * Nat.pow 2 f.fractionBits + frac

/-- The sign bit of a datum. -/
def isNeg (f : FloatFormat) (x : Nat) : Bool := x / f.signBit % 2 == 1

/-- A datum without its sign. -/
def magnitude (f : FloatFormat) (x : Nat) : Nat := x % f.signBit

/-- The biased exponent field of a datum. -/
def biased (f : FloatFormat) (x : Nat) : Nat := x / Nat.pow 2 f.fractionBits % Nat.pow 2 f.exponentBits

/-- The fraction field of a datum. -/
def fraction (f : FloatFormat) (x : Nat) : Nat := x % Nat.pow 2 f.fractionBits

/-- Reads a datum: the all-ones exponent holds infinities and NaNs, zero the subnormals. -/
def decode (f : FloatFormat) (x : Nat) : FloatValue :=
  if f.biased x = f.maxBiased then
    (if f.fraction x = 0 then .infinite (f.isNeg x) else .nan)
  else if f.biased x = 0 then .finite (f.isNeg x) (f.fraction x) f.minQuantum
  else .finite (f.isNeg x) (f.fraction x + Nat.pow 2 f.fractionBits) (f.minQuantum + ((f.biased x - 1 : Nat) : Int))

/-- The quiet NaN that every invalid operation returns. -/
def quietNaN (f : FloatFormat) : Nat := f.pack false f.maxBiased (Nat.pow 2 (f.fractionBits - 1))

/-- Infinity of the given sign. -/
def infinity (f : FloatFormat) (neg : Bool) : Nat := f.pack neg f.maxBiased 0

/-- Zero of the given sign. -/
def zero (f : FloatFormat) (neg : Bool) : Nat := f.pack neg 0 0

/-- Packs a normal significand `m ∈ [2^(precision-1), 2^precision)` at quantum `q`: the biased
exponent counts from `minQuantum`, and one at the all-ones exponent or past it is infinity. -/
def encodeNormal (f : FloatFormat) (neg : Bool) (m : Nat) (q : Int) : Nat :=
  if (q - f.minQuantum).toNat + 1 ≥ f.maxBiased then f.infinity neg
  else f.pack neg ((q - f.minQuantum).toNat + 1) (m - Nat.pow 2 f.fractionBits)

/-- Packs `m · 2^q` for a significand `m ≤ 2^precision` already rounded at quantum `q`, where
`q = minQuantum` when `m` is below the hidden bit. -/
def encode (f : FloatFormat) (neg : Bool) (m : Nat) (q : Int) : Nat :=
  if m = Nat.pow 2 f.precision then f.encodeNormal neg (Nat.pow 2 f.fractionBits) (q + 1)
  else if m < Nat.pow 2 f.fractionBits then f.pack neg 0 m
  else f.encodeNormal neg m q

/-- The exponent of the leading bit of `n / d` for `n, d > 0`: the `E` with
`2^E ≤ n / d < 2^(E+1)`. -/
def leadExponent (n d : Nat) : Int :=
  let e0 : Int := (n.log2 : Int) - (d.log2 : Int)
  let (a, b) := shiftRatio n d (-e0)
  if a ≥ b then e0 else e0 - 1

/-- Rounds `n / d · 2^k` (with sign `neg`) to nearest, ties to even. The quantum is the one of the
value's own binade, or that of the subnormals if it is smaller. -/
def round (f : FloatFormat) (neg : Bool) (n d : Nat) (k : Int) : Nat :=
  if n = 0 ∨ d = 0 then f.zero neg
  else
    let q : Int := max (leadExponent n d + k - f.fractionBits) f.minQuantum
    let (a, b) := shiftRatio n d (k - q)
    f.encode neg (divRoundEven a b) q

def ofInt (f : FloatFormat) (i : Int) : Nat := f.round (i < 0) i.natAbs 1 0

/-- The exact value of a finite datum as `(neg, m, q)`. -/
def finiteParts? (f : FloatFormat) (x : Nat) : Option (Bool × Nat × Int) :=
  match f.decode x with
  | .finite s m q => some (s, m, q)
  | _ => none

/-- Addition: the exact sum rounded once. An exact zero sum is `+0` unless both addends are
negative. -/
def add (f : FloatFormat) (x y : Nat) : Nat :=
  match f.decode x, f.decode y with
  | .nan, _ => f.quietNaN
  | _, .nan => f.quietNaN
  | .infinite s, .infinite t => if s = t then f.infinity s else f.quietNaN
  | .infinite s, _ => f.infinity s
  | _, .infinite t => f.infinity t
  | .finite s m q, .finite t n r =>
    let e := min q r
    let a : Int := (if s then -1 else 1) * ((m * Nat.pow 2 (q - e).toNat : Nat) : Int)
    let b : Int := (if t then -1 else 1) * ((n * Nat.pow 2 (r - e).toNat : Nat) : Int)
    if a + b = 0 then f.zero (s && t) else f.round (a + b < 0) (a + b).natAbs 1 e

def neg (f : FloatFormat) (x : Nat) : Nat :=
  if f.isNeg x then x - f.signBit else x + f.signBit

/-- Subtraction is addition of the negated operand. -/
def sub (f : FloatFormat) (x y : Nat) : Nat :=
  match f.decode y with
  | .nan => f.quietNaN
  | _ => f.add x (f.neg y)

/-- Multiplication: the exact product rounded once; infinity times zero is NaN. -/
def mul (f : FloatFormat) (x y : Nat) : Nat :=
  match f.decode x, f.decode y with
  | .nan, _ => f.quietNaN
  | _, .nan => f.quietNaN
  | .infinite s, .infinite t => f.infinity (s != t)
  | .infinite s, .finite t n _ => if n = 0 then f.quietNaN else f.infinity (s != t)
  | .finite s m _, .infinite t => if m = 0 then f.quietNaN else f.infinity (s != t)
  | .finite s m q, .finite t n r => f.round (s != t) (m * n) 1 (q + r)

/-- Division: the exact quotient rounded once; `0/0` and `∞/∞` are NaN, `x/0` is infinite. -/
def div (f : FloatFormat) (x y : Nat) : Nat :=
  match f.decode x, f.decode y with
  | .nan, _ => f.quietNaN
  | _, .nan => f.quietNaN
  | .infinite _, .infinite _ => f.quietNaN
  | .infinite s, .finite t _ _ => f.infinity (s != t)
  | .finite s _ _, .infinite t => f.zero (s != t)
  | .finite s m q, .finite t n r =>
    if n = 0 then (if m = 0 then f.quietNaN else f.infinity (s != t))
    else f.round (s != t) m n (q - r)

/-- Square root, rounded once: the root of `m · 2^q` is taken on a significand widened to at least
`2·precision + 4` bits, and a nonzero remainder stands for the bits below. -/
def sqrt (f : FloatFormat) (x : Nat) : Nat :=
  match f.decode x with
  | .nan => f.quietNaN
  | .infinite s => if s then f.quietNaN else x
  | .finite s m q =>
    if m = 0 then x
    else if s then f.quietNaN
    else
      let w := 2 * f.precision + 4
      -- an even shift `t` so that `m · 2^t` has at least `w` bits and `q - t` is even
      let t0 : Nat := w - min w (m.log2 + 1)
      let t : Nat := if (q - t0) % 2 = 0 then t0 else t0 + 1
      let big := m * Nat.pow 2 t
      let r := big.sqrt
      let exact := r * r == big
      f.round false (2 * r + (if exact then 0 else 1)) 2 ((q - t) / 2)

/-- Converts a datum between formats, rounding once. -/
def convert (f g : FloatFormat) (x : Nat) : Nat :=
  match f.decode x with
  | .nan => g.quietNaN
  | .infinite s => g.infinity s
  | .finite s m q => g.round s m 1 q

/-- Where the fraction of a value goes when it is rounded to an integral value. -/
inductive Integral where
  /-- To the nearest integer, a half away from zero. -/
  | nearestAway
  /-- To nearest, a half going to the even neighbour. -/
  | nearestEven
  /-- Toward negative infinity. -/
  | down
  /-- Toward positive infinity. -/
  | up
  /-- Toward zero. -/
  | towardZero
  deriving DecidableEq, Repr

/-- Rounds a datum to an integral value; zero keeps the sign of the datum, and non-finite data
are returned as they are. -/
def roundIntegral (f : FloatFormat) (mode : Integral) (x : Nat) : Nat :=
  match f.decode x with
  | .finite s m q =>
    if 0 ≤ q then x
    else
      let d := Nat.pow 2 (-q).toNat
      let up : Bool := match mode with
        | .nearestAway => 2 * (m % d) ≥ d
        | .nearestEven => 2 * (m % d) > d || (2 * (m % d) == d && (m / d) % 2 == 1)
        | .down => s && m % d != 0
        | .up => !s && m % d != 0
        | .towardZero => false
      f.round s (m / d + (if up then 1 else 0)) 1 0
  | _ => x

/-- The integral part of a finite datum, toward zero. -/
def truncate (f : FloatFormat) (x : Nat) : Option Int :=
  match f.decode x with
  | .finite s m q =>
    let t : Nat := if 0 ≤ q then m * Nat.pow 2 q.toNat else m / Nat.pow 2 (-q).toNat
    some (if s then -(t : Int) else t)
  | _ => none

/-- The saturating conversion to the integers in `[lo, hi]`: NaN is `0`, infinities and large
values clamp, and the rest drop their fraction. -/
def toIntClamped (f : FloatFormat) (lo hi : Int) (x : Nat) : Int :=
  match f.decode x with
  | .nan => 0
  | .infinite s => if s then lo else hi
  | .finite .. => max lo (min hi ((f.truncate x).getD 0))

/-- A key that orders the non-NaN data as the reals they stand for, with `-0 = +0`. -/
def orderKey (f : FloatFormat) (x : Nat) : Int :=
  if f.isNeg x then -(f.magnitude x : Int) else f.magnitude x

/-- Whether a datum is a NaN. -/
def isNaN (f : FloatFormat) (x : Nat) : Bool :=
  f.biased x == f.maxBiased && f.fraction x != 0

/-- The ordered comparison `x < y`: false when either is NaN. -/
def lt (f : FloatFormat) (x y : Nat) : Bool :=
  !f.isNaN x && !f.isNaN y && decide (f.orderKey x < f.orderKey y)

/-- The ordered comparison `x ≤ y`: false when either is NaN. -/
def le (f : FloatFormat) (x y : Nat) : Bool :=
  !f.isNaN x && !f.isNaN y && decide (f.orderKey x ≤ f.orderKey y)

/-- Equality of values: NaN equals nothing and the two zeros are equal. -/
def eqv (f : FloatFormat) (x y : Nat) : Bool :=
  !f.isNaN x && !f.isNaN y && f.orderKey x == f.orderKey y

end FloatFormat

end GlyphCanvas
