import GlyphCanvas.Float.Binary64

namespace GlyphCanvas

namespace Fixed

/-- Fraction bits of the fixed-point values. -/
def precisionBits : Nat := 256

def one : Int := Int.pow 2 precisionBits

/-- The product of two fixed-point values. -/
def mul (a b : Int) : Int := a * b / one

/-- `Σ (-1)^k / ((2k+1) n^(2k+1))`, the arctangent of `1/n` for `n ≥ 2`. -/
def atanInv (n : Nat) : Int :=
  let rec go : Nat → Int → Nat → Int → Int
    | 0, _, _, acc => acc
    | fuel + 1, power, k, acc =>
      if power = 0 then acc
      else
        let term := power / (2 * k + 1)
        let acc := if k % 2 = 0 then acc + term else acc - term
        go fuel (power / (n * n)) (k + 1) acc
  go 400 (one / n) 0 0

/-- `π`, from `π/4 = 4 atan(1/5) - atan(1/239)`. -/
def pi : Int := 4 * (4 * atanInv 5 - atanInv 239)

/-- `Σ z^(2k+1) / (2k+1)`, the inverse hyperbolic tangent of `z` for `|z| ≤ 1/2`. -/
def atanh (z : Int) : Int :=
  let z2 := mul z z
  let rec go : Nat → Int → Nat → Int → Int
    | 0, _, _, acc => acc
    | fuel + 1, power, k, acc =>
      if power = 0 then acc
      else go fuel (mul power z2) (k + 1) (acc + power / (2 * k + 1))
  go 600 z 0 0

/-- `ln 2 = 2 atanh(1/3)`. -/
def ln2 : Int := 2 * atanh (one / 3)

/-- The cosine, by reduction to `[-π, π]` and the Taylor series. -/
def cos (x : Int) : Int :=
  let twoPi := 2 * pi
  let r := x % twoPi
  let r := if r > pi then r - twoPi else r
  let r2 := mul r r
  let rec go : Nat → Int → Nat → Int → Int
    | 0, _, _, acc => acc
    | fuel + 1, term, k, acc =>
      if term = 0 then acc
      else go fuel (-(mul term r2) / ((2 * k + 1) * (2 * k + 2))) (k + 1) (acc + term)
  go 400 one 0 0

/-- The angle in `[0, π]` whose cosine is `x`, for `-1 ≤ x ≤ 1`, to within `2^-precisionBits`. -/
def acos (x : Int) : Int :=
  let rec go : Nat → Int → Int → Int
    | 0, lo, _ => lo
    | fuel + 1, lo, hi =>
      let mid := (lo + hi) / 2
      if cos mid > x then go fuel mid hi else go fuel lo mid
  go (precisionBits + 4) 0 pi

/-- The natural logarithm of `m · 2^e` for `m > 0`. -/
def lnScaled (m : Nat) (e : Int) : Int :=
  -- m · 2^e = (m / 2^lg) · 2^(e + lg) with the first factor in [1, 2)
  let lg := m.log2
  let frac : Int := (m : Int) * one / Int.pow 2 lg
  atanh ((frac - one) * one / (frac + one)) * 2 + (e + lg) * ln2

/-- `exp z` as `(mantissa, exponent)`: `mantissa / 2^precisionBits · 2^exponent`. -/
def expParts (z : Int) : Int × Int :=
  let k := (z + ln2 / 2) / ln2
  let r := z - k * ln2
  let rec go : Nat → Int → Nat → Int → Int
    | 0, _, _, acc => acc
    | fuel + 1, term, n, acc =>
      if term = 0 then acc else go fuel (mul term r / (n + 1)) (n + 1) (acc + term)
  (go 400 one 0 0, k)

/-- The exact fixed-point value of a finite `m · 2^q`, truncated below `2^-precisionBits`. -/
def ofParts (neg : Bool) (m : Nat) (q : Int) : Int :=
  let v : Int := if q + precisionBits ≥ 0 then (m * Nat.pow 2 (q + precisionBits).toNat : Nat)
    else (m / Nat.pow 2 (-(q + precisionBits)).toNat : Nat)
  if neg then -v else v

/-- Rounds a fixed-point value to a datum of format `f`. -/
def toDatum (f : FloatFormat) (v : Int) : Nat :=
  f.round (v < 0) v.natAbs 1 (-(precisionBits : Int))

end Fixed

namespace FloatFormat

/-- The cosine of a datum, rounded to the format. -/
def cos (f : FloatFormat) (x : Nat) : Nat :=
  match f.decode x with
  | .finite s m q => Fixed.toDatum f (Fixed.cos (Fixed.ofParts s m q))
  | _ => f.quietNaN

/-- The arccosine of a datum in `[-1, 1]`, rounded to the format; NaN outside. -/
def acos (f : FloatFormat) (x : Nat) : Nat :=
  match f.decode x with
  | .finite s m q =>
    let v := Fixed.ofParts s m q
    if v > Fixed.one || v < -Fixed.one then f.quietNaN
    else Fixed.toDatum f (Fixed.acos v)
  | _ => f.quietNaN

/-- `x^y` for finite `x ≥ 0` and finite `y`, rounded to the format; NaN for a negative base. -/
def pow (f : FloatFormat) (x y : Nat) : Nat :=
  match f.decode x, f.decode y with
  | .finite true m _, _ => if m = 0 then f.zero false else f.quietNaN
  | .finite false m q, .finite t my qy =>
    if my = 0 then f.round false 1 1 0
    else if m = 0 then (if t then f.infinity false else f.zero false)
    else
      let z := Fixed.mul (Fixed.ofParts t my qy) (Fixed.lnScaled m q)
      let (mant, k) := Fixed.expParts z
      f.round false mant.natAbs 1 (k - Fixed.precisionBits)
  | _, _ => f.quietNaN

end FloatFormat

namespace Binary64

def cos (x : Binary64) : Binary64 := ofDatum (FloatFormat.binary64.cos x.datum)
def acos (x : Binary64) : Binary64 := ofDatum (FloatFormat.binary64.acos x.datum)

end Binary64

namespace Binary32

def cos (x : Binary32) : Binary32 := ofDatum (FloatFormat.binary32.cos x.datum)
def acos (x : Binary32) : Binary32 := ofDatum (FloatFormat.binary32.acos x.datum)
def pow (x y : Binary32) : Binary32 := ofDatum (FloatFormat.binary32.pow x.datum y.datum)

end Binary32

end GlyphCanvas
