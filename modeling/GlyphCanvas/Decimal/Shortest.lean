import GlyphCanvas.Float.Format

namespace GlyphCanvas

/-- The decimal `digits · 10^exp`. -/
structure Decimal where
  digits : Nat
  exp : Int
  deriving DecidableEq, Repr

namespace Decimal

/-- Compares `a · 10^i` with `n · 2^j`, exactly. -/
def cmpScaled (a : Nat) (i : Int) (n : Nat) (j : Int) : Ordering :=
  compare (a * Nat.pow 10 i.toNat * Nat.pow 2 (-j).toNat) (n * Nat.pow 2 j.toNat * Nat.pow 10 (-i).toNat)

/-- The reals that round to `m · 2^q` in format `f`, as `(lo, hi, ends)`: the interval runs from
`lo · 2^(q-2)` to `hi · 2^(q-2)`, ends included when `ends` holds. Below a power of two, where the
binade changes, the lower neighbour is half as far away. -/
def roundingInterval (f : FloatFormat) (m : Nat) (q : Int) : Nat × Nat × Bool :=
  let narrow := m == Nat.pow 2 f.fractionBits && q > f.minQuantum
  (if narrow then 4 * m - 1 else 4 * m - 2, 4 * m + 2, m % 2 == 0)

/-- Whether `d` lies among the reals that round to `m · 2^q`. -/
def readsBack (f : FloatFormat) (m : Nat) (q : Int) (d : Decimal) : Bool :=
  let (lo, hi, ends) := roundingInterval f m q
  let cl := cmpScaled d.digits d.exp lo (q - 2)
  let ch := cmpScaled d.digits d.exp hi (q - 2)
  (cl == .gt || (ends && cl == .eq)) && (ch == .lt || (ends && ch == .eq))

/-- `⌊m · 2^q / 10^k⌋`. -/
def floorScaled (m : Nat) (q k : Int) : Nat :=
  (m * Nat.pow 2 q.toNat * Nat.pow 10 (-k).toNat) / (Nat.pow 2 (-q).toNat * Nat.pow 10 k.toNat)

/-- The decimal exponent of the leading digit of `m · 2^q` (for `m > 0`): the `d` with
`10^d ≤ m · 2^q < 10^(d+1)`. It starts from an estimate by bit lengths and corrects it. -/
def leadDigitExponent (m : Nat) (q : Int) : Int :=
  let bits : Int := (m.log2 : Int) + q
  -- 1233/4096 is just below log10 2, so the estimate is never too large by more than one
  let est : Int := (bits * 1233) / 4096
  let fix (e : Int) : Int := if cmpScaled 1 e m q == .gt then e - 1 else e
  let e := fix (fix est)
  if cmpScaled 1 (e + 1) m q != .gt then e + 1 else e

/-- Drops the trailing zeros of the digits, raising the exponent; `fuel` bounds the digits. -/
def normalize : Nat → Decimal → Decimal
  | 0, d => d
  | fuel + 1, d =>
    if d.digits != 0 && d.digits % 10 == 0 then normalize fuel ⟨d.digits / 10, d.exp + 1⟩ else d

/-- The distance from `c · 10^k` to `m · 2^q`, compared for two candidates: `true` when the upper
candidate `(c + 1) · 10^k` is at least as near as the lower one. -/
def upperNearer (m : Nat) (q : Int) (c : Nat) (k : Int) : Bool :=
  -- compare v - c·10^k with (c+1)·10^k - v, that is 2v with (2c+1)·10^k
  cmpScaled (2 * c + 1) k (2 * m) q != .gt

/-- The first grid of `n, n+1, …` significant digits that has a point in the rounding interval,
and that point (the nearer of two, the upper on a tie). `fuel` bounds the digit counts tried. -/
def search (f : FloatFormat) (m : Nat) (q : Int) (lead : Int) : Nat → Nat → Option Decimal
  | 0, _ => none
  | fuel + 1, n =>
    let k := lead - (n : Int) + 1
    let c := floorScaled m q k
    let lower : Decimal := ⟨c, k⟩
    let upper : Decimal := ⟨c + 1, k⟩
    match readsBack f m q lower, readsBack f m q upper with
    | true, true => some (if upperNearer m q c k then upper else lower)
    | true, false => some lower
    | false, true => some upper
    | false, false => search f m q lead fuel (n + 1)

/-- The shortest decimal that reads back as the positive `m · 2^q`, trailing zeros dropped. A
datum of precision `p` never needs more than `p` digits, which bounds the search. -/
def shortest (f : FloatFormat) (m : Nat) (q : Int) : Decimal :=
  match search f m q (leadDigitExponent m q) (f.precision + 2) 1 with
  | some d => normalize (f.precision + 2) d
  | none => ⟨m, 0⟩

/-- The decimal digits of a natural number, most significant first. -/
def digitChars (n : Nat) : List Char := (Nat.toDigits 10 n)

end Decimal

end GlyphCanvas
