import GlyphCanvas.Float.Format

namespace GlyphCanvas

/-- The binary32 format: 24 significand bits and an 8-bit exponent. -/
def FloatFormat.binary32 : FloatFormat := ⟨24, 8⟩

/-- A single-precision value, held as its bit pattern. -/
structure Binary32 where
  bits : UInt32
  deriving DecidableEq, Repr, Inhabited

namespace Binary32

/-- Wraps a datum of the binary32 format. -/
@[inline] def ofDatum (n : Nat) : Binary32 := ⟨n.toUInt32⟩

/-- The datum of a value. -/
@[inline] def datum (x : Binary32) : Nat := x.bits.toNat

/-- How the value reads: NaN, an infinity, or a signed `m · 2^q`. -/
def value (x : Binary32) : FloatValue := FloatFormat.binary32.decode x.datum

/-- The integer, rounded to nearest. -/
def ofInt (i : Int) : Binary32 := ofDatum (FloatFormat.binary32.ofInt i)

/-- The natural number, rounded to nearest. -/
def ofNat (n : Nat) : Binary32 := ofInt n

instance : OfNat Binary32 n := ⟨ofNat n⟩

/-- The decimal `m · 10^±e`, rounded once to nearest. -/
def ofDecimal (m : Nat) (negExp : Bool) (e : Nat) : Binary32 :=
  if negExp then ofDatum (FloatFormat.binary32.round false m (Nat.pow 10 e) 0)
  else ofDatum (FloatFormat.binary32.round false (m * Nat.pow 10 e) 1 0)

instance : OfScientific Binary32 := ⟨ofDecimal⟩

def zero : Binary32 := ⟨0⟩
def negZero : Binary32 := ⟨0x80000000⟩
/-- The quiet NaN that invalid operations give. -/
def nan : Binary32 := ⟨0x7FC00000⟩
def inf : Binary32 := ⟨0x7F800000⟩
def negInf : Binary32 := ⟨0xFF800000⟩
def maxFinite : Binary32 := ⟨0x7F7FFFFF⟩

def add (x y : Binary32) : Binary32 := ofDatum (FloatFormat.binary32.add x.datum y.datum)
def sub (x y : Binary32) : Binary32 := ofDatum (FloatFormat.binary32.sub x.datum y.datum)
def mul (x y : Binary32) : Binary32 := ofDatum (FloatFormat.binary32.mul x.datum y.datum)
def div (x y : Binary32) : Binary32 := ofDatum (FloatFormat.binary32.div x.datum y.datum)
def neg (x : Binary32) : Binary32 := ⟨x.bits ^^^ 0x80000000⟩
def sqrt (x : Binary32) : Binary32 := ofDatum (FloatFormat.binary32.sqrt x.datum)

instance : Add Binary32 := ⟨add⟩
instance : Sub Binary32 := ⟨sub⟩
instance : Mul Binary32 := ⟨mul⟩
instance : Div Binary32 := ⟨div⟩
instance : Neg Binary32 := ⟨neg⟩

/-- The absolute value clears the sign bit. -/
def abs (x : Binary32) : Binary32 := ⟨x.bits &&& 0x7FFFFFFF⟩

def isNaN (x : Binary32) : Bool := FloatFormat.binary32.isNaN x.datum
def isInfinite (x : Binary32) : Bool := (x.bits &&& 0x7FFFFFFF) == 0x7F800000
def isFinite (x : Binary32) : Bool := (x.bits &&& 0x7F800000) != 0x7F800000
/-- The sign bit is set (also for `-0` and negative NaNs). -/
def isSignNeg (x : Binary32) : Bool := x.bits >>> 31 == 1

/-- The ordered `x < y`. -/
def lt (x y : Binary32) : Bool := FloatFormat.binary32.lt x.datum y.datum
/-- The ordered `x ≤ y`. -/
def le (x y : Binary32) : Bool := FloatFormat.binary32.le x.datum y.datum
/-- Equality of values: NaN equals nothing, `-0 = +0`. -/
def eqv (x y : Binary32) : Bool := FloatFormat.binary32.eqv x.datum y.datum

instance : LT Binary32 := ⟨fun x y => x.lt y = true⟩
instance : LE Binary32 := ⟨fun x y => x.le y = true⟩
instance (x y : Binary32) : Decidable (x < y) := inferInstanceAs (Decidable (x.lt y = true))
instance (x y : Binary32) : Decidable (x ≤ y) := inferInstanceAs (Decidable (x.le y = true))

/-- The larger value; a NaN operand is ignored, and on a tie (`-0` against `+0` too) the first
operand is kept. -/
def max (x y : Binary32) : Binary32 := if x.isNaN then y else if x < y then y else x

/-- The smaller value; a NaN operand is ignored, and on a tie the first operand is kept. -/
def min (x y : Binary32) : Binary32 := if x.isNaN then y else if y < x then y else x

/-- The nearest integral value, a half going away from zero. -/
def round (x : Binary32) : Binary32 :=
  ofDatum (FloatFormat.binary32.roundIntegral .nearestAway x.datum)
/-- The nearest integral value, a half going to the even one. -/
def roundEven (x : Binary32) : Binary32 :=
  ofDatum (FloatFormat.binary32.roundIntegral .nearestEven x.datum)
def floor (x : Binary32) : Binary32 := ofDatum (FloatFormat.binary32.roundIntegral .down x.datum)
def ceil (x : Binary32) : Binary32 := ofDatum (FloatFormat.binary32.roundIntegral .up x.datum)
def trunc (x : Binary32) : Binary32 :=
  ofDatum (FloatFormat.binary32.roundIntegral .towardZero x.datum)

/-- The saturating conversion to the integers of `[lo, hi]`; NaN gives `0`. -/
def toIntClamped (lo hi : Int) (x : Binary32) : Int := FloatFormat.binary32.toIntClamped lo hi x.datum

/-- The saturating conversion to a signed 32-bit integer. -/
def toInt32 (x : Binary32) : Int := x.toIntClamped (-2147483648) 2147483647

/-- The saturating conversion to an unsigned 32-bit integer. -/
def toUInt32 (x : Binary32) : Nat := (x.toIntClamped 0 4294967295).toNat

/-- The saturating conversion to a byte. -/
def toUInt8 (x : Binary32) : Nat := (x.toIntClamped 0 255).toNat

/-- The saturating conversion to a signed 64-bit integer. -/
def toInt64 (x : Binary32) : Int := x.toIntClamped (-9223372036854775808) 9223372036854775807

/-- The left-to-right sum of a list, starting from `-0` (so the empty sum is `-0`). -/
def sum (xs : List Binary32) : Binary32 := xs.foldl (· + ·) negZero

end Binary32

end GlyphCanvas
