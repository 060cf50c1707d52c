import GlyphCanvas.Float.Binary32

namespace GlyphCanvas

/-- The binary64 format: 53 significand bits and an 11-bit exponent. -/
def FloatFormat.binary64 : FloatFormat := ⟨53, 11⟩

/-- A double-precision value, held as its bit pattern. -/
structure Binary64 where
  bits : UInt64
  deriving DecidableEq, Repr, Inhabited

namespace Binary64

@[inline] def ofDatum (n : Nat) : Binary64 := ⟨n.toUInt64⟩
@[inline] def datum (x : Binary64) : Nat := x.bits.toNat

/-- How the value reads: NaN, an infinity, or a signed `m · 2^q`. -/
def value (x : Binary64) : FloatValue := FloatFormat.binary64.decode x.datum

def ofInt (i : Int) : Binary64 := ofDatum (FloatFormat.binary64.ofInt i)

instance : OfNat Binary64 n := ⟨ofInt n⟩

/-- The decimal `m · 10^±e`, rounded once to nearest. -/
def ofDecimal (m : Nat) (negExp : Bool) (e : Nat) : Binary64 :=
  if negExp then ofDatum (FloatFormat.binary64.round false m (Nat.pow 10 e) 0)
  else ofDatum (FloatFormat.binary64.round false (m * Nat.pow 10 e) 1 0)

instance : OfScientific Binary64 := ⟨ofDecimal⟩

def add (x y : Binary64) : Binary64 := ofDatum (FloatFormat.binary64.add x.datum y.datum)
def sub (x y : Binary64) : Binary64 := ofDatum (FloatFormat.binary64.sub x.datum y.datum)
def mul (x y : Binary64) : Binary64 := ofDatum (FloatFormat.binary64.mul x.datum y.datum)
def div (x y : Binary64) : Binary64 := ofDatum (FloatFormat.binary64.div x.datum y.datum)
def neg (x : Binary64) : Binary64 := ⟨x.bits ^^^ 0x8000000000000000⟩
def sqrt (x : Binary64) : Binary64 := ofDatum (FloatFormat.binary64.sqrt x.datum)

instance : Add Binary64 := ⟨add⟩
instance : Sub Binary64 := ⟨sub⟩
instance : Mul Binary64 := ⟨mul⟩
instance : Div Binary64 := ⟨div⟩
instance : Neg Binary64 := ⟨neg⟩

def isNaN (x : Binary64) : Bool := FloatFormat.binary64.isNaN x.datum
def isFinite (x : Binary64) : Bool :=
  (x.bits &&& 0x7FF0000000000000) != 0x7FF0000000000000
def isSignNeg (x : Binary64) : Bool := x.bits >>> 63 == 1

def lt (x y : Binary64) : Bool := FloatFormat.binary64.lt x.datum y.datum
def le (x y : Binary64) : Bool := FloatFormat.binary64.le x.datum y.datum
def eqv (x y : Binary64) : Bool := FloatFormat.binary64.eqv x.datum y.datum

instance : LT Binary64 := ⟨fun x y => x.lt y = true⟩
instance : LE Binary64 := ⟨fun x y => x.le y = true⟩
instance (x y : Binary64) : Decidable (x < y) := inferInstanceAs (Decidable (x.lt y = true))
instance (x y : Binary64) : Decidable (x ≤ y) := inferInstanceAs (Decidable (x.le y = true))

/-- The remainder of `x / 1` decides integrality: a finite value is integral when it has no
fraction bits left. -/
def isIntegral (x : Binary64) : Bool :=
  match x.value with
  | .finite _ m q => 0 ≤ q || m % Nat.pow 2 (-q).toNat == 0
  | _ => false

def abs (x : Binary64) : Binary64 := ⟨x.bits &&& 0x7FFFFFFFFFFFFFFF⟩

/-- The larger value; a NaN operand is ignored. -/
def max (x y : Binary64) : Binary64 := if x.isNaN then y else if x < y then y else x

/-- The smaller value; a NaN operand is ignored. -/
def min (x y : Binary64) : Binary64 := if x.isNaN then y else if y < x then y else x

def floor (x : Binary64) : Binary64 := ofDatum (FloatFormat.binary64.roundIntegral .down x.datum)
def ceil (x : Binary64) : Binary64 := ofDatum (FloatFormat.binary64.roundIntegral .up x.datum)

/-- The saturating conversion to a signed 32-bit integer; NaN gives `0`. -/
def toInt32 (x : Binary64) : Int :=
  FloatFormat.binary64.toIntClamped (-2147483648) 2147483647 x.datum

def toBinary32 (x : Binary64) : Binary32 :=
  Binary32.ofDatum (FloatFormat.binary64.convert FloatFormat.binary32 x.datum)

end Binary64

/-- Widens to double precision, exactly. -/
def Binary32.toBinary64 (x : Binary32) : Binary64 :=
  Binary64.ofDatum (FloatFormat.binary32.convert FloatFormat.binary64 x.datum)

end GlyphCanvas
