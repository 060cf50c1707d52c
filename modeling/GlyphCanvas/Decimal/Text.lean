import GlyphCanvas.Decimal.Shortest
import GlyphCanvas.Float.Binary64

namespace GlyphCanvas

/-- The decisions of one float text format. -/
structure FloatStyle where
  /-- An integral value is written with `.0`. -/
  pointZero : Bool
  /-- Scientific notation for magnitudes below `10^sciBelow` or from `10^sciFrom` on, if set. -/
  sciRange : Option (Int × Int)
  nanText : String
  /-- A NaN with its sign bit set is written with a minus. -/
  signedNaN : Bool
  infText : String
  deriving Repr

namespace FloatStyle

/-- The plain style of values in answers: positional, no `.0`, `NaN` and `inf`. -/
def plain : FloatStyle := ⟨false, none, "NaN", false, "inf"⟩

/-- The style of values in diagnostic dumps: a `.0` on integral values, scientific notation
below `1e-4` and from `1e16` on. -/
def diagnostic : FloatStyle := ⟨true, some (-4, 16), "NaN", false, "inf"⟩

/-- The style of configuration files: a `.0` on integral values, `nan` without a sign, and
`inf`. -/
def config : FloatStyle := ⟨true, none, "nan", false, "inf"⟩

end FloatStyle

namespace Decimal

def zeros (n : Nat) : String := String.ofList (List.replicate n '0')

/-- Lays out `digits · 10^exp` without an exponent. -/
def positional (d : Decimal) (pointZero : Bool) : String :=
  let s := String.ofList (digitChars d.digits)
  let n : Int := s.length
  if 0 ≤ d.exp then s ++ zeros d.exp.toNat ++ (if pointZero then ".0" else "")
  else if n + d.exp > 0 then
    let cut := (n + d.exp).toNat
    String.ofList (s.toList.take cut) ++ "." ++ String.ofList (s.toList.drop cut)
  else "0." ++ zeros (-(n + d.exp)).toNat ++ s

/-- Lays out `digits · 10^exp` as `d.ddde±x`, without a `+`. -/
def scientific (d : Decimal) : String :=
  let cs := digitChars d.digits
  let e := d.exp + cs.length - 1
  let mant := match cs with
    | [] => "0"
    | [c] => String.ofList [c]
    | c :: rest => String.ofList (c :: '.' :: rest)
  mant ++ "e" ++ (if e < 0 then "-" ++ toString e.natAbs else toString e.natAbs)

end Decimal

/-- The text of a datum of format `f` in the given style. -/
def FloatFormat.toText (f : FloatFormat) (style : FloatStyle) (x : Nat) : String :=
  match f.decode x with
  | .nan => (if style.signedNaN && f.isNeg x then "-" else "") ++ style.nanText
  | .infinite s => (if s then "-" else "") ++ style.infText
  | .finite s m q =>
    let sign := if s then "-" else ""
    if m = 0 then sign ++ (if style.pointZero then "0.0" else "0")
    else
      let d := Decimal.shortest f m q
      let useSci : Bool := match style.sciRange with
        | some (lo, hi) =>
          Decimal.cmpScaled 1 lo m q == .gt || Decimal.cmpScaled 1 hi m q != .gt
        | none => false
      sign ++ (if useSci then d.scientific else d.positional style.pointZero)

/-- The text of a single-precision value. -/
def Binary32.toText (x : Binary32) (style : FloatStyle) : String :=
  FloatFormat.binary32.toText style x.datum

/-- The text of a double-precision value. -/
def Binary64.toText (x : Binary64) (style : FloatStyle) : String :=
  FloatFormat.binary64.toText style x.datum

end GlyphCanvas
