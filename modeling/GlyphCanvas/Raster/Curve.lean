import GlyphCanvas.Raster.Geometry
import GlyphCanvas.Float.Elementary

namespace GlyphCanvas

namespace Curve

/-- `v0 + (v1 - v0)·t`. -/
def interp (v0 v1 t : Binary32) : Binary32 := v0 + (v1 - v0) * t

def interpPt (a b : Point) (t : Binary32) : Point := ⟨interp a.x b.x t, interp a.y b.y t⟩

/-- `numer / denom` when it lies strictly between 0 and 1. -/
def validUnitDivide (numer denom : Binary32) : Option Binary32 :=
  let (n, d) := if numer < 0 then (-numer, -denom) else (numer, denom)
  if d.eqv 0 || n.eqv 0 || n ≥ d then none
  else
    let r := n / d
    if (0 : Binary32) < r && r < 1 then some r else none

/-- The roots of `a t² + b t + c` strictly inside `(0, 1)`, ascending, a double root once. The
discriminant is taken in double precision. -/
def unitQuadRoots (a b c : Binary32) : List Binary32 :=
  if a.eqv 0 then (validUnitDivide (-c) b).toList
  else
    let dr := b.toBinary64 * b.toBinary64 - 4 * a.toBinary64 * c.toBinary64
    if dr < 0 then []
    else
      let r := dr.sqrt.toBinary32
      if !r.isFinite then []
      else
        let q := if b < 0 then -(b - r) / 2 else -(b + r) / 2
        let roots := (validUnitDivide q a).toList ++ (validUnitDivide c q).toList
        match roots with
        | [r0, r1] => if r0 > r1 then [r1, r0] else if r0.eqv r1 then [r0] else [r0, r1]
        | rs => rs

/-! Quadratics. -/

/-- The point at `t`, from the power basis `(A t + B) t + C`. -/
def quadAt (p : Array Point) (t : Binary32) : Point :=
  let p0 := p[0]!; let p1 := p[1]!; let p2 := p[2]!
  let bx := (p1.x - p0.x) + (p1.x - p0.x)
  let by_ := (p1.y - p0.y) + (p1.y - p0.y)
  let ax := p2.x - (p1.x + p1.x) + p0.x
  let ay := p2.y - (p1.y + p1.y) + p0.y
  ⟨(ax * t + bx) * t + p0.x, (ay * t + by_) * t + p0.y⟩

/-- The derivative at `t`; at an end whose control point coincides with it, the chord. -/
def quadTangentAt (p : Array Point) (t : Binary32) : Point :=
  let p0 := p[0]!; let p1 := p[1]!; let p2 := p[2]!
  if (t.eqv 0 && p0.eqv p1) || (t.eqv 1 && p1.eqv p2) then p2 - p0
  else
    let b := p1 - p0
    let a := p2 - p1 - b
    let v : Point := ⟨a.x * t + b.x, a.y * t + b.y⟩
    v + v

/-- Splits a quadratic at `t` into five points. -/
def chopQuadAt (p : Array Point) (t : Binary32) : Array Point :=
  let p0 := p[0]!; let p1 := p[1]!; let p2 := p[2]!
  let p01 := interpPt p0 p1 t
  let p12 := interpPt p1 p2 t
  #[p0, p01, interpPt p01 p12 t, p12, p2]

/-- `b` is not between `a` and `c` (or equals `a`). -/
def notMonotonic (a b c : Binary32) : Bool :=
  let ab := a - b
  let bc := if ab < 0 then -(b - c) else b - c
  ab.eqv 0 || bc < 0

/-- Splits a quadratic at the extremum of one coordinate (`useY`), flattening it there; returns
three points, or five when split. -/
def chopQuadAtExtrema (useY : Bool) (p : Array Point) : Array Point :=
  let get (q : Point) := if useY then q.y else q.x
  let put (q : Point) (v : Binary32) : Point := if useY then { q with y := v } else { q with x := v }
  let a := get p[0]!; let b := get p[1]!; let c := get p[2]!
  if notMonotonic a b c then
    match validUnitDivide (a - b) (a - b - b + c) with
    | some t =>
      let d := chopQuadAt p t
      let m := get d[2]!
      (d.set! 1 (put d[1]! m)).set! 3 (put d[3]! m)
    | none =>
      let b := if (a - b).abs < (b - c).abs then a else c
      #[put p[0]! a, put p[1]! b, put p[2]! c]
  else #[put p[0]! a, put p[1]! b, put p[2]! c]

/-- The parameter of greatest curvature of a quadratic, clamped to `[0, 1]`. -/
def quadMaxCurvature (p : Array Point) : Binary32 :=
  let p0 := p[0]!; let p1 := p[1]!; let p2 := p[2]!
  let ax := p1.x - p0.x
  let ay := p1.y - p0.y
  let bx := p0.x - p1.x - p1.x + p2.x
  let by_ := p0.y - p1.y - p1.y + p2.y
  let numer := -(ax * bx + ay * by_)
  let denom := bx * bx + by_ * by_
  let (numer, denom) := if denom < 0 then (-numer, -denom) else (numer, denom)
  if numer ≤ 0 then 0 else if numer ≥ denom then 1 else numer / denom

/-! Cubics. -/

/-- The point at `t`, from the power basis. -/
def cubicAt (p : Array Point) (t : Binary32) : Point :=
  let p0 := p[0]!; let p1 := p[1]!; let p2 := p[2]!; let p3 := p[3]!
  let coord (a0 a1 a2 a3 : Binary32) : Binary32 :=
    let a := a3 + 3 * (a1 - a2) - a0
    let b := 3 * (a2 - (a1 + a1) + a0)
    let c := 3 * (a1 - a0)
    ((a * t + b) * t + c) * t + a0
  ⟨coord p0.x p1.x p2.x p3.x, coord p0.y p1.y p2.y p3.y⟩

/-- The derivative at `t`, from the power basis of the derivative's quadratic. -/
def cubicDerivative (p : Array Point) (t : Binary32) : Point :=
  let p0 := p[0]!; let p1 := p[1]!; let p2 := p[2]!; let p3 := p[3]!
  let coord (a0 a1 a2 a3 : Binary32) : Binary32 :=
    let a := a3 + 3 * (a1 - a2) - a0
    let b0 := a2 - (a1 + a1) + a0
    let b := b0 + b0
    let c := a1 - a0
    (a * t + b) * t + c
  ⟨coord p0.x p1.x p2.x p3.x, coord p0.y p1.y p2.y p3.y⟩

/-- The tangent at `t`; at an end whose control point coincides with it, the next chord. -/
def cubicTangentAt (p : Array Point) (t : Binary32) : Point :=
  let p0 := p[0]!; let p1 := p[1]!; let p2 := p[2]!; let p3 := p[3]!
  if (t.eqv 0 && p0.eqv p1) || (t.eqv 1 && p2.eqv p3) then
    let tan := if t.eqv 0 then p2 - p0 else p3 - p1
    if tan.x.eqv 0 && tan.y.eqv 0 then p3 - p0 else tan
  else cubicDerivative p t

/-- Splits a cubic at `t` into seven points. -/
def chopCubicAt (p : Array Point) (t : Binary32) : Array Point :=
  let p0 := p[0]!; let p1 := p[1]!; let p2 := p[2]!; let p3 := p[3]!
  let ab := interpPt p0 p1 t
  let bc := interpPt p1 p2 t
  let cd := interpPt p2 p3 t
  let abc := interpPt ab bc t
  let bcd := interpPt bc cd t
  #[p0, ab, abc, interpPt abc bcd t, bcd, cd, p3]

/-- Splits a cubic at ascending parameters; a parameter that cannot be renormalized on the
remainder ends it in a degenerate piece. -/
def chopCubicAtMany (p : Array Point) (ts : List Binary32) : Array Point :=
  match ts with
  | [] => p.extract 0 4
  | t :: rest =>
    let rec go (src : Array Point) (t : Binary32) (prev : Binary32) (rest : List Binary32)
        (acc : Array Point) : Array Point :=
      let d := chopCubicAt src t
      match rest with
      | [] => acc ++ d
      | next :: more =>
        let acc := acc ++ d.extract 0 3
        let tail := d.extract 3 7
        match validUnitDivide (next - prev) (1 - prev) with
        | some t' => go tail t' next more acc
        | none => acc ++ #[tail[0]!, tail[1]!, tail[2]!, tail[3]!, tail[3]!, tail[3]!, tail[3]!]
    go p t t rest #[]

/-- Parameters where one coordinate of a cubic has an extremum. -/
def cubicExtrema (a b c d : Binary32) : List Binary32 :=
  let na := d - a + 3 * (b - c)
  let nb := 2 * (a - b - b + c)
  let nc := b - a
  unitQuadRoots na nb nc

/-- Splits a cubic at the extrema of one coordinate, flattening it there. -/
def chopCubicAtExtrema (useY : Bool) (p : Array Point) : Array Point :=
  let get (q : Point) := if useY then q.y else q.x
  let put (q : Point) (v : Binary32) : Point := if useY then { q with y := v } else { q with x := v }
  let ts := cubicExtrema (get p[0]!) (get p[1]!) (get p[2]!) (get p[3]!)
  let d := chopCubicAtMany p ts
  match ts.length with
  | 0 => d
  | n =>
    let m := get d[3]!
    let d := (d.set! 2 (put d[2]! m)).set! 4 (put d[4]! m)
    if n = 2 then
      let m2 := get d[6]!
      (d.set! 5 (put d[5]! m2)).set! 7 (put d[7]! m2)
    else d

/-- Parameters of the inflections of a cubic. -/
def cubicInflections (p : Array Point) : List Binary32 :=
  let p0 := p[0]!; let p1 := p[1]!; let p2 := p[2]!; let p3 := p[3]!
  let ax := p1.x - p0.x
  let ay := p1.y - p0.y
  let bx := p2.x - 2 * p1.x + p0.x
  let by_ := p2.y - 2 * p1.y + p0.y
  let cx := p3.x + 3 * (p1.x - p2.x) - p0.x
  let cy := p3.y + 3 * (p1.y - p2.y) - p0.y
  unitQuadRoots (bx * cy - by_ * cx) (ax * cy - ay * cx) (ax * by_ - ay * bx)

/-- The real roots of `c₀ t³ + c₁ t² + c₂ t + c₃` clamped to `[0, 1]`, ascending and without
repeats; a nearly vanishing cubic term leaves the quadratic's roots inside `(0, 1)`. -/
def solveCubicPoly (c0 c1 c2 c3 : Binary32) : List Binary32 :=
  if c0.isNearlyZero then unitQuadRoots c1 c2 c3
  else
    let clamp01 (v : Binary32) : Binary32 := if v.isFinite then (v.max 0).min 1 else 0
    let inva := 1 / c0
    let a := c1 * inva
    let b := c2 * inva
    let c := c3 * inva
    let q := (a * a - b * 3) / 9
    let r := (2 * a * a * a - 9 * a * b + 27 * c) / 54
    let q3 := q * q * q
    let r2MinusQ3 := r * r - q3
    let adiv3 := a / 3
    if r2MinusQ3 < 0 then
      let pi : Binary32 := 3.14159265
      let theta := (((1 : Binary32).min (r / q3.sqrt)).max (-1)).acos
      let neg2RootQ := -2 * q.sqrt
      let t0 := clamp01 (neg2RootQ * (theta / 3).cos - adiv3)
      let t1 := clamp01 (neg2RootQ * ((theta + 2 * pi) / 3).cos - adiv3)
      let t2 := clamp01 (neg2RootQ * ((theta - 2 * pi) / 3).cos - adiv3)
      -- sort three values, then drop repeats
      let (t0, t1) := if t0 > t1 then (t1, t0) else (t0, t1)
      let (t1, t2) := if t1 > t2 then (t2, t1) else (t1, t2)
      let (t0, t1) := if t0 > t1 then (t1, t0) else (t0, t1)
      let ts := if t1.eqv t2 then [t0, t1] else [t0, t1, t2]
      if t0.eqv t1 then ts.drop 1 else ts
    else
      let a := (r.abs + r2MinusQ3.sqrt).pow 0.3333333
      let a := if r > 0 then -a else a
      let a := if !a.eqv 0 then a + q / a else a
      [clamp01 (a - adiv3)]

/-- Parameters where the curvature of a cubic peaks: the roots of `F'(t) · F''(t)`. -/
def cubicMaxCurvature (p : Array Point) : List Binary32 :=
  let p0 := p[0]!; let p1 := p[1]!; let p2 := p[2]!; let p3 := p[3]!
  let coeff (a0 a1 a2 a3 : Binary32) : Binary32 × Binary32 × Binary32 × Binary32 :=
    let a := a1 - a0
    let b := a2 - 2 * a1 + a0
    let c := a3 + 3 * (a1 - a2) - a0
    (c * c, 3 * b * c, 2 * b * b + c * a, a * b)
  let (x0, x1, x2, x3) := coeff p0.x p1.x p2.x p3.x
  let (y0, y1, y2, y3) := coeff p0.y p1.y p2.y p3.y
  solveCubicPoly (x0 + y0) (x1 + y1) (x2 + y2) (x3 + y3)

end Curve

end GlyphCanvas
