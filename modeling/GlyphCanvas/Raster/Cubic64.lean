import GlyphCanvas.Raster.Geometry
import GlyphCanvas.Float.Elementary

namespace GlyphCanvas

namespace Cubic64

/-- The single-precision epsilon, `2^-23`, widened. -/
def fltEpsilon : Binary64 := (Binary32.ofDatum 0x34000000).toBinary64

/-- Twice the double-precision epsilon: four times `2^-52`. -/
def dblEpsilonErr : Binary64 := Binary64.ofDatum 0x3CD0000000000000

def approximatelyZero (x : Binary64) : Bool := x.abs < fltEpsilon
def preciselyZero (x : Binary64) : Bool := x.abs < dblEpsilonErr
def approximatelyZeroOrMore (x : Binary64) : Bool := x > -fltEpsilon
def approximatelyOneOrLess (x : Binary64) : Bool := x < 1 + fltEpsilon
def approximatelyZeroInverse (x : Binary64) : Bool := x.abs > 1 / fltEpsilon
def approximatelyZeroCubed (x : Binary64) : Bool :=
  let e := Binary32.ofDatum 0x34000000
  x.abs < (e * e * e).toBinary64
def approximatelyZeroHalf (x : Binary64) : Bool := x.abs < (Binary32.ofDatum 0x34000000 * 0.5).toBinary64
def approximatelyZeroWhenComparedTo (x y : Binary64) : Bool :=
  x.eqv 0 || x.abs < (y * fltEpsilon).abs
def approximatelyEqual (x y : Binary64) : Bool := approximatelyZero (x - y)
def approximatelyEqualHalf (x y : Binary64) : Bool := approximatelyZeroHalf (x - y)

/-- `value` pinned to `[min, max]`, with NaN going to `max`. -/
def bound (value lo hi : Binary64) : Binary64 := (hi.min value).max lo

/-- `(a - x)(b - x) ≤ 0`: `x` lies between `a` and `b`. -/
def between (x a b : Binary64) : Bool := (a - x) * (b - x) ≤ 0

/-- The single-precision bit pattern as a two's-complement integer, so that adjacent floats are
adjacent integers across zero. -/
def twosComplement (x : Binary32) : Int :=
  let b : Int := x.bits.toNat
  if b ≥ 2147483648 then -(b - 2147483648) else b

/-- Equal within 16 single-precision units in the last place (relative error for doubles beyond
the single-precision range). -/
def almostDequalUlps (a b : Binary64) : Bool :=
  let maxF := Binary32.maxFinite.toBinary64
  if a.abs < maxF && b.abs < maxF then
    let ab := twosComplement a.toBinary32
    let bb := twosComplement b.toBinary32
    ab < bb + 16 && bb < ab + 16
  else (a - b).abs / a.abs.max b.abs < fltEpsilon * 16

/-- A first guess at the cube root from the exponent bits. -/
def cbrtGuess (d : Binary64) : Binary64 :=
  let hi := (d.bits >>> 32).toNat
  Binary64.ofDatum ((hi / 3 + 715094163) % 4294967296 * 4294967296)

def halleyStep (a r : Binary64) : Binary64 :=
  let a3 := a * a * a
  a * (a3 + r + r) / (a3 + a3 + r)

/-- The cube root: three Halley steps from the bit-level guess. -/
def cubeRoot (x : Binary64) : Binary64 :=
  if approximatelyZeroCubed x then 0
  else
    let d := x.abs
    let a := halleyStep (halleyStep (halleyStep (cbrtGuess d) d) d) d
    if x < 0 then -a else a

/-- The real roots of `A t² + B t + C` (two equal roots once). -/
def quadRootsReal (a b c : Binary64) : List Binary64 :=
  let handleZero : List Binary64 :=
    if approximatelyZero b then (if c.eqv 0 then [0] else [])
    else [-c / b]
  if a.eqv 0 then handleZero
  else
    let p := b / (2 * a)
    let q := c / a
    if approximatelyZero a && (approximatelyZeroInverse p || approximatelyZeroInverse q) then handleZero
    else
      let p2 := p * p
      if !almostDequalUlps p2 q && p2 < q then []
      else
        let sqrtD : Binary64 := if p2 > q then (p2 - q).sqrt else 0
        let s0 := sqrtD - p
        let s1 := -sqrtD - p
        if almostDequalUlps s0 s1 then [s0] else [s0, s1]

/-- The roots that lie in `[0, 1]` up to the double-precision epsilon; those within the
single-precision epsilon of an end are snapped onto it, and near-duplicates are dropped. -/
def pushValidTs (s : List Binary64) : List Binary64 :=
  let dblEpsilon := Binary64.ofDatum 0x3CB0000000000000
  s.foldl (fun acc t =>
    if t > -dblEpsilon && t < 1 + dblEpsilon then
      let t : Binary64 := if t < fltEpsilon then 0 else if t > 1 - fltEpsilon then 1 else t
      if acc.any (fun u => approximatelyEqual u t) then acc else acc ++ [t]
    else acc) []

def quadRootsValidT (a b c : Binary64) : List Binary64 := pushValidTs (quadRootsReal a b c)

/-- The power-basis coefficients of one coordinate: `A t³ + B t² + C t + D`. -/
def coefficients (p0 p1 p2 p3 : Binary64) : Binary64 × Binary64 × Binary64 × Binary64 :=
  let a := p3
  let b := p2 * 3
  let c := p1 * 3
  let d := p0
  let a := a - (d - c + b)
  let b := b + (3 * d - 2 * c)
  let c := c - 3 * d
  (a, b, c, d)

def pi64 : Binary64 := 3.141592653589793

/-- The real roots of `A t³ + B t² + C t + D`. -/
def cubicRootsReal (a b c d : Binary64) : List Binary64 :=
  if approximatelyZero a && approximatelyZeroWhenComparedTo a b && approximatelyZeroWhenComparedTo a c
      && approximatelyZeroWhenComparedTo a d then quadRootsReal b c d
  else if approximatelyZeroWhenComparedTo d a && approximatelyZeroWhenComparedTo d b
      && approximatelyZeroWhenComparedTo d c then
    let s := quadRootsReal a b c
    if s.any approximatelyZero then s else s ++ [0]
  else if approximatelyZero (a + b + c + d) then
    let s := quadRootsReal a (a + b) (-d)
    if s.any (fun r => almostDequalUlps r 1) then s else s ++ [1]
  else
    let invA := 1 / a
    let a := b * invA
    let b := c * invA
    let c := d * invA
    let a2 := a * a
    let q := (a2 - b * 3) / 9
    let r := (2 * a2 * a - 9 * a * b + 27 * c) / 54
    let r2 := r * r
    let q3 := q * q * q
    let r2MinusQ3 := r2 - q3
    let adiv3 := a / 3
    if r2MinusQ3 < 0 then
      let theta := (bound (r / q3.sqrt) (-1) 1).acos
      let neg2RootQ := -2 * q.sqrt
      let r0 := neg2RootQ * (theta / 3).cos - adiv3
      let r1 := neg2RootQ * ((theta + 2 * pi64) / 3).cos - adiv3
      let s := if !almostDequalUlps r0 r1 then [r0, r1] else [r0]
      let r2' := neg2RootQ * ((theta - 2 * pi64) / 3).cos - adiv3
      let keep := !almostDequalUlps r0 r2' && (s.length = 1 || !almostDequalUlps r1 r2')
      if keep then s ++ [r2'] else s
    else
      let sqrtR2MinusQ3 := r2MinusQ3.sqrt
      let a := cubeRoot (r.abs + sqrtR2MinusQ3)
      let a := if r > 0 then -a else a
      let a := if !a.eqv 0 then a + q / a else a
      let root := a - adiv3
      if almostDequalUlps r2 q3 then
        let second := -a / 2 - adiv3
        if !almostDequalUlps root second then [root, second] else [root]
      else [root]

/-- The roots in `[0, 1]`, with roots just outside it pulled onto its ends. -/
def cubicRootsValidT (a b c d : Binary64) : List Binary64 :=
  let s := cubicRootsReal a b c d
  let found := pushValidTs s
  s.foldl (fun found t =>
    if !approximatelyOneOrLess t && between t 1 1.00005 then
      if found.any (fun u => approximatelyEqual u 1) then found else found ++ [1]
    else if !approximatelyZeroOrMore t && between t (-0.00005) 0 then
      if found.any (fun u => approximatelyEqual u 0) then found else found ++ [0]
    else found) found

/-- A cubic with double-precision control points. -/
structure Cubic where
  x : Array Binary64
  y : Array Binary64

namespace Cubic

def ofPoints (pts : Array Point) : Cubic :=
  ⟨pts.map (fun p => p.x.toBinary64), pts.map (fun p => p.y.toBinary64)⟩

/-- The point at `t`, by the Bernstein form. -/
def pointAt (c : Cubic) (t : Binary64) : Binary64 × Binary64 :=
  if t.eqv 0 then (c.x[0]!, c.y[0]!)
  else if t.eqv 1 then (c.x[3]!, c.y[3]!)
  else
    let oneT := 1 - t
    let oneT2 := oneT * oneT
    let a := oneT2 * oneT
    let b := 3 * oneT2 * t
    let t2 := t * t
    let cc := 3 * oneT * t2
    let d := t2 * t
    let coord (v : Array Binary64) := a * v[0]! + b * v[1]! + cc * v[2]! + d * v[3]!
    (coord c.x, coord c.y)

/-- Parameters of the extrema of one coordinate. -/
def extrema (v : Array Binary64) : List Binary64 :=
  let a := v[0]!; let b := v[1]!; let c := v[2]!; let d := v[3]!
  quadRootsValidT (d - a + 3 * (b - c)) (2 * (a - b - b + c)) (b - a)

def inflections (c : Cubic) : List Binary64 :=
  let ax := c.x[1]! - c.x[0]!
  let ay := c.y[1]! - c.y[0]!
  let bx := c.x[2]! - (2 : Binary64) * c.x[1]! + c.x[0]!
  let by_ := c.y[2]! - (2 : Binary64) * c.y[1]! + c.y[0]!
  let cx := c.x[3]! + (3 : Binary64) * (c.x[1]! - c.x[2]!) - c.x[0]!
  let cy := c.y[3]! + (3 : Binary64) * (c.y[1]! - c.y[2]!) - c.y[0]!
  quadRootsValidT (bx * cy - by_ * cx) (ax * cy - ay * cx) (ax * by_ - ay * bx)

/-- Bisection for the parameter in `[lo, hi]` where the coordinate (`useY`) meets `intercept`;
none when the points stop moving or the search leaves the interval. -/
def binarySearch (c : Cubic) (lo hi intercept : Binary64) (useY : Bool) : Option Binary64 :=
  let axis (p : Binary64 × Binary64) := if useY then p.2 else p.1
  let t := (lo + hi) / 2
  let step := (t - lo) / 2
  let atT := c.pointAt t
  let rec go : Nat → Binary64 → Binary64 → Binary64 × Binary64 → Binary64 → Option Binary64
    | 0, t, _, _, _ => some t
    | fuel + 1, t, step, atT, calcDist =>
      let priorT := lo.max (t - step)
      let lessPt := c.pointAt priorT
      if approximatelyEqualHalf lessPt.1 atT.1 && approximatelyEqualHalf lessPt.2 atT.2 then none
      else
        let lessDist := axis lessPt - intercept
        let lastStep := step
        let step := step / 2
        let ok := if calcDist > 0 then calcDist > lessDist else calcDist < lessDist
        let next : Option (Option Binary64) :=
          if ok then some (some priorT)
          else
            let nextT := t + lastStep
            if nextT > hi then some none
            else
              let morePt := c.pointAt nextT
              if approximatelyEqualHalf morePt.1 atT.1 && approximatelyEqualHalf morePt.2 atT.2 then some none
              else
                let moreDist := axis morePt - intercept
                let ok := if calcDist > 0 then calcDist ≤ moreDist else calcDist ≥ moreDist
                if ok then none else some (some nextT)
        match next with
        | some none => none
        | none => go fuel t step atT calcDist
        | some (some t) =>
          let atT := c.pointAt t
          let calcPos := axis atT
          if approximatelyEqual calcPos intercept then some t
          else go fuel t step atT (calcPos - intercept)
  go 200 t step atT (axis atT - intercept)

/-- Roots found by bisection between consecutive extrema, inflections and the ends; none of
them when more than three turn up. -/
def searchRoots (c : Cubic) (ext : List Binary64) (intercept : Binary64) (useY : Bool) : List Binary64 :=
  let ts := (ext ++ c.inflections ++ [0, 1]).mergeSort (fun a b => a ≤ b)
  let rec go : List Binary64 → List Binary64 → Option (List Binary64)
    | lo :: hi :: rest, acc =>
      if lo.eqv hi then go (hi :: rest) acc
      else
        match c.binarySearch lo hi intercept useY with
        | some t => if acc.length ≥ 3 then none else go (hi :: rest) (acc ++ [t])
        | none => go (hi :: rest) acc
    | _, acc => some acc
  (go ts []).getD []

/-- The parameters where the coordinate (`useY`) takes the value `intercept`. -/
def intercepts (c : Cubic) (intercept : Binary64) (useY : Bool) : List Binary64 :=
  let v := if useY then c.y else c.x
  let (a, b, cc, d) := coefficients v[0]! v[1]! v[2]! v[3]!
  let roots := cubicRootsValidT a b cc (d - intercept)
  let miss := roots.any fun t =>
    let p := c.pointAt t
    !approximatelyEqual (if useY then p.2 else p.1) intercept
  if miss then c.searchRoots (extrema v) intercept useY else roots

/-- Splits at `t` into seven points (midpoint weights at `t = 1/2`). -/
def chopAt (c : Cubic) (t : Binary64) : Array (Binary64 × Binary64) :=
  let split (v : Array Binary64) : Array Binary64 :=
    if t.eqv 0.5 then
      let two : Binary64 := 2
      let three : Binary64 := 3
      #[v[0]!, (v[0]! + v[1]!) / two, (v[0]! + two * v[1]! + v[2]!) / 4,
        (v[0]! + three * (v[1]! + v[2]!) + v[3]!) / 8, (v[1]! + two * v[2]! + v[3]!) / 4,
        (v[2]! + v[3]!) / two, v[3]!]
    else
      let interp (a b : Binary64) := a + (b - a) * t
      let ab := interp v[0]! v[1]!
      let bc := interp v[1]! v[2]!
      let cd := interp v[2]! v[3]!
      let abc := interp ab bc
      let bcd := interp bc cd
      #[v[0]!, ab, abc, interp abc bcd, bcd, cd, v[3]!]
  let xs := split c.x
  let ys := split c.y
  (List.range 7).toArray.map fun i => (xs[i]!, ys[i]!)

end Cubic

/-- Splits a cubic, monotone in the coordinate, where that coordinate equals `value`; none when
no crossing is found. -/
def chopMonoAt (pts : Array Point) (value : Binary32) (useY : Bool) : Option (Array Point) :=
  let c := Cubic.ofPoints pts
  match c.intercepts value.toBinary64 useY with
  | t :: _ => some ((c.chopAt t).map fun (x, y) => ⟨x.toBinary32, y.toBinary32⟩)
  | [] => none

end Cubic64

end GlyphCanvas
