import GlyphCanvas.Raster.Transform

namespace GlyphCanvas

inductive PathVerb where
  | move
  | line
  | quad
  | cubic
  | close
  deriving DecidableEq, Repr, Inhabited

/-- The lane minimum of the vector unit: the first operand if it is smaller, else the second,
so that a NaN in either lane yields the second operand. -/
def laneMin (a b : Binary32) : Binary32 := if a < b then a else b

/-- The lane maximum of the vector unit, with the same treatment of NaN as `laneMin`. -/
def laneMax (a b : Binary32) : Binary32 := if a > b then a else b

/-- The smallest rectangle around a list of points, computed two points at a time as the vector
unit does: the first point (or first two, for an even count) seeds the extremes, and finiteness
is checked on the points after them. A NaN in the seed is thereby displaced by later points. -/
def Rect.ofPoints (ps : Array Point) : Option Rect :=
  let pts := ps.toList
  let seed : Option ((Binary32 × Binary32 × Binary32 × Binary32) × List Point) :=
    match pts with
    | [] => none
    | [p0] => some ((p0.x, p0.y, p0.x, p0.y), [])
    | p0 :: p1 :: rest =>
      if ps.size % 2 = 1 then some ((p0.x, p0.y, p0.x, p0.y), p1 :: rest)
      else some ((p0.x, p0.y, p1.x, p1.y), rest)
  match seed with
  | none => none
  | some (init, rest) =>
    let rec go : List Point → (Binary32 × Binary32 × Binary32 × Binary32) →
        (Binary32 × Binary32 × Binary32 × Binary32) → (Binary32 × Binary32 × Binary32 × Binary32) ×
        (Binary32 × Binary32 × Binary32 × Binary32)
      | a :: b :: more, (m0, m1, m2, m3), (x0, x1, x2, x3) =>
        go more (laneMin m0 a.x, laneMin m1 a.y, laneMin m2 b.x, laneMin m3 b.y)
          (laneMax x0 a.x, laneMax x1 a.y, laneMax x2 b.x, laneMax x3 b.y)
      | _, mn, mx => (mn, mx)
    let ((m0, m1, m2, m3), (x0, x1, x2, x3)) := go rest init init
    if rest.all Point.isFinite then Rect.ofLTRB (m0.min m2) (m1.min m3) (x0.max x2) (x1.max x3)
    else none

structure Path where
  verbs : Array PathVerb
  points : Array Point
  bounds : Rect

structure PathBuilder where
  verbs : Array PathVerb := #[]
  points : Array Point := #[]
  lastMoveToIndex : Nat := 0
  moveToRequired : Bool := true

namespace PathBuilder

def lastPoint? (b : PathBuilder) : Option Point := b.points.back?

def moveTo (b : PathBuilder) (p : Point) : PathBuilder :=
  if b.verbs.back? = some .move then
    { b with points := b.points.set! (b.points.size - 1) p }
  else
    { b with lastMoveToIndex := b.points.size, moveToRequired := false,
             verbs := b.verbs.push .move, points := b.points.push p }

/-- A segment after a close starts again at the contour's first point. -/
def injectMoveTo (b : PathBuilder) : PathBuilder :=
  if b.moveToRequired then b.moveTo ((b.points[b.lastMoveToIndex]?).getD Point.zero) else b

def lineTo (b : PathBuilder) (p : Point) : PathBuilder :=
  let b := b.injectMoveTo
  { b with verbs := b.verbs.push .line, points := b.points.push p }

def quadTo (b : PathBuilder) (p1 p2 : Point) : PathBuilder :=
  let b := b.injectMoveTo
  { b with verbs := b.verbs.push .quad, points := (b.points.push p1).push p2 }

def cubicTo (b : PathBuilder) (p1 p2 p3 : Point) : PathBuilder :=
  let b := b.injectMoveTo
  { b with verbs := b.verbs.push .cubic, points := ((b.points.push p1).push p2).push p3 }

def close (b : PathBuilder) : PathBuilder :=
  let b := if !b.verbs.isEmpty && b.verbs.back? != some .close then { b with verbs := b.verbs.push .close } else b
  { b with moveToRequired := true }

def setLastPoint (b : PathBuilder) (p : Point) : PathBuilder :=
  if b.points.isEmpty then b.moveTo p else { b with points := b.points.set! (b.points.size - 1) p }

def isEmpty (b : PathBuilder) : Bool := b.verbs.isEmpty

/-- A path needs a segment and finite bounds. -/
def finish (b : PathBuilder) : Option Path :=
  if b.verbs.size ≤ 1 then none
  else (Rect.ofPoints b.points).map fun r => ⟨b.verbs, b.points, r⟩

/-- Appends the last contour of `other`, walked backwards, as segments from the current point. -/
def reversePathTo (b : PathBuilder) (other : PathBuilder) : PathBuilder :=
  if other.verbs.isEmpty then b
  else
    let rec go (b : PathBuilder) (verbs : List PathVerb) (i : Nat) : PathBuilder :=
      match verbs with
      | [] => b
      | .move :: _ => b
      | .line :: rest => go (b.lineTo (other.points[i - 1]?.getD Point.zero)) rest (i - 1)
      | .quad :: rest =>
        go (b.quadTo (other.points[i - 1]?.getD Point.zero) (other.points[i - 2]?.getD Point.zero)) rest (i - 2)
      | .cubic :: rest =>
        go (b.cubicTo (other.points[i - 1]?.getD Point.zero) (other.points[i - 2]?.getD Point.zero)
          (other.points[i - 3]?.getD Point.zero)) rest (i - 3)
      | .close :: rest => go b rest i
    go b other.verbs.toList.reverse (other.points.size - 1)

/-- Appends every verb and point of another builder. -/
def append (b : PathBuilder) (other : PathBuilder) : PathBuilder :=
  if other.isEmpty then b
  else
    let b := { b with lastMoveToIndex := b.points.size + other.lastMoveToIndex }
    { b with verbs := b.verbs ++ other.verbs, points := b.points ++ other.points }

end PathBuilder

/-! Conics: quadratic arcs with a weight, approximated by quadratic segments. -/

structure Conic where
  p0 : Point
  p1 : Point
  p2 : Point
  weight : Binary32

namespace Conic

/-- How many halvings bring the conic within `tol` of its quadratic approximation (at least one,
at most four). -/
def quadPow2 (c : Conic) (tol : Binary32) : Option Nat :=
  if !(c.p0.isFinite && c.p1.isFinite && c.p2.isFinite) then none
  else
    let a := c.weight - 1
    let k := a / (4 * (2 + a))
    let x := k * (c.p0.x - 2 * c.p1.x + c.p2.x)
    let y := k * (c.p0.y - 2 * c.p1.y + c.p2.y)
    let rec count : Nat → Binary32 → Nat → Nat
      | 0, _, n => n
      | fuel + 1, err, n => if err ≤ tol then n else count fuel (err * 0.25) (n + 1)
    some (max (count 4 (x * x + y * y).sqrt 0) 1)

/-- Splits a conic at its middle into two conics of the new weight `√((1 + w) / 2)`. -/
def chop (c : Conic) : Conic × Conic :=
  let scale := 1 / (1 + c.weight)
  let newW := (0.5 + c.weight * 0.5).sqrt
  let wp1 := c.p1.scale c.weight
  let mx := (c.p0.x + (wp1.x + wp1.x) + c.p2.x) * scale * 0.5
  let my := (c.p0.y + (wp1.y + wp1.y) + c.p2.y) * scale * 0.5
  let m : Point := ⟨mx, my⟩
  ((⟨c.p0, (c.p0 + wp1).scale scale, m, newW⟩), (⟨m, (wp1 + c.p2).scale scale, c.p2, newW⟩))

/-- `(a - b)(c - b) ≤ 0`: `b` lies between `a` and `c`. -/
def between (a b c : Binary32) : Bool := (a - b) * (c - b) ≤ 0

/-- Keeps the halves of a chop monotone in y when the conic was. -/
def keepMonotone (src : Conic) (d : Conic × Conic) : Conic × Conic :=
  let (d0, d1) := d
  let startY := src.p0.y
  let endY := src.p2.y
  if between startY src.p1.y endY then
    let midY := d0.p2.y
    let (d0, d1) :=
      if !between startY midY endY then
        let closer := if (midY - startY).abs < (midY - endY).abs then startY else endY
        ({ d0 with p2 := { d0.p2 with y := closer } }, { d1 with p0 := { d1.p0 with y := closer } })
      else (d0, d1)
    let d0 := if !between startY d0.p1.y d0.p2.y then { d0 with p1 := { d0.p1 with y := startY } } else d0
    let d1 := if !between d1.p0.y d1.p1.y endY then { d1 with p1 := { d1.p1 with y := endY } } else d1
    (d0, d1)
  else (d0, d1)

/-- The control and end points of `2^level` quadratic segments, in order. -/
def subdivide : Conic → Nat → List Point
  | c, 0 => [c.p1, c.p2]
  | c, level + 1 =>
    let (d0, d1) := keepMonotone c c.chop
    subdivide d0 level ++ subdivide d1 level

/-- The quadratic segments of a conic from its start point, as (control, end) pairs. A
non-finite result is replaced by segments through the conic's control point. -/
def toQuads (c : Conic) (tol : Binary32) : Option (List (Point × Point)) := do
  let pow2 ← c.quadPow2 tol
  let pts := subdivide c pow2
  let pts := if pts.all Point.isFinite then pts
    else (List.range pts.length).map fun i => if i + 1 = pts.length then c.p2 else c.p1
  let rec pairs : List Point → List (Point × Point)
    | a :: b :: rest => (a, b) :: pairs rest
    | _ => []
  pure (pairs pts)

end Conic

namespace PathBuilder

/-- A conic segment from the current point: a line for a non-positive or NaN weight, two lines
for an infinite one, a quadratic segment for weight one, and its quadratic approximation
otherwise. -/
def conicTo (b : PathBuilder) (p1 p2 : Point) (w : Binary32) : PathBuilder :=
  if !((0 : Binary32) < w) then b.lineTo p2
  else if !w.isFinite then (b.lineTo p1).lineTo p2
  else if w.eqv 1 then b.quadTo p1 p2
  else
    let b := b.injectMoveTo
    match b.lastPoint? with
    | none => b
    | some last =>
      match (Conic.mk last p1 p2 w).toQuads 0.25 with
      | some qs => qs.foldl (fun b (c, e) => b.quadTo c e) b
      | none => b

/-- Adds an oval inscribed in a rectangle, clockwise from the middle of its right side. -/
def pushOval (b : PathBuilder) (r : Rect) : PathBuilder :=
  let cx := (r.left + r.right) * 0.5
  let cy := (r.top + r.bottom) * 0.5
  let ends : Array Point := #[⟨cx, r.top⟩, ⟨r.right, cy⟩, ⟨cx, r.bottom⟩, ⟨r.left, cy⟩]
  let corners : Array Point := #[⟨r.left, r.top⟩, ⟨r.right, r.top⟩, ⟨r.right, r.bottom⟩, ⟨r.left, r.bottom⟩]
  let b := b.moveTo ends[1]!
  let b := (List.range 4).foldl (fun b i =>
    b.conicTo (corners[(i + 2) % 4]!) (ends[(i + 2) % 4]!) rootTwoOverTwo) b
  b.close

def pushCircle (b : PathBuilder) (x y r : Binary32) : PathBuilder :=
  match Rect.ofLTRB (x - r) (y - r) (x + r) (y + r) with
  | some rect => b.pushOval rect
  | none => b

end PathBuilder

namespace Path

/-- The rectangle as a closed contour, clockwise from its top-left corner. -/
def ofRect (r : Rect) : Path :=
  ⟨#[.move, .line, .line, .line, .close],
   #[⟨r.left, r.top⟩, ⟨r.right, r.top⟩, ⟨r.right, r.bottom⟩, ⟨r.left, r.bottom⟩], r⟩

/-- The oval inscribed in a rectangle. -/
def ofOval (r : Rect) : Option Path := (({} : PathBuilder).pushOval r).finish

end Path

/-- A segment of a path as the scan converter takes it, with its start point. -/
inductive PathEdge where
  | line (p0 p1 : Point)
  | quad (p0 p1 p2 : Point)
  | cubic (p0 p1 p2 p3 : Point)
  deriving Repr, Inhabited

namespace Path

/-- The segments of a path with every contour closed: a contour that was left open, or closed,
gets the line from its last point back to its first (even when the two coincide). -/
def edges (path : Path) : List PathEdge :=
  let pt (i : Nat) : Point := path.points[i]?.getD Point.zero
  let rec go (verbs : List PathVerb) (i : Nat) (moveTo : Point) (needsClose : Bool)
      (acc : Array PathEdge) : Array PathEdge :=
    match verbs with
    | [] => if needsClose then acc.push (.line (pt (i - 1)) moveTo) else acc
    | .move :: rest =>
      let acc := if needsClose then acc.push (.line (pt (i - 1)) moveTo) else acc
      go rest (i + 1) (pt i) false acc
    | .close :: rest =>
      let acc := if needsClose then acc.push (.line (pt (i - 1)) moveTo) else acc
      go rest i moveTo false acc
    | .line :: rest => go rest (i + 1) moveTo true (acc.push (.line (pt (i - 1)) (pt i)))
    | .quad :: rest => go rest (i + 2) moveTo true (acc.push (.quad (pt (i - 1)) (pt i) (pt (i + 1))))
    | .cubic :: rest =>
      go rest (i + 3) moveTo true (acc.push (.cubic (pt (i - 1)) (pt i) (pt (i + 1)) (pt (i + 2))))
  (go path.verbs.toList 0 Point.zero false #[]).toList

/-- The path with every point mapped; none when the new bounds are not finite. -/
def transform (path : Path) (t : Transform) : Option Path :=
  if t.isIdentity then some path
  else
    let pts := path.points.map t.mapPoint
    (Rect.ofPoints pts).map fun r => ⟨path.verbs, pts, r⟩

end Path

end GlyphCanvas
