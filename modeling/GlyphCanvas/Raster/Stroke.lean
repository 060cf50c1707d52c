import GlyphCanvas.Raster.Path
import GlyphCanvas.Raster.Curve
import GlyphCanvas.Raster.Transform

namespace GlyphCanvas

namespace Stroke

/-- How a segment's control points line up. -/
inductive Reduction where
  | point
  | line
  | quad
  | degenerate
  | degenerate2
  | degenerate3
  deriving DecidableEq, Repr

/-- The outcome of trying one quadratic for a piece of an offset curve. -/
inductive Outcome where
  | split
  | degenerate
  | quad
  deriving DecidableEq, Repr

inductive AngleType where
  | nearlyLine
  | shallow
  | sharp
  | nearly180
  deriving DecidableEq, Repr

/-- The join style between segments. -/
inductive Join where
  | miter
  | round
  deriving DecidableEq, Repr

def angleType (dot : Binary32) : AngleType :=
  if dot ≥ 0 then (if (1 - dot).isNearlyZero then .nearlyLine else .shallow)
  else if (1 + dot).isNearlyZero then .nearly180
  else .sharp

def isClockwise (before after : Point) : Bool := before.x * after.y > before.y * after.x

/-- The unit normal of a direction (a quarter turn of the unit vector) and the normal of
length `radius`. -/
def normals (dx dy radius : Binary32) : Option (Point × Point) :=
  (Point.normalize? dx dy).map fun u => let u := u.rotateCCW; (u.scale radius, u)

/-- Squared distance from a point to a segment. -/
def ptToLine (pt lineStart lineEnd : Point) : Binary32 :=
  let dxy := lineEnd - lineStart
  let ab0 := pt - lineStart
  let numer := dxy.dot ab0
  let denom := dxy.dot dxy
  let t := numer / denom
  if t ≥ 0 && t ≤ 1 then
    let hit : Point := ⟨lineStart.x * (1 - t) + lineEnd.x * t, lineStart.y * (1 - t) + lineEnd.y * t⟩
    hit.distanceSqd pt
  else ab0.lengthSqd

def degenerateVector (v : Point) : Bool := !v.canNormalize

/-- The largest coordinate difference between two of the points, and the indices of that pair. -/
def outerPair (pts : Array Point) : Binary32 × Nat × Nat :=
  let n := pts.size
  (List.range n).foldl (fun acc i =>
    (List.range n).foldl (fun (best, o1, o2) j =>
      if i < j then
        let d := pts[j]! - pts[i]!
        let m := d.x.abs.max d.y.abs
        if best < m then (m, i, j) else (best, o1, o2)
      else (best, o1, o2)) acc) (-1, 0, 0)

def quadInLine (q : Array Point) : Bool :=
  let (ptMax, o1, o2) := outerPair q
  let mid := o1 ^^^ o2 ^^^ 3
  let lineSlop := ptMax * ptMax * 0.000005
  ptToLine q[mid]! q[o1]! q[o2]! ≤ lineSlop

def cubicInLine (cubic : Array Point) : Bool :=
  let (ptMax, o1, o2) := outerPair cubic
  let mid1 := (1 + (2 >>> o2)) >>> o1
  let mid2 := o1 ^^^ o2 ^^^ mid1
  let lineSlop := ptMax * ptMax * 0.00001
  ptToLine cubic[mid1]! cubic[o1]! cubic[o2]! ≤ lineSlop && ptToLine cubic[mid2]! cubic[o1]! cubic[o2]! ≤ lineSlop

def checkQuadLinear (q : Array Point) : Reduction × Point :=
  let degAB := degenerateVector (q[1]! - q[0]!)
  let degBC := degenerateVector (q[2]! - q[1]!)
  if degAB && degBC then (.point, Point.zero)
  else if degAB || degBC then (.line, Point.zero)
  else if !quadInLine q then (.quad, Point.zero)
  else
    let t := Curve.quadMaxCurvature q
    if t.eqv 0 || t.eqv 1 then (.line, Point.zero) else (.degenerate, Curve.quadAt q t)

def checkCubicLinear (cubic : Array Point) : Reduction × Array Point × Point :=
  let degAB := degenerateVector (cubic[1]! - cubic[0]!)
  let degBC := degenerateVector (cubic[2]! - cubic[1]!)
  let degCD := degenerateVector (cubic[3]! - cubic[2]!)
  if degAB && degBC && degCD then (.point, #[], Point.zero)
  else if (if degAB then 1 else 0) + (if degBC then 1 else 0) + (if degCD then 1 else 0) == 2 then
    (.line, #[], Point.zero)
  else if !cubicInLine cubic then (.quad, #[], if degAB then cubic[2]! else cubic[1]!)
  else
    let rs := (Curve.cubicMaxCurvature cubic).filterMap fun t =>
      if 0 ≥ t || t ≥ 1 then none
      else
        let p := Curve.cubicAt cubic t
        if !p.eqv cubic[0]! && !p.eqv cubic[3]! then some p else none
    let rs := rs.take 3
    match rs.length with
    | 0 => (.line, #[], Point.zero)
    | 1 => (.degenerate, rs.toArray, Point.zero)
    | 2 => (.degenerate2, rs.toArray, Point.zero)
    | _ => (.degenerate3, rs.toArray, Point.zero)

/-- A piece `[startT, endT]` of a curve and its quadratic approximation under construction. -/
structure QuadConstruct where
  quad : Array Point := #[Point.zero, Point.zero, Point.zero]
  tangentStart : Point := Point.zero
  tangentEnd : Point := Point.zero
  startT : Binary32 := 0
  midT : Binary32 := 0
  endT : Binary32 := 0
  startSet : Bool := false
  endSet : Bool := false
  oppositeTangents : Bool := false

namespace QuadConstruct

/-- A piece from `start` to `end`; false when the two are too close to have a middle. -/
def init (start stop : Binary32) : QuadConstruct × Bool :=
  let mid := ((start + stop).half).max 0 |>.min 1
  ({ startT := start, midT := mid, endT := stop }, start < mid && mid < stop)

/-- The first half of a piece, sharing its start. -/
def withStart (parent : QuadConstruct) : QuadConstruct × Bool :=
  let (q, ok) := init parent.startT parent.midT
  ({ q with quad := q.quad.set! 0 parent.quad[0]!, tangentStart := parent.tangentStart, startSet := true }, ok)

/-- The second half of a piece, sharing its end. -/
def withEnd (parent : QuadConstruct) : QuadConstruct × Bool :=
  let (q, ok) := init parent.midT parent.endT
  ({ q with quad := q.quad.set! 2 parent.quad[2]!, tangentEnd := parent.tangentEnd, endSet := true }, ok)

end QuadConstruct

def pointsWithinDist (nearPt farPt : Point) (limit : Binary32) : Bool :=
  nearPt.distanceSqd farPt ≤ limit * limit

def sharpAngle (q : Array Point) : Bool :=
  let smaller := q[1]! - q[0]!
  let larger := q[1]! - q[2]!
  let smallerLen := smaller.lengthSqd
  let largerLen := larger.lengthSqd
  let (smaller, larger, largerLen) :=
    if smallerLen > largerLen then (larger, smaller, smallerLen) else (smaller, larger, largerLen)
  match smaller.setLength largerLen with
  | none => false
  | some s => s.dot larger > 0

def ptInQuadBounds (q : Array Point) (pt : Point) (tol : Binary32) : Bool :=
  let xMin := (q[0]!.x.min q[1]!.x).min q[2]!.x
  let xMax := (q[0]!.x.max q[1]!.x).max q[2]!.x
  let yMin := (q[0]!.y.min q[1]!.y).min q[2]!.y
  let yMax := (q[0]!.y.max q[1]!.y).max q[2]!.y
  !(pt.x < xMin - tol) && !(pt.x > xMax + tol) && !(pt.y < yMin - tol) && !(pt.y > yMax + tol)

/-- Parameters where a quadratic crosses the line through `ray`. -/
def intersectQuadRay (ray : Point × Point) (q : Array Point) : List Binary32 :=
  let vec := ray.2 - ray.1
  let r (n : Nat) : Binary32 := (q[n]!.y - ray.1.y) * vec.x - (q[n]!.x - ray.1.x) * vec.y
  let c := r 0
  let a := r 2 + (c - 2 * r 1)
  let b := r 1 - c
  Curve.unitQuadRoots a (2 * b) c

end Stroke

open Stroke in
/-- The state of a stroke under construction. -/
structure Stroker where
  radius : Binary32
  invMiterLimit : Binary32
  resScale : Binary32
  invResScale : Binary32
  invResScaleSquared : Binary32
  firstNormal : Point := Point.zero
  prevNormal : Point := Point.zero
  firstUnitNormal : Point := Point.zero
  prevUnitNormal : Point := Point.zero
  firstPt : Point := Point.zero
  prevPt : Point := Point.zero
  firstOuterPt : Point := Point.zero
  segmentCount : Int := -1
  prevIsLine : Bool := false
  joiner : Join := .miter
  inner : PathBuilder := {}
  outer : PathBuilder := {}
  cusper : PathBuilder := {}
  outerSide : Bool := true
  recursionDepth : Nat := 0
  foundTangents : Bool := false
  joinCompleted : Bool := false

namespace Stroker

open Stroke

/-- Extends the inner side around a join through the pivot. -/
def innerJoin (inner : PathBuilder) (pivot after : Point) : PathBuilder :=
  (inner.lineTo pivot).lineTo (pivot - after)

/-- A miter join between two unit normals at `pivot`, on builders `(outer, inner)`. -/
def miterJoin (beforeUnit pivot afterUnit : Point) (radius invMiterLimit : Binary32)
    (prevIsLine currIsLine : Bool) (outer inner : PathBuilder) : PathBuilder × PathBuilder :=
  let dotProd := beforeUnit.dot afterUnit
  let kind := angleType dotProd
  let blunt (outer inner : PathBuilder) (after : Point) (currIsLine : Bool) : PathBuilder × PathBuilder :=
    let after := after.scale radius
    let outer := if !currIsLine then outer.lineTo (pivot + after) else outer
    (outer, innerJoin inner pivot after)
  let miter (outer inner : PathBuilder) (mid after : Point) : PathBuilder × PathBuilder :=
    let after := after.scale radius
    let outer := if prevIsLine then outer.setLastPoint ⟨pivot.x + mid.x, pivot.y + mid.y⟩
      else outer.lineTo ⟨pivot.x + mid.x, pivot.y + mid.y⟩
    let outer := if !currIsLine then outer.lineTo ⟨pivot.x + after.x, pivot.y + after.y⟩ else outer
    (outer, innerJoin inner pivot after)
  if kind = .nearlyLine then (outer, inner)
  else if kind = .nearly180 then blunt outer inner afterUnit false
  else
    let ccw := !isClockwise beforeUnit afterUnit
    -- counterclockwise turns swap the roles of the two sides
    let (o, i, before, after) := if ccw then (inner, outer, -beforeUnit, -afterUnit)
      else (outer, inner, beforeUnit, afterUnit)
    let finish (r : PathBuilder × PathBuilder) : PathBuilder × PathBuilder :=
      if ccw then (r.2, r.1) else r
    if dotProd.eqv 0 && invMiterLimit ≤ rootTwoOverTwo then
      finish (miter o i ((before + after).scale radius) after)
    else
      let mid : Point := if kind = .sharp then
          let m : Point := ⟨after.y - before.y, before.x - after.x⟩
          if ccw then -m else m
        else ⟨before.x + after.x, before.y + after.y⟩
      let sinHalfAngle := (1 + dotProd).half.sqrt
      if sinHalfAngle < invMiterLimit then finish (blunt o i after false)
      else
        match mid.setLength (radius / sinHalfAngle) with
        | some mid => finish (miter o i mid after)
        | none => finish (miter o i Point.zero after)

/-- Conic arcs of the unit circle turning from `uStart` to `uStop` (clockwise unless `ccw`),
one per quarter turn plus a final partial arc, mapped by `userTs`. -/
def unitArc (uStart uStop : Point) (ccw : Bool) (userTs : Transform) : List Conic :=
  let x := uStart.dot uStop
  let y := uStart.cross uStop
  if y.abs ≤ nearlyZero && x > 0 && ((y ≥ 0 && !ccw) || (y ≤ 0 && ccw)) then []
  else
    let y := if ccw then -y else y
    let quadrant : Nat :=
      if y.eqv 0 then 2
      else if x.eqv 0 then (if y > 0 then 1 else 3)
      else (if y < 0 then 2 else 0) + (if (x < 0) != (y < 0) then 1 else 0)
    let qp : Array Point := #[⟨1, 0⟩, ⟨1, 1⟩, ⟨0, 1⟩, ⟨-1, 1⟩, ⟨-1, 0⟩, ⟨-1, -1⟩, ⟨0, -1⟩, ⟨1, -1⟩]
    let conics := (List.range quadrant).map fun i =>
      (⟨qp[2 * i]!, qp[2 * i + 1]!, qp[2 * i + 2]!, rootTwoOverTwo⟩ : Conic)
    let finalPt : Point := ⟨x, y⟩
    let lastQ := qp[quadrant * 2]!
    let dot := lastQ.dot finalPt
    let conics :=
      if dot < 1 then
        let cosThetaOver2 := ((1 + dot) / 2).sqrt
        let offCurve := ((⟨lastQ.x + x, lastQ.y + y⟩ : Point).setLength (1 / cosThetaOver2)).getD Point.zero
        if (lastQ - offCurve).canNormalize then conics ++ [⟨lastQ, offCurve, finalPt, cosThetaOver2⟩]
        else conics
      else conics
    let rot := Transform.ofRow uStart.x uStart.y (-uStart.y) uStart.x 0 0
    let rot := if ccw then rot.preConcat (Transform.scale 1 (-1)) else rot
    let ts := rot.postConcat userTs
    conics.map fun c => { c with p0 := ts.mapPoint c.p0, p1 := ts.mapPoint c.p1, p2 := ts.mapPoint c.p2 }

/-- A round join: an arc of radius `radius` around the pivot on the outer side. -/
def roundJoin (beforeUnit pivot afterUnit : Point) (radius : Binary32) (outer inner : PathBuilder) :
    PathBuilder × PathBuilder :=
  let dotProd := beforeUnit.dot afterUnit
  if angleType dotProd = .nearlyLine then (outer, inner)
  else
    let ccw := !isClockwise beforeUnit afterUnit
    let (o, i, before) := if ccw then (inner, outer, -beforeUnit) else (outer, inner, beforeUnit)
    let arcs := unitArc before afterUnit ccw (Transform.ofRow radius 0 0 radius pivot.x pivot.y)
    let (o, i) :=
      if arcs.isEmpty then (o, i)
      else (arcs.foldl (fun b c => b.conicTo c.p1 c.p2 c.weight) o, innerJoin i pivot (afterUnit.scale radius))
    if ccw then (i, o) else (o, i)

/-- Applies the current join between the previous segment and one leaving with `unitNormal`. -/
def join (s : Stroker) (beforeUnit pivot afterUnit : Point) (currIsLine : Bool) : Stroker :=
  let (outer, inner) := match s.joiner with
    | .miter => miterJoin beforeUnit pivot afterUnit s.radius s.invMiterLimit s.prevIsLine currIsLine s.outer s.inner
    | .round => roundJoin beforeUnit pivot afterUnit s.radius s.outer s.inner
  { s with outer, inner }

/-- Starts a segment towards `p`: the normal at the start, and the join with the previous segment
(or the start of both sides). Fails for a segment without direction. -/
def preJoinTo (s : Stroker) (p : Point) (currIsLine : Bool) : Option (Stroker × Point × Point) :=
  match normals ((p.x - s.prevPt.x) * s.resScale) ((p.y - s.prevPt.y) * s.resScale) s.radius with
  | none => none
  | some (normal, unitNormal) =>
    let s := if s.segmentCount = 0 then
        let fo : Point := ⟨s.prevPt.x + normal.x, s.prevPt.y + normal.y⟩
        { s with firstNormal := normal, firstUnitNormal := unitNormal, firstOuterPt := fo,
                 outer := s.outer.moveTo fo,
                 inner := s.inner.moveTo ⟨s.prevPt.x - normal.x, s.prevPt.y - normal.y⟩ }
      else s.join s.prevUnitNormal s.prevPt unitNormal currIsLine
    some ({ s with prevIsLine := currIsLine }, normal, unitNormal)

def postJoinTo (s : Stroker) (p normal unitNormal : Point) : Stroker :=
  { s with joinCompleted := true, prevPt := p, prevUnitNormal := unitNormal, prevNormal := normal,
           segmentCount := s.segmentCount + 1 }

def lineTo (s : Stroker) (p : Point) : Stroker :=
  -- butt caps: a segment shorter than the tolerance adds nothing
  if s.prevPt.equalsWithinTolerance p (nearlyZero * s.invResScale) then s
  else
    match s.preJoinTo p true with
    | none => s
    | some (s, normal, unitNormal) =>
      let s := { s with outer := s.outer.lineTo ⟨p.x + normal.x, p.y + normal.y⟩,
                        inner := s.inner.lineTo ⟨p.x - normal.x, p.y - normal.y⟩ }
      s.postJoinTo p normal unitNormal

/-- Closes or caps the contour, and appends the inner side. -/
def finishContour (s : Stroker) (close currIsLine : Bool) : Stroker :=
  let s := if s.segmentCount > 0 then
      let s := if close then
          let s := s.join s.prevUnitNormal s.prevPt s.firstUnitNormal currIsLine
          let outer := s.outer.close
          let pt := s.inner.lastPoint?.getD Point.zero
          let outer := ((outer.moveTo pt).reversePathTo s.inner).close
          { s with outer }
        else
          let pt := s.inner.lastPoint?.getD Point.zero
          let outer := (s.outer.lineTo pt).reversePathTo s.inner
          let outer := (outer.lineTo s.firstOuterPt).close
          { s with outer }
      if !s.cusper.isEmpty then { s with outer := s.outer.append s.cusper, cusper := {} } else s
    else s
  { s with inner := {}, segmentCount := -1 }

def moveTo (s : Stroker) (p : Point) : Stroker :=
  let s := if s.segmentCount > 0 then s.finishContour false false else s
  { s with segmentCount := 0, firstPt := p, prevPt := p, joinCompleted := false }

/-- Appends a line to the side being built. -/
def addDegenerateLine (s : Stroker) (q : QuadConstruct) : Stroker :=
  if s.outerSide then { s with outer := s.outer.lineTo q.quad[2]! }
  else { s with inner := s.inner.lineTo q.quad[2]! }

/-- Appends a quadratic to the side being built. -/
def addQuad (s : Stroker) (q : QuadConstruct) : Stroker :=
  if s.outerSide then { s with outer := s.outer.quadTo q.quad[1]! q.quad[2]! }
  else { s with inner := s.inner.quadTo q.quad[1]! q.quad[2]! }

/-- The point at `radius` from `tPt` across the direction `dxy`, on the side being built, and the
point one radius further along the direction. -/
def rayPoints (s : Stroker) (tPt dxy : Point) : Point × Point :=
  let dxy := (dxy.setLength s.radius).getD ⟨s.radius, 0⟩
  let flip : Binary32 := if s.outerSide then 1 else -1
  let onP : Point := ⟨tPt.x + flip * dxy.y, tPt.y - flip * dxy.x⟩
  (onP, ⟨onP.x + dxy.x, onP.y + dxy.y⟩)

/-- The curve point at `t`, its offset point, and the tangent point of the offset. -/
def quadPerpRay (s : Stroker) (q : Array Point) (t : Binary32) : Point × Point × Point :=
  let tPt := Curve.quadAt q t
  let dxy := Curve.quadTangentAt q t
  let dxy := if dxy.x.eqv 0 && dxy.y.eqv 0 then q[2]! - q[0]! else dxy
  let (onP, tan) := s.rayPoints tPt dxy
  (tPt, onP, tan)

def cubicPerpRay (s : Stroker) (cubic : Array Point) (t : Binary32) : Point × Point × Point :=
  let tPt := Curve.cubicAt cubic t
  let dxy := Curve.cubicTangentAt cubic t
  let dxy := if dxy.x.eqv 0 && dxy.y.eqv 0 then
      let (dxy, cpts) :=
        if t.isNearlyZero then (cubic[2]! - cubic[0]!, cubic)
        else if (1 - t).isNearlyZero then (cubic[3]! - cubic[1]!, cubic)
        else
          let ch := Curve.chopCubicAt cubic t
          let d := ch[3]! - ch[2]!
          if d.x.eqv 0 && d.y.eqv 0 then (ch[3]! - ch[1]!, ch) else (d, cubic)
      if dxy.x.eqv 0 && dxy.y.eqv 0 then cpts[3]! - cpts[0]! else dxy
    else dxy
  let (onP, tan) := s.rayPoints tPt dxy
  (tPt, onP, tan)

/-- Intersects the tangents at the two ends of a piece's approximation; for `ctrl`, the
intersection becomes its control point. -/
def intersectRay (s : Stroker) (ctrl : Bool) (q : QuadConstruct) : Outcome × QuadConstruct :=
  let start := q.quad[0]!
  let stop := q.quad[2]!
  let aLen := q.tangentStart - start
  let bLen := q.tangentEnd - stop
  let denom := aLen.cross bLen
  if denom.eqv 0 || !denom.isFinite then (.degenerate, { q with oppositeTangents := aLen.dot bLen < 0 })
  else
    let q := { q with oppositeTangents := false }
    let ab0 := start - stop
    let numerA := bLen.cross ab0
    let numerB := aLen.cross ab0
    if (numerA ≥ 0) == (numerB ≥ 0) then
      let dist1 := ptToLine start stop q.tangentEnd
      let dist2 := ptToLine stop start q.tangentStart
      if dist1.max dist2 ≤ s.invResScaleSquared then (.degenerate, q) else (.split, q)
    else
      let numerA := numerA / denom
      if numerA > numerA - 1 then
        let q := if ctrl then
            let ctrlPt : Point := ⟨start.x * (1 - numerA) + q.tangentStart.x * numerA,
              start.y * (1 - numerA) + q.tangentStart.y * numerA⟩
            { q with quad := q.quad.set! 1 ctrlPt }
          else q
        (.quad, q)
      else (.degenerate, { q with oppositeTangents := aLen.dot bLen < 0 })

/-- Whether the approximation `stroke` passes close enough to the offset point `ray.1`. -/
def strokeCloseEnough (s : Stroker) (stroke : Array Point) (ray : Point × Point) (q : QuadConstruct) :
    Outcome :=
  let strokeMid := Curve.quadAt stroke 0.5
  if pointsWithinDist ray.1 strokeMid s.invResScale then
    if sharpAngle q.quad then .split else .quad
  else if !ptInQuadBounds stroke ray.1 s.invResScale then .split
  else
    match intersectQuadRay ray stroke with
    | [root] =>
      let quadPt := Curve.quadAt stroke root
      let error := s.invResScale * (1 - (root - 0.5).abs * 2)
      if pointsWithinDist ray.1 quadPt error then (if sharpAngle q.quad then .split else .quad)
      else .split
    | _ => .split

def compareQuadQuad (s : Stroker) (quad : Array Point) (q : QuadConstruct) : Outcome × QuadConstruct :=
  let q := if !q.startSet then
      let (_, onP, tan) := s.quadPerpRay quad q.startT
      { q with quad := q.quad.set! 0 onP, tangentStart := tan, startSet := true }
    else q
  let q := if !q.endSet then
      let (_, onP, tan) := s.quadPerpRay quad q.endT
      { q with quad := q.quad.set! 2 onP, tangentEnd := tan, endSet := true }
    else q
  let (r, q) := s.intersectRay true q
  if r != .quad then (r, q)
  else
    let (ray1, ray0, _) := s.quadPerpRay quad q.midT
    (s.strokeCloseEnough q.quad (ray0, ray1) q, q)

/-- Offsets one piece of a quadratic, splitting it while the approximation is not close enough;
false when the recursion runs too deep. -/
def quadStroke (quad : Array Point) : Nat → Stroker → QuadConstruct → Stroker × Bool
  | 0, s, _ => (s, false)
  | fuel + 1, s, q =>
    let (r, q) := s.compareQuadQuad quad q
    if r = .quad then (s.addQuad q, true)
    else if r = .degenerate then (s.addDegenerateLine q, true)
    else
      let s := { s with recursionDepth := s.recursionDepth + 1 }
      if s.recursionDepth > 33 then (s, false)
      else
        let (half, _) := q.withStart
        let (s, ok) := quadStroke quad fuel s half
        if !ok then (s, false)
        else
          let (half, _) := q.withEnd
          let (s, ok) := quadStroke quad fuel s half
          if !ok then (s, false) else ({ s with recursionDepth := s.recursionDepth - 1 }, true)

def cubicQuadEnds (s : Stroker) (c : Array Point) (q : QuadConstruct) : QuadConstruct :=
  let q := if !q.startSet then
      let (_, onP, tan) := s.cubicPerpRay c q.startT
      { q with quad := q.quad.set! 0 onP, tangentStart := tan, startSet := true }
    else q
  if !q.endSet then
    let (_, onP, tan) := s.cubicPerpRay c q.endT
    { q with quad := q.quad.set! 2 onP, tangentEnd := tan, endSet := true }
  else q

def compareQuadCubic (s : Stroker) (c : Array Point) (q : QuadConstruct) : Outcome × QuadConstruct :=
  let q := s.cubicQuadEnds c q
  let (r, q) := s.intersectRay true q
  if r != .quad then (r, q)
  else
    let (ray1, ray0, _) := s.cubicPerpRay c q.midT
    (s.strokeCloseEnough q.quad (ray0, ray1) q, q)

def cubicMidOnLine (s : Stroker) (c : Array Point) (q : QuadConstruct) : Bool :=
  let (_, strokeMid, _) := s.cubicPerpRay c q.midT
  ptToLine strokeMid q.quad[0]! q.quad[2]! < s.invResScaleSquared

/-- Offsets one piece of a cubic. Until the end tangents of a piece meet, pieces are split (or
drawn as lines when they lie on one); afterwards they are approximated as quadratics. -/
def cubicStroke (c : Array Point) : Nat → Stroker → QuadConstruct → Stroker × Bool
  | 0, s, _ => (s, false)
  | fuel + 1, s, q =>
    let (early, s, q) : Option (Stroker × Bool) × Stroker × QuadConstruct :=
      if !s.foundTangents then
        let q := s.cubicQuadEnds c q
        let (r, q) := s.intersectRay false q
        if r != .quad then
          let ok := pointsWithinDist q.quad[0]! q.quad[2]! s.invResScale
          if (r = .degenerate || ok) && s.cubicMidOnLine c q then (some (s.addDegenerateLine q, true), s, q)
          else (none, s, q)
        else (none, { s with foundTangents := true }, q)
      else (none, s, q)
    match early with
    | some res => res
    | none =>
      let (early, q) : Option (Stroker × Bool) × QuadConstruct :=
        if s.foundTangents then
          let (r, q) := s.compareQuadCubic c q
          if r = .quad then (some (s.addQuad q, true), q)
          else if r = .degenerate && !q.oppositeTangents then (some (s.addDegenerateLine q, true), q)
          else (none, q)
        else (none, q)
      match early with
      | some res => res
      | none =>
        if !q.quad[2]!.x.isFinite then (s, false)
        else
          let s := { s with recursionDepth := s.recursionDepth + 1 }
          let limit := if s.foundTangents then 78 else 15
          if s.recursionDepth > limit then (s, false)
          else
            let (half, ok) := q.withStart
            if !ok then ({ s.addDegenerateLine q with recursionDepth := s.recursionDepth - 1 }, true)
            else
              let (s, ok) := cubicStroke c fuel s half
              if !ok then (s, false)
              else
                let (half, ok) := q.withEnd
                if !ok then ({ s.addDegenerateLine q with recursionDepth := s.recursionDepth - 1 }, true)
                else
                  let (s, ok) := cubicStroke c fuel s half
                  if !ok then (s, false) else ({ s with recursionDepth := s.recursionDepth - 1 }, true)

/-- A line segment drawn with round joins, used for curves that degenerate to lines. -/
def lineToRound (s : Stroker) (p : Point) : Stroker :=
  let j := s.joiner
  { (({ s with joiner := .round } : Stroker).lineTo p) with joiner := j }

def quadTo (s : Stroker) (p1 p2 : Point) : Stroker :=
  let quad := #[s.prevPt, p1, p2]
  let (red, reduction) := checkQuadLinear quad
  match red with
  | .point | .line => s.lineTo p2
  | .degenerate | .degenerate2 | .degenerate3 => (s.lineTo reduction).lineToRound p2
  | .quad =>
    match s.preJoinTo p1 false with
    | none => s.lineTo p2
    | some (s, normalAB, unitAB) =>
      let (q, _) := QuadConstruct.init 0 1
      let s := { s with outerSide := true, foundTangents := false }
      let (s, _) := quadStroke quad 64 s q
      let (q, _) := QuadConstruct.init 0 1
      let s := { s with outerSide := false, foundTangents := false }
      let (s, _) := quadStroke quad 64 s q
      let (normalBC, unitBC) := (normals ((p2.x - p1.x) * s.resScale) ((p2.y - p1.y) * s.resScale) s.radius).getD (normalAB, unitAB)
      s.postJoinTo p2 normalBC unitBC

def cubicEndNormal (s : Stroker) (cubic : Array Point) (normalAB unitAB : Point) : Point × Point :=
  let ab := cubic[1]! - cubic[0]!
  let cd := cubic[3]! - cubic[2]!
  let degAB := degenerateVector ab
  let degCD := degenerateVector cd
  if degAB && degCD then (normalAB, unitAB)
  else
    let (ab, degAB) := if degAB then (cubic[2]! - cubic[0]!, degenerateVector (cubic[2]! - cubic[0]!)) else (ab, degAB)
    let (cd, degCD) := if degCD then (cubic[3]! - cubic[1]!, degenerateVector (cubic[3]! - cubic[1]!)) else (cd, degCD)
    let _ := ab
    if degAB || degCD then (normalAB, unitAB)
    else (normals cd.x cd.y s.radius).getD (normalAB, unitAB)

def cubicTo (s : Stroker) (p1 p2 p3 : Point) : Stroker :=
  let cubic := #[s.prevPt, p1, p2, p3]
  let (red, reduction, tangentPt) := checkCubicLinear cubic
  match red with
  | .point | .line => s.lineTo p3
  | .degenerate | .degenerate2 | .degenerate3 =>
    let s := s.lineTo reduction[0]!
    let s := if red != .degenerate then s.lineToRound reduction[1]! else s
    let s := if red = .degenerate3 then s.lineToRound reduction[2]! else s
    s.lineToRound p3
  | .quad =>
    match s.preJoinTo tangentPt false with
    | none => s.lineTo p3
    | some (s, normalAB, unitAB) =>
      let ts := Curve.cubicInflections cubic ++ [1]
      let (s, _) := ts.foldl (fun (s, lastT) nextT =>
        let (q, _) := QuadConstruct.init lastT nextT
        let s := { s with outerSide := true, foundTangents := false }
        let (s, _) := cubicStroke cubic 96 s q
        let (q, _) := QuadConstruct.init lastT nextT
        let s := { s with outerSide := false, foundTangents := false }
        let (s, _) := cubicStroke cubic 96 s q
        (s, nextT)) (s, (0 : Binary32))
      let (normalCD, unitCD) := s.cubicEndNormal cubic normalAB unitAB
      s.postJoinTo p3 normalCD unitCD

/-- A contour's segments, closing lines included, as the stroker takes them. -/
inductive Segment where
  | moveTo (p : Point)
  | lineTo (p : Point)
  | quadTo (p1 p2 : Point)
  | cubicTo (p1 p2 p3 : Point)
  | close
  deriving Repr

/-- The segments of a path; a close after a contour that does not end at its start is preceded
by the line back to it. -/
def segments (path : Path) : List Segment :=
  let rec go (verbs : List PathVerb) (i : Nat) (moveTo last : Point) (acc : Array Segment) : Array Segment :=
    match verbs with
    | [] => acc
    | .move :: rest => let p := path.points[i]!; go rest (i + 1) p p (acc.push (.moveTo p))
    | .line :: rest => let p := path.points[i]!; go rest (i + 1) moveTo p (acc.push (.lineTo p))
    | .quad :: rest =>
      let p2 := path.points[i + 1]!
      go rest (i + 2) moveTo p2 (acc.push (.quadTo path.points[i]! p2))
    | .cubic :: rest =>
      let p3 := path.points[i + 2]!
      go rest (i + 3) moveTo p3 (acc.push (.cubicTo path.points[i]! path.points[i + 1]! p3))
    | .close :: rest =>
      let acc := if !last.eqv moveTo then acc.push (.lineTo moveTo) else acc
      go rest i moveTo moveTo (acc.push .close)
  (go path.verbs.toList 0 Point.zero Point.zero #[]).toList

end Stroker

/-- The outline of a path stroked with butt caps and miter joins; none for a non-positive width
or an outline without segments. -/
def Path.stroke (path : Path) (width miterLimit resScale : Binary32) : Option Path :=
  if !(width > 0 && width.isFinite) then none
  else
    let invMiter : Binary32 := if miterLimit ≤ 1 then 0 else 1 / miterLimit
    let invRes := 1 / (resScale * 4)
    let s0 : Stroker :=
      { radius := width.half, invMiterLimit := invMiter, resScale,
        invResScale := invRes, invResScaleSquared := invRes * invRes }
    let (s, lastIsLine) := (Stroker.segments path).foldl (fun (s, lastIsLine) seg =>
      match seg with
      | .moveTo p => (s.moveTo p, lastIsLine)
      | .lineTo p => (s.lineTo p, true)
      | .quadTo p1 p2 => (s.quadTo p1 p2, false)
      | .cubicTo p1 p2 p3 => (s.cubicTo p1 p2 p3, false)
      | .close => (s.finishContour true lastIsLine, lastIsLine)) (s0, false)
    (s.finishContour false lastIsLine).outer.finish

end GlyphCanvas
