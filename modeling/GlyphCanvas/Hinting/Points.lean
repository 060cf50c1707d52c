import GlyphCanvas.Font.Outline
import GlyphCanvas.Hinting.Arith

namespace GlyphCanvas.Hinting

/-- The direction of an outline vector; `none` when it is not close to an axis. -/
inductive Direction where
  | none
  | right
  | left
  | up
  | down
  deriving DecidableEq, Repr, Inhabited

namespace Direction

/-- Whether two directions are exactly opposite (`none` is opposite to nothing). -/
def opposes : Direction → Direction → Bool
  | .right, .left | .left, .right | .up, .down | .down, .up => true
  | _, _ => false

/-- The axis a direction runs along: horizontal directions give `true`. -/
def isHorizontal : Direction → Bool
  | .right | .left => true
  | _ => false

def isVertical : Direction → Bool
  | .up | .down => true
  | _ => false

/-- The direction of a vector, or `none` when its shorter leg is more than a fourteenth of the
longer one (about four degrees off the axis). -/
def ofVector (dx dy : Int) : Direction :=
  let (dir, long, short) :=
    if dy ≥ dx then
      if dy ≥ -dx then (Direction.up, dy, dx) else (Direction.left, -dx, dy)
    else
      if dy ≥ -dx then (Direction.right, dx, dy) else (Direction.down, -dy, dx)
  if long ≤ 14 * short.natAbs then .none else dir

end Direction

/-- The two axes of the outline: `x` positions are fitted along vertical edges, `y` positions
along horizontal ones. -/
inductive Axis where
  | x
  | y
  deriving DecidableEq, Repr, Inhabited

/-- A point of the outline being hinted. -/
structure HintPoint where
  fx : Int
  fy : Int
  ox : Int
  oy : Int
  x : Int
  y : Int
  control : Bool
  weak : Bool := false
  touchedX : Bool := false
  touchedY : Bool := false
  inDir : Direction := .none
  outDir : Direction := .none
  prev : Nat
  next : Nat
  /-- The next point that is not near this one. -/
  farNext : Nat
  /-- The previous point that is not near this one. -/
  farPrev : Nat
  deriving Repr, Inhabited

namespace HintPoint

/-- Font-unit position across an axis' edges (`u`) and along them (`v`). -/
def fu (p : HintPoint) : Axis → Int
  | .x => p.fx
  | .y => p.fy

def fv (p : HintPoint) : Axis → Int
  | .x => p.fy
  | .y => p.fx

/-- Scaled, unfitted position on an axis. -/
def orig (p : HintPoint) : Axis → Int
  | .x => p.ox
  | .y => p.oy

/-- Current position on an axis. -/
def cur (p : HintPoint) : Axis → Int
  | .x => p.x
  | .y => p.y

def touched (p : HintPoint) : Axis → Bool
  | .x => p.touchedX
  | .y => p.touchedY

/-- Moves a point on an axis and marks it touched there. -/
def place (p : HintPoint) (a : Axis) (v : Int) : HintPoint :=
  match a with
  | .x => { p with x := v, touchedX := true }
  | .y => { p with y := v, touchedY := true }

end HintPoint

/-- An outline prepared for hinting. -/
structure HintOutline where
  points : Array HintPoint
  /-- First and last point of every contour. -/
  contours : Array (Nat × Nat)
  /-- Whether the outer contours run counter-clockwise. -/
  counterClockwise : Bool
  deriving Repr, Inhabited

namespace HintOutline

/-- The direction of a stem's first side on an axis. -/
def majorDir (h : HintOutline) : Axis → Direction
  | .x => if h.counterClockwise then .down else .up
  | .y => if h.counterClockwise then .right else .left

def pt (h : HintOutline) (i : Nat) : HintPoint := h.points[i]!

def modify (h : HintOutline) (i : Nat) (f : HintPoint → HintPoint) : HintOutline :=
  { h with points := h.points.modify i f }

end HintOutline

/-- Whether the contours wind counter-clockwise, by the signed area of their control polygons
(coordinates are first shifted down to fifteen significant bits). Outlines that are flat in
either direction, or reach beyond 2^24, count as clockwise. -/
def windsCounterClockwise (o : GlyphOutline) : Bool :=
  let pts := o.points
  if pts.isEmpty then false
  else
    let xs := pts.map (·.x)
    let ys := pts.map (·.y)
    let xmin := xs.foldl min xs[0]!
    let xmax := xs.foldl max xs[0]!
    let ymin := ys.foldl min ys[0]!
    let ymax := ys.foldl max ys[0]!
    if xmin = xmax ∨ ymin = ymax then false
    else if xmin < -0x1000000 ∨ ymin < -0x1000000 ∨ xmax > 0x1000000 ∨ ymax > 0x1000000 then false
    else
      let shift (lo hi : Int) : Nat := Nat.log2 (lo.natAbs ||| hi.natAbs) - 14
      let sx : Int := Int.pow 2 (shift xmin xmax)
      let sy : Int := Int.pow 2 (shift ymin ymax)
      let area := o.contours.foldl (fun acc c =>
        let last := c.back!
        let (a, _, _) := c.foldl (fun (s : Int × Int × Int) p =>
          let (x, y) := (p.x / sx, p.y / sy)
          (s.1 + (y - s.2.2) * (x + s.2.1), x, y)) (0, last.x / sx, last.y / sy)
        acc + a) (0 : Int)
      area > 0

/-- The points of an outline, scaled, with their neighbours and nothing else set yet. -/
def HintOutline.points0 (o : GlyphOutline) (xScale yScale : Int) : Array HintPoint × Array (Nat × Nat) :=
  o.contours.foldl (fun (acc : Array HintPoint × Array (Nat × Nat)) contour =>
    let start := acc.1.size
    let last := start + contour.size - 1
    let pts := (List.range contour.size).foldl (fun ps k =>
      let p := contour[k]!
      let i := start + k
      ps.push { fx := p.x, fy := p.y, ox := mulFix p.x xScale, oy := mulFix p.y yScale,
                x := mulFix p.x xScale, y := mulFix p.y yScale, control := !p.onCurve,
                prev := if k = 0 then last else i - 1, next := if i = last then start else i + 1,
                farNext := i, farPrev := i }) acc.1
    (pts, acc.2.push (start, last))) (#[], #[])

/-- The contour's starting point moved back over points near their predecessor. -/
def HintOutline.farStart (h : HintOutline) (first : Nat) (limit : Int) : Nat :=
  let rec go : Nat → Nat → Nat
    | 0, point => point
    | fuel + 1, point =>
      let prev := (h.pt point).prev
      if prev = first then point
      else
        let a := h.pt point
        let b := h.pt prev
        if (a.fx - b.fx).natAbs + (a.fy - b.fy).natAbs ≥ limit then point
        else go fuel prev
  go h.points.size first

/-- Sets the in and out directions along one contour, merging runs of near points. -/
def HintOutline.contourDirections (h : HintOutline) (first : Nat) (nearLimit : Int) : HintOutline :=
  let h := h.modify first fun p => { p with farNext := first, farPrev := first }
  let rec go : Nat → HintOutline → Nat → Nat → Int → Int → HintOutline
    | 0, h, _, _, _, _ => h
    | fuel + 1, h, curr, point, outX, outY =>
      let next := (h.pt point).next
      let outX := outX + ((h.pt next).fx - (h.pt point).fx)
      let outY := outY + ((h.pt next).fy - (h.pt point).fy)
      if outX.natAbs + outY.natAbs < nearLimit then
        let h := h.modify next fun p => { p with weak := true }
        if next = first then h else go fuel h curr next outX outY
      else
        let dir := Direction.ofVector outX outY
        let h := h.modify curr fun p => { p with farNext := next, outDir := dir }
        let h := h.modify next fun p => { p with farPrev := curr, inDir := dir }
        let rec inner : Nat → HintOutline → Nat → HintOutline
          | 0, h, _ => h
          | f + 1, h, c => if c = next then h
            else inner f (h.modify c fun p => { p with inDir := dir, outDir := dir }) (h.pt c).next
        let h := inner h.points.size h (h.pt curr).next
        let h := h.modify next fun p => { p with farNext := first }
        let h := h.modify first fun p => { p with farPrev := next }
        if next = first then h else go fuel h next next 0 0
  go (h.points.size + 1) h first first 0 0

/-- Marks as weak the points between two vectors into the same quadrant, relinking around them. -/
def HintOutline.mergeQuadrants (h : HintOutline) : HintOutline :=
  (List.range h.points.size).foldl (fun h i =>
    let p := h.pt i
    if p.weak || p.inDir != .none || p.outDir != .none then h
    else
      let nu := h.pt p.farNext
      let pv := h.pt p.farPrev
      let inX := p.fx - pv.fx
      let inY := p.fy - pv.fy
      let outX := nu.fx - p.fx
      let outY := nu.fy - p.fy
      if (inX ≥ 0) == (outX ≥ 0) && (inY ≥ 0) == (outY ≥ 0) then
        let (n, v) := (p.farNext, p.farPrev)
        let h := h.modify i fun q => { q with weak := true }
        let h := h.modify v fun q => { q with farNext := n }
        h.modify n fun q => { q with farPrev := v }
      else h) h

/-- Marks the remaining weak points: control points, inner points of straight runs, flat corners
(relinking around them) and spikes. -/
def HintOutline.markWeak (h : HintOutline) : HintOutline :=
  (List.range h.points.size).foldl (fun h i =>
    let p := h.pt i
    if p.weak then h
    else if p.control then h.modify i fun q => { q with weak := true }
    else if p.outDir == p.inDir then
      if p.outDir != .none then h.modify i fun q => { q with weak := true }
      else
        let nu := h.pt p.farNext
        let pv := h.pt p.farPrev
        if cornerIsFlat (p.fx - pv.fx) (p.fy - pv.fy) (nu.fx - p.fx) (nu.fy - p.fy) then
          let (n, v) := (p.farNext, p.farPrev)
          let h := h.modify v fun q => { q with farNext := n }
          let h := h.modify n fun q => { q with farPrev := v }
          h.modify i fun q => { q with weak := true }
        else h
    else if p.inDir.opposes p.outDir then h.modify i fun q => { q with weak := true }
    else h) h

/-- Prepares an outline for hinting at the given scales. -/
def HintOutline.load (o : GlyphOutline) (unitsPerEm : Nat) (xScale yScale : Int) : HintOutline :=
  let (points, contours) := HintOutline.points0 o xScale yScale
  let h : HintOutline := ⟨points, contours, windsCounterClockwise o⟩
  let nearLimit : Int := 20 * unitsPerEm / 2048
  let h := contours.foldl (fun h (first, _) =>
    h.contourDirections (h.farStart first (2 * nearLimit - 1)) nearLimit) h
  h.mergeQuadrants.markWeak

end GlyphCanvas.Hinting
