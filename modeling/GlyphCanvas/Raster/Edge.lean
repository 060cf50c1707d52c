import GlyphCanvas.Raster.Path
import GlyphCanvas.Raster.Curve

namespace GlyphCanvas

namespace Fix32

/-- Wraps to a signed 32-bit value. -/
def wrap (v : Int) : Int :=
  let m := v % 4294967296
  if m ≥ 2147483648 then m - 4294967296 else m

/-- `v << s` on 32 bits. -/
def shl (v : Int) (s : Nat) : Int := wrap (v * Int.pow 2 s)

def sar (v : Int) (s : Nat) : Int := v >>> s

def clampI32 (v : Int) : Int := max (-2147483648) (min 2147483647 v)

/-- Bits needed for a non-negative value: `32 - leading zeros`. -/
def bitLength (v : Int) : Nat := if v ≤ 0 then (if v < 0 then 32 else 0) else v.toNat.log2 + 1

end Fix32

namespace FDot6

/-- A coordinate in 26.6 fixed point: times 64, truncated, saturating. -/
def ofCoord (v : Binary32) : Int := (v * 64).toInt32

/-- The pixel row or column whose centre a 26.6 value rounds to. -/
def round (n : Int) : Int := Fix32.sar (n + 32) 6

def toFDot16 (n : Int) : Int := Fix32.shl n 10

/-- The 16.16 quotient of two 26.6 values. -/
def div (a b : Int) : Int :=
  if -32768 ≤ a ∧ a ≤ 32767 then (Fix32.shl a 16).tdiv b
  else Fix32.clampI32 ((a * 65536).tdiv b)

/-- From the start of a row's centre to the edge's start, in 26.6. -/
def computeDy (top y0 : Int) : Int := Fix32.shl top 6 + 32 - y0

end FDot6

/-- The product of two 16.16 values. -/
def FDot16.mul (a b : Int) : Int := Fix32.wrap (Fix32.sar (a * b) 16)

/-- One step of an edge: the abscissa at the current row (16.16), its change per row, the first
and last rows covered, and the winding direction. -/
structure LineEdge where
  x : Int
  dx : Int
  firstY : Int
  lastY : Int
  winding : Int
  deriving Repr, Inhabited

namespace LineEdge

/-- The line between two 26.6 points, oriented downwards; none when it covers no row. -/
def ofFDot6 (x0 y0 x1 y1 winding : Int) : Option LineEdge :=
  let (x0, y0, x1, y1, winding) := if y0 > y1 then (x1, y1, x0, y0, -winding) else (x0, y0, x1, y1, winding)
  let top := FDot6.round y0
  let bottom := FDot6.round y1
  if top = bottom then none
  else
    let slope := FDot6.div (x1 - x0) (y1 - y0)
    let dy := FDot6.computeDy top y0
    some ⟨FDot6.toFDot16 (x0 + FDot16.mul slope dy), slope, top, bottom - 1, winding⟩

/-- The line edge between two points. -/
def new (p0 p1 : Point) : Option LineEdge :=
  ofFDot6 (FDot6.ofCoord p0.x) (FDot6.ofCoord p0.y) (FDot6.ofCoord p1.x) (FDot6.ofCoord p1.y) 1

def isVertical (e : LineEdge) : Bool := e.dx == 0

/-- Moves the edge onto the piece between two 16.16 points, keeping its winding; none when the
piece covers no row. -/
def update (e : LineEdge) (x0 y0 x1 y1 : Int) : Option LineEdge :=
  let (x0, y0, x1, y1) := if y0 > y1 then (x1, y1, x0, y0) else (x0, y0, x1, y1)
  let y0 := Fix32.sar y0 10
  let y1 := Fix32.sar y1 10
  let top := FDot6.round y0
  let bottom := FDot6.round y1
  if top = bottom then none
  else
    let x0 := Fix32.sar x0 10
    let x1 := Fix32.sar x1 10
    let slope := FDot6.div (x1 - x0) (y1 - y0)
    let dy := FDot6.computeDy top y0
    some { e with x := FDot6.toFDot16 (x0 + FDot16.mul slope dy), dx := slope, firstY := top,
                  lastY := bottom - 1 }

end LineEdge

/-- `max + min/2` of the magnitudes: a cheap stand-in for the length of `(dx, dy)`. -/
def cheapDistance (dx dy : Int) : Int :=
  let dx := dx.natAbs
  let dy := dy.natAbs
  if dx > dy then dx + dy / 2 else dy + dx / 2

/-- How many halvings bring a curve's deviation `(dx, dy)` (26.6) under an eighth of a pixel. -/
def diffToShift (dx dy : Int) (shiftAA : Nat) : Nat :=
  let dist := Fix32.sar (cheapDistance dx dy + 16) (3 + shiftAA)
  Fix32.bitLength dist / 2

/-- The deviation of a cubic's control values from its chord, estimated at a third and two
thirds. -/
def cubicDeltaFromLine (a b c d : Int) : Int :=
  let oneThird := Fix32.sar ((a * 8 - b * 15 + 6 * c + d) * 19) 9
  let twoThird := Fix32.sar ((a + 6 * b - c * 15 + d * 8) * 19) 9
  max oneThird.natAbs twoThird.natAbs

/-- The forward-difference state of a quadratic edge. -/
structure QuadSteps where
  count : Int
  shift : Nat
  qx : Int
  qy : Int
  qdx : Int
  qdy : Int
  qddx : Int
  qddy : Int
  lastX : Int
  lastY : Int
  deriving Repr, Inhabited

/-- The forward-difference state of a cubic edge; `count` runs up from `-2^shift` to zero. -/
structure CubicSteps where
  count : Int
  shift : Nat
  dshift : Nat
  cx : Int
  cy : Int
  cdx : Int
  cdy : Int
  cddx : Int
  cddy : Int
  cdddx : Int
  cdddy : Int
  lastX : Int
  lastY : Int
  deriving Repr, Inhabited

/-- How an edge continues after its current piece. -/
inductive EdgeCurve where
  | line
  | quad (q : QuadSteps)
  | cubic (c : CubicSteps)
  deriving Repr, Inhabited

/-- An edge: the current line piece and what follows it. -/
structure Edge where
  line : LineEdge
  curve : EdgeCurve
  deriving Repr, Inhabited

namespace QuadSteps

/-- Advances to the next piece that covers a row, or to the end of the curve. -/
def update (line : LineEdge) (q : QuadSteps) : Bool × LineEdge × QuadSteps :=
  let rec go : Nat → Int → Int → Int → Int → Int → LineEdge → Bool × LineEdge × QuadSteps
    | 0, count, oldx, oldy, dx, dy, line =>
      (false, line, { q with count, qx := oldx, qy := oldy, qdx := dx, qdy := dy })
    | fuel + 1, count, oldx, oldy, dx, dy, line =>
      let count := count - 1
      let (newx, newy, dx, dy) :=
        if count > 0 then (oldx + Fix32.sar dx q.shift, oldy + Fix32.sar dy q.shift, dx + q.qddx, dy + q.qddy)
        else (q.lastX, q.lastY, dx, dy)
      match line.update oldx oldy newx newy with
      | some l => (true, l, { q with count, qx := newx, qy := newy, qdx := dx, qdy := dy })
      | none =>
        if count = 0 then (false, line, { q with count, qx := newx, qy := newy, qdx := dx, qdy := dy })
        else go fuel count newx newy dx dy line
  go (q.count.toNat + 1) q.count q.qx q.qy q.qdx q.qdy line

end QuadSteps

namespace CubicSteps

/-- Advances to the next piece that covers a row, or to the end of the curve. -/
def update (line : LineEdge) (c : CubicSteps) : Bool × LineEdge × CubicSteps :=
  let rec go : Nat → CubicSteps → Int → Int → LineEdge → Bool × LineEdge × CubicSteps
    | 0, c, oldx, oldy, line => (false, line, { c with cx := oldx, cy := oldy })
    | fuel + 1, c, oldx, oldy, line =>
      let count := c.count + 1
      let (newx, newy, c) :=
        if count < 0 then
          let newx := oldx + Fix32.sar c.cdx c.dshift
          let newy := oldy + Fix32.sar c.cdy c.dshift
          (newx, newy, { c with count, cdx := c.cdx + Fix32.sar c.cddx c.shift, cddx := c.cddx + c.cdddx,
                                cdy := c.cdy + Fix32.sar c.cddy c.shift, cddy := c.cddy + c.cdddy })
        else (c.lastX, c.lastY, { c with count })
      -- the fixed-point steps may overshoot upwards; pin them
      let newy := if newy < oldy then oldy else newy
      match line.update oldx oldy newx newy with
      | some l => (true, l, { c with cx := newx, cy := newy })
      | none =>
        if count = 0 then (false, line, { c with cx := newx, cy := newy })
        else go fuel c newx newy line
  go ((-c.count).toNat + 1) c c.cx c.cy line

end CubicSteps

namespace Edge

/-- The quadratic edge of a monotone quadratic; none when it covers no row. -/
def quad (pts : Array Point) : Option Edge :=
  let x0 := FDot6.ofCoord pts[0]!.x; let y0 := FDot6.ofCoord pts[0]!.y
  let x1 := FDot6.ofCoord pts[1]!.x; let y1 := FDot6.ofCoord pts[1]!.y
  let x2 := FDot6.ofCoord pts[2]!.x; let y2 := FDot6.ofCoord pts[2]!.y
  let (x0, y0, x2, y2, winding) : Int × Int × Int × Int × Int :=
    if y0 > y2 then (x2, y2, x0, y0, -1) else (x0, y0, x2, y2, 1)
  let top := FDot6.round y0
  let bottom := FDot6.round y2
  if top = bottom then none
  else
    let dx := Fix32.sar (Fix32.shl x1 1 - x0 - x2) 2
    let dy := Fix32.sar (Fix32.shl y1 1 - y0 - y2) 2
    let shift := diffToShift dx dy 0
    let shift := if shift = 0 then 1 else min shift 6
    let ax := Fix32.shl (x0 - x1 - x1 + x2) 9
    let bx := Fix32.shl (x1 - x0) 10
    let ay := Fix32.shl (y0 - y1 - y1 + y2) 9
    let by_ := Fix32.shl (y1 - y0) 10
    let q : QuadSteps :=
      { count := Int.pow 2 shift, shift := shift - 1,
        qx := FDot6.toFDot16 x0, qy := FDot6.toFDot16 y0,
        qdx := bx + Fix32.sar ax shift, qdy := by_ + Fix32.sar ay shift,
        qddx := Fix32.sar ax (shift - 1), qddy := Fix32.sar ay (shift - 1),
        lastX := FDot6.toFDot16 x2, lastY := FDot6.toFDot16 y2 }
    let line : LineEdge := ⟨0, 0, 0, 0, winding⟩
    match q.update line with
    | (true, line, q) => some ⟨line, .quad q⟩
    | _ => none

/-- The cubic edge of a cubic monotone in y; none when it covers no row. -/
def cubic (pts : Array Point) : Option Edge :=
  let c (i : Nat) : Int × Int := (FDot6.ofCoord pts[i]!.x, FDot6.ofCoord pts[i]!.y)
  let ((x0, y0), (x1, y1), (x2, y2), (x3, y3)) := (c 0, c 1, c 2, c 3)
  let (x0, y0, x1, y1, x2, y2, x3, y3, winding) : Int × Int × Int × Int × Int × Int × Int × Int × Int :=
    if y0 > y3 then (x3, y3, x2, y2, x1, y1, x0, y0, -1) else (x0, y0, x1, y1, x2, y2, x3, y3, 1)
  let top := FDot6.round y0
  let bottom := FDot6.round y3
  if top = bottom then none
  else
    let dx := cubicDeltaFromLine x0 x1 x2 x3
    let dy := cubicDeltaFromLine y0 y1 y2 y3
    let shift := min (diffToShift dx dy 2 + 1) 6
    let (upShift, downShift) : Nat × Nat := if shift + 6 < 10 then (10 - shift, 0) else (6, shift + 6 - 10)
    let coeffs (v0 v1 v2 v3 : Int) : Int × Int × Int × Int :=
      let b := Fix32.shl (3 * (v1 - v0)) upShift
      let c := Fix32.shl (3 * (v0 - v1 - v1 + v2)) upShift
      let d := Fix32.shl (v3 + 3 * (v1 - v2) - v0) upShift
      (b + Fix32.sar c shift + Fix32.sar d (2 * shift), 2 * c + Fix32.sar (3 * d) (shift - 1),
       Fix32.sar (3 * d) (shift - 1), 0)
    let (cdx, cddx, cdddx, _) := coeffs x0 x1 x2 x3
    let (cdy, cddy, cdddy, _) := coeffs y0 y1 y2 y3
    let cs : CubicSteps :=
      { count := -(Int.pow 2 shift), shift, dshift := downShift,
        cx := FDot6.toFDot16 x0, cy := FDot6.toFDot16 y0, cdx, cdy, cddx, cddy, cdddx, cdddy,
        lastX := FDot6.toFDot16 x3, lastY := FDot6.toFDot16 y3 }
    let line : LineEdge := ⟨0, 0, 0, 0, winding⟩
    match cs.update line with
    | (true, line, cs) => some ⟨line, .cubic cs⟩
    | _ => none

/-- Moves a curve edge to its next piece; false when the curve is exhausted. -/
def advance (e : Edge) : Bool × Edge :=
  match e.curve with
  | .line => (false, e)
  | .quad q =>
    if q.count > 0 then
      let (ok, line, q) := q.update e.line
      (ok, ⟨line, .quad q⟩)
    else (false, e)
  | .cubic c =>
    if c.count < 0 then
      let (ok, line, c) := c.update e.line
      (ok, ⟨line, .cubic c⟩)
    else (false, e)

end Edge

/-- How a new vertical line edge merges with the previous one. -/
inductive Combine where
  | no
  | merged (e : LineEdge)
  | total

/-- Merges a vertical edge into the previous vertical edge at the same abscissa: pieces that
continue each other in one direction join, and overlapping pieces of opposite direction cancel. -/
def combineVertical (edge last : LineEdge) : Combine :=
  if last.dx != 0 || edge.x != last.x then .no
  else if edge.winding = last.winding then
    if edge.lastY + 1 = last.firstY then .merged { last with firstY := edge.firstY }
    else if edge.firstY = last.lastY + 1 then .merged { last with lastY := edge.lastY }
    else .no
  else if edge.firstY = last.firstY then
    if edge.lastY = last.lastY then .total
    else if edge.lastY < last.lastY then .merged { last with firstY := edge.lastY + 1 }
    else .merged { last with firstY := last.lastY + 1, lastY := edge.lastY, winding := edge.winding }
  else if edge.lastY = last.lastY then
    if edge.firstY > last.firstY then .merged { last with lastY := edge.firstY - 1 }
    else .merged { last with lastY := last.firstY - 1, firstY := edge.firstY, winding := edge.winding }
  else .no

namespace EdgeList

/-- Adds the edge of a line, merging vertical runs. -/
def pushLine (edges : Array Edge) (p0 p1 : Point) : Array Edge :=
  match LineEdge.new p0 p1 with
  | none => edges
  | some e =>
    let combine : Combine :=
      if e.isVertical then
        match edges.back? with
        | some ⟨last, .line⟩ => combineVertical e last
        | _ => .no
      else .no
    match combine with
    | .total => edges.pop
    | .merged m => edges.set! (edges.size - 1) ⟨m, .line⟩
    | .no => edges.push ⟨e, .line⟩

def pushQuad (edges : Array Edge) (pts : Array Point) : Array Edge :=
  match Edge.quad pts with
  | some e => edges.push e
  | none => edges

def pushCubic (edges : Array Edge) (pts : Array Point) : Array Edge :=
  match Edge.cubic pts with
  | some e => edges.push e
  | none => edges

/-- The edges of a path inside the pixmap: each quadratic and cubic split at its extrema in y. -/
def ofPath (path : Path) : Array Edge :=
  path.edges.foldl (fun edges pe =>
    match pe with
    | .line p0 p1 => pushLine edges p0 p1
    | .quad p0 p1 p2 =>
      let mono := Curve.chopQuadAtExtrema true #[p0, p1, p2]
      if mono.size = 5 then pushQuad (pushQuad edges (mono.extract 0 3)) (mono.extract 2 5)
      else pushQuad edges mono
    | .cubic p0 p1 p2 p3 =>
      let mono := Curve.chopCubicAtExtrema true #[p0, p1, p2, p3]
      (List.range ((mono.size - 1) / 3)).foldl (fun edges i => pushCubic edges (mono.extract (3 * i) (3 * i + 4))) edges)
    #[]

/-- The edges of already clipped segments; none when a point is not finite. -/
def ofClipped (segments : List PathEdge) : Option (Array Edge) :=
  segments.foldlM (fun edges pe =>
    match pe with
    | .line p0 p1 => if p0.isFinite && p1.isFinite then some (pushLine edges p0 p1) else none
    | .quad p0 p1 p2 =>
      if p0.isFinite && p1.isFinite && p2.isFinite then some (pushQuad edges #[p0, p1, p2]) else none
    | .cubic p0 p1 p2 p3 =>
      if p0.isFinite && p1.isFinite && p2.isFinite && p3.isFinite then some (pushCubic edges #[p0, p1, p2, p3])
      else none) #[]

end EdgeList

end GlyphCanvas
