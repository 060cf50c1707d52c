import GlyphCanvas.Raster.Path
import GlyphCanvas.Raster.Curve
import GlyphCanvas.Raster.Cubic64

namespace GlyphCanvas

namespace Clip

/-- `value` pinned between two limits given in either order. -/
def pinUnsorted (value l0 l1 : Binary32) : Binary32 :=
  let (lo, hi) := if l1 < l0 then (l1, l0) else (l0, l1)
  if value < lo then lo else if value > hi then hi else value

def pinUnsorted64 (value l0 l1 : Binary64) : Binary64 :=
  let (lo, hi) := if l1 < l0 then (l1, l0) else (l0, l1)
  if value < lo then lo else if value > hi then hi else value

/-- The abscissa where the line through `p0, p1` meets the horizontal at `y`, in double
precision and pinned between the ends. -/
def sectWithHorizontal (p0 p1 : Point) (y : Binary32) : Binary32 :=
  if (p0.y - p1.y).isNearlyZero then p0.x.ave p1.x
  else
    let x0 := p0.x.toBinary64; let y0 := p0.y.toBinary64
    let x1 := p1.x.toBinary64; let y1 := p1.y.toBinary64
    (pinUnsorted64 (x0 + (y.toBinary64 - y0) * (x1 - x0) / (y1 - y0)) x0 x1).toBinary32

/-- The ordinate where the line through `p0, p1` meets the vertical at `x`. -/
def sectWithVertical (p0 p1 : Point) (x : Binary32) : Binary32 :=
  if (p1.x - p0.x).isNearlyZero then p0.y.ave p1.y
  else
    let x0 := p0.x.toBinary64; let y0 := p0.y.toBinary64
    let x1 := p1.x.toBinary64; let y1 := p1.y.toBinary64
    (y0 + (x.toBinary64 - x0) * (y1 - y0) / (x1 - x0)).toBinary32

def sectClampWithVertical (p0 p1 : Point) (x : Binary32) : Binary32 :=
  pinUnsorted (sectWithVertical p0 p1 x) p0.y p1.y

/-- Clips a line: the polyline (up to four points) that replaces it, in its own direction. -/
def line (p0 p1 : Point) (clip : Rect) : List Point :=
  let (lo, hi) := if p0.y < p1.y then (p0, p1) else (p1, p0)
  if hi.y ≤ clip.top || lo.y ≥ clip.bottom then []
  else
    -- chop in y; `first` is the end with the smaller ordinate
    let firstIsP0 := p0.y < p1.y
    let setEnd (pts : Point × Point) (atFirst : Bool) (q : Point) : Point × Point :=
      if atFirst == firstIsP0 then (q, pts.2) else (pts.1, q)
    let tmp := (p0, p1)
    let tmp := if lo.y < clip.top then setEnd tmp true ⟨sectWithHorizontal p0 p1 clip.top, clip.top⟩ else tmp
    let hiNow := if firstIsP0 then tmp.2 else tmp.1
    let tmp := if hiNow.y > clip.bottom then setEnd tmp false ⟨sectWithHorizontal p0 p1 clip.bottom, clip.bottom⟩ else tmp
    -- chop in x
    let (left, right, reverse) := if p0.x < p1.x then (tmp.1, tmp.2, false) else (tmp.2, tmp.1, true)
    if right.x ≤ clip.left then [⟨clip.left, tmp.1.y⟩, ⟨clip.left, tmp.2.y⟩]
    else if left.x ≥ clip.right then [⟨clip.right, tmp.1.y⟩, ⟨clip.right, tmp.2.y⟩]
    else
      let startPts : List Point :=
        if left.x < clip.left then [⟨clip.left, left.y⟩, ⟨clip.left, sectClampWithVertical tmp.1 tmp.2 clip.left⟩]
        else [left]
      let endPts : List Point :=
        if right.x > clip.right then [⟨clip.right, sectClampWithVertical tmp.1 tmp.2 clip.right⟩, ⟨clip.right, right.y⟩]
        else [right]
      let pts := startPts ++ endPts
      if reverse then pts.reverse else pts

/-- The segments of a clipped polyline. -/
def polylineEdges : List Point → List PathEdge
  | a :: b :: rest => .line a b :: polylineEdges (b :: rest)
  | _ => []

/-- A vertical line on a side of the clip, oriented as `reverse` says. -/
def vline (x y0 y1 : Binary32) (reverse : Bool) : PathEdge :=
  if reverse then .line ⟨x, y1⟩ ⟨x, y0⟩ else .line ⟨x, y0⟩ ⟨x, y1⟩

def quadEdge (pts : Array Point) (reverse : Bool) : PathEdge :=
  if reverse then .quad pts[2]! pts[1]! pts[0]! else .quad pts[0]! pts[1]! pts[2]!

def cubicEdge (pts : Array Point) (reverse : Bool) : PathEdge :=
  if reverse then .cubic pts[3]! pts[2]! pts[1]! pts[0]! else .cubic pts[0]! pts[1]! pts[2]! pts[3]!

/-- The points in order of increasing y (reversed when the last is above the first). -/
def sortIncreasingY (pts : Array Point) : Array Point × Bool :=
  if pts[0]!.y > pts[pts.size - 1]!.y then (pts.reverse, true) else (pts, false)

/-- The first parameter where a monotone quadratic coordinate reaches `target`. -/
def chopMonoQuadAt (c0 c1 c2 target : Binary32) : Option Binary32 :=
  let a := c0 - c1 - c1 + c2
  let b := 2 * (c1 - c0)
  let c := c0 - target
  (Curve.unitQuadRoots a b c).head?

def setY (p : Point) (y : Binary32) : Point := { p with y }
def setX (p : Point) (x : Binary32) : Point := { p with x }

/-- Cuts a monotone quadratic (ascending in y) to the clip's rows. -/
def quadInY (clip : Rect) (pts : Array Point) : Array Point :=
  let pts :=
    if pts[0]!.y < clip.top then
      match chopMonoQuadAt pts[0]!.y pts[1]!.y pts[2]!.y clip.top with
      | some t =>
        let tmp := Curve.chopQuadAt pts t
        #[setY tmp[2]! clip.top, setY tmp[3]! (tmp[3]!.y.max clip.top), pts[2]!]
      | none => pts.map fun p => if p.y < clip.top then setY p clip.top else p
    else pts
  if pts[2]!.y > clip.bottom then
    match chopMonoQuadAt pts[0]!.y pts[1]!.y pts[2]!.y clip.bottom with
    | some t =>
      let tmp := Curve.chopQuadAt pts t
      #[pts[0]!, setY tmp[1]! (tmp[1]!.y.min clip.bottom), setY tmp[2]! clip.bottom]
    | none => pts.map fun p => if p.y > clip.bottom then setY p clip.bottom else p
  else pts

/-- Clips a quadratic monotone in both coordinates. -/
def monoQuad (clip : Rect) (src : Array Point) : List PathEdge :=
  let (pts, reverse) := sortIncreasingY src
  if pts[2]!.y ≤ clip.top || pts[0]!.y ≥ clip.bottom then []
  else
    let pts := quadInY clip pts
    let (pts, reverse) := if pts[0]!.x > pts[2]!.x then (pts.reverse, !reverse) else (pts, reverse)
    if pts[2]!.x ≤ clip.left then [vline clip.left pts[0]!.y pts[2]!.y reverse]
    else if pts[0]!.x ≥ clip.right then [vline clip.right pts[0]!.y pts[2]!.y reverse]
    else
      let leftPart : Option (List PathEdge × Array Point) :=
        if pts[0]!.x < clip.left then
          match chopMonoQuadAt pts[0]!.x pts[1]!.x pts[2]!.x clip.left with
          | some t =>
            let tmp := Curve.chopQuadAt pts t
            some ([vline clip.left tmp[0]!.y tmp[2]!.y reverse],
                  #[setX tmp[2]! clip.left, setX tmp[3]! (tmp[3]!.x.max clip.left), pts[2]!])
          | none => none
        else some ([], pts)
      match leftPart with
      | none => [vline clip.left pts[0]!.y pts[2]!.y reverse]
      | some (acc, pts) =>
        if pts[2]!.x > clip.right then
          match chopMonoQuadAt pts[0]!.x pts[1]!.x pts[2]!.x clip.right with
          | some t =>
            let tmp := Curve.chopQuadAt pts t
            let q := #[tmp[0]!, setX tmp[1]! (tmp[1]!.x.min clip.right), setX tmp[2]! clip.right]
            acc ++ [quadEdge q reverse, vline clip.right tmp[2]!.y tmp[4]!.y reverse]
          | none =>
            let q := #[pts[0]!, setX pts[1]! (pts[1]!.x.min clip.right), setX pts[2]! (pts[2]!.x.min clip.right)]
            acc ++ [quadEdge q reverse]
        else acc ++ [quadEdge pts reverse]

/-- The pieces of a split: consecutive windows of `width + 1` points overlapping by one. -/
def pieces (pts : Array Point) (width : Nat) : List (Array Point) :=
  (List.range ((pts.size - 1) / width)).map fun i => pts.extract (width * i) (width * i + width + 1)

def quad (p0 p1 p2 : Point) (clip : Rect) : List PathEdge :=
  match Rect.ofPoints #[p0, p1, p2] with
  | none => []
  | some bounds =>
    if bounds.top ≥ clip.bottom || bounds.bottom ≤ clip.top then []
    else
      let monoY := Curve.chopQuadAtExtrema true #[p0, p1, p2]
      (pieces monoY 2).flatMap fun py =>
        (pieces (Curve.chopQuadAtExtrema false py) 2).flatMap (monoQuad clip)

/-- The parameter of a monotone cubic coordinate nearest to `x`, by bisection in single
precision. -/
def monoCubicClosestT (src : Array Binary32) (x : Binary32) : Binary32 :=
  let three : Binary32 := 3
  let d := src[0]!
  let a := src[3]! + three * (src[1]! - src[2]!) - d
  let b := three * (src[2]! - src[1]! - src[1]! + d)
  let c := three * (src[1]! - d)
  let x := x - d
  let rec go : Nat → Binary32 → Binary32 → Binary32 → Binary32 → Binary32
    | 0, _, _, _, best => best
    | fuel + 1, t, step, closest, best =>
      let loc := ((a * t + b) * t + c) * t
      let dist := (loc - x).abs
      let (closest, best) := if closest > dist then (dist, t) else (closest, best)
      let lastT := t
      let t := if loc < x then t + step else t - step
      if closest > 0.25 && !lastT.eqv t then go fuel t (step * 0.5) closest best else best
  go 200 0.5 0.25 Binary32.maxFinite 0.5

/-- Splits a monotone cubic where one coordinate equals `value`, falling back to the nearest
parameter when no crossing is found in double precision. -/
def chopMonoCubic (pts : Array Point) (value : Binary32) (useY : Bool) : Array Point :=
  match Cubic64.chopMonoAt pts value useY with
  | some r => r
  | none =>
    let vals := pts.map fun p => if useY then p.y else p.x
    Curve.chopCubicAt pts (monoCubicClosestT vals value)

/-- Cuts a monotone cubic (ascending in y) to the clip's rows. -/
def cubicInY (clip : Rect) (pts : Array Point) : Array Point :=
  let pts :=
    if pts[0]!.y < clip.top then
      let tmp := chopMonoCubic pts clip.top true
      -- a poor first cut can leave three control points above; cut the lower half again
      let tmp := if tmp[3]!.y < clip.top && tmp[4]!.y < clip.top && tmp[5]!.y < clip.top then
          chopMonoCubic (tmp.extract 3 7) clip.top true
        else tmp
      #[setY tmp[3]! clip.top, setY tmp[4]! (tmp[4]!.y.max clip.top), tmp[5]!, pts[3]!]
    else pts
  if pts[3]!.y > clip.bottom then
    let tmp := chopMonoCubic pts clip.bottom true
    #[pts[0]!, tmp[1]!, setY tmp[2]! (tmp[2]!.y.min clip.bottom), setY tmp[3]! clip.bottom]
  else pts

/-- Clips a cubic monotone in both coordinates. -/
def monoCubic (clip : Rect) (src : Array Point) : List PathEdge :=
  let (pts, reverse) := sortIncreasingY src
  if pts[3]!.y ≤ clip.top || pts[0]!.y ≥ clip.bottom then []
  else
    let pts := cubicInY clip pts
    let (pts, reverse) := if pts[0]!.x > pts[3]!.x then (pts.reverse, !reverse) else (pts, reverse)
    if pts[3]!.x ≤ clip.left then [vline clip.left pts[0]!.y pts[3]!.y reverse]
    else if pts[0]!.x ≥ clip.right then [vline clip.right pts[0]!.y pts[3]!.y reverse]
    else
      let (acc, pts) :=
        if pts[0]!.x < clip.left then
          let tmp := chopMonoCubic pts clip.left false
          ([vline clip.left tmp[0]!.y tmp[3]!.y reverse],
           #[setX tmp[3]! clip.left, setX tmp[4]! (tmp[4]!.x.max clip.left), tmp[5]!, pts[3]!])
        else ([], pts)
      if pts[3]!.x > clip.right then
        let tmp := chopMonoCubic pts clip.right false
        let c := #[tmp[0]!, tmp[1]!, setX tmp[2]! (tmp[2]!.x.min clip.right), setX tmp[3]! clip.right]
        acc ++ [cubicEdge c reverse, vline clip.right tmp[3]!.y tmp[6]!.y reverse]
      else acc ++ [cubicEdge pts reverse]

/-- Clips a cubic; one too large for reliable splitting is clipped as its chord. -/
def cubic (p0 p1 p2 p3 : Point) (clip : Rect) : List PathEdge :=
  match Rect.ofPoints #[p0, p1, p2, p3] with
  | none => []
  | some bounds =>
    if bounds.bottom > clip.top && bounds.top < clip.bottom then
      let limit : Binary32 := 4194304
      if bounds.left < -limit || bounds.top < -limit || bounds.right > limit || bounds.bottom > limit then
        polylineEdges (line p0 p3 clip)
      else
        let monoY := Curve.chopCubicAtExtrema true #[p0, p1, p2, p3]
        (pieces monoY 3).flatMap fun py =>
          (pieces (Curve.chopCubicAtExtrema false py) 3).flatMap (monoCubic clip)
    else []

end Clip

/-- The segments of a path clipped to a rectangle. -/
def Path.clippedEdges (path : Path) (clip : Rect) : List PathEdge :=
  path.edges.flatMap fun e =>
    match e with
    | .line p0 p1 => Clip.polylineEdges (Clip.line p0 p1 clip)
    | .quad p0 p1 p2 => Clip.quad p0 p1 p2 clip
    | .cubic p0 p1 p2 p3 => Clip.cubic p0 p1 p2 p3 clip

end GlyphCanvas
