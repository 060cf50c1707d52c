import GlyphCanvas.Hinting.Edges

namespace GlyphCanvas.Hinting

/-- The points of a segment, from its first to its last along the contour. -/
def HintOutline.segmentPoints (h : HintOutline) (seg : Segment) : List Nat :=
  let rec go : Nat → Nat → List Nat
    | 0, _ => []
    | fuel + 1, p => if p = seg.last then [p] else p :: go fuel (h.pt p).next
  go (h.points.size + 1) seg.first

/-- Puts the points of every segment that has an edge at the edge's position. -/
def HintOutline.snapSegments (h : HintOutline) (a : Axis) (ax : AxisEdges) : HintOutline :=
  ax.segments.foldl (fun h seg =>
    match seg.edge with
    | none => h
    | some e =>
      let pos := ax.edges[e]!.pos
      (h.segmentPoints seg).foldl (fun h p => h.modify p (·.place a pos)) h) h

/-- Moves the points of every edge's segments by the distance the edge moved. -/
def HintOutline.shiftSegments (h : HintOutline) (a : Axis) (ax : AxisEdges) : HintOutline :=
  ax.edges.foldl (fun h e =>
    let delta := e.pos - e.opos
    e.segments.foldl (fun h s =>
      (h.segmentPoints ax.segments[s]!).foldl (fun h p =>
        h.modify p fun q => q.place a (q.cur a + delta)) h) h) h

/-- Where a point at font-unit position `u` (scaled `ou`) goes relative to the fitted edges. -/
def strongPosition (edges : Array Edge) (u ou : Int) : Int :=
  let first := edges[0]!
  let last := edges[edges.size - 1]!
  if first.fpos - u ≥ 0 then first.pos - (first.opos - ou)
  else if u - last.fpos ≥ 0 then last.pos + (ou - last.opos)
  else
    let between (k : Nat) : Int :=
      let before := edges[k - 1]!
      let after := edges[k]!
      let scale := divFix (after.pos - before.pos) (after.fpos - before.fpos)
      before.pos + mulFix (u - before.fpos) scale
    if edges.size ≤ 8 then
      let k := ((List.range edges.size).find? fun k => edges[k]!.fpos ≥ u).getD edges.size
      if edges[k]!.fpos = u then edges[k]!.pos else between k
    else
      let rec search : Nat → Nat → Nat → Int
        | 0, lo, _ => between lo
        | fuel + 1, lo, hi =>
          if lo < hi then
            let mid := (lo + hi) / 2
            let fpos := edges[mid]!.fpos
            if u < fpos then search fuel lo mid
            else if u > fpos then search fuel (mid + 1) hi
            else edges[mid]!.pos
          else between lo
      search (edges.size + 1) 0 edges.size

/-- Places every point that is neither touched nor weak relative to the edges. -/
def HintOutline.alignStrong (h : HintOutline) (a : Axis) (edges : Array Edge) : HintOutline :=
  if edges.isEmpty then h
  else
    { h with points := h.points.map fun p =>
        if p.touched a || p.weak then p else p.place a (strongPosition edges (p.fu a) (p.orig a)) }

/-- Interpolates points `p1` to `p2` (current positions `u`, scaled positions `v`) between two
reference points. -/
def interpolate (u v : Array Int) (p1 p2 r1 r2 : Nat) : Array Int :=
  if p1 > p2 then u
  else
    let (r1, r2) := if v[r1]! > v[r2]! then (r2, r1) else (r1, r2)
    let v1 := v[r1]!
    let v2 := v[r2]!
    let u1 := u[r1]!
    let u2 := u[r2]!
    let d1 := u1 - v1
    let d2 := u2 - v2
    let inner : Int → Int :=
      if u1 = u2 ∨ v1 = v2 then fun _ => u1
      else
        let scale := divFix (u2 - u1) (v2 - v1)
        fun w => u1 + mulFix (w - v1) scale
    (List.range (p2 + 1 - p1)).foldl (fun u k =>
      let w := v[p1 + k]!
      u.set! (p1 + k) (if w ≤ v1 then w + d1 else if w ≥ v2 then w + d2 else inner w)) u

/-- Shifts points `p1` to `p2`, except the reference itself, by the reference's displacement. -/
def shiftAll (u v : Array Int) (p1 p2 r : Nat) : Array Int :=
  let delta := u[r]! - v[r]!
  if delta = 0 then u
  else
    (List.range (p2 + 1 - p1)).foldl (fun u k =>
      let i := p1 + k
      if i = r then u else u.set! i (v[i]! + delta)) u

/-- The next touched point at or after `k` (up to `last`); `last + 1` when there is none. -/
def nextTouched (touched : Array Bool) (k last : Nat) : Nat :=
  ((List.range (last + 1 - k)).find? fun j => touched[k + j]!).map (k + ·) |>.getD (last + 1)

/-- The end of the run of touched points starting at `k`. -/
def runEnd (touched : Array Bool) (k last : Nat) : Nat :=
  ((List.range (last - k)).find? fun j => !touched[k + j + 1]!).map (k + ·) |>.getD last

/-- Interpolates the untouched points of one contour. -/
def interpolateContour (touched : Array Bool) (v : Array Int) (u : Array Int) (first last : Nat) :
    Array Int :=
  let ft := nextTouched touched first last
  if ft > last then u
  else
    let rec go : Nat → Array Int → Nat → Array Int × Nat
      | 0, u, k => (u, runEnd touched k last)
      | fuel + 1, u, k =>
        let lt := runEnd touched k last
        let n := nextTouched touched (lt + 1) last
        if n > last then (u, lt)
        else go fuel (interpolate u v (lt + 1) (n - 1) lt n) n
    let (u, lt) := go (last + 1 - first) u ft
    if lt = ft then shiftAll u v first last ft
    else
      let u := if lt < last then interpolate u v (lt + 1) last lt ft else u
      if ft > 0 then interpolate u v first (ft - 1) lt ft else u

/-- Interpolates every point that is not touched on the axis. -/
def HintOutline.alignWeak (h : HintOutline) (a : Axis) : HintOutline :=
  let touched := h.points.map (·.touched a)
  let v := h.points.map (·.orig a)
  let u := h.contours.foldl (fun u (first, last) => interpolateContour touched v u first last)
    (h.points.map (·.cur a))
  { h with points := (h.points.zip u).map fun (p, w) =>
      match a with
      | .x => { p with x := w }
      | .y => { p with y := w } }

end GlyphCanvas.Hinting
