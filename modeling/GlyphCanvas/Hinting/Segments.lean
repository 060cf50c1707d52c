import GlyphCanvas.Hinting.Points

namespace GlyphCanvas.Hinting

/-- A segment of the outline on one axis. -/
structure Segment where
  dir : Direction
  first : Nat
  last : Nat
  pos : Int := 0
  delta : Int := 0
  minCoord : Int := 0
  maxCoord : Int := 0
  height : Int := 0
  round : Bool := false
  /-- Badness of the best link found so far. -/
  score : Int := 32000
  /-- Overlap with the linked segment (used by the ideographic linker). -/
  len : Int := 0
  link : Option Nat := none
  serif : Option Nat := none
  edge : Option Nat := none
  deriving Repr, Inhabited

/-- The spread of the points collected for a segment. -/
structure Span where
  minPos : Int := 32000
  maxPos : Int := -32000
  minCoord : Int := 32000
  maxCoord : Int := -32000
  minControl : Bool := false
  maxControl : Bool := false
  minOn : Int := 32000
  maxOn : Int := -32000
  deriving Repr, Inhabited

namespace Span

/-- The span of a single point. -/
def single (u v : Int) (control : Bool) : Span :=
  { minPos := u, maxPos := u, minCoord := v, maxCoord := v, minControl := control,
    maxControl := control, minOn := if control then 32000 else v, maxOn := if control then -32000 else v }

/-- The span with one more point. -/
def add (s : Span) (u v : Int) (control : Bool) : Span :=
  let s := { s with minPos := min s.minPos u, maxPos := max s.maxPos u }
  let s := if v < s.minCoord then { s with minCoord := v, minControl := control } else s
  let s := if v > s.maxCoord then { s with maxCoord := v, maxControl := control } else s
  if control then s else { s with minOn := min s.minOn v, maxOn := max s.maxOn v }

def merge (p s : Span) : Span :=
  let p := { p with minPos := min p.minPos s.minPos, maxPos := max p.maxPos s.maxPos }
  let p := if s.minCoord < p.minCoord then { p with minCoord := s.minCoord, minControl := s.minControl } else p
  let p := if s.maxCoord > p.maxCoord then { p with maxCoord := s.maxCoord, maxControl := s.maxControl } else p
  { p with minOn := min p.minOn s.minOn, maxOn := max p.maxOn s.maxOn }

end Span

/-- A segment given the extent of its points. -/
def Segment.withSpan (seg : Segment) (s : Span) (last : Nat) (flat : Int) : Segment :=
  { seg with last, pos := (s.minPos + s.maxPos) / 2, delta := (s.maxPos - s.minPos) / 2,
             round := (s.minControl || s.maxControl) && s.maxOn - s.minOn < flat,
             minCoord := s.minCoord, maxCoord := s.maxCoord, height := s.maxCoord - s.minCoord }

/-- The scan along one contour. -/
structure SegmentScan where
  segments : Array Segment
  onEdge : Bool := false
  span : Span := {}
  dir : Direction
  current : Option Nat := none
  prev : Option Nat := none
  prevSpan : Span := {}
  /-- Set when the glyph has too many segments to hint. -/
  overflow : Bool := false

/-- Whether a point's out direction runs along the edges of an axis. -/
def alongEdges (a : Axis) (d : Direction) : Bool :=
  match a with
  | .x => d.isVertical
  | .y => d.isHorizontal

/-- Closes the segment being collected at `point`, merging it into the previous one when it starts
where that one ends. -/
def SegmentScan.close (s : SegmentScan) (point : Nat) (flat : Int) : SegmentScan :=
  match s.current with
  | none => { s with onEdge := false }
  | some cur =>
    let seg := s.segments[cur]!
    match s.prev with
    | some p =>
      if seg.first = s.segments[p]!.last then
        let merged := s.prevSpan.merge s.span
        let segs := s.segments.pop
        { s with segments := segs.modify p (·.withSpan merged point flat), prevSpan := merged,
                 onEdge := false, current := none }
      else
        { s with segments := s.segments.set! cur (seg.withSpan s.span point flat), prev := some cur,
                 prevSpan := s.span, onEdge := false, current := none }
    | none =>
      { s with segments := s.segments.set! cur (seg.withSpan s.span point flat), prev := some cur,
               prevSpan := s.span, onEdge := false, current := none }

/-- Collects the segments of one contour. -/
def HintOutline.contourSegments (h : HintOutline) (a : Axis) (first : Nat) (flat : Int)
    (segments : Array Segment) : Array Segment × Bool :=
  let major := h.majorDir a
  let along (i : Nat) := alongEdges a (h.pt i).outDir
  let start :=
    if along (h.pt first).prev && along first then
      let rec back : Nat → Nat → Nat
        | 0, p => p
        | fuel + 1, p =>
          let q := (h.pt p).prev
          if !along q then p
          else if q = first then q
          else back fuel q
      back h.points.size first
    else first
  let last := start
  let rec walk : Nat → SegmentScan → Nat → Bool → SegmentScan
    | 0, s, _, _ => s
    | fuel + 1, s, point, passed =>
      let p := h.pt point
      let s := if s.onEdge then
          let s := { s with span := s.span.add (p.fu a) (p.fv a) p.control }
          if p.outDir != s.dir || point = last then s.close point flat else s
        else s
      if point = last ∧ passed then s
      else
        let passed := passed || point = last
        if !s.onEdge && (alongEdges a p.outDir || p.prev = point) then
          if s.segments.size > 1000 then { s with overflow := true }
          else
            let seg : Segment := { dir := p.outDir, first := point, last := point }
            let s := { s with segments := s.segments.push seg, current := some s.segments.size,
                              dir := p.outDir, span := Span.single (p.fu a) (p.fv a) p.control,
                              onEdge := true }
            let s := if p.prev = point then
                let i := s.segments.size - 1
                let sp := s.span
                { s with segments := s.segments.modify i fun g =>
                    { g with pos := (sp.minPos + sp.maxPos) / 2, delta := (sp.maxPos - sp.minPos) / 2,
                             minCoord := sp.minCoord, maxCoord := sp.maxCoord, height := 0 },
                         onEdge := false, current := none }
              else s
            walk fuel s p.next passed
        else walk fuel s p.next passed
  let s := walk (2 * h.points.size + 2) { segments, dir := major } start false
  (s.segments, s.overflow)

/-- Stretches a segment's height by half the rise of the points before and after it. -/
def HintOutline.stretchHeight (h : HintOutline) (a : Axis) (seg : Segment) : Segment :=
  if seg.first = seg.last then seg
  else
    let f := h.pt seg.first
    let l := h.pt seg.last
    let fv := f.fv a
    let lv := l.fv a
    let pv := (h.pt f.prev).fv a
    let nv := (h.pt l.next).fv a
    if fv < lv then
      let seg := if pv < fv then { seg with height := seg.height + (fv - pv) / 2 } else seg
      if nv > lv then { seg with height := seg.height + (nv - lv) / 2 } else seg
    else
      let seg := if pv > fv then { seg with height := seg.height + (pv - fv) / 2 } else seg
      if nv < lv then { seg with height := seg.height + (lv - nv) / 2 } else seg

/-- The segments of an outline on an axis. -/
def HintOutline.segments (h : HintOutline) (a : Axis) (unitsPerEm : Nat) : Array Segment :=
  let flat : Int := unitsPerEm / 14
  let (segs, overflow) := h.contours.foldl (fun (acc : Array Segment × Bool) (first, _) =>
    if acc.2 then acc else h.contourSegments a first flat acc.1) (#[], false)
  if overflow then #[] else segs.map (h.stretchHeight a)

end GlyphCanvas.Hinting
