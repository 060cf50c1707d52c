import GlyphCanvas.Hinting.Align

namespace GlyphCanvas.Hinting

/-- An alignment zone in font units. -/
structure BlueZone where
  ref : Int
  shoot : Int
  top : Bool
  /-- The zone of the x-height, which the vertical scale adjusts to. -/
  xHeight : Bool
  ascender : Int
  descender : Int
  deriving Repr, Inhabited

/-- An alignment zone at a size. -/
structure ScaledZone where
  ref : Int
  shoot : Int
  top : Bool
  refFit : Int
  shootFit : Int
  active : Bool
  deriving Repr, Inhabited

/-- What the Latin hinter knows of a face. -/
structure LatinMetrics where
  unitsPerEm : Nat
  /-- Standard stem heights (widths of horizontal stems), smallest first. -/
  widths : Array Int
  /-- Distance below which segments join one edge, in font units. -/
  edgeThreshold : Int
  zones : Array BlueZone
  deriving Repr, Inhabited

/-- The zone character sets, whether each is a top zone, and whether it is the x-height. -/
def latinZoneSets : List (String × Bool × Bool) :=
  [("THEZOCQS", true, false), ("HEZLOCUS", false, false), ("fijkdbh", true, false),
   ("uvxzoesc", true, true), ("nrxzoesc", false, false), ("pqgjy", false, false)]

/-- The characters stem widths are measured on. -/
def latinStandardChars : List Nat := ['o'.toNat, 'O'.toNat, '0'.toNat]

/-- `k` times the em size over 2048. -/
def emConstant (unitsPerEm : Nat) (k : Nat) : Int := k * unitsPerEm / 2048

/-- Pairs segments of opposite directions into stems by overlap and distance, the distance
counting against a pair once it exceeds the largest standard width. A segment whose partner
prefers another one keeps that one as its serif. -/
def linkLatin (segs : Array Segment) (maxWidth : Int) (major : Direction) (unitsPerEm : Nat) :
    Array Segment :=
  let lenThreshold := max (emConstant unitsPerEm 8) 1
  let lenScore := emConstant unitsPerEm 6000
  let n := segs.size
  let segs := (List.range n).foldl (fun segs i =>
    if segs[i]!.dir != major then segs
    else (List.range n).foldl (fun segs j =>
      let s1 := segs[i]!
      let s2 := segs[j]!
      if s1.dir.opposes s2.dir && s2.pos > s1.pos then
        let len := min s1.maxCoord s2.maxCoord - max s1.minCoord s2.minCoord
        if len ≥ lenThreshold then
          let dist := s2.pos - s1.pos
          let demerit :=
            if maxWidth ≠ 0 then
              let delta := tdiv (dist * 1024) maxWidth - 1024
              if delta > 10000 then 32000 else if delta > 0 then tdiv (delta * delta) 3000 else 0
            else dist
          let score := demerit + tdiv lenScore len
          let segs := if score < s1.score then segs.modify i fun g => { g with score, link := some j } else segs
          if score < segs[j]!.score then segs.modify j fun g => { g with score, link := some i } else segs
        else segs
      else segs) segs) segs
  (List.range n).foldl (fun segs i =>
    match segs[i]!.link with
    | some j =>
      if segs[j]!.link != some i then segs.modify i fun g => { g with link := none, serif := segs[j]!.link }
      else segs
    | none => segs) segs

/-- Groups the usable segments of an axis into edges: segments shorter than the length
threshold, wider than a pixel or without direction are left out (and serifs shorter than one and
a half times the threshold); one-point segments join a nearby edge when there is one. -/
def latinEdges (segs : Array Segment) (a : Axis) (scale otherScale threshold : Int)
    (major : Direction) : AxisEdges :=
  let lenThreshold := match a with
    | .x => divFix 64 otherScale
    | .y => 0
  let widthThreshold := divFix 32 scale
  let edt := divFix (min (mulFix threshold scale) 16) scale
  let edges := (List.range segs.size).foldl (fun (edges : Array Edge) s =>
    let seg := segs[s]!
    if seg.height < lenThreshold || seg.delta > widthThreshold || seg.dir == .none then edges
    else if seg.serif.isSome && 2 * seg.height < 3 * lenThreshold then edges
    else
      match (List.range edges.size).find? fun e =>
          (seg.pos - edges[e]!.fpos).natAbs < edt && edges[e]!.dir == seg.dir with
      | some e => joinEdge edges e s
      | none => insertEdge edges seg s scale major) #[]
  let edges := (List.range segs.size).foldl (fun (edges : Array Edge) s =>
    let seg := segs[s]!
    if seg.dir != .none then edges
    else
      match (List.range edges.size).find? fun e => (seg.pos - edges[e]!.fpos).natAbs < edt with
      | some e => joinEdge edges e s
      | none => edges) edges
  let segs := assignEdges segs edges
  ⟨segs, edgeProperties segs edges⟩

/-- Stem widths measured on a glyph outline, in font units, on the `y` axis. -/
def measureWidths (o : GlyphOutline) (unitsPerEm : Nat) : Array Int :=
  let h := HintOutline.load o unitsPerEm 0x10000 0x10000
  let segs := linkLatin (h.segments .y unitsPerEm) 0 (h.majorDir .y) unitsPerEm
  let ws := (List.range segs.size).foldl (fun (ws : Array Int) i =>
    match segs[i]!.link with
    | some j =>
      if segs[j]!.link == some i && j > i && ws.size < 16 then ws.push (segs[i]!.pos - segs[j]!.pos).natAbs
      else ws
    | none => ws) #[]
  ws

/-- Sorts widths and replaces each cluster of widths within `threshold` of its smallest by their
sum divided by the index just past the cluster. -/
def quantizeWidths (ws : Array Int) (threshold : Int) : Array Int :=
  let n := ws.size
  if n ≤ 1 then ws
  else
    let t := ws.toList.mergeSort (· ≤ ·) |>.toArray
    let rec go : Nat → Array Int → Nat → Int → Nat → Array Int
      | 0, t, _, _, _ => t
      | fuel + 1, t, curIdx, curVal, i =>
        if i ≥ n then t
        else if t[i]! - curVal > threshold ∨ i = n - 1 then
          let stop := if t[i]! - curVal ≤ threshold ∧ i = n - 1 then i + 1 else i
          let sum := (List.range (stop - curIdx)).foldl (fun s k => s + t[curIdx + k]!) 0
          let t := (List.range (stop - curIdx)).foldl (fun t k => t.set! (curIdx + k) 0) t
          let t := t.set! curIdx (tdiv sum stop)
          if stop < n - 1 then go fuel t (stop + 1) t[stop + 1]! (stop + 1)
          else go fuel t curIdx curVal (stop + 1)
        else go fuel t curIdx curVal (i + 1)
    let t := go (n + 1) t 0 t[0]! 1
    #[t[0]!] ++ (t.extract 1 n).filter (· ≠ 0)

/-- The extreme point of an outline towards the top (or bottom): its index, its height and the
first and last point of its contour; with the highest and lowest other heights met on the way. -/
def zoneExtreme (pts : Array OutlinePoint) (contours : Array (Nat × Nat)) (top : Bool) :
    Option (Nat × Int × Nat × Nat) × Int × Int :=
  contours.foldl (fun (acc : Option (Nat × Int × Nat × Nat) × Int × Int) (first, last) =>
    if last ≤ first then acc
    else
      let (best0, asc, desc) := acc
      let (best, asc, desc) := (List.range (last + 1 - first)).foldl
        (fun (s : Option (Nat × Int) × Int × Int) k =>
          let (best, asc, desc) := s
          let pp := first + k
          let y := pts[pp]!.y
          let better := match best with
            | none => true
            | some (_, bestY) => if top then y > bestY else y < bestY
          if better then
            (some (pp, y), if top then max asc y else asc, if top then desc else min desc y)
          else (best, if top then asc else max asc y, if top then min desc y else desc))
          (best0.map fun (i, y, _, _) => (i, y), asc, desc)
      let changed := best.map (·.1) != best0.map (·.1)
      let best := if changed then best.map fun (i, y) => (i, y, first, last) else best0
      (best, asc, desc)) (none, 0, 0)

/-- Whether the extreme point `best` lies on a round part of its contour: the run of points near
its height is examined in both directions, and the part is flat when its on-curve points spread
wider than the flat threshold, round when it starts or ends with a control point. -/
def extremeIsRound (pts : Array OutlinePoint) (best first last : Nat) (flat : Int) : Bool :=
  let bestX := pts[best]!.x
  let bestY := pts[best]!.y
  let far (p : Nat) : Bool :=
    let d := (pts[p]!.y - bestY).natAbs
    d > 5 && (pts[p]!.x - bestX).natAbs ≤ 20 * d
  let onStart : Option Nat := if pts[best]!.onCurve then some best else none
  let rec backward : Nat → Nat → Nat → Option Nat → Option Nat → Nat × Option Nat × Option Nat
    | 0, _, segFirst, onFirst, onLast => (segFirst, onFirst, onLast)
    | fuel + 1, prev, segFirst, onFirst, onLast =>
      let prev := if prev > first then prev - 1 else last
      if far prev then (segFirst, onFirst, onLast)
      else
        let (onFirst, onLast) := if pts[prev]!.onCurve then (some prev, onLast.orElse fun _ => some prev)
          else (onFirst, onLast)
        if prev = best then (prev, onFirst, onLast) else backward fuel prev prev onFirst onLast
  let rec forward : Nat → Nat → Nat → Option Nat → Option Nat → Nat × Option Nat × Option Nat
    | 0, _, segLast, onFirst, onLast => (segLast, onFirst, onLast)
    | fuel + 1, next, segLast, onFirst, onLast =>
      let next := if next < last then next + 1 else first
      if far next then (segLast, onFirst, onLast)
      else
        let (onFirst, onLast) := if pts[next]!.onCurve then (onFirst.orElse fun _ => some next, some next)
          else (onFirst, onLast)
        if next = best then (next, onFirst, onLast) else forward fuel next next onFirst onLast
  let fuel := last + 1 - first
  let (segFirst, onFirst, onLast) := backward fuel best best onStart onStart
  let (segLast, onFirst, onLast) := forward fuel best best onFirst onLast
  match onFirst, onLast with
  | some f, some l =>
    if (pts[l]!.x - pts[f]!.x).natAbs > flat then false
    else !pts[segFirst]!.onCurve || !pts[segLast]!.onCurve
  | _, _ => !pts[segFirst]!.onCurve || !pts[segLast]!.onCurve

/-- The first and last point of every contour of an outline. -/
def contourBounds (o : GlyphOutline) : Array (Nat × Nat) :=
  (o.contours.foldl (fun (acc : Array (Nat × Nat) × Nat) c =>
    (acc.1.push (acc.2, acc.2 + c.size - 1), acc.2 + c.size)) (#[], 0)).1

/-- One alignment zone from the outlines of its characters, if any of them is drawn. -/
def measureZone (outlines : List GlyphOutline) (top xHeight : Bool) (unitsPerEm : Nat) : Option BlueZone :=
  let flat : Int := unitsPerEm / 14
  let (flats, rounds, asc, desc) := outlines.foldl
    (fun (acc : List Int × List Int × Int × Int) o =>
      let (flats, rounds, asc, desc) := acc
      let pts := o.points
      if pts.size ≤ 2 then acc
      else
        let (best, a, d) := zoneExtreme pts (contourBounds o) top
        let asc := max asc a
        let desc := min desc d
        match best with
        | none => (flats, rounds, asc, desc)
        | some (b, y, first, last) =>
          if extremeIsRound pts b first last flat then (flats, y :: rounds, asc, desc)
          else (y :: flats, rounds, asc, desc)) ([], [], 0, 0)
  if flats.isEmpty && rounds.isEmpty then none
  else
    let flats := (flats.reverse.mergeSort (· ≤ ·)).toArray
    let rounds := (rounds.reverse.mergeSort (· ≤ ·)).toArray
    let (ref, shoot) :=
      if flats.isEmpty then (rounds[rounds.size / 2]!, rounds[rounds.size / 2]!)
      else if rounds.isEmpty then (flats[flats.size / 2]!, flats[flats.size / 2]!)
      else (flats[flats.size / 2]!, rounds[rounds.size / 2]!)
    let (ref, shoot) :=
      if shoot ≠ ref ∧ top != (shoot > ref) then (tdiv (shoot + ref) 2, tdiv (shoot + ref) 2)
      else (ref, shoot)
    some { ref, shoot, top, xHeight, ascender := asc, descender := desc }

/-- The Latin metrics of a face, given the outline of the glyph a character maps to (none when
the face has no glyph for it). Widths are measured on the first standard character the face
has, when it is drawn at all. -/
def LatinMetrics.measure (outline? : Nat → Option GlyphOutline) (unitsPerEm : Nat) : LatinMetrics :=
  let standard := (latinStandardChars.findSome? outline?).bind fun o =>
    if o.pointCount > 0 then some o else none
  let widths := match standard with
    | some o => quantizeWidths (measureWidths o unitsPerEm) (unitsPerEm / 100)
    | none => #[]
  let stdw := if widths.isEmpty then emConstant unitsPerEm 50 else widths[0]!
  let zones := latinZoneSets.filterMap fun (chars, top, xh) =>
    measureZone (chars.toList.filterMap fun c => outline? c.toNat) top xh unitsPerEm
  { unitsPerEm, widths, edgeThreshold := tdiv stdw 5, zones := zones.toArray }

/-- The vertical scale at a size: the x-height is rounded to the pixel grid (up from 40/64 of a
pixel) when that moves no zone by two pixels or more. -/
def LatinMetrics.verticalScale (m : LatinMetrics) (scale : Int) : Int :=
  match m.zones.find? (·.xHeight) with
  | none => scale
  | some z =>
    let scaled := mulFix z.shoot scale
    let fitted := pixFloor (scaled + 40)
    if scaled = fitted then scale
    else
      let newScale := mulDiv scale fitted scaled
      let maxHeight := m.zones.foldl (fun h z => max h (max z.ascender (-z.descender))) (m.unitsPerEm : Int)
      let dist := (mulFix maxHeight (newScale - scale)).natAbs
      if dist / 128 = 0 then newScale else scale

/-- The zones at a vertical scale. -/
def LatinMetrics.scaledZones (m : LatinMetrics) (yScale : Int) : Array ScaledZone :=
  m.zones.map fun z =>
    let refCur := mulFix z.ref yScale
    let shootCur := mulFix z.shoot yScale
    let dist := mulFix (z.ref - z.shoot) yScale
    if -48 ≤ dist ∧ dist ≤ 48 then
      let d := dist.natAbs
      let d : Int := if d < 32 then 0 else if d < 48 then 32 else 64
      let d := if dist < 0 then -d else d
      let refFit := pixRound refCur
      { ref := z.ref, shoot := z.shoot, top := z.top, refFit, shootFit := refFit - d, active := true }
    else { ref := z.ref, shoot := z.shoot, top := z.top, refFit := refCur, shootFit := shootCur, active := false }

/-- Snaps edges to the nearest active zone: top zones catch edges against the major direction
and bottom zones edges along it; a round edge beyond the reference may catch the overshoot. -/
def blueEdges (edges : Array Edge) (zones : Array ScaledZone) (unitsPerEm : Nat) (yScale : Int)
    (major : Direction) : Array Edge :=
  edges.map fun e =>
    let start := min (mulFix (unitsPerEm / 40 : Int) yScale) 32
    let (_, best) := zones.foldl (fun (acc : Int × Option Int) z =>
      if !z.active then acc
      else if z.top != (e.dir == major) then
        let (bestDist, best) := acc
        let dist := mulFix (e.fpos - z.ref).natAbs yScale
        let (bestDist, best) := if dist < bestDist then (dist, some z.refFit) else (bestDist, best)
        if e.round && dist ≠ 0 && z.top != (e.fpos < z.ref) then
          let dist := mulFix (e.fpos - z.shoot).natAbs yScale
          if dist < bestDist then (dist, some z.shootFit) else (bestDist, best)
        else (bestDist, best)
      else acc) (start, none)
    match best with
    | some b => { e with blue := some b }
    | none => e

/-- Where a stem narrower than 1.5 pixels goes: its centre moved to just below or above the
nearest pixel boundary, whichever is closer. -/
def smallStemStart (center len : Int) : Int :=
  let (uOff, dOff) : Int × Int := if len ≤ 64 then (32, 32) else (38, 26)
  let pos := pixRound center
  let err1 := (center - (pos - uOff)).natAbs
  let err2 := (center - (pos + dOff)).natAbs
  if err1 < err2 then pos - uOff else pos + dOff

/-- Fits the edges of the `y` axis. -/
def hintLatinEdges (edges : Array Edge) : Array Edge :=
  let n := edges.size
  let (edges, anchor) := (List.range n).foldl (fun (acc : Array Edge × Option Nat) i =>
    let (edges, anchor) := acc
    let e := edges[i]!
    if e.done then acc
    else
      let pick : Option (Nat × Int × Option Nat) :=
        match e.blue with
        | some b => some (i, b, e.link)
        | none => e.link.bind fun l => edges[l]!.blue.map fun b => (l, b, some i)
      match pick with
      | none => acc
      | some (e1, b, e2) =>
        let edges := edges.modify e1 fun x => { x with pos := b, done := true }
        let edges := match e2 with
          | some e2 =>
            if edges[e2]!.blue.isNone then
              let base := edges[e1]!
              edges.modify e2 fun x => { x with pos := base.pos + (x.opos - base.opos), done := true }
            else edges
          | none => edges
        (edges, anchor.orElse fun _ => some i)) (edges, none)
  let (edges, anchor, serifs) := (List.range n).foldl (fun (acc : Array Edge × Option Nat × Nat) i =>
    let (edges, anchor, serifs) := acc
    let e := edges[i]!
    if e.done then acc
    else match e.link with
    | none => (edges, anchor, serifs + 1)
    | some l =>
      let e2 := edges[l]!
      if e2.blue.isSome then
        (edges.modify i fun x => { x with pos := e2.pos + (x.opos - e2.opos), done := true }, anchor, serifs)
      else
        let orgLen := e2.opos - e.opos
        match anchor with
        | none =>
          let pos := if orgLen < 96 then smallStemStart (e.opos + orgLen / 2) orgLen - tdiv orgLen 2
            else pixRound e.opos
          let edges := edges.modify i fun x => { x with pos, done := true }
          let edges := edges.modify l fun x => { x with pos := pos + (x.opos - e.opos) }
          (edges, some i, serifs)
        | some an =>
          let a := edges[an]!
          let orgPos := a.pos + (e.opos - a.opos)
          let orgCenter := orgPos + orgLen / 2
          let (p1, p2) :=
            if e2.done then (e2.pos - orgLen, e2.pos)
            else if orgLen < 96 then
              let c := smallStemStart orgCenter orgLen
              (c - tdiv orgLen 2, c + tdiv orgLen 2)
            else
              let c1 := pixRound orgPos
              let d1 := (c1 + orgLen / 2 - orgCenter).natAbs
              let c2 := pixRound (orgPos + orgLen) - orgLen
              let d2 := (c2 + orgLen / 2 - orgCenter).natAbs
              let p := if d1 < d2 then c1 else c2
              (p, p + orgLen)
          let edges := edges.modify i fun x => { x with pos := p1, done := true }
          let edges := edges.modify l fun x => { x with pos := p2, done := true }
          let edges :=
            if i > 0 ∧ edges[i]!.pos < edges[i - 1]!.pos then
              let prev := edges[i - 1]!.pos
              match edges[i]!.link with
              | some k => if (edges[k]!.pos - prev).natAbs > 16 then edges.modify i fun x => { x with pos := prev } else edges
              | none => edges
            else edges
          (edges, anchor, serifs)) (edges, anchor, 0)
  if serifs = 0 ∧ anchor.isSome then edges
  else
    let (edges, _) := (List.range n).foldl (fun (acc : Array Edge × Option Nat) i =>
      let (edges, anchor) := acc
      let e := edges[i]!
      if e.done then acc
      else
        let nearSerif : Option Int := e.serif.bind fun s =>
          if (edges[s]!.opos - e.opos).natAbs < 80 then some (edges[s]!.pos + (e.opos - edges[s]!.opos))
          else none
        let (pos, anchor) : Int × Option Nat :=
          match nearSerif with
          | some p => (p, anchor)
          | none =>
            match anchor with
            | none => (pixRound e.opos, some i)
            | some an =>
              let before := ((List.range i).reverse.find? fun k => edges[k]!.done)
              let after := ((List.range (n - i - 1)).find? fun k => edges[i + 1 + k]!.done).map (i + 1 + ·)
              match before, after with
              | some b, some f =>
                let eb := edges[b]!
                let ef := edges[f]!
                if ef.opos = eb.opos then (eb.pos, anchor)
                else (eb.pos + mulDiv (e.opos - eb.opos) (ef.pos - eb.pos) (ef.opos - eb.opos), anchor)
              | _, _ =>
                let a := edges[an]!
                (a.pos + (e.opos - a.opos + 16) / 32 * 32, anchor)
        let pos := if i > 0 ∧ pos < edges[i - 1]!.pos then edges[i - 1]!.pos else pos
        let pos := if i + 1 < n ∧ edges[i + 1]!.done ∧ pos > edges[i + 1]!.pos then edges[i + 1]!.pos else pos
        (edges.modify i fun x => { x with pos, done := true }, anchor)) (edges, anchor)
    edges

/-- Hints an outline with the Latin metrics at a scale (16.16, pixels per font unit times 64):
widths are scaled linearly and heights fitted. Zones are not used for marks (`nonbase`). -/
def LatinMetrics.hint (m : LatinMetrics) (o : GlyphOutline) (scale : Int) (nonbase : Bool) :
    HintOutline :=
  let yScale := m.verticalScale scale
  let h := HintOutline.load o m.unitsPerEm scale yScale
  let major := h.majorDir .y
  let segs := linkLatin (h.segments .y m.unitsPerEm) (m.widths.back?.getD 0) major m.unitsPerEm
  let ax := latinEdges segs .y yScale scale m.edgeThreshold major
  let ax := if nonbase then ax
    else { ax with edges := blueEdges ax.edges (m.scaledZones yScale) m.unitsPerEm yScale major }
  let ax := { ax with edges := hintLatinEdges ax.edges }
  (h.snapSegments .y ax).alignStrong .y ax.edges |>.alignWeak .y

end GlyphCanvas.Hinting
