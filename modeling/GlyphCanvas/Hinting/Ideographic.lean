import GlyphCanvas.Hinting.Align
import GlyphCanvas.Hinting.Latin

namespace GlyphCanvas.Hinting

/-- Links segments into stems and serifs. -/
def linkIdeographic (segs : Array Segment) (major : Direction) (unitsPerEm : Nat) (scale : Int) :
    Array Segment :=
  let lenThreshold := max (emConstant unitsPerEm 8) 1
  let distThreshold := divFix (64 * 3) scale
  let n := segs.size
  let better (dist len : Int) (g : Segment) : Bool :=
    dist * 8 < g.score * 9 && (dist * 8 < g.score * 7 || g.len < len)
  let segs := (List.range n).foldl (fun segs i =>
    if segs[i]!.dir != major then segs
    else (List.range n).foldl (fun segs j =>
      let s1 := segs[i]!
      let s2 := segs[j]!
      if j ≠ i && s1.dir.opposes s2.dir then
        let dist := s2.pos - s1.pos
        if dist < 0 then segs
        else
          let len := min s1.maxCoord s2.maxCoord - max s1.minCoord s2.minCoord
          if len ≥ lenThreshold then
            let segs := if better dist len s1 then
                segs.modify i fun g => { g with score := dist, len, link := some j } else segs
            if better dist len segs[j]! then
              segs.modify j fun g => { g with score := dist, len, link := some i } else segs
          else segs
      else segs) segs) segs
  let segs := (List.range n).foldl (fun segs i =>
    let s1 := segs[i]!
    match s1.link with
    | none => segs
    | some l1 =>
      let link1 := segs[l1]!
      if link1.link != some i || link1.pos ≤ s1.pos || s1.score ≥ distThreshold then segs
      else
        let rec scan : Nat → List Nat → Array Segment → Array Segment
          | 0, _, segs => segs
          | _, [], segs => segs
          | fuel + 1, j :: rest, segs =>
            let s1 := segs[i]!
            let s2 := segs[j]!
            if s2.pos > s1.pos || j = i then scan fuel rest segs
            else match s2.link with
              | none => scan fuel rest segs
              | some l2 =>
                let link1 := segs[l1]!
                let link2 := segs[l2]!
                if link2.link != some j || link2.pos < link1.pos then scan fuel rest segs
                else if s1.pos = s2.pos ∧ link1.pos = link2.pos then scan fuel rest segs
                else if s2.score ≤ s1.score || s1.score * 4 ≤ s2.score then scan fuel rest segs
                else if s1.len ≥ s2.len * 3 then
                  let segs := (List.range n).foldl (fun segs k =>
                    match segs[k]!.link with
                    | some lk =>
                      if lk = j then segs.modify k fun g => { g with link := none, serif := some l1 }
                      else if lk = l2 then segs.modify k fun g => { g with link := none, serif := some i }
                      else segs
                    | none => segs) segs
                  scan fuel rest segs
                else
                  let segs := segs.modify i fun g => { g with link := none }
                  segs.modify l1 fun g => { g with link := none }
        scan (n + 1) (List.range n) segs) segs
  (List.range n).foldl (fun segs i =>
    match segs[i]!.link with
    | some j =>
      let s2 := segs[j]!
      if s2.link != some i then
        let serif := if s2.score < distThreshold || segs[i]!.score < s2.score * 4 then s2.link
          else segs[i]!.serif
        segs.modify i fun g => { g with link := none, serif }
      else segs
    | none => segs) segs

/-- Groups every segment into edges: a segment joins the nearest edge of its direction within
the threshold whose segments' partners all lie within the threshold of its own partner. -/
def ideographicEdges (segs : Array Segment) (scale threshold : Int) (major : Direction) : AxisEdges :=
  let edt := if mulFix threshold scale > 16 then divFix 16 scale else threshold
  let edges := (List.range segs.size).foldl (fun (edges : Array Edge) s =>
    let seg := segs[s]!
    let compatible (e : Edge) : Bool :=
      match seg.link with
      | none => true
      | some l =>
        let link := segs[l]!
        let (_, dist2) := e.segments.foldl (fun (acc : Bool × Int) t =>
          if acc.1 then acc
          else match segs[t]!.link with
            | some l1 =>
              let d := (link.pos - segs[l1]!.pos).natAbs
              (d ≥ edt, d)
            | none => acc) (false, 0)
        dist2 < edt
    let (found, _) := (List.range edges.size).foldl (fun (acc : Option Nat × Int) e =>
      let ed := edges[e]!
      if ed.dir != seg.dir then acc
      else
        let dist := (seg.pos - ed.fpos).natAbs
        if dist < edt && dist < acc.2 && compatible ed then (some e, dist) else acc) (none, 0xFFFF)
    match found with
    | some e => joinEdge edges e s
    | none => insertEdge edges seg s scale major) #[]
  let segs := assignEdges segs edges
  ⟨segs, edgeProperties segs edges⟩

/-- The largest move of a stem in light mode, in 1/64 pixel. -/
def maxStemShift : Int := 14

/-- Places a stem between edges `e` and `e2` (positions `p1`, `p2` before fitting), its centre
shifted by `anchor`; returns both edges' new positions and the shift applied. -/
def normalStem (e e2 : Edge) (anchor : Int) (a : Axis) : Int × Int × Int :=
  let threshold : Int :=
    if e.round && e2.round then (match a with | .y => 64 - 9 | .x => 64 - 15)
    else (match a with | .y => 64 - 3 | .x => 64 - 5)
  let len := e2.opos - e.opos
  let center := tdiv (e.opos + e2.opos) 2 + anchor
  let pos1 := center - tdiv len 2
  let pos2 := pos1 + len
  let dOff1 := pos1 - pixFloor pos1
  let dOff2 := pos2 - pixFloor pos2
  let uOff1 := 64 - dOff1
  let uOff2 := 64 - dOff2
  let delta : Int :=
    if dOff1 = 0 ∨ dOff2 = 0 then 0
    else if len ≤ threshold then
      if dOff2 < len then (if uOff1 ≤ dOff2 then uOff1 else -dOff2) else 0
    else if threshold < 64 ∧ (dOff1 ≥ threshold ∨ uOff1 ≥ threshold ∨ dOff2 ≥ threshold ∨ uOff2 ≥ threshold) then 0
    else
      let offset := len % 64
      if offset < 32 ∧ (uOff1 ≤ offset ∨ dOff2 ≤ offset) then 0
      else
        let offset := if offset < 32 then offset else 64 - threshold
        let down1 := threshold - uOff1
        let up1 := uOff1 - offset
        let up2 := threshold - dOff2
        let down2 := dOff2 - offset
        let up1 := if down1 ≤ up1 then -down1 else up1
        let up2 := if down2 ≤ up2 then -down2 else up2
        if up1.natAbs ≤ up2.natAbs then up1 else up2
  let delta := max (-maxStemShift) (min maxStemShift delta)
  let pos1 := pos1 + delta
  if e.opos < e2.opos then (pos1, pos1 + len, delta) else (pos1 + len, pos1, delta)

/-- Keeps the stems of a six- or twelve-edge glyph (an `m`) evenly spaced on the `x` axis. -/
def keepSymmetry (edges : Array Edge) (a : Axis) : Array Edge :=
  let n := edges.size
  if a != .x ∨ (n ≠ 6 ∧ n ≠ 12) then edges
  else
    let (i1, i2, i3) := if n = 6 then (0, 2, 4) else (1, 5, 9)
    let (e1, e2, e3) := (edges[i1]!, edges[i2]!, edges[i3]!)
    let span := ((e2.opos - e1.opos) - (e3.opos - e2.opos)).natAbs
    if e1.link == some (i1 + 1) && e2.link == some (i2 + 1) && e3.link == some (i3 + 1) && span < 8 then
      let delta := e3.pos - (2 * e2.pos - e1.pos)
      let edges := edges.modify i3 fun x => { x with pos := x.pos - delta, done := true }
      let edges := match e3.link with
        | some l => edges.modify l fun x => { x with pos := x.pos - delta, done := true }
        | none => edges
      if n = 12 then
        let edges := edges.modify 8 fun x => { x with pos := x.pos - delta }
        edges.modify 11 fun x => { x with pos := x.pos - delta }
      else edges
    else edges

/-- Fits the edges of one axis. -/
def hintIdeographicEdges (edges : Array Edge) (a : Axis) : Array Edge :=
  let n := edges.size
  let (edges, _, _, _, skipped) := (List.range n).foldl
    (fun (acc : Array Edge × Bool × Int × Option Int × Nat) i =>
      let (edges, anchored, delta, lastStem, skipped) := acc
      let e := edges[i]!
      if e.done then acc
      else match e.link with
      | none => (edges, anchored, delta, lastStem, skipped + 1)
      | some l =>
        let e2 := edges[l]!
        let crowded := match lastStem with
          | some p => e.pos < p + 64 || e2.pos < p + 64
          | none => false
        if crowded then (edges, anchored, delta, lastStem, skipped + 1)
        else if l < i then
          let pos := e2.pos + (e.opos - e2.opos)
          (edges.modify i fun x => { x with pos, done := true }, anchored, delta, some pos, skipped)
        else
          let first := a == .x && !anchored
          let (p1, p2, d) := normalStem e e2 (if first then 0 else delta) a
          let delta := if first then d else delta
          let edges := edges.modify i fun x => { x with pos := p1, done := true }
          let edges := edges.modify l fun x => { x with pos := p2, done := true }
          (edges, true, delta, some p2, skipped)) (edges, false, 0, none, 0)
  let edges := keepSymmetry edges a
  if skipped = 0 then edges
  else
    let (edges, skipped) := (List.range n).foldl (fun (acc : Array Edge × Nat) i =>
      let (edges, skipped) := acc
      let e := edges[i]!
      if e.done then acc
      else match e.serif with
        | some s =>
          let base := edges[s]!
          (edges.modify i fun x => { x with pos := base.pos + (x.opos - base.opos), done := true }, skipped - 1)
        | none => acc) (edges, skipped)
    if skipped = 0 then edges
    else
      (List.range n).foldl (fun edges i =>
        let e := edges[i]!
        if e.done then edges
        else
          let before := (List.range i).reverse.find? fun k => edges[k]!.done
          let after := ((List.range (n - i - 1)).find? fun k => edges[i + 1 + k]!.done).map (i + 1 + ·)
          let pos := match before, after with
            | none, none => e.pos
            | none, some f => edges[f]!.pos + (e.opos - edges[f]!.opos)
            | some b, none => edges[b]!.pos + (e.opos - edges[b]!.opos)
            | some b, some f =>
              let eb := edges[b]!
              let ef := edges[f]!
              if ef.fpos = eb.fpos then eb.pos
              else eb.pos + mulDiv (e.fpos - eb.fpos) (ef.pos - eb.pos) (ef.fpos - eb.fpos)
          edges.modify i fun x => { x with pos }) edges

/-- Hints an outline in the ideographic style at a scale, on both axes. -/
def hintIdeographic (o : GlyphOutline) (unitsPerEm : Nat) (scale : Int) : HintOutline :=
  let h := HintOutline.load o unitsPerEm scale scale
  let threshold := tdiv (emConstant unitsPerEm 50) 5
  let detect (a : Axis) : AxisEdges :=
    let major := h.majorDir a
    let segs := linkIdeographic (h.segments a unitsPerEm) major unitsPerEm scale
    ideographicEdges segs scale threshold major
  let axes := [Axis.x, Axis.y].map fun a => (a, detect a)
  axes.foldl (fun h (a, ax) =>
    let ax := { ax with edges := hintIdeographicEdges ax.edges a }
    (h.shiftSegments a ax).alignStrong a ax.edges |>.alignWeak a) h

end GlyphCanvas.Hinting
