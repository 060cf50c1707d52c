import GlyphCanvas.Hinting.Segments

namespace GlyphCanvas.Hinting

/-- An edge of the outline on one axis. -/
structure Edge where
  /-- Position in font units. -/
  fpos : Int
  /-- Scaled position before fitting. -/
  opos : Int
  /-- Fitted position. -/
  pos : Int
  dir : Direction
  /-- The segments of the edge, in the order they joined it. -/
  segments : Array Nat
  link : Option Nat := none
  serif : Option Nat := none
  round : Bool := false
  done : Bool := false
  /-- The fitted position of the alignment zone the edge snaps to. -/
  blue : Option Int := none
  deriving Repr, Inhabited

/-- The edges of one axis and the segments they group. -/
structure AxisEdges where
  segments : Array Segment
  edges : Array Edge
  deriving Repr, Inhabited

/-- Inserts a new edge for segment `s` at its place in the sorted edges. -/
def insertEdge (edges : Array Edge) (seg : Segment) (s : Nat) (scale : Int) (major : Direction) :
    Array Edge :=
  let rec place : Nat → Nat → Nat
    | 0, k => k
    | fuel + 1, k =>
      if k = 0 then 0
      else
        let e := edges[k - 1]!
        if e.fpos < seg.pos then k
        else if e.fpos = seg.pos ∧ seg.dir = major then k
        else place fuel (k - 1)
  let k := place (edges.size + 1) edges.size
  let e : Edge := { fpos := seg.pos, opos := mulFix seg.pos scale, pos := mulFix seg.pos scale,
                    dir := seg.dir, segments := #[s] }
  (edges.extract 0 k).push e ++ edges.extract k edges.size

/-- Adds segment `s` to edge `e`. -/
def joinEdge (edges : Array Edge) (e s : Nat) : Array Edge :=
  edges.modify e fun ed => { ed with segments := ed.segments.push s }

/-- Records in each segment the edge it belongs to. -/
def assignEdges (segments : Array Segment) (edges : Array Edge) : Array Segment :=
  (List.range edges.size).foldl (fun segs e =>
    edges[e]!.segments.foldl (fun segs s => segs.modify s fun g => { g with edge := some e }) segs) segments

/-- Links, serifs and roundness of the edges, from their segments. -/
def edgeProperties (segments : Array Segment) (edges : Array Edge) : Array Edge :=
  (List.range edges.size).foldl (fun edges e =>
    let (edges, rounds, straights) := edges[e]!.segments.foldl
      (fun (acc : Array Edge × Nat × Nat) s =>
        let (edges, r, st) := acc
        let seg := segments[s]!
        let (r, st) := if seg.round then (r + 1, st) else (r, st + 1)
        let serifEdge := seg.serif.bind fun t => segments[t]!.edge
        let isSerif := match serifEdge with
          | some se => se != e
          | none => false
        let linkEdge := seg.link.bind fun t => segments[t]!.edge
        bif linkEdge.isSome || isSerif then
          let ed := edges[e]!
          let seg2 := bif isSerif then seg.serif.getD 0 else seg.link.getD 0
          let current := bif isSerif then ed.serif else ed.link
          let edge2 := match current with
            | some e2 =>
              let edgeDelta := (ed.fpos - edges[e2]!.fpos).natAbs
              let segDelta := (seg.pos - segments[seg2]!.pos).natAbs
              if segDelta < edgeDelta then segments[seg2]!.edge else some e2
            | none => segments[seg2]!.edge
          let edges := edges.modify e fun ed =>
            bif isSerif then { ed with serif := edge2 } else { ed with link := edge2 }
          (edges, r, st)
        else (edges, r, st)) (edges, 0, 0)
    edges.modify e fun ed =>
      let ed := { ed with round := rounds > 0 && rounds ≥ straights }
      if ed.serif.isSome && ed.link.isSome then { ed with serif := none } else ed) edges

end GlyphCanvas.Hinting
