import GlyphCanvas.Raster.Edge
import GlyphCanvas.Raster.Clip
import GlyphCanvas.Raster.Pixmap

namespace GlyphCanvas

/-- A horizontal run of pixels. -/
structure Span where
  x : Nat
  y : Nat
  width : Nat
  deriving Repr, DecidableEq

namespace Scan

/-- The edge table: edges with their links. Index `0` is the head sentinel and the last index
the tail sentinel. -/
structure Table where
  edges : Array Edge
  prev : Array Nat
  next : Array Nat

namespace Table

def x (t : Table) (i : Nat) : Int := t.edges[i]!.line.x
def firstY (t : Table) (i : Nat) : Int := t.edges[i]!.line.firstY

def remove (t : Table) (i : Nat) : Table :=
  let p := t.prev[i]!
  let n := t.next[i]!
  { t with next := t.next.set! p n, prev := t.prev.set! n p }

/-- Links edge `i` after edge `after`. -/
def insertAfter (t : Table) (i after : Nat) : Table :=
  let an := t.next[after]!
  { t with prev := (t.prev.set! i after).set! an i, next := (t.next.set! i an).set! after i }

/-- Moves an edge back until its predecessor is not to its right. -/
def backwardInsert (t : Table) (i : Nat) : Table :=
  let xi := t.x i
  let rec back : Nat → Nat → Nat
    | 0, p => p
    | fuel + 1, p => if p != 0 && t.x p > xi then back fuel t.prev[p]! else p
  let p := back t.edges.size t.prev[i]!
  if t.next[p]! != i then (t.remove i).insertAfter i p else t

/-- Merges the edges starting on row `y`, beginning with `newIdx`, into the active edges by
abscissa. -/
def insertNew (t : Table) (newIdx : Nat) (y : Int) : Table :=
  if t.firstY newIdx != y then t
  else
    let p := t.prev[newIdx]!
    if t.x p ≤ t.x newIdx then t
    else
      let xNew := t.x newIdx
      -- walk back to the last edge not to the right of the first new edge
      let rec start : Nat → Nat → Nat
        | 0, s => s
        | fuel + 1, s =>
          if s = 0 then s
          else
            let s' := t.prev[s]!
            if t.x s' ≤ xNew then s' else start fuel s'
      let s := start t.edges.size p
      let rec each : Nat → Table → Nat → Nat → Table
        | 0, t, _, _ => t
        | fuel + 1, t, s, newIdx =>
          let nextIdx := t.next[newIdx]!
          let rec forward : Nat → Nat → Nat × Bool
            | 0, s => (s, false)
            | f + 1, s =>
              let after := t.next[s]!
              if after = newIdx then (s, true)
              else if t.x after ≥ t.x newIdx then (s, false)
              else forward f after
          let (s, keep) := forward t.edges.size s
          let t := if keep then t else (t.remove newIdx).insertAfter newIdx s
          if t.firstY nextIdx != y then t else each fuel t newIdx nextIdx
      each t.edges.size t s newIdx

end Table

/-- The runs of one row and the table after stepping every active edge. -/
def walkRow (t : Table) (y : Int) : Array Span × Table × Nat :=
  let rec go : Nat → Table → Nat → Int → Int → Int → Array Span → Array Span × Table × Nat
    | 0, t, cur, _, _, _, spans => (spans, t, cur)
    | fuel + 1, t, cur, w, left, prevX, spans =>
      if t.firstY cur > y then (spans, t, cur)
      else
        let e := t.edges[cur]!
        let x := Fix32.sar (e.line.x + 32768) 16
        let left := if w = 0 then x else left
        let w := w + e.line.winding
        let spans := if w = 0 && x - left > 0 then spans.push ⟨left.toNat, y.toNat, (x - left).toNat⟩ else spans
        let nextIdx := t.next[cur]!
        if e.line.lastY = y then
          let (ok, e') := e.advance
          if ok then
            let t := { t with edges := t.edges.set! cur e' }
            let newX := e'.line.x
            if newX < prevX then go fuel (t.backwardInsert cur) nextIdx w left prevX spans
            else go fuel t nextIdx w left newX spans
          else go fuel (t.remove cur) nextIdx w left prevX spans
        else
          let newX := e.line.x + e.line.dx
          let t := { t with edges := t.edges.set! cur { e with line := { e.line with x := newX } } }
          if newX < prevX then go fuel (t.backwardInsert cur) nextIdx w left prevX spans
          else go fuel t nextIdx w left newX spans
  go t.edges.size t t.next[0]! 0 0 (t.x 0) #[]

/-- Walks rows `startY` onwards until `stopY` (the first row always). -/
def walk (t : Table) (startY stopY : Nat) : Array Span :=
  let rec go : Nat → Table → Int → Array Span → Array Span
    | 0, _, _, spans => spans
    | fuel + 1, t, y, spans =>
      let (rowSpans, t, cur) := walkRow t y
      let spans := spans ++ rowSpans
      let y := y + 1
      if y ≥ stopY then spans else go fuel (t.insertNew cur y) y spans
  go (stopY - startY + 1) t startY #[]

/-- The bias that widens the rounded bounds so that the converter's accumulated error stays
inside them. -/
def roundBias : Binary64 := 0.5234375

/-- The path's bounds rounded outwards, generously. -/
def conservativeBounds (r : Rect) : Option IntRect :=
  let l := (r.left.toBinary64 - roundBias).ceil.toInt32
  let t := (r.top.toBinary64 - roundBias).ceil.toInt32
  let rt := (r.right.toBinary64 + roundBias).floor.toInt32
  let b := (r.bottom.toBinary64 + roundBias).floor.toInt32
  if rt - l > 0 ∧ b - t > 0 ∧ rt - l ≤ i32Max ∧ b - t ≤ i32Max then
    IntRect.ofXYWH l t (rt - l).toNat (b - t).toNat
  else none

/-- The edge table from a list of edges, sorted stably by first row, then abscissa. -/
def table (edges : Array Edge) : Table :=
  let sorted := edges.toList.mergeSort fun a b =>
    if a.line.firstY = b.line.firstY then a.line.x ≤ b.line.x else a.line.firstY ≤ b.line.firstY
  let n := sorted.length
  let head : Edge := ⟨⟨-2147483648, 0, -2147483648, 0, 0⟩, .line⟩
  let tail : Edge := ⟨⟨0, 0, 2147483647, 0, 0⟩, .line⟩
  { edges := (#[head] ++ sorted.toArray).push tail,
    prev := (List.range (n + 2)).toArray.map (fun i => i - 1),
    next := (List.range (n + 2)).toArray.map (fun i => i + 1) }

end Scan

/-- The pixel runs covered by a path (nonzero winding) within a `width × height` area. -/
def Path.spans (path : Path) (width height : Nat) : Array Span :=
  match Scan.conservativeBounds path.bounds with
  | none => #[]
  | some ir =>
    let contained := 0 ≤ ir.x ∧ 0 ≤ ir.y ∧ ir.right ≤ width ∧ ir.bottom ≤ height
    let edges : Option (Array Edge) :=
      if contained then some (EdgeList.ofPath path)
      else
        match Rect.ofLTRB 0 0 (Binary32.ofNat width) (Binary32.ofNat height) with
        | some clip => EdgeList.ofClipped (path.clippedEdges clip)
        | none => none
    match edges with
    | none => #[]
    | some edges =>
      if edges.size < 2 then #[]
      else
        let startY := if contained then ir.y else max ir.y 0
        let stopY := if contained then ir.bottom else min ir.bottom height
        if startY < 0 ∨ stopY < 0 then #[]
        else Scan.walk (Scan.table edges) startY.toNat stopY.toNat

end GlyphCanvas
