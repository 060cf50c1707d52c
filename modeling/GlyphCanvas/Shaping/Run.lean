import GlyphCanvas.Layout.Service

namespace GlyphCanvas

/-- A glyph's offset from its pen position. -/
structure GlyphOffset where
  x : Binary32
  y : Binary32
  deriving DecidableEq, Repr

/-- The output of shaping one line. -/
structure ShapedRun where
  fontSize : Binary32
  glyphs : List Nat
  positions : List GlyphOffset
  advances : List Binary32
  clusters : List Nat
  codeUnits : Nat
  width : Binary32
  deriving Repr

/-- A cluster group: its first offset, its pen position and its advance. -/
structure ClusterGroup where
  start : Nat
  x : Binary32
  advance : Binary32
  deriving DecidableEq, Repr

namespace ShapedRun

/-- Adds one glyph: it joins the last group when its cluster is that group's start, and opens a
new group at the current pen otherwise. -/
def addGlyph (acc : Array ClusterGroup × Binary32) (g : Nat × Binary32) :
    Array ClusterGroup × Binary32 :=
  let (groups, pen) := acc
  let (cluster, adv) := g
  match groups.back? with
  | some last =>
    if last.start = cluster then (groups.pop.push { last with advance := last.advance + adv }, pen + adv)
    else (groups.push ⟨cluster, pen, adv⟩, pen + adv)
  | none => (groups.push ⟨cluster, pen, adv⟩, pen + adv)

/-- The groups of consecutive glyphs with one cluster, glyphs and advances taken in pairs. -/
def groups (run : ShapedRun) : Array ClusterGroup :=
  ((run.clusters.zip run.advances).foldl addGlyph (#[], 0)).1

/-- Sets the entries `[lo, hi)` of an array to `v`. -/
def fillRange (a : Array Binary32) (lo hi : Nat) (v : Binary32) : Array Binary32 :=
  (List.range (hi - lo)).foldl (fun a k => a.set! (lo + k) v) a

/-- Lays out one group `i`: offsets from the end of the previous group up to its start stand at
its pen, and the offsets it spans share its advance evenly. Returns the stops and the offset
where the group ends. -/
def placeGroup (run : ShapedRun) (gs : Array ClusterGroup) (acc : Array Binary32 × Nat) (i : Nat) :
    Array Binary32 × Nat :=
  let (stops, covered) := acc
  match gs[i]? with
  | none => acc
  | some g =>
    let start := min g.start run.codeUnits
    let stop := max ((gs[i + 1]?.map fun n => min n.start run.codeUnits).getD run.codeUnits) start
    let stops := fillRange stops covered start g.x
    let span := Binary32.ofNat (max (stop - start) 1)
    let stops := (List.range (stop - start)).foldl
      (fun a k => a.set! (start + k) (g.x + g.advance * Binary32.ofNat k / span)) stops
    (stops, stop)

/-- The pen position at each UTF-16 offset `0 … codeUnits`. -/
def caretStops (run : ShapedRun) : Array Binary32 :=
  let gs := run.groups
  let (stops, covered) :=
    (List.range gs.size).foldl (placeGroup run gs) (Array.replicate (run.codeUnits + 1) 0, 0)
  fillRange stops covered (run.codeUnits + 1) run.width

end ShapedRun

/-- The layout of a list of caret stops: it spans one unit less than it has stops, and an offset
past the end reads the last stop. -/
def ShapedLayout.ofStops (stops : Array Binary32) : ShapedLayout where
  codeUnits := stops.size - 1
  cursorToX n := (stops[min n (stops.size - 1)]?).getD 0

/-- The layout of a shaped run, read off its caret stops. -/
def ShapedRun.toLayout (run : ShapedRun) : ShapedLayout := ShapedLayout.ofStops run.caretStops

end GlyphCanvas
