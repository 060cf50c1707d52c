import GlyphCanvas.Shaping.Buffer
import GlyphCanvas.Shaping.Run
import GlyphCanvas.Font.Face
import GlyphCanvas.Text.Utf8

namespace GlyphCanvas

/-- What shaping reads from a face. -/
structure ShapingFace where
  charMap : Option CharMap
  metrics : HorizontalMetrics
  glyphs : Option GlyphTable
  unitsPerEm : Nat
  lookups : List (List SubstLookup)

namespace ShapingFace

/-- The shaping view of a face, when its directory is complete. -/
def load (data : ByteArray) (index : Nat) : Option ShapingFace :=
  (SfntFace.load data index).map fun f =>
    ⟨f.charMap?, f.horizontalMetrics, f.glyphTable?, (f.unitsPerEm?).getD 1000, f.substLookups "latn"⟩

def glyph? (f : ShapingFace) (c : Nat) : Option Nat := f.charMap.bind (·.glyph? c)

def nominal (f : ShapingFace) : NominalGlyphs := ⟨f.glyph?⟩

def advance (f : ShapingFace) (g : Nat) : Int := f.metrics.advance g

/-- Ink extents of a glyph: left bearing, top, width and (negative) height; all zero for a
glyph without an outline. -/
structure Extents where
  xBearing : Int
  yBearing : Int
  width : Int
  height : Int

def extents? (f : ShapingFace) (g : Nat) : Option Extents := do
  let t ← f.glyphs
  let r ← t.record? g
  if r.size = 0 then some ⟨0, 0, 0, 0⟩
  else
    let b ← t.box? g
    let lsb := (f.metrics.sideBearing? g).getD (min b.xMin b.xMax)
    some ⟨lsb, max b.yMin b.yMax, max b.xMin b.xMax - min b.xMin b.xMax, min b.yMin b.yMax - max b.yMin b.yMax⟩

end ShapingFace

/-! ## Substitution -/

/-- Whether a lookup with these flags passes over a glyph entirely. -/
def skippedByFlag (flag : Nat) (it : ShapeItem) : Bool :=
  match it.glyphClass with
  | .base => (flag / 2) % 2 = 1
  | .ligature => (flag / 4) % 2 = 1
  | .mark => (flag / 8) % 2 = 1

/-- Matches the components of a ligature after position `i`: returns the positions of the
matched components. A glyph skipped by the flags is passed over, a default ignorable is passed
over when it does not match, and anything else must match. -/
def matchComponents (flag : Nat) (items : Array ShapeItem) : Nat → List Nat → Nat → Option (List Nat)
  | _, [], _ => some []
  | _, _ :: _, 0 => none
  | i, c :: cs, fuel + 1 =>
    if i + 1 ≥ items.size then none
    else
      let j := i + 1
      let it := items[j]!
      if skippedByFlag flag it then matchComponents flag items j (c :: cs) fuel
      else if it.glyph == c then (matchComponents flag items j cs fuel).map (j :: ·)
      else if it.isIgnorable && !it.hidden then matchComponents flag items j (c :: cs) fuel
      else none

/-- Replaces the glyphs at `first :: rest` by a ligature glyph; the glyphs between them follow
the ligature. Returns the new buffer, the position after the ligature's span and the next
ligature id. -/
def ligate (items : Array ShapeItem) (first : Nat) (rest : List Nat) (glyph ligId : Nat) :
    Array ShapeItem × Nat × Nat :=
  let last := rest.getLast?.getD first
  let items := mergeClusters items first (last + 1)
  let head := items[first]!
  let components := rest.map fun p => items[p]!
  let isBaseLigature := head.glyphClass == .base && components.all (·.glyphClass == .mark)
  let isMarkLigature := head.glyphClass == .mark && components.all (·.glyphClass == .mark)
  let isLigature := !isBaseLigature && !isMarkLigature
  let total := ([head] ++ components).foldl (fun n it => n + it.ligComponents) 0
  let lig : ShapeItem :=
    if isLigature then
      { head with
        glyph := glyph, glyphClass := .ligature, substituted := true, ligated := true, ligId := ligId,
        ligComponents := total % 16, ligComponent := 0, mark := head.mark && !head.nonspacing,
        nonspacing := false }
    else { head with glyph := glyph, substituted := true, ligated := true }
  let between := (List.range (last - first)).filterMap fun k =>
    let p := first + 1 + k
    if rest.contains p then none else some (p, items[p]!)
  let componentIndex (p : Nat) : Nat := (rest.filter (· < p)).length + 1
  let kept := between.map fun (p, it) =>
    if isLigature then { it with ligId, ligComponent := min (componentIndex p) 15 } else it
  let before := items.extract 0 first
  let after := items.extract (last + 1) items.size
  let out := before ++ #[lig] ++ kept.toArray ++ after
  (out, first + 1 + kept.length, if isLigature then (if ligId = 7 then 1 else ligId + 1) else ligId)

/-- Applies one lookup over the whole buffer. -/
def applyLookup (lookup : SubstLookup) (items : Array ShapeItem) (ligId : Nat) : Array ShapeItem × Nat :=
  let rec go (fuel i : Nat) (items : Array ShapeItem) (ligId : Nat) : Array ShapeItem × Nat :=
    match fuel with
    | 0 => (items, ligId)
    | fuel + 1 =>
      if i ≥ items.size then (items, ligId)
      else
        let it := items[i]!
        if skippedByFlag lookup.flag it then go fuel (i + 1) items ligId
        else
          let ligature := lookup.subtables.findSome? fun st =>
            (st.ligatures it.glyph).findSome? fun rule =>
              (matchComponents lookup.flag items i rule.components (items.size + 1)).map (rule.glyph, ·)
          match ligature with
          | some (glyph, rest) =>
            let (items, next, ligId) := ligate items i rest glyph ligId
            go fuel next items ligId
          | none =>
            match lookup.subtables.findSome? (·.single? it.glyph) with
            | some g => go fuel (i + 1) (items.set! i { it with glyph := g, substituted := true }) ligId
            | none => go fuel (i + 1) items ligId
  go (items.size + 1) 0 items ligId

/-- Applies every lookup of every stage, in order. -/
def substitute (face : ShapingFace) (items : Array ShapeItem) : Array ShapeItem :=
  (face.lookups.foldl (fun acc stage => stage.foldl (fun (items, id) lk => applyLookup lk items id) acc)
    (items, 1)).1

/-! ## Positioning -/

/-- A glyph's advance and offset, in font units. -/
structure GlyphPlacement where
  advance : Int
  xOffset : Int
  yOffset : Int
  deriving Repr, Inhabited

/-- The part of a ligature's extents that its component `c` (of `n`) takes. -/
def ShapingFace.Extents.component (e : ShapingFace.Extents) (c n : Nat) : ShapingFace.Extents :=
  { e with xBearing := e.xBearing + ((c : Int) * e.width).tdiv n, width := e.width.tdiv n }

/-- Places one mark against the (cluster) extents of its base, updating those extents so that
the next mark of the class stacks on it. -/
def placeMark (yGap : Int) (base : ShapingFace.Extents) (mark : ShapingFace.Extents) (ccc : Nat) :
    (Int × Int) × ShapingFace.Extents :=
  let x : Int :=
    if ccc == 200 || ccc == 202 || ccc == 218 || ccc == 228 then base.xBearing - mark.xBearing
    else if ccc == 216 || ccc == 222 || ccc == 232 then
      base.xBearing + base.width - mark.width - mark.xBearing
    else if ccc == 233 || ccc == 234 then
      base.xBearing + base.width - mark.width.tdiv 2 - mark.xBearing
    else base.xBearing + (base.width - mark.width).tdiv 2 - mark.xBearing
  let below := ccc == 233 || ccc == 218 || ccc == 220 || ccc == 222
  let attachedBelow := ccc == 200 || ccc == 202
  let above := ccc == 234 || ccc == 228 || ccc == 230 || ccc == 232
  let attachedAbove := ccc == 214 || ccc == 216
  if below || attachedBelow then
    let base := if below then { base with height := base.height - yGap } else base
    let y := base.yBearing + base.height - mark.yBearing
    let (y, base) := if (yGap > 0) == (y > 0) then (0, { base with height := base.height - y }) else (y, base)
    ((x, y), { base with height := base.height + mark.height })
  else if above || attachedAbove then
    let base := if above then { base with yBearing := base.yBearing + yGap, height := base.height - yGap } else base
    let y := base.yBearing - (mark.yBearing + mark.height)
    let (y, base) := if (yGap > 0) != (y > 0) then
        let correction := (-y).tdiv 2
        (y + correction, { base with yBearing := base.yBearing + correction, height := base.height - correction })
      else (y, base)
    ((x, y), { base with yBearing := base.yBearing - mark.height, height := base.height + mark.height })
  else ((x, 0), base)

/-- Places the marks `(base, stop)` of one base. -/
def placeAroundBase (face : ShapingFace) (items : Array ShapeItem) (pos : Array GlyphPlacement)
    (base stop : Nat) : Array GlyphPlacement :=
  let b := items[base]!
  match face.extents? b.glyph with
  | none => (List.range (stop - base - 1)).foldl (fun pos k =>
      let p := pos[base + 1 + k]!
      pos.set! (base + 1 + k) { p with advance := 0 }) pos
  | some ext =>
    let baseExt : ShapingFace.Extents :=
      { ext with yBearing := ext.yBearing + pos[base]!.yOffset, xBearing := 0, width := face.advance b.glyph }
    let comps := if b.glyphClass == .ligature then b.ligComponents else 1
    let yGap : Int := (face.unitsPerEm : Int) / 16
    let step (acc : Array GlyphPlacement × Int × ShapingFace.Extents × ShapingFace.Extents × Int × Nat) (i : Nat) :=
      let (pos, xAcc, component, cluster, lastComp, lastClass) := acc
      let it := items[i]!
      if it.mark && it.combiningClass != 0 then
        let (component, lastComp, lastClass) :=
          if comps > 1 then
            let c := if b.ligId == 0 || b.ligId != it.ligId || it.ligComponent == 0 || it.ligComponent > comps then
                comps - 1 else it.ligComponent - 1
            if lastComp != (c : Int) then
              (baseExt.component c comps, (c : Int), 255)
            else (component, lastComp, lastClass)
          else (component, lastComp, lastClass)
        let ccc := it.combiningClass
        let cluster := if ccc != lastClass then component else cluster
        match face.extents? it.glyph with
        | none =>
          let p := pos[i]!
          (pos.set! i { p with advance := 0, xOffset := p.xOffset + xAcc }, xAcc, component, cluster, lastComp, ccc)
        | some markExt =>
          let ((x, y), cluster) := placeMark yGap cluster markExt ccc
          (pos.set! i { advance := 0, xOffset := x + xAcc, yOffset := y }, xAcc, component, cluster, lastComp, ccc)
      else (pos, xAcc - pos[i]!.advance, component, cluster, lastComp, lastClass)
    ((List.range (stop - base - 1)).map (base + 1 + ·)).foldl step
      (pos, -pos[base]!.advance, baseExt, baseExt, -1, 255) |>.1

/-- Fallback placement of marks over their bases, cluster by cluster. -/
def placeMarks (face : ShapingFace) (items : Array ShapeItem) (pos : Array GlyphPlacement) : Array GlyphPlacement :=
  let n := items.size
  let clusterStarts := (List.range n).filter fun i => i = 0 || !items[i]!.mark
  let clusterEnds := clusterStarts.drop 1 ++ [n]
  (clusterStarts.zip clusterEnds).foldl (fun pos (s, e) =>
    if e - s < 2 then pos
    else
      let bases := (List.range (e - s)).map (s + ·) |>.filter fun i => !items[i]!.mark
      match bases.head? with
      | none => pos
      | some b =>
        let markEnd := NominalGlyphs.findFrom items (!·.mark) (b + 1) e
        let pos := placeAroundBase face items pos b markEnd
        let rec more (fuel j : Nat) (pos : Array GlyphPlacement) : Array GlyphPlacement :=
          match fuel with
          | 0 => pos
          | fuel + 1 =>
            if j ≥ e then pos
            else
              let stop := NominalGlyphs.findFrom items (!·.mark) (j + 1) e
              more fuel stop (placeAroundBase face items pos j stop)
        more (e - s) markEnd pos) pos

/-- The advance of a missing space separator drawn with the space glyph. -/
def spaceAdvance (face : ShapingFace) (width : Unicode.SpaceWidth) (own : Int) : Int :=
  let em : Int := face.unitsPerEm
  match width with
  | .space => own
  | .emFraction n => (em + (n : Int) / 2) / (n : Int)
  | .fourEighteenthsEm => em * 4 / 18
  | .figure =>
    match (List.range 10).findSome? fun d => face.glyph? (0x30 + d) with
    | some g => face.advance g
    | none => own
  | .punctuation =>
    match (face.glyph? 0x2E).orElse fun _ => face.glyph? 0x2C with
    | some g => face.advance g
    | none => own
  | .narrow => own.tdiv 2

/-- A shaped glyph: glyph id, byte cluster and placement in font units. -/
structure ShapedGlyph where
  glyph : Nat
  cluster : Nat
  placement : GlyphPlacement
  deriving Repr

/-- Default ignorables left after substitution become the space glyph; a font without a space
loses them, and a deleted glyph's cluster joins its neighbour's (the following one when nothing
is kept before it). -/
def hideIgnorables (face : ShapingFace) (items : Array ShapeItem) (pos : Array GlyphPlacement) :
    Array (ShapeItem × GlyphPlacement) :=
  if !items.any (·.isIgnorable) then items.zip pos
  else match face.glyph? 0x20 with
    | some space => (items.map fun it => if it.isIgnorable then { it with glyph := space } else it).zip pos
    | none =>
      let n := items.size
      let rec go (fuel i : Nat) (items : Array ShapeItem) (kept : Array (ShapeItem × GlyphPlacement)) :
          Array (ShapeItem × GlyphPlacement) :=
        match fuel with
        | 0 => kept
        | fuel + 1 =>
          if i ≥ n then kept
          else
            let it := items[i]!
            if !it.isIgnorable then go fuel (i + 1) items (kept.push (it, pos[i]!))
            else if i + 1 < n && items[i + 1]!.cluster == it.cluster then go fuel (i + 1) items kept
            else if kept.size > 0 then
              let old := kept.back!.1.cluster
              if it.cluster < old then
                let tail := (kept.toList.reverse.takeWhile (·.1.cluster == old)).length
                let kept := kept.mapIdx fun k (g, p) =>
                  if k + tail ≥ kept.size then ({ g with cluster := it.cluster }, p) else (g, p)
                go fuel (i + 1) items kept
              else go fuel (i + 1) items kept
            else if i + 1 < n then go fuel (i + 1) (mergeClusters items i (i + 2)) kept
            else go fuel (i + 1) items kept
      go (n + 1) 0 items #[]

/-- Shapes a line left to right with a face, in font units. -/
def ShapingFace.shape (face : ShapingFace) (text : String) : List ShapedGlyph :=
  let items := formClusters (ShapeItem.ofText text)
  let items := normalize face.nominal items
  let items := synthesizeClasses items
  let items := substitute face items
  let pos := items.map fun it => ({ advance := face.advance it.glyph, xOffset := 0, yOffset := 0 } : GlyphPlacement)
  let pos := (List.range items.size).foldl (fun pos i =>
    let it := items[i]!
    match it.spaceWidth with
    | some w => if it.ligated then pos else
        let p := pos[i]!
        pos.set! i { p with advance := spaceAdvance face w p.advance }
    | none => pos) pos
  let pos := (List.range items.size).foldl (fun pos i =>
    if items[i]!.glyphClass == .mark then
      let p := pos[i]!
      pos.set! i { p with xOffset := p.xOffset - p.advance, advance := 0 }
    else pos) pos
  let pos := (List.range items.size).foldl (fun pos i =>
    if items[i]!.isIgnorable then pos.set! i ⟨0, 0, 0⟩ else pos) pos
  let pos := placeMarks face items pos
  (hideIgnorables face items pos).toList.map fun (it, p) => ⟨it.glyph, it.cluster, p⟩

/-- UTF-16 offset of every byte position of a text (bytes inside a character map to its
start), with one more entry for the end. The offsets are counted in 32 bits. -/
def utf16Offsets (text : String) : Array UInt32 :=
  let (offsets, units) := text.toList.foldl (fun (acc : Array UInt32 × UInt32) ch =>
    let (offs, u) := acc
    ((List.range ch.utf8Size).foldl (fun o _ => o.push u) offs, u + (charUnits ch).toUInt32)) (#[], 0)
  offsets.push units

/-- The run of a line shaped with a face at a pixel size: advances and offsets are scaled by
`size / unitsPerEm` (by one when the face claims zero units per em), offsets are taken from the
pen, vertical offsets point down, and clusters are UTF-16 offsets. -/
def shapeRun (text : String) (face : FontFace) (shaping : ShapingFace) (size : Binary32) : ShapedRun :=
  let glyphs := shaping.shape text
  let upem := face.metrics.unitsPerEm
  let scale : Binary32 := if upem ≠ 0 then size / Binary32.ofNat upem else 1
  let offsets := utf16Offsets text
  let bytes := text.utf8ByteSize
  let (pen, positions, advances) := glyphs.foldl (fun (acc : Binary32 × Array GlyphOffset × Array Binary32) g =>
    let (pen, ps, advs) := acc
    let adv := Binary32.ofInt g.placement.advance * scale
    let xo := Binary32.ofInt g.placement.xOffset * scale
    let yo := -(Binary32.ofInt g.placement.yOffset) * scale
    (pen + adv, ps.push ⟨pen + xo, yo⟩, advs.push adv)) (0, #[], #[])
  { fontSize := size, glyphs := glyphs.map (·.glyph), positions := positions.toList, advances := advances.toList,
    clusters := glyphs.map fun g => (offsets[min g.cluster bytes]!).toNat, codeUnits := (offsets[bytes]!).toNat,
    width := pen }

/-- Shapes a line with a face at a pixel size; none when the face's directory is incomplete. -/
def FontFace.shape (face : FontFace) (text : String) (size : Binary32) : Option ShapedRun :=
  (ShapingFace.load face.data face.index).map fun s => shapeRun text face s size

end GlyphCanvas
