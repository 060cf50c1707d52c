import GlyphCanvas.Font.Sfnt

namespace GlyphCanvas

open FontBytes

/-- A character map subtable: its bytes, starting at the subtable. -/
structure CharMap where
  data : ByteArray

namespace CharMap

/-- The subtable for a platform and encoding, if listed. -/
def subtable? (cmap : ByteArray) (platform encoding : Nat) : Option CharMap := do
  let count ← u16? cmap 2
  let found := (List.range count).find? fun i =>
    u16? cmap (4 + 8 * i) == some platform && u16? cmap (6 + 8 * i) == some encoding
  let i ← found
  let offset ← u32? cmap (8 + 8 * i)
  if offset < cmap.size then some ⟨cmap.extract offset cmap.size⟩ else none

/-- The preferred subtable of a `cmap` table. -/
def ofTable (cmap : ByteArray) : Option CharMap :=
  let candidates : List (Nat × Nat) := [(3, 10), (0, 6), (0, 4), (3, 1), (0, 3), (0, 2), (0, 1), (0, 0), (3, 0)]
  candidates.findSome? fun (p, e) =>
    (subtable? cmap p e).bind fun sub =>
      if [0, 4, 6, 12].contains (u16 sub.data 0) then some sub else none

/-- Format 4: segments of consecutive characters, each with a delta or an index array. -/
def lookupSegmented (d : ByteArray) (c : Nat) : Option Nat := do
  let segCount := u16 d 6 / 2
  let ends := 14
  let starts := ends + 2 * segCount + 2
  let deltas := starts + 2 * segCount
  let ranges := deltas + 2 * segCount
  let seg ← (List.range segCount).find? fun i => c ≤ u16 d (ends + 2 * i)
  let start := u16 d (starts + 2 * seg)
  if c < start then none
  else
    let delta := u16 d (deltas + 2 * seg)
    let rangeOffset := u16 d (ranges + 2 * seg)
    let g ← if rangeOffset = 0 then some ((c + delta) % 65536)
      else do
        let at_ := ranges + 2 * seg + rangeOffset + 2 * (c - start)
        let g ← u16? d at_
        if g = 0 then none else some ((g + delta) % 65536)
    if g = 0 then none else some g

/-- Format 12: groups of consecutive characters mapped to consecutive glyphs. -/
def lookupGroups (d : ByteArray) (c : Nat) : Option Nat := do
  let count := u32 d 12
  let group ← (List.range count).find? fun i =>
    u32 d (16 + 12 * i) ≤ c && c ≤ u32 d (20 + 12 * i)
  let g := u32 d (24 + 12 * group) + (c - u32 d (16 + 12 * group))
  if g = 0 then none else some g

/-- The glyph of a character, if the map covers it. -/
def glyph? (m : CharMap) (c : Nat) : Option Nat :=
  let d := m.data
  match u16 d 0 with
  | 0 => if c < 256 then (u8? d (6 + c)).bind fun g => if g = 0 then none else some g else none
  | 4 => if c < 65536 then lookupSegmented d c else none
  | 6 =>
    let first := u16 d 6
    let count := u16 d 8
    if first ≤ c ∧ c < first + count then (u16? d (10 + 2 * (c - first))).bind fun g => if g = 0 then none else some g
    else none
  | 12 => lookupGroups d c
  | _ => none

end CharMap

/-- The horizontal metrics table with its count of full records. -/
structure HorizontalMetrics where
  data : ByteArray
  count : Nat

namespace HorizontalMetrics

/-- The advance of a glyph: its own record, or the last one for glyphs past the records. -/
def advance (m : HorizontalMetrics) (g : Nat) : Nat :=
  if m.count = 0 then 0
  else if g < m.count then u16 m.data (4 * g) else u16 m.data (4 * (m.count - 1))

/-- The left side bearing of a glyph. -/
def sideBearing? (m : HorizontalMetrics) (g : Nat) : Option Int :=
  if g < m.count then i16? m.data (4 * g + 2) else i16? m.data (4 * m.count + 2 * (g - m.count))

end HorizontalMetrics

/-- A glyph's bounding box in font units. -/
structure GlyphBox where
  xMin : Int
  yMin : Int
  xMax : Int
  yMax : Int
  deriving DecidableEq, Repr

/-- The outline table and its index. -/
structure GlyphTable where
  glyf : ByteArray
  loca : ByteArray
  longOffsets : Bool
  glyphCount : Nat

namespace GlyphTable

/-- The byte range of a glyph's record within `glyf`. -/
def range? (t : GlyphTable) (g : Nat) : Option (Nat × Nat) := do
  if g ≥ t.glyphCount then none
  else
    let (a, b) ← if t.longOffsets then do pure (← u32? t.loca (4 * g), ← u32? t.loca (4 * g + 4))
      else do pure (2 * (← u16? t.loca (2 * g)), 2 * (← u16? t.loca (2 * g + 2)))
    if a ≤ b ∧ b ≤ t.glyf.size then some (a, b) else none

/-- The record of a glyph; empty for a glyph without an outline. -/
def record? (t : GlyphTable) (g : Nat) : Option ByteArray :=
  (t.range? g).map fun (a, b) => t.glyf.extract a b

/-- The bounding box stored in a glyph's header; none for an empty glyph. -/
def box? (t : GlyphTable) (g : Nat) : Option GlyphBox := do
  let r ← t.record? g
  if r.size < 10 then none
  else some ⟨i16 r 2, i16 r 4, i16 r 6, i16 r 8⟩

end GlyphTable

namespace SfntFace

def glyphCount (f : SfntFace) : Nat := ((f.table? "maxp").bind fun t => u16? t 4).getD 0

def unitsPerEm? (f : SfntFace) : Option Nat := (f.table? "head").bind fun t => u16? t 18

def charMap? (f : SfntFace) : Option CharMap := (f.table? "cmap").bind CharMap.ofTable

def horizontalMetrics (f : SfntFace) : HorizontalMetrics :=
  match f.table? "hmtx", (f.table? "hhea").bind fun t => u16? t 34 with
  | some d, some n => ⟨d, n⟩
  | _, _ => ⟨ByteArray.empty, 0⟩

def glyphTable? (f : SfntFace) : Option GlyphTable := do
  let glyf ← f.table? "glyf"
  let loca ← f.table? "loca"
  let head ← f.table? "head"
  pure ⟨glyf, loca, i16 head 50 ≠ 0, f.glyphCount⟩

end SfntFace

end GlyphCanvas
