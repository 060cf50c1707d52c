import GlyphCanvas.Font.Tables

namespace GlyphCanvas

open FontBytes

/-- A point of an outline in font units. -/
structure OutlinePoint where
  x : Int
  y : Int
  onCurve : Bool
  deriving DecidableEq, Repr, Inhabited

/-- A glyph outline: closed contours, each a non-empty array of points. -/
structure GlyphOutline where
  contours : Array (Array OutlinePoint)
  deriving Repr, Inhabited

namespace GlyphOutline

/-- The outline with no contours. -/
def empty : GlyphOutline := ⟨#[]⟩

/-- All points, contour after contour. -/
def points (o : GlyphOutline) : Array OutlinePoint := o.contours.foldl (· ++ ·) #[]

def pointCount (o : GlyphOutline) : Nat := o.contours.foldl (fun n c => n + c.size) 0

end GlyphOutline

namespace GlyphTable

/-- The flags of `count` points starting at `o`, repeats expanded, and the offset after them. -/
def readFlags (d : ByteArray) (o count : Nat) : Option (Array Nat × Nat) :=
  let rec go : Nat → Nat → Array Nat → Option (Array Nat × Nat)
    | 0, o, acc => some (acc, o)
    | fuel + 1, o, acc =>
      if acc.size ≥ count then some (acc.extract 0 count, o)
      else do
        let f ← u8? d o
        if f / 8 % 2 = 1 then
          let r ← u8? d (o + 1)
          go fuel (o + 2) (acc ++ Array.replicate (r + 1) f)
        else go fuel (o + 1) (acc.push f)
  go (count + 1) o #[]

/-- One axis of coordinates: `short` is the flag bit of a one-byte delta and `same` the bit that
makes it positive (or, without `short`, marks a zero delta). -/
def readCoords (d : ByteArray) (flags : List Nat) (o short same : Nat) : Option (List Int × Nat) :=
  let rec go : List Nat → Nat → Int → Option (List Int × Nat)
    | [], o, _ => some ([], o)
    | f :: rest, o, v =>
      if f / short % 2 = 1 then do
        let b ← u8? d o
        let v := if f / same % 2 = 1 then v + b else v - b
        let (vs, o) ← go rest (o + 1) v
        pure (v :: vs, o)
      else if f / same % 2 = 1 then do
        let (vs, o) ← go rest o v
        pure (v :: vs, o)
      else do
        let delta ← i16? d o
        let v := v + delta
        let (vs, o) ← go rest (o + 2) v
        pure (v :: vs, o)
  go flags o 0

/-- Splits points into contours at the given last indices. -/
def splitContours (pts : Array OutlinePoint) (ends : List Nat) : Array (Array OutlinePoint) :=
  let (cs, _) := ends.foldl (fun (acc : Array (Array OutlinePoint) × Nat) e =>
    (acc.1.push (pts.extract acc.2 (e + 1)), e + 1)) (#[], 0)
  cs.filter (!·.isEmpty)

/-- The outline of a glyph; none when its record cannot be read. -/
def outline? (t : GlyphTable) (g : Nat) : Option GlyphOutline := do
  let r ← t.record? g
  if r.size = 0 then pure .empty
  else
    let n ← i16? r 0
    if n ≤ 0 then pure .empty
    else
      let n := n.toNat
      let ends ← (List.range n).mapM fun i => u16? r (10 + 2 * i)
      let count := ends.foldl (fun m e => max m (e + 1)) 0
      let insLen ← u16? r (10 + 2 * n)
      let (flags, o) ← readFlags r (12 + 2 * n + insLen) count
      let flags := flags.toList
      let (xs, o) ← readCoords r flags o 2 16
      let (ys, _) ← readCoords r flags o 4 32
      let pts := ((flags.zip (xs.zip ys)).map fun (f, x, y) => (⟨x, y, f % 2 = 1⟩ : OutlinePoint)).toArray
      pure ⟨splitContours pts ends⟩

end GlyphTable

end GlyphCanvas
