import GlyphCanvas.Text.Properties
import GlyphCanvas.Font.Substitution

namespace GlyphCanvas

/-- How substitution treats a glyph: as a base, a ligature or a mark. -/
inductive GlyphClass where
  | base
  | ligature
  | mark
  deriving DecidableEq, Repr, Inhabited

/-- One entry of the shaping buffer. -/
structure ShapeItem where
  /-- The character it stands for (the first one, for a ligature). -/
  char : Nat
  glyph : Nat := 0
  /-- UTF-8 byte offset of its cluster. -/
  cluster : Nat
  /-- General category of a mark (`Mn`, `Mc` or `Me`). -/
  mark : Bool := false
  /-- General category `Mn`. -/
  nonspacing : Bool := false
  combiningClass : Nat := 0
  ignorable : Bool := false
  hidden : Bool := false
  continuation : Bool := false
  glyphClass : GlyphClass := .base
  substituted : Bool := false
  ligated : Bool := false
  ligId : Nat := 0
  /-- Component (counted from one) of the ligature a mark belongs to; zero when none. -/
  ligComponent : Nat := 0
  /-- Number of components of a ligature. -/
  ligComponents : Nat := 1
  spaceWidth : Option Unicode.SpaceWidth := none
  deriving Repr, Inhabited

namespace ShapeItem

/-- An item for a character with the properties the character has on its own. -/
def ofChar (c cluster : Nat) : ShapeItem :=
  if c < 0x80 then { char := c, cluster }
  else
    let mark := Unicode.isMark c
    { char := c, cluster, mark, nonspacing := Unicode.isNonspacingMark c,
      combiningClass := if mark then Unicode.combiningClass c else 0,
      ignorable := Unicode.isDefaultIgnorable c,
      hidden := Unicode.isDefaultIgnorable c && Unicode.isHiddenIgnorable c,
      continuation := mark }

/-- The same entry standing for another character with its own properties. -/
def withChar (it : ShapeItem) (c g : Nat) : ShapeItem :=
  { ShapeItem.ofChar c it.cluster with glyph := g }

/-- A default ignorable that substitution has not touched. -/
def isIgnorable (it : ShapeItem) : Bool := it.ignorable && !it.substituted

end ShapeItem

/-- The items of a text, one per character, with the grapheme continuations marked. -/
def ShapeItem.ofText (text : String) : Array ShapeItem :=
  let (items, _) := text.toList.foldl (fun (acc : Array ShapeItem × Nat) ch =>
    (acc.1.push (ShapeItem.ofChar ch.val.toNat acc.2), acc.2 + ch.utf8Size)) (#[], 0)
  let n := items.size
  (List.range n).foldl (fun (items : Array ShapeItem) i =>
    let it := items[i]!
    let c := it.char
    if Unicode.isLetterOrSpace c || it.continuation then items
    else if Unicode.isEmojiModifier c then items.set! i { it with continuation := true }
    else if i > 0 && Unicode.isRegionalIndicator c then
      let prev := items[i - 1]!
      if Unicode.isRegionalIndicator prev.char && !prev.continuation then items.set! i { it with continuation := true }
      else items
    else if c == Unicode.zeroWidthJoiner then
      let items := items.set! i { it with continuation := true }
      if i + 1 < n && Unicode.isExtendedPictographic items[i + 1]!.char then
        items.set! (i + 1) { items[i + 1]! with continuation := true }
      else items
    else if Unicode.inRange c 0xFF9E 0xFF9F || Unicode.inRange c 0xE0020 0xE007F then
      items.set! i { it with continuation := true }
    else items) items

/-- Gives items `[lo, hi)` the smallest cluster among them, widened to neighbours that share the
cluster at either end. -/
def mergeClusters (items : Array ShapeItem) (lo hi : Nat) : Array ShapeItem :=
  if hi ≤ lo + 1 then items
  else
    let cluster := ((List.range (hi - lo)).map fun k => items[lo + k]!.cluster).foldl min items[lo]!.cluster
    let hi := (List.range (items.size - hi)).foldl (fun h k =>
      if h = hi + k ∧ h < items.size ∧ items[h - 1]!.cluster == items[h]!.cluster then h + 1 else h) hi
    let lo := (List.range lo).foldl (fun l _ =>
      if 0 < l ∧ items[l - 1]!.cluster == items[l]!.cluster then l - 1 else l) lo
    (List.range (hi - lo)).foldl (fun a k => a.set! (lo + k) { a[lo + k]! with cluster }) items

/-- Merges the clusters of every grapheme (only text with non-ASCII characters has graphemes
of more than one character). -/
def formClusters (items : Array ShapeItem) : Array ShapeItem :=
  if items.all fun it => it.char < 0x80 then items
  else
    let starts := (List.range items.size).filter fun i => i = 0 || !items[i]!.continuation
    let ends := starts.drop 1 ++ [items.size]
    (starts.zip ends).foldl (fun a (s, e) => mergeClusters a s e) items

/-- What normalization needs of a font: its character map and its space glyph. -/
structure NominalGlyphs where
  glyph? : Nat → Option Nat

namespace NominalGlyphs

/-- The outputs of decomposing `c` (at most `depth` levels deep), each with its glyph; empty when
the font lacks a part. `shortest` stops at the first level whose base the font has. -/
def decompose (font : NominalGlyphs) (shortest : Bool) : Nat → Nat → List (Nat × Nat)
  | 0, _ => []
  | depth + 1, c =>
    match Unicode.decompose c with
    | none => []
    | some (a, b) =>
      match font.glyph? b with
      | none => []
      | some gb =>
        match font.glyph? a with
        | some ga =>
          if shortest then [(a, ga), (b, gb)]
          else
            let deeper := font.decompose shortest depth a
            if deeper.isEmpty then [(a, ga), (b, gb)] else deeper ++ [(b, gb)]
        | none =>
          let deeper := font.decompose shortest depth a
          if deeper.isEmpty then [] else deeper ++ [(b, gb)]

/-- The items one character becomes. -/
def decomposeItem (font : NominalGlyphs) (shortest : Bool) (it : ShapeItem) : List ShapeItem :=
  let c := it.char
  let own := font.glyph? c
  match (if shortest then own else none) with
  | some g => [{ it with glyph := g }]
  | none =>
    let parts := font.decompose shortest 4 c
    if !parts.isEmpty then parts.map fun (p, g) => it.withChar p g
    else match own with
      | some g => [{ it with glyph := g }]
      | none =>
        let spaceGlyph := if Unicode.isSpaceSeparator c then font.glyph? 0x20 else none
        match Unicode.spaceWidth c, spaceGlyph with
        | some w, some g => [{ it with glyph := g, spaceWidth := some w }]
        | _, _ =>
          match (if c == 0x2011 then font.glyph? 0x2010 else none) with
          | some g => [{ it with glyph := g }]
          | none => [{ it with glyph := 0 }]

/-- The first index at or after `i` (up to `n`) whose item satisfies `p`. -/
def findFrom (items : Array ShapeItem) (p : ShapeItem → Bool) (i n : Nat) : Nat :=
  ((List.range (n - min i n)).find? fun k => p items[i + k]!).map (i + ·) |>.getD n

/-- First round: items to glyphs, decomposing where needed. Returns whether every cluster was a
single character. -/
def decomposeAll (font : NominalGlyphs) (items : Array ShapeItem) : Array ShapeItem × Bool :=
  let n := items.size
  let rec go (fuel idx : Nat) (out : Array ShapeItem) (simple : Bool) : Array ShapeItem × Bool :=
    match fuel with
    | 0 => (out, simple)
    | fuel + 1 =>
      if idx ≥ n then (out, simple)
      else
        let firstMark := findFrom items (·.mark) (idx + 1) n
        let stop := if firstMark < n then firstMark - 1 else firstMark
        let out := (List.range (stop - min idx stop)).foldl (fun o k =>
          o ++ (font.decomposeItem true items[idx + k]!).toArray) out
        let idx := max idx stop
        if idx ≥ n then (out, simple)
        else
          let clusterEnd := findFrom items (!·.mark) (idx + 1) n
          let out :=
            if idx + 1 = clusterEnd then out ++ (font.decomposeItem true items[idx]!).toArray
            else (List.range (clusterEnd - idx)).foldl (fun o k =>
              o ++ (font.decomposeItem false items[idx + k]!).toArray) out
          go fuel clusterEnd out false
  go (n + 1) 0 #[] true

end NominalGlyphs

/-- Second round: each run of marks is stably sorted by combining class (runs longer than 32
are left alone). -/
def reorderMarks (items : Array ShapeItem) : Array ShapeItem :=
  let n := items.size
  let rec go (fuel i : Nat) (a : Array ShapeItem) : Array ShapeItem :=
    match fuel with
    | 0 => a
    | fuel + 1 =>
      if i ≥ n then a
      else if a[i]!.combiningClass == 0 then go fuel (i + 1) a
      else
        let stop := NominalGlyphs.findFrom a (·.combiningClass == 0) (i + 1) n
        if stop - i > 32 then go fuel stop a
        else
          let run := ((List.range (stop - i)).map fun k => a[i + k]!)
          let sorted := run.mergeSort fun x y => x.combiningClass ≤ y.combiningClass
          let moved := run.map (·.cluster) != sorted.map (·.cluster)
          let a := (List.range (stop - i)).foldl (fun a k => a.set! (i + k) sorted[k]!) a
          let a := if moved then mergeClusters a i stop else a
          go fuel stop a
  go (n + 1) 0 items

/-- Third round: marks composed into their starters where the font has the composite. -/
def recompose (font : NominalGlyphs) (items : Array ShapeItem) : Array ShapeItem :=
  match items.toList with
  | [] => items
  | first :: rest =>
    let (out, _) := rest.foldl (fun (acc : Array ShapeItem × Nat) cur =>
      let (out, starter) := acc
      let prev := out.back!
      let composed : Option (Nat × Nat) :=
        if cur.mark && (starter = out.size - 1 || prev.combiningClass < cur.combiningClass) then
          (Unicode.compose out[starter]!.char cur.char).bind fun c => (font.glyph? c).map (c, ·)
        else none
      match composed with
      | some (c, g) =>
        let out := mergeClusters (out.push cur) starter (out.size + 1)
        let s := out[starter]!
        (out.pop.set! starter { ShapeItem.ofChar c s.cluster with glyph := g }, starter)
      | none =>
        let starter := if cur.mark && starter < out.size - 1 && prev.combiningClass > cur.combiningClass then
            out.size else starter
        let out := out.push cur
        (out, if cur.combiningClass == 0 then out.size - 1 else starter)) (#[first], 0)
    out

/-- Normalizes the buffer against a font. -/
def normalize (font : NominalGlyphs) (items : Array ShapeItem) : Array ShapeItem :=
  let (items, simple) := font.decomposeAll items
  if simple then items
  else
    let items := if items.any fun it => it.char ≥ 0x80 then reorderMarks items else items
    recompose font items

/-- Glyph classes from general categories, for fonts that do not define them: non-spacing marks
that are not default ignorable are marks. -/
def synthesizeClasses (items : Array ShapeItem) : Array ShapeItem :=
  items.map fun it => { it with glyphClass := if it.nonspacing && !it.ignorable then .mark else .base }

end GlyphCanvas
