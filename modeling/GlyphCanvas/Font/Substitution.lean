import GlyphCanvas.Font.Tables

namespace GlyphCanvas

open FontBytes

inductive SubstSubtable where
  /-- Glyphs of the coverage are shifted by a delta (modulo 65536). -/
  | singleDelta (table : ByteArray) (coverage : Nat) (delta : Int)
  /-- Glyphs of the coverage are replaced by the listed substitutes. -/
  | singleList (table : ByteArray) (coverage : Nat) (substitutes : Nat)
  /-- Ligature sets for the glyphs of the coverage. -/
  | ligature (table : ByteArray) (coverage : Nat) (sets : Nat)
  | other

/-- A lookup: its flags and subtables. -/
structure SubstLookup where
  flag : Nat
  subtables : List SubstSubtable

/-- A ligature rule: the components after the first, and the glyph replacing them all. -/
structure LigatureRule where
  components : List Nat
  glyph : Nat
  deriving DecidableEq, Repr

namespace Coverage

/-- The coverage index of a glyph in the coverage table at `o`. -/
def index? (d : ByteArray) (o g : Nat) : Option Nat := do
  let format ← u16? d o
  let count ← u16? d (o + 2)
  if format = 1 then
    (List.range count).find? fun i => u16? d (o + 4 + 2 * i) == some g
  else if format = 2 then
    let r ← (List.range count).find? fun i =>
      (u16 d (o + 4 + 6 * i)) ≤ g && g ≤ u16 d (o + 6 + 6 * i)
    some (u16 d (o + 8 + 6 * r) + (g - u16 d (o + 4 + 6 * r)))
  else none

/-- The glyphs of the coverage table at `o`. -/
def glyphs (d : ByteArray) (o : Nat) : List Nat :=
  let count := u16 d (o + 2)
  match u16 d o with
  | 1 => (List.range count).map fun i => u16 d (o + 4 + 2 * i)
  | 2 => (List.range count).flatMap fun i =>
      let first := u16 d (o + 4 + 6 * i)
      (List.range (u16 d (o + 6 + 6 * i) + 1 - first)).map (first + ·)
  | _ => []

end Coverage

namespace SubstSubtable

/-- Reads the subtable at `o` of a lookup of type `kind`, following an extension to the subtable it wraps. -/
def read (d : ByteArray) (kind o : Nat) : SubstSubtable :=
  let format := u16 d o
  match kind with
  | 1 =>
    if format = 1 then .singleDelta d (o + u16 d (o + 2)) (i16 d (o + 4))
    else if format = 2 then .singleList d (o + u16 d (o + 2)) (o + 4)
    else .other
  | 4 => if format = 1 then .ligature d (o + u16 d (o + 2)) o else .other
  | 7 =>
    if format = 1 then
      match u16 d (o + 2) with
      | 1 => let o' := o + u32 d (o + 4); let f := u16 d o'
        if f = 1 then .singleDelta d (o' + u16 d (o' + 2)) (i16 d (o' + 4))
        else if f = 2 then .singleList d (o' + u16 d (o' + 2)) (o' + 4)
        else .other
      | 4 => let o' := o + u32 d (o + 4)
        if u16 d o' = 1 then .ligature d (o' + u16 d (o' + 2)) o' else .other
      | _ => .other
    else .other
  | _ => .other

/-- The single substitute of a glyph. -/
def single? : SubstSubtable → Nat → Option Nat
  | .singleDelta d cov delta, g => (Coverage.index? d cov g).map fun _ => ((g : Int) + delta).toNat % 65536
  | .singleList d cov list, g => (Coverage.index? d cov g).bind fun i =>
      if i < u16 d list then u16? d (list + 2 + 2 * i) else none
  | _, _ => none

/-- The ligature rules starting with a glyph, in the order they are tried. -/
def ligatures : SubstSubtable → Nat → List LigatureRule
  | .ligature d cov o, g =>
    match Coverage.index? d cov g with
    | none => []
    | some i =>
      if i ≥ u16 d (o + 4) then []
      else
        let set := o + u16 d (o + 6 + 2 * i)
        (List.range (u16 d set)).map fun j =>
          let lig := set + u16 d (set + 2 + 2 * j)
          let count := u16 d (lig + 2)
          ⟨(List.range (count - 1)).map fun k => u16 d (lig + 4 + 2 * k), u16 d lig⟩
  | _, _ => []

end SubstSubtable

/-- The glyphs a substitution subtable of lookup type `kind` at `o` can output: single, multiple,
alternate and ligature substitutions, through an extension. -/
def subtableOutputs (d : ByteArray) (kind o : Nat) : List Nat :=
  let direct (kind o : Nat) : List Nat :=
    match kind, u16 d o with
    | 1, 1 => (Coverage.glyphs d (o + u16 d (o + 2))).map fun (g : Nat) => ((Int.ofNat g + i16 d (o + 4)) % 65536).toNat
    | 1, 2 => (List.range (u16 d (o + 4))).map fun i => u16 d (o + 6 + 2 * i)
    | 2, 1 | 3, 1 => (List.range (u16 d (o + 4))).flatMap fun i =>
        let s := o + u16 d (o + 6 + 2 * i)
        (List.range (u16 d s)).map fun k => u16 d (s + 2 + 2 * k)
    | 4, 1 => (List.range (u16 d (o + 4))).flatMap fun i =>
        let set := o + u16 d (o + 6 + 2 * i)
        (List.range (u16 d set)).map fun j => u16 d (set + u16 d (set + 2 + 2 * j))
    | _, _ => []
  if kind = 7 then
    if u16 d o = 1 then direct (u16 d (o + 2)) (o + u32 d (o + 4)) else []
  else direct kind o

/-- Every glyph the substitution lookups of the given scripts can output, over all their language
systems and features. -/
def SfntFace.substitutionOutputs (f : SfntFace) (scriptTags : List String) : List Nat :=
  match f.table? "GSUB" with
  | none => []
  | some d =>
    let scripts := u16 d 4
    let features := u16 d 6
    let lookups := u16 d 8
    let scriptCount := u16 d scripts
    let scriptTables := scriptTags.filterMap fun t =>
      ((List.range scriptCount).find? fun i => u32? d (scripts + 2 + 6 * i) == some (tag t)).map
        fun i => scripts + u16 d (scripts + 6 + 6 * i)
    let langSystems := scriptTables.flatMap fun s =>
      (if u16 d s ≠ 0 then [s + u16 d s] else []) ++
        (List.range (u16 d (s + 2))).map fun i => s + u16 d (s + 8 + 6 * i)
    let featureIndices := langSystems.flatMap fun l =>
      (if u16 d (l + 2) ≠ 0xFFFF then [u16 d (l + 2)] else []) ++
        (List.range (u16 d (l + 4))).map fun i => u16 d (l + 6 + 2 * i)
    let featureCount := u16 d features
    let lookupIndices := featureIndices.flatMap fun fi =>
      if fi ≥ featureCount then []
      else
        let ft := features + u16 d (features + 6 + 6 * fi)
        (List.range (u16 d (ft + 2))).map fun k => u16 d (ft + 4 + 2 * k)
    let lookupCount := u16 d lookups
    let used := (List.range lookupCount).filter lookupIndices.contains
    used.flatMap fun li =>
      let o := lookups + u16 d (lookups + 2 + 2 * li)
      let kind := u16 d o
      (List.range (u16 d (o + 4))).flatMap fun s => subtableOutputs d kind (o + u16 d (o + 6 + 2 * s))

/-- Feature tags switched on for horizontal left-to-right text, by stage. -/
def defaultFeatureStages : List (List String) :=
  [["rvrn"],
   ["ltra", "ltrm", "trak", "Harf", "HARF", "Buzz", "BUZZ", "abvm", "blwm", "ccmp", "locl", "mark",
    "mkmk", "rlig", "calt", "clig", "curs", "dist", "kern", "liga", "rclt"]]

/-- The substitution lookups of a face for a script, stage by stage, each stage in lookup-index
order. -/
def SfntFace.substLookups (f : SfntFace) (scriptTag : String) : List (List SubstLookup) :=
  match f.table? "GSUB" with
  | none => []
  | some d =>
    let scripts := u16 d 4
    let features := u16 d 6
    let lookups := u16 d 8
    let scriptCount := u16 d scripts
    let findScript (t : String) : Option Nat :=
      (List.range scriptCount).find? (fun i => u32? d (scripts + 2 + 6 * i) == some (tag t)) |>.map
        fun i => scripts + u16 d (scripts + 6 + 6 * i)
    match [scriptTag, "DFLT", "dflt", "latn"].findSome? findScript with
    | none => []
    | some script =>
      let langOffset := u16 d script
      if langOffset = 0 then []
      else
        let lang := script + langOffset
        let required := u16 d (lang + 2)
        let indices := (List.range (u16 d (lang + 4))).map fun i => u16 d (lang + 6 + 2 * i)
        let featureCount := u16 d features
        let featureLookups (fi : Nat) : List Nat :=
          if fi ≥ featureCount then []
          else
            let ft := features + u16 d (features + 6 + 6 * fi)
            (List.range (u16 d (ft + 2))).map fun k => u16 d (ft + 4 + 2 * k)
        let lookupsOf (t : String) : List Nat :=
          (indices.filter fun fi => fi < featureCount && u32? d (features + 2 + 6 * fi) == some (tag t)).flatMap
            featureLookups
        let lookupCount := u16 d lookups
        let readLookup (li : Nat) : SubstLookup :=
          let o := lookups + u16 d (lookups + 2 + 2 * li)
          let kind := u16 d o
          ⟨u16 d (o + 2), (List.range (u16 d (o + 4))).map fun s => SubstSubtable.read d kind (o + u16 d (o + 6 + 2 * s))⟩
        let stageLookups (stage : Nat) (tags : List String) : List SubstLookup :=
          let own := tags.flatMap lookupsOf
          let all := if stage = 0 ∧ required ≠ 0xFFFF then featureLookups required ++ own else own
          let sorted := ((List.range lookupCount).filter fun li => all.contains li)
          sorted.map readLookup
        (List.range defaultFeatureStages.length).zip defaultFeatureStages |>.map fun (i, tags) => stageLookups i tags

end GlyphCanvas
