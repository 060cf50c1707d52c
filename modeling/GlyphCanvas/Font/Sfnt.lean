import GlyphCanvas.Font.Bytes

namespace GlyphCanvas

open FontBytes

def sfntTrueType : Nat := 0x00010000
def sfntCff : Nat := tag "OTTO"
def sfntApple : Nat := tag "true"
def sfntCollection : Nat := tag "ttcf"

/-- Whether a version tag names a single face. -/
def isFaceTag (t : Nat) : Bool := t == sfntTrueType || t == sfntCff || t == sfntApple

/-- A face within a font file: the file's bytes and the offset of the face's directory. -/
structure SfntFace where
  data : ByteArray
  offset : Nat

namespace SfntFace

/-- The offset of face `index`: zero for the only face of a single-face file, the listed offset
in a collection. -/
def faceOffset? (data : ByteArray) (index : Nat) : Option Nat := do
  let t ← u32? data 0
  if t == sfntCollection then
    let count ← u32? data 8
    if index < count then u32? data (12 + 4 * index) else none
  else if isFaceTag t then
    if index = 0 then some 0 else none
  else none

/-- Face `index` of a file, checking only the tags that lead to it. -/
def locate (data : ByteArray) (index : Nat) : Option SfntFace := do
  let offset ← faceOffset? data index
  let t ← u32? data offset
  if isFaceTag t then some ⟨data, offset⟩ else none

/-- Face `index` of a file whose directory (and, in a collection, whose list of faces) is
complete. -/
def load (data : ByteArray) (index : Nat) : Option SfntFace := do
  let t ← u32? data 0
  let offset ← if t == sfntCollection then do
      let count ← u32? data 8
      if 12 + 4 * count ≤ data.size ∧ index < count then u32? data (12 + 4 * index) else none
    else if index = 0 then some 0 else none
  let version ← u32? data offset
  let count ← u16? data (offset + 4)
  if isFaceTag version ∧ offset + 12 + 16 * count ≤ data.size then some ⟨data, offset⟩ else none

/-- Binary search of the directory records in `[lo, hi)` for tag `t`. -/
def findRecord (d : ByteArray) (base t : Nat) : Nat → Nat → Nat → Option (Nat × Nat)
  | _, _, 0 => none
  | lo, hi, fuel + 1 =>
    if lo < hi then
      let i := (lo + hi) / 2
      let record := base + 16 * i
      match u32? d record with
      | none => none
      | some t' =>
        if t < t' then findRecord d base t lo i fuel
        else if t' < t then findRecord d base t (i + 1) hi fuel
        else do
          let start ← u32? d (record + 8)
          let len ← u32? d (record + 12)
          if start + len < 4294967296 then some (start, start + len) else none
    else none

/-- The byte range of a table. -/
def tableRange? (f : SfntFace) (t : Nat) : Option (Nat × Nat) := do
  let count ← u16? f.data (f.offset + 4)
  findRecord f.data (f.offset + 12) t 0 count (count + 1)

/-- The bytes of a table, when it is listed and lies within the file. -/
def table? (f : SfntFace) (t : String) : Option ByteArray := do
  let (start, stop) ← f.tableRange? (tag t)
  if stop ≤ f.data.size then some (f.data.extract start stop) else none

end SfntFace

end GlyphCanvas
