import GlyphCanvas.Font.Bytes

namespace GlyphCanvas

open FontBytes

/-- The slant of a face. -/
inductive FaceStyle where
  | normal
  | italic
  | oblique
  deriving DecidableEq, Repr, Inhabited

/-- The catalogue entry of one face. -/
structure FaceDescription where
  families : List String
  style : FaceStyle
  weight : Nat
  /-- Width class, from 1 (ultra-condensed) to 9 (ultra-expanded); 5 is normal. -/
  stretch : Nat
  deriving DecidableEq, Repr, Inhabited

namespace FaceDescription

/-- Number of faces a file holds: the count of a collection, one otherwise. -/
def faceCount (data : ByteArray) : Nat :=
  if u32? data 0 == some (tag "ttcf") then (u32? data 8).getD 1 else 1

/-- Whether a version tag opens a face. -/
def isFaceMagic (t : Nat) : Bool :=
  t == 0x00010000 || t == tag "true" || t == tag "OTTO"

/-- The offset of face `index`'s directory. -/
def directory? (data : ByteArray) (index : Nat) : Option Nat := do
  let magic ← u32? data 0
  if magic == tag "ttcf" then
    let count ← u32? data 8
    if 12 + 4 * count > data.size then none
    else
      let offset ← if index < count then u32? data (12 + 4 * index) else none
      if offset < 12 + 4 * count ∨ offset > data.size then none
      else
        let inner ← u32? data offset
        if isFaceMagic inner then some offset else none
  else if isFaceMagic magic then some 0
  else none

/-- Binary search over `size` sorted records from `base`, probing midpoints without stopping on
a match and checking the slot it settles on. -/
def searchRecords (data : ByteArray) (base t : Nat) : Nat → Nat → Nat → Option Nat
  | _, _, 0 => none
  | lo, size, fuel + 1 =>
    if size > 1 then
      let half := size / 2
      let mid := lo + half
      let lo := if (u32 data (base + 16 * mid)) > t then lo else mid
      searchRecords data base t lo (size - half) fuel
    else if size = 1 ∧ u32 data (base + 16 * lo) == t then some lo
    else none

/-- A table of the face whose directory is at `dir`, when listed and within the file. -/
def table? (data : ByteArray) (dir : Nat) (t : String) : Option ByteArray := do
  let count ← u16? data (dir + 4)
  let base := dir + 12
  let i ← searchRecords data base (tag t) 0 count (count + 1)
  let offset := u32 data (base + 16 * i + 8)
  let length := u32 data (base + 16 * i + 12)
  if offset + length ≤ data.size then some (data.extract offset (offset + length)) else none

/-- Characters 128 to 255 of Macintosh Roman. -/
def macRomanHigh : Array Nat :=
  #[0x00C4, 0x00C5, 0x00C7, 0x00C9, 0x00D1, 0x00D6, 0x00DC, 0x00E1, 0x00E0, 0x00E2, 0x00E4, 0x00E3,
    0x00E5, 0x00E7, 0x00E9, 0x00E8, 0x00EA, 0x00EB, 0x00ED, 0x00EC, 0x00EE, 0x00EF, 0x00F1, 0x00F3,
    0x00F2, 0x00F4, 0x00F6, 0x00F5, 0x00FA, 0x00F9, 0x00FB, 0x00FC, 0x2020, 0x00B0, 0x00A2, 0x00A3,
    0x00A7, 0x2022, 0x00B6, 0x00DF, 0x00AE, 0x00A9, 0x2122, 0x00B4, 0x00A8, 0x2260, 0x00C6, 0x00D8,
    0x221E, 0x00B1, 0x2264, 0x2265, 0x00A5, 0x00B5, 0x2202, 0x2211, 0x220F, 0x03C0, 0x222B, 0x00AA,
    0x00BA, 0x03A9, 0x00E6, 0x00F8, 0x00BF, 0x00A1, 0x00AC, 0x221A, 0x0192, 0x2248, 0x2206, 0x00AB,
    0x00BB, 0x2026, 0x00A0, 0x00C0, 0x00C3, 0x00D5, 0x0152, 0x0153, 0x2013, 0x2014, 0x201C, 0x201D,
    0x2018, 0x2019, 0x00F7, 0x25CA, 0x00FF, 0x0178, 0x2044, 0x20AC, 0x2039, 0x203A, 0xFB01, 0xFB02,
    0x2021, 0x00B7, 0x201A, 0x201E, 0x2030, 0x00C2, 0x00CA, 0x00C1, 0x00CB, 0x00C8, 0x00CD, 0x00CE,
    0x00CF, 0x00CC, 0x00D3, 0x00D4, 0xF8FF, 0x00D2, 0x00DA, 0x00DB, 0x00D9, 0x0131, 0x02C6, 0x02DC,
    0x00AF, 0x02D8, 0x02D9, 0x02DA, 0x00B8, 0x02DD, 0x02DB, 0x02C7]

/-- Decodes big-endian UTF-16 (a trailing odd byte is ignored); none on an unpaired surrogate. -/
def utf16Text? (bytes : ByteArray) : Option String :=
  let units := (List.range (bytes.size / 2)).map fun i => u16 bytes (2 * i)
  let rec go : List Nat → Nat → Option (List Char)
    | [], _ => some []
    | _, 0 => none
    | u :: rest, fuel + 1 =>
      if 0xD800 ≤ u ∧ u < 0xDC00 then
        match rest with
        | v :: rest' =>
          if 0xDC00 ≤ v ∧ v < 0xE000 then
            (go rest' fuel).map (Char.ofNat (0x10000 + (u - 0xD800) * 0x400 + (v - 0xDC00)) :: ·)
          else none
        | [] => none
      else if 0xDC00 ≤ u ∧ u < 0xE000 then none
      else (go rest fuel).map (Char.ofNat u :: ·)
  (go units (units.length + 1)).map String.ofList

def macRomanText (bytes : ByteArray) : String :=
  String.ofList (bytes.toList.map fun b =>
    Char.ofNat (if b.toNat < 128 then b.toNat else macRomanHigh[b.toNat - 128]!))

structure NameRecord where
  platform : Nat
  encoding : Nat
  language : Nat
  nameId : Nat
  bytes : ByteArray

def NameRecord.isUnicode (r : NameRecord) : Bool :=
  r.platform == 0 || (r.platform == 3 && (r.encoding == 0 || r.encoding == 1))

def NameRecord.isMacRoman (r : NameRecord) : Bool := r.platform == 1 && r.encoding == 0

def NameRecord.isUsEnglish (r : NameRecord) : Bool :=
  (r.platform == 3 && r.language == 0x0409) || (r.platform == 1 && r.encoding == 0 && r.language == 0)

def NameRecord.text? (r : NameRecord) : Option String :=
  if r.isUnicode then utf16Text? r.bytes
  else if r.isMacRoman then some (macRomanText r.bytes)
  else none

/-- The naming records of a `name` table, up to the first one that cannot be read. -/
def nameRecords (d : ByteArray) : Option (List NameRecord) := do
  let version ← u16? d 0
  let count ← u16? d 2
  let storageOffset ← u16? d 4
  let recordsAt ← if version = 0 then some 6
    else if version = 1 then do
      let langTags ← u16? d 6
      if langTags * 4 ≥ 65536 then none else some (8 + langTags * 4)
    else none
  if recordsAt + 12 * count > d.size then none
  else
    let storageAt := max storageOffset (recordsAt + 12 * count)
    if storageAt > d.size then none
    else
      let storage := d.extract storageAt d.size
      let read (i : Nat) : Option NameRecord :=
        let r := recordsAt + 12 * i
        let platform := u16 d r
        let start := u16 d (r + 10)
        let len := u16 d (r + 8)
        if platform > 4 ∨ start + len > storage.size then none
        else some ⟨platform, u16 d (r + 2), u16 d (r + 4), u16 d (r + 6), storage.extract start (start + len)⟩
      let rec collect : List Nat → List NameRecord
        | [] => []
        | i :: rest => match read i with
          | some r => r :: collect rest
          | none => []
      some (collect (List.range count))

/-- The names with one id, in the family-name order. -/
def familiesWithId (records : List NameRecord) (id : Nat) : List (String × Bool) :=
  let unicode := records.filterMap fun r =>
    if r.nameId == id && r.isUnicode then (r.text?).map (·, r.isUsEnglish) else none
  if unicode.any (·.2) then unicode
  else
    match records.findSome? fun r => if r.nameId == id && r.isMacRoman then (r.text?).map (·, r.isUsEnglish) else none with
    | some m => unicode ++ [m]
    | none => unicode

/-- Swaps the first US English name to the front. -/
def usEnglishFirst (names : List (String × Bool)) : List (String × Bool) :=
  match names.findIdx? (·.2) with
  | some 0 | none => names
  | some i =>
    let arr := names.toArray
    (arr.swapIfInBounds 0 i).toList

/-- The family names of a face, when it also has a PostScript name. -/
def families? (name : ByteArray) : Option (List String) := do
  let records ← nameRecords name
  let typographic := familiesWithId records 16
  let families := if typographic.isEmpty then familiesWithId records 1 else typographic
  let families := if families.length > 1 then usEnglishFirst families else families
  if families.isEmpty then none
  else
    let post ← records.find? fun r => r.nameId == 6 && (r.isUnicode || r.isMacRoman)
    let _ ← post.text?
    some (families.map (·.1))

/-- Style, weight and width from an `OS/2` table that is long enough for its version. -/
def fromOs2 (t : Option ByteArray) : FaceStyle × Nat × Nat :=
  let table := t.bind fun d => (u16? d 0).bind fun version =>
    let needed := if version = 0 then 78 else if version = 1 then 86
      else if version ≤ 4 then 96 else if version = 5 then 100 else 0
    if needed ≠ 0 ∧ d.size ≥ needed then some (d, version) else none
  match table with
  | none => (.normal, 400, 5)
  | some (d, version) =>
    let selection := u16 d 62
    let style := if selection % 2 = 1 then FaceStyle.italic
      else if version ≥ 4 ∧ (selection / 512) % 2 = 1 then .oblique else .normal
    let width := u16 d 6
    (style, u16 d 4, if 1 ≤ width ∧ width ≤ 9 then width else 5)

/-- Whether `post` marks the face as slanted: a non-zero italic angle, or a table too short to
hold one. -/
def slantedByPost (t : Option ByteArray) : Bool :=
  match t with
  | none => false
  | some d => !(d.size ≥ 8 && (List.range 4).all fun i => d.get! (4 + i) == 0)

/-- The catalogue entry of face `index` of a file. -/
def read? (data : ByteArray) (index : Nat) : Option FaceDescription := do
  let dir ← directory? data index
  let count ← u16? data (dir + 4)
  if dir + 12 + 16 * count > data.size then none
  else
    let name ← table? data dir "name"
    let families ← families? name
    let (style, weight, stretch) := fromOs2 (table? data dir "OS/2")
    let style := if style == .normal ∧ slantedByPost (table? data dir "post") then .italic else style
    some ⟨families, style, weight, stretch⟩

end FaceDescription

end GlyphCanvas
