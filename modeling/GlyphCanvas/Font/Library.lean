import GlyphCanvas.Font.Description
import GlyphCanvas.Font.Face
import GlyphCanvas.Font.Parameters
import GlyphCanvas.Text.Escape

namespace GlyphCanvas

/-- A catalogued face: its description, the file it comes from and its index in that file. -/
structure CatalogFace where
  description : FaceDescription
  source : Nat
  index : Nat
  deriving Inhabited

/-- Why a family could not be resolved: no face matches it, or the matching face's data does not
load. -/
inductive LibraryError where
  | invalidFont
  | noFace (family : String)
  deriving DecidableEq, Repr

/-- The message of a resolution error. -/
def LibraryError.message : LibraryError → String
  | .invalidFont => "invalid font data"
  | .noFace family => "no font face available for family " ++ debugQuote family

/-- The family that the generic sans-serif family stands for. -/
def sansSerifName : String := "Arial"

/-- A font library: the loaded files, the faces catalogued from them and the resolved faces. -/
structure FontLibrary where
  files : Array ByteArray := #[]
  faces : Array CatalogFace := #[]
  cache : Array (FaceKey × FontFace) := #[]

namespace FontLibrary

/-- The library with no fonts. -/
def empty : FontLibrary := {}

/-- Adds the faces of a font file (those that can be described) to the catalogue. -/
def loadData (lib : FontLibrary) (data : ByteArray) : FontLibrary :=
  let source := lib.files.size
  let count := min (FaceDescription.faceCount data) data.size
  let faces := (List.range count).filterMap fun i =>
    (FaceDescription.read? data i).map fun d => (⟨d, source, i⟩ : CatalogFace)
  { lib with files := lib.files.push data, faces := lib.faces ++ faces.toArray }

def len (lib : FontLibrary) : Nat := lib.faces.size

def isEmpty (lib : FontLibrary) : Bool := lib.faces.isEmpty

/-- The value of the candidates nearest to `target` among those satisfying `side`, the first
one on ties; `distance` is the gap to the target. -/
def nearest (values : List Nat) (side : Nat → Bool) (distance : Nat → Nat) : Option Nat :=
  (values.filter side).foldl (fun best v =>
    match best with
    | some b => if distance v < distance b then some v else some b
    | none => some v) none

/-- The width class the matching keeps, for a normal-width request. -/
def matchStretch (stretches : List Nat) : Option Nat :=
  let target := 5
  if stretches.contains target then some target
  else (nearest stretches (· < target) (target - ·)).orElse fun _ =>
    nearest stretches (fun _ => true) (· - target)

/-- The style the matching keeps. -/
def matchStyle (styles : List FaceStyle) (italic : Bool) : Option FaceStyle :=
  let order := if italic then [FaceStyle.italic, .oblique, .normal] else [.normal, .oblique, .italic]
  order.find? styles.contains

/-- The weight the matching keeps. -/
def matchWeight (weights : List Nat) (w : Nat) : Option Nat :=
  if weights.contains w then some w
  else if 400 ≤ w ∧ w < 450 ∧ weights.contains 500 then some 500
  else if 450 ≤ w ∧ w ≤ 500 ∧ weights.contains 400 then some 400
  else if w ≤ 500 then
    (nearest weights (· ≤ w) (w - ·)).orElse fun _ => nearest weights (fun _ => true) (· - w)
  else
    (nearest weights (· ≥ w) (· - w)).orElse fun _ => nearest weights (fun _ => true) (w - ·)

/-- The best of the faces carrying a family name, for a weight and slant. -/
def bestMatch (faces : List (Nat × CatalogFace)) (weight : Nat) (italic : Bool) : Option Nat := do
  let stretch ← matchStretch (faces.map (·.2.description.stretch))
  let faces := faces.filter (·.2.description.stretch == stretch)
  let style ← matchStyle (faces.map (·.2.description.style)) italic
  let faces := faces.filter (·.2.description.style == style)
  let w ← matchWeight (faces.map (·.2.description.weight)) weight
  (faces.find? (·.2.description.weight == w)).map (·.1)

/-- The catalogue position of the face matching the first family that has candidates. -/
def query (lib : FontLibrary) (families : List String) (weight : Nat) (italic : Bool) : Option Nat :=
  let indexed := (List.range lib.faces.size).zip lib.faces.toList
  families.findSome? fun name =>
    let candidates := indexed.filter fun (_, f) => f.description.families.contains name
    if candidates.isEmpty then none else bestMatch candidates weight italic

/-- The first family name of the face the generic sans-serif family resolves to. -/
def sansSerifFamily (lib : FontLibrary) : Option String :=
  (lib.query [sansSerifName] 400 false).bind fun i => lib.faces[i]!.description.families.head?

/-- Loads the face a key resolves to. -/
def loadFace (lib : FontLibrary) (key : FaceKey) : Except LibraryError FontFace :=
  match lib.query [key.family, sansSerifName] (if key.bold then 700 else 400) key.italic with
  | none => .error (.noFace key.family)
  | some i =>
    let f := lib.faces[i]!
    match FontFace.ofBytes lib.files[f.source]! f.index with
    | some face => .ok face
    | none => .error .invalidFont

/-- The face for font parameters and its place in the cache, taken from the cache or resolved
and added to it. -/
def resolve (lib : FontLibrary) (p : FontParameters) : FontLibrary × Except LibraryError (FontFace × Nat) :=
  let key := FaceKey.ofParams p
  match ((List.range lib.cache.size).zip lib.cache.toList).find? (·.2.1 == key) with
  | some (slot, _, face) => (lib, .ok (face, slot))
  | none =>
    match lib.loadFace key with
    | .ok face => ({ lib with cache := lib.cache.push (key, face) }, .ok (face, lib.cache.size))
    | .error e => (lib, .error e)

/-- A resolution in a run of them: the face, and the first earlier query that was given the same
cached face. -/
structure Resolution where
  face : FontFace
  sameAs : Option Nat

/-- Resolves queries in turn, the cache growing as they go. -/
def resolveAll (lib : FontLibrary) (queries : List FontParameters) :
    FontLibrary × List (Except LibraryError Resolution) :=
  let (lib, _, out) := queries.foldl (fun (acc : FontLibrary × List (Option Nat) × List (Except LibraryError Resolution)) q =>
    let (lib, slots, out) := acc
    let (lib', r) := lib.resolve q
    match r with
    | .error e => (lib', slots ++ [none], out ++ [.error e])
    | .ok (face, slot) =>
      (lib', slots ++ [some slot], out ++ [.ok ⟨face, slots.findIdx? (· == some slot)⟩])) (lib, [], [])
  (lib, out)

/-- The diagnostic text of a library. -/
def debugText (lib : FontLibrary) : String :=
  "FontLibrary \x7b db_faces: " ++ toString lib.len ++ ", cached: " ++ toString lib.cache.size ++ " \x7d"

/-- The diagnostic text of a layout service on a library. -/
def serviceDebugText (lib : FontLibrary) : String :=
  "SystemLayoutService \x7b faces: " ++ toString lib.len ++ ", .. \x7d"

/-- The face for font parameters, as resolution gives it (the cache only shares faces). -/
def face? (lib : FontLibrary) (p : FontParameters) : Option FontFace :=
  (lib.loadFace (FaceKey.ofParams p)).toOption

end FontLibrary

end GlyphCanvas
