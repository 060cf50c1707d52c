namespace GlyphCanvas

/-- The largest signed 32-bit value. -/
def i32Max : Int := 2147483647

/-- A rectangle of whole pixels with positive extents. -/
structure IntRect where
  x : Int
  y : Int
  width : Nat
  height : Nat
  deriving DecidableEq, Repr

namespace IntRect

/-- A rectangle by its corner and extents: both extents positive and within the signed range,
and the far edges not past it. -/
def ofXYWH (x y : Int) (w h : Nat) : Option IntRect :=
  if 0 < w ∧ 0 < h ∧ (w : Int) ≤ i32Max ∧ (h : Int) ≤ i32Max ∧ x + w ≤ i32Max ∧ y + h ≤ i32Max
  then some ⟨x, y, w, h⟩ else none

def right (r : IntRect) : Int := r.x + r.width
def bottom (r : IntRect) : Int := r.y + r.height

/-- The common part of two rectangles, if it has an area. -/
def intersect (a b : IntRect) : Option IntRect :=
  let l := max a.x b.x
  let t := max a.y b.y
  let r := min a.right b.right
  let btm := min a.bottom b.bottom
  if l < r ∧ t < btm then ofXYWH l t (r - l).toNat (btm - t).toNat else none

end IntRect

structure Pixel where
  r : UInt8
  g : UInt8
  b : UInt8
  a : UInt8
  deriving DecidableEq, Repr, Inhabited

structure Pixmap where
  width : Nat
  height : Nat
  data : ByteArray

structure Mask where
  width : Nat
  height : Nat
  data : ByteArray

/-- Bytes of a `w × h` pixmap, if the sizes allow one: both positive and 32-bit, and a row's
bytes within the signed 32-bit range. -/
def pixmapBytes? (w h : Nat) : Option Nat :=
  if 0 < w ∧ 0 < h ∧ w * 4 ≤ 2147483647 ∧ h ≤ 4294967295 then some (w * h * 4) else none

namespace Pixmap

def new (w h : Nat) : Option Pixmap :=
  (pixmapBytes? w h).map fun n => ⟨w, h, ByteArray.mk (Array.replicate n 0)⟩

/-- Pixels given as bytes: exactly `w · h · 4` of them. -/
def ofBytes (w h : Nat) (bytes : ByteArray) : Option Pixmap :=
  match pixmapBytes? w h with
  | some n => if bytes.size = n then some ⟨w, h, bytes⟩ else none
  | none => none

/-- The whole pixmap as a rectangle. -/
def bounds (p : Pixmap) : IntRect := ⟨0, 0, p.width, p.height⟩

/-- The byte offset of pixel `(x, y)`. -/
def offset (p : Pixmap) (x y : Nat) : Nat := (y * p.width + x) * 4

def pixel (p : Pixmap) (x y : Nat) : Pixel :=
  let o := p.offset x y
  ⟨p.data.get! o, p.data.get! (o + 1), p.data.get! (o + 2), p.data.get! (o + 3)⟩

/-- The pixel at row-major index `y · width + x`, if that index is in range: a column past the
right edge reads from the next row. -/
def pixelAt? (p : Pixmap) (x y : Nat) : Option Pixel :=
  let i := p.width * y + x
  if p.width * y < 4294967296 ∧ i < 4294967296 ∧ i < p.width * p.height then
    some (p.pixel (i % p.width) (i / p.width))
  else none

def setPixel (p : Pixmap) (x y : Nat) (c : Pixel) : Pixmap :=
  let o := p.offset x y
  { p with data := (((p.data.set! o c.r).set! (o + 1) c.g).set! (o + 2) c.b).set! (o + 3) c.a }

/-- Copies the part of a rectangle that lies inside the pixmap, if it has an area. -/
def cloneRect (p : Pixmap) (r : IntRect) : Option Pixmap := do
  let r ← p.bounds.intersect r
  let w := r.width
  let bytes := (List.range r.height).foldl (fun acc j =>
    let start := p.offset r.x.toNat (r.y.toNat + j)
    acc ++ p.data.extract start (start + w * 4)) ByteArray.empty
  Pixmap.ofBytes w r.height bytes

/-- FNV-1a (64 bits) over the bytes. -/
def digest (p : Pixmap) : UInt64 :=
  p.data.foldl (fun h b => (h ^^^ b.toUInt64) * 0x100000001b3) 0xcbf29ce484222325

end Pixmap

namespace Mask

/-- An empty (all zero) mask. -/
def new (w h : Nat) : Option Mask :=
  if 0 < w ∧ 0 < h ∧ w * h < Nat.pow 2 63 then some ⟨w, h, ByteArray.mk (Array.replicate (w * h) 0)⟩
  else none

def coverage (m : Mask) (x y : Nat) : UInt8 := m.data.get! (y * m.width + x)

end Mask

end GlyphCanvas
