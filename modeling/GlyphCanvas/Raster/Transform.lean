import GlyphCanvas.Raster.Geometry

namespace GlyphCanvas

structure Transform where
  sx : Binary32 := 1
  ky : Binary32 := 0
  kx : Binary32 := 0
  sy : Binary32 := 1
  tx : Binary32 := 0
  ty : Binary32 := 0
  deriving Repr, Inhabited

namespace Transform

def identity : Transform := {}

def ofRow (sx ky kx sy tx ty : Binary32) : Transform := ⟨sx, ky, kx, sy, tx, ty⟩

def translate (tx ty : Binary32) : Transform := { tx, ty }

def scale (sx sy : Binary32) : Transform := { sx, sy }

def hasSkew (t : Transform) : Bool := !(t.kx.eqv 0 && t.ky.eqv 0)

def hasScale (t : Transform) : Bool := !(t.sx.eqv 1 && t.sy.eqv 1)

def hasTranslate (t : Transform) : Bool := !(t.tx.eqv 0 && t.ty.eqv 0)

def isIdentity (t : Transform) : Bool := !t.hasSkew && !t.hasScale && !t.hasTranslate

def isTranslate (t : Transform) : Bool := !t.hasScale && !t.hasSkew

def isScaleTranslate (t : Transform) : Bool := !t.hasSkew

def isFinite (t : Transform) : Bool :=
  t.sx.isFinite && t.ky.isFinite && t.kx.isFinite && t.sy.isFinite && t.tx.isFinite && t.ty.isFinite

/-- `a·b + c·d` rounded once from double precision. -/
def mulAddMul (a b c d : Binary32) : Binary32 :=
  (a.toBinary64 * b.toBinary64 + c.toBinary64 * d.toBinary64).toBinary32

/-- The map `a ∘ b`: first `b`, then `a`. -/
def concat (a b : Transform) : Transform :=
  if a.isIdentity then b
  else if b.isIdentity then a
  else if !a.hasSkew && !b.hasSkew then
    ofRow (a.sx * b.sx) 0 0 (a.sy * b.sy) (a.sx * b.tx + a.tx) (a.sy * b.ty + a.ty)
  else
    ofRow (mulAddMul a.sx b.sx a.kx b.ky) (mulAddMul a.ky b.sx a.sy b.ky)
      (mulAddMul a.sx b.kx a.kx b.sy) (mulAddMul a.ky b.kx a.sy b.sy)
      (mulAddMul a.sx b.tx a.kx b.ty + a.tx) (mulAddMul a.ky b.tx a.sy b.ty + a.ty)

def postConcat (t other : Transform) : Transform := concat other t

def preConcat (t other : Transform) : Transform := concat t other

/-- The inverse map. A scale-and-translate map inverts coordinate-wise (a zero scale gives
infinities); a general map needs a finite nonzero determinant. -/
def invert (t : Transform) : Option Transform :=
  if t.isIdentity then some t
  else if t.isScaleTranslate then
    if t.hasScale then
      let ix := 1 / t.sx
      let iy := 1 / t.sy
      some (ofRow ix 0 0 iy (-t.tx * ix) (-t.ty * iy))
    else some (translate (-t.tx) (-t.ty))
  else
    let det := t.sx.toBinary64 * t.sy.toBinary64 - t.kx.toBinary64 * t.ky.toBinary64
    if det.toBinary32.abs ≤ nearlyZero * nearlyZero * nearlyZero then none
    else
      let invDet := 1 / det
      if !invDet.isFinite then none
      else
        let m (a : Binary64) : Binary32 := (a * invDet).toBinary32
        let r := ofRow (m t.sy.toBinary64) (m (-t.ky.toBinary64)) (m (-t.kx.toBinary64)) (m t.sx.toBinary64)
          (m (t.kx.toBinary64 * t.ty.toBinary64 - t.sy.toBinary64 * t.tx.toBinary64))
          (m (t.ky.toBinary64 * t.tx.toBinary64 - t.sx.toBinary64 * t.ty.toBinary64))
        if r.isFinite then some r else none

/-- The image of a point, by the form of the map. -/
def mapPoint (t : Transform) (p : Point) : Point :=
  if t.isIdentity then p
  else if t.isTranslate then ⟨p.x + t.tx, p.y + t.ty⟩
  else if t.isScaleTranslate then ⟨p.x * t.sx + t.tx, p.y * t.sy + t.ty⟩
  else ⟨p.x * t.sx + p.y * t.kx + t.tx, p.x * t.ky + p.y * t.sy + t.ty⟩

end Transform

end GlyphCanvas
