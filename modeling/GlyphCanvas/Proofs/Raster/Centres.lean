import Mathlib
import GlyphCanvas.Proofs.Raster.Contract

namespace GlyphCanvas

/-- The opaque pixel of a colour. -/
def Colour.opaque (c : Colour) : Pixel := ⟨c.r, c.g, c.b, 255⟩

namespace Rect

/-- The centre of pixel `(u, v)` lies strictly inside the rectangle. -/
def CentreInside (r : Rect) (u v : Nat) : Prop :=
  r.left.toRat < u + 1 / 2 ∧ (u : ℚ) + 1 / 2 < r.right.toRat ∧
    r.top.toRat < v + 1 / 2 ∧ (v : ℚ) + 1 / 2 < r.bottom.toRat

/-- The centre of pixel `(u, v)` lies strictly outside the rectangle. -/
def CentreOutside (r : Rect) (u v : Nat) : Prop :=
  (u : ℚ) + 1 / 2 < r.left.toRat ∨ r.right.toRat < u + 1 / 2 ∨
    (v : ℚ) + 1 / 2 < r.top.toRat ∨ r.bottom.toRat < v + 1 / 2

/-- The centre of pixel `(u, v)` lies on the rectangle's outline. -/
def CentreOnOutline (r : Rect) (u v : Nat) : Prop :=
  ((u : ℚ) + 1 / 2 = r.left.toRat ∨ (u : ℚ) + 1 / 2 = r.right.toRat) ∧
      r.top.toRat ≤ v + 1 / 2 ∧ (v : ℚ) + 1 / 2 ≤ r.bottom.toRat ∨
    ((v : ℚ) + 1 / 2 = r.top.toRat ∨ (v : ℚ) + 1 / 2 = r.bottom.toRat) ∧
      r.left.toRat ≤ u + 1 / 2 ∧ (u : ℚ) + 1 / 2 ≤ r.right.toRat

/-- At least a pixel wide and tall, with every edge within `2^23` of the origin. -/
def Moderate (r : Rect) : Prop :=
  1 ≤ r.right.toRat - r.left.toRat ∧ 1 ≤ r.bottom.toRat - r.top.toRat ∧
    |r.left.toRat| ≤ 2 ^ 23 ∧ |r.top.toRat| ≤ 2 ^ 23 ∧ |r.right.toRat| ≤ 2 ^ 23 ∧ |r.bottom.toRat| ≤ 2 ^ 23

/-- Every edge runs through pixel centres. -/
def OnCentres (r : Rect) : Prop :=
  ∃ l t rt b : Int, r.left.toRat = l + 1 / 2 ∧ r.top.toRat = t + 1 / 2 ∧
    r.right.toRat = rt + 1 / 2 ∧ r.bottom.toRat = b + 1 / 2

instance (r : Rect) (u v : Nat) : Decidable (r.CentreInside u v) :=
  inferInstanceAs (Decidable (_ ∧ _ ∧ _ ∧ _))

instance (r : Rect) (u v : Nat) : Decidable (r.CentreOnOutline u v) :=
  inferInstanceAs (Decidable ((_ ∨ _) ∧ _ ∧ _ ∨ (_ ∨ _) ∧ _ ∧ _))

theorem not_centreInside {r : Rect} {u v : Nat} (outside : r.CentreOutside u v) : ¬ r.CentreInside u v := by
  rintro ⟨left, right, top, bottom⟩
  rcases outside with beyond | beyond | beyond | beyond <;> linarith

end Rect

/-- `q` is `p` with every pixel where `paint` holds set to `c` and every pixel where `keep` holds
kept. -/
structure Painted (paint keep : Nat → Nat → Prop) (c : Pixel) (p q : Pixmap) : Prop where
  width : q.width = p.width
  height : q.height = p.height
  painted : ∀ u v, u < p.width → v < p.height → paint u v → q.pixel u v = c
  kept : ∀ u v, u < p.width → v < p.height → keep u v → q.pixel u v = p.pixel u v

namespace RasterOps

variable (ops : RasterOps)

/-- Filling a moderate rectangle with an opaque colour, unmasked and untransformed, paints every
pixel whose centre lies inside it and keeps every pixel whose centre lies outside. -/
def FillsByCentres : Prop :=
  ∀ p (r : Rect) (c : Colour), r.Moderate →
    Painted r.CentreInside r.CentreOutside c.opaque p
      (ops.fillPath p (Path.ofRect r) (solidShader c 255) .identity none)

/-- Stroking a moderate rectangle whose edges run through pixel centres with an opaque colour,
unmasked, paints exactly the pixels whose centres lie on its outline. -/
def StrokesByCentres : Prop :=
  ∀ p (r : Rect) (c : Colour), r.Moderate → r.OnCentres →
    Painted r.CentreOnOutline (fun u v => ¬ r.CentreOnOutline u v) c.opaque p
      (ops.strokePath p (Path.ofRect r) (solidShader c 255) none)

end RasterOps

/-! A set of operations that paints by centres. -/

/-- What a shader paints over `old`: a solid colour's bytes, a pattern nothing. -/
def Shader.paintOver : Shader → Pixel → Pixel
  | .solid c, _ =>
    ⟨(channelByte c.r).toUInt8, (channelByte c.g).toUInt8, (channelByte c.b).toUInt8, (channelByte c.a).toUInt8⟩
  | .pattern _, old => old

theorem channelByte_channelOfByte (b : UInt8) : (channelByte (channelOfByte b)).toUInt8 = b := by
  -- all 256 bytes, evaluated
  have every : ∀ n : Fin 256, channelByte (channelOfByte n.val.toUInt8) = n.val := by decide +kernel
  have byte := every ⟨b.toNat, b.toNat_lt⟩
  rw [Nat.toUInt8_eq, UInt8.ofNat_toNat] at byte
  rw [byte, Nat.toUInt8_eq, UInt8.ofNat_toNat]

theorem paintOver_solid (c : Colour) (old : Pixel) : (solidShader c 255).paintOver old = c.opaque := by
  simp only [solidShader, Colour.withAlpha, Shader.paintOver, channelByte_channelOfByte, Colour.opaque]

/-- Operations that fill the bounds of a path by pixel centres and stroke its outline through
them, which is exact for rectangles; the rest is `RasterOps.exact` with the source replacing what
lies below. -/
def RasterOps.centred : RasterOps :=
  { RasterOps.exact (fun src _ => src) with
    fillPath := fun p path shader _ _ => Pixmap.ofFn p.width p.height fun u v =>
      if path.bounds.CentreInside u v then shader.paintOver (p.pixel u v) else p.pixel u v
    strokePath := fun p path shader _ => Pixmap.ofFn p.width p.height fun u v =>
      if path.bounds.CentreOnOutline u v then shader.paintOver (p.pixel u v) else p.pixel u v }

namespace RasterOps

theorem centred_fillsByCentres : centred.FillsByCentres := by
  intro p r c _
  refine ⟨rfl, rfl, fun u v hu hv inside => ?_, fun u v hu hv outside => ?_⟩
  · dsimp only [centred, Path.ofRect]
    rw [Pixmap.pixel_ofFn _ hu hv, if_pos inside, paintOver_solid]
  · dsimp only [centred, Path.ofRect]
    rw [Pixmap.pixel_ofFn _ hu hv, if_neg (Rect.not_centreInside outside)]

theorem centred_strokesByCentres : centred.StrokesByCentres := by
  intro p r c _ _
  refine ⟨rfl, rfl, fun u v hu hv onOutline => ?_, fun u v hu hv offOutline => ?_⟩
  · dsimp only [centred, Path.ofRect]
    rw [Pixmap.pixel_ofFn _ hu hv, if_pos onOutline, paintOver_solid]
  · dsimp only [centred, Path.ofRect]
    rw [Pixmap.pixel_ofFn _ hu hv, if_neg offOutline]

end RasterOps

end GlyphCanvas
