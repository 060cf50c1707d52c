import Mathlib
import GlyphCanvas.Proofs.Raster.Centres
import GlyphCanvas.Proofs.Surface.ClippedText
import GlyphCanvas.Proofs.Float.Exact

namespace GlyphCanvas

/-- A box `[left, right) × [top, bottom)` of whole pixels, at least two wide and tall, with edges
strictly within `2^23` of the origin. -/
structure Box where
  left : Int
  top : Int
  right : Int
  bottom : Int
  wide : left + 2 ≤ right
  tall : top + 2 ≤ bottom
  low : -2 ^ 23 < left ∧ -2 ^ 23 < top
  high : right < 2 ^ 23 ∧ bottom < 2 ^ 23

/-- `q` is `p` with each pixel `(u, v)` replaced by `f (p.pixel u v) u v`. -/
structure Repainted (f : Pixel → Nat → Nat → Pixel) (p q : Pixmap) : Prop where
  width : q.width = p.width
  height : q.height = p.height
  pixel : ∀ u v, u < p.width → v < p.height → q.pixel u v = f (p.pixel u v) u v

namespace Box

variable (box : Box)

/-- The box as the bounds a surface is given. -/
def bounds : Bounds := ⟨.ofInt box.left, .ofInt box.top, .ofInt box.right, .ofInt box.bottom⟩

/-- Pixel `(u, v)` lies in the box. -/
def Contains (u v : Nat) : Prop :=
  box.left ≤ u ∧ (u : Int) < box.right ∧ box.top ≤ v ∧ (v : Int) < box.bottom

/-- Pixel `(u, v)` lies on the box's one-pixel border. -/
def OnBorder (u v : Nat) : Prop :=
  box.Contains u v ∧ ((u : Int) = box.left ∨ (u : Int) = box.right - 1 ∨ (v : Int) = box.top ∨ (v : Int) = box.bottom - 1)

instance (u v : Nat) : Decidable (box.Contains u v) := inferInstanceAs (Decidable (_ ∧ _ ∧ _ ∧ _))

instance (u v : Nat) : Decidable (box.OnBorder u v) := inferInstanceAs (Decidable (_ ∧ _))

/-- Pixel `(u, v)`, which was `old`, once the box is drawn with a `fore` border and a `back` inside. -/
def drawnPixel (fore back : Colour) (old : Pixel) (u v : Nat) : Pixel :=
  if box.OnBorder u v then fore.opaque else if box.Contains u v then back.opaque else old

/-- Pixel `(u, v)`, which was `old`, once the box is filled with `back`. -/
def filledPixel (back : Colour) (old : Pixel) (u v : Nat) : Pixel :=
  if box.Contains u v then back.opaque else old

/-- The rectangle the box is filled through. -/
def fillRect : Rect := ⟨.ofInt box.left, .ofInt box.top, .ofInt box.right, .ofInt box.bottom⟩

/-- The rectangle the box is outlined along: trailing edges inset by one, all through pixel
centres. -/
def outline : Rect :=
  ⟨.ofInt box.left + 0.5, .ofInt box.top + 0.5, .ofInt box.right - 1 + 0.5, .ofInt box.bottom - 1 + 0.5⟩

end Box

/-! ### Pixel centres against whole and half-pixel edges -/

section Centres

variable {a : Int} {u : Nat}

theorem int_lt_centre : (a : ℚ) < u + 1 / 2 ↔ a ≤ u := by
  constructor
  · intro below
    by_contra beyond
    have : ((u : Int) : ℚ) + 1 ≤ a := by exact_mod_cast Int.add_one_le_iff.2 (not_le.1 beyond)
    push_cast at this
    linarith
  · intro below
    have : (a : ℚ) ≤ ((u : Int) : ℚ) := by exact_mod_cast below
    push_cast at this
    linarith

theorem centre_lt_int : (u : ℚ) + 1 / 2 < a ↔ (u : Int) < a := by
  constructor
  · intro below
    by_contra beyond
    have : (a : ℚ) ≤ ((u : Int) : ℚ) := by exact_mod_cast not_lt.1 beyond
    push_cast at this
    linarith
  · intro below
    have : ((u : Int) : ℚ) + 1 ≤ a := by exact_mod_cast Int.add_one_le_iff.2 below
    push_cast at this
    linarith

theorem centre_lt_centre : (u : ℚ) + 1 / 2 < a + 1 / 2 ↔ (u : Int) < a := by
  rw [add_lt_add_iff_right]
  norm_cast

theorem lt_centre_centre : (a : ℚ) + 1 / 2 < u + 1 / 2 ↔ a < u := by
  rw [add_lt_add_iff_right]
  norm_cast

theorem centre_le_centre : (u : ℚ) + 1 / 2 ≤ a + 1 / 2 ↔ (u : Int) ≤ a := by
  rw [add_le_add_iff_right]
  norm_cast

theorem le_centre_centre : (a : ℚ) + 1 / 2 ≤ u + 1 / 2 ↔ a ≤ u := by
  rw [add_le_add_iff_right]
  norm_cast

theorem centre_eq_centre : (u : ℚ) + 1 / 2 = a + 1 / 2 ↔ (u : Int) = a := by
  rw [add_left_inj]
  norm_cast

end Centres

/-! ### Exact edges -/

namespace Binary32

theorem exactly_one : Exactly (1 : Binary32).datum 1 := by
  have one := exactly_ofInt (i := 1) (by norm_num)
  exact_mod_cast one

theorem exactly_zero_datum : Exactly (0 : Binary32).datum 0 :=
  ⟨by decide, false, 0, -149, by decide, by simp [signedValue]⟩

theorem exactly_add_half {x : Binary32} {k : Int} (hx : Exactly x.datum k) (small : -2 ^ 23 ≤ k ∧ k < 2 ^ 23) :
    Exactly (x + 0.5).datum (k + 1 / 2) :=
  hx.add exactly_half (z := 2 * k + 1) (e := -1) (by rw [zpow_neg_one]; push_cast; ring) (by omega)
    (by norm_num) (by norm_num)

theorem exactly_sub_int {x y : Binary32} {a b : Int} (hx : Exactly x.datum a) (hy : Exactly y.datum b)
    (small : (a - b).natAbs < 2 ^ 24) : Exactly (x - y).datum ((a - b : Int) : ℚ) := by
  have difference := hx.sub hy (z := a - b) (e := 0) (by simp) small (by norm_num) (by norm_num)
  exact_mod_cast difference

theorem exactly_sub_centres {x y : Binary32} {a b : Int} (hx : Exactly x.datum (a + 1 / 2))
    (hy : Exactly y.datum (b + 1 / 2)) (small : (a - b).natAbs < 2 ^ 24) :
    Exactly (x - y).datum ((a - b : Int) : ℚ) := by
  have difference := hx.sub hy (z := a - b) (e := 0) (by push_cast; ring) small (by norm_num) (by norm_num)
  rwa [add_sub_add_right_eq_sub, ← Int.cast_sub] at difference

end Binary32

theorem Rect.ofLTRB_of_exactly {l t r b : Binary32} {L T R B W H : ℚ} (hl : Binary32.Exactly l.datum L)
    (ht : Binary32.Exactly t.datum T) (hr : Binary32.Exactly r.datum R) (hb : Binary32.Exactly b.datum B)
    (hw : Binary32.Exactly (r - l).datum W) (hh : Binary32.Exactly (b - t).datum H) (wide : L ≤ R) (tall : T ≤ B) :
    Rect.ofLTRB l t r b = some ⟨l, t, r, b⟩ := by
  unfold Rect.ofLTRB
  rw [if_pos]
  simp [hl.isFinite, ht.isFinite, hr.isFinite, hb.isFinite, hw.isFinite, hh.isFinite,
    (Binary32.le_iff_of_exactly hl hr).2 wide, (Binary32.le_iff_of_exactly ht hb).2 tall]

namespace Box

variable (box : Box)

open Binary32

theorem edges : -2 ^ 23 < box.left ∧ box.left + 2 ≤ box.right ∧ box.right < 2 ^ 23 ∧
    -2 ^ 23 < box.top ∧ box.top + 2 ≤ box.bottom ∧ box.bottom < 2 ^ 23 :=
  ⟨box.low.1, box.wide, box.high.1, box.low.2, box.tall, box.high.2⟩

theorem exactly_left : Exactly (ofInt box.left).datum box.left :=
  exactly_ofInt (by have := box.edges; omega)

theorem exactly_top : Exactly (ofInt box.top).datum box.top :=
  exactly_ofInt (by have := box.edges; omega)

theorem exactly_right : Exactly (ofInt box.right).datum box.right :=
  exactly_ofInt (by have := box.edges; omega)

theorem exactly_bottom : Exactly (ofInt box.bottom).datum box.bottom :=
  exactly_ofInt (by have := box.edges; omega)

theorem toRect_bounds : box.bounds.toRect = some box.fillRect := by
  have width := exactly_sub_int box.exactly_right box.exactly_left
    (by have := box.edges; omega)
  have height := exactly_sub_int box.exactly_bottom box.exactly_top
    (by have := box.edges; omega)
  unfold Bounds.toRect
  rw [if_neg]
  · exact Rect.ofLTRB_of_exactly box.exactly_left box.exactly_top box.exactly_right box.exactly_bottom
      width height (by exact_mod_cast (by have := box.wide; omega)) (by exact_mod_cast (by have := box.tall; omega))
  · simp only [bounds, Bounds.isEmpty, Bounds.width, Bounds.height, Bool.or_eq_true, decide_eq_true_eq,
      le_iff_of_exactly width exactly_zero_datum, le_iff_of_exactly height exactly_zero_datum, Int.cast_nonpos,
      not_or]
    have := box.edges
    omega

theorem cast_bounds : (-2 ^ 23 : ℚ) < box.left ∧ (-2 ^ 23 : ℚ) < box.top ∧ (box.right : ℚ) < 2 ^ 23 ∧
    (box.bottom : ℚ) < 2 ^ 23 ∧ (box.left : ℚ) + 2 ≤ box.right ∧ (box.top : ℚ) + 2 ≤ box.bottom := by
  obtain ⟨left, wide, right, top, tall, bottom⟩ := box.edges
  refine ⟨?_, ?_, ?_, ?_, ?_, ?_⟩ <;> exact_mod_cast ‹_›

theorem fillRect_moderate : box.fillRect.Moderate := by
  obtain ⟨left, top, right, bottom, wide, tall⟩ := box.cast_bounds
  simp only [Rect.Moderate, fillRect, box.exactly_left.toRat, box.exactly_top.toRat, box.exactly_right.toRat,
    box.exactly_bottom.toRat]
  refine ⟨by linarith, by linarith, abs_le.2 ⟨?_, ?_⟩, abs_le.2 ⟨?_, ?_⟩, abs_le.2 ⟨?_, ?_⟩, abs_le.2 ⟨?_, ?_⟩⟩ <;>
    linarith

theorem exactly_outline_left : Exactly (ofInt box.left + 0.5).datum (box.left + 1 / 2) :=
  exactly_add_half box.exactly_left (by have := box.edges; omega)

theorem exactly_outline_top : Exactly (ofInt box.top + 0.5).datum (box.top + 1 / 2) :=
  exactly_add_half box.exactly_top (by have := box.edges; omega)

theorem exactly_outline_right : Exactly (ofInt box.right - 1 + 0.5).datum (((box.right - 1 : Int) : ℚ) + 1 / 2) :=
  exactly_add_half (exactly_sub_int box.exactly_right (by exact_mod_cast exactly_one) (b := 1)
    (by have := box.edges; omega))
    (by have := box.edges; omega)

theorem exactly_outline_bottom :
    Exactly (ofInt box.bottom - 1 + 0.5).datum (((box.bottom - 1 : Int) : ℚ) + 1 / 2) :=
  exactly_add_half (exactly_sub_int box.exactly_bottom (by exact_mod_cast exactly_one) (b := 1)
    (by have := box.edges; omega))
    (by have := box.edges; omega)

theorem outlineRect_bounds : outlineRect box.bounds = some box.outline := by
  have width := exactly_sub_centres box.exactly_outline_right box.exactly_outline_left
    (by have := box.edges; omega)
  have height := exactly_sub_centres box.exactly_outline_bottom box.exactly_outline_top
    (by have := box.edges; omega)
  have wide : (box.left : ℚ) ≤ ((box.right - 1 : Int) : ℚ) := by exact_mod_cast (by have := box.wide; omega)
  have tall : (box.top : ℚ) ≤ ((box.bottom - 1 : Int) : ℚ) := by exact_mod_cast (by have := box.tall; omega)
  exact Rect.ofLTRB_of_exactly box.exactly_outline_left box.exactly_outline_top box.exactly_outline_right
    box.exactly_outline_bottom width height (by linarith) (by linarith)

theorem outline_moderate : box.outline.Moderate := by
  obtain ⟨left, top, right, bottom, wide, tall⟩ := box.cast_bounds
  simp only [Rect.Moderate, outline, box.exactly_outline_left.toRat, box.exactly_outline_top.toRat,
    box.exactly_outline_right.toRat, box.exactly_outline_bottom.toRat]
  push_cast
  refine ⟨by linarith, by linarith, abs_le.2 ⟨?_, ?_⟩, abs_le.2 ⟨?_, ?_⟩, abs_le.2 ⟨?_, ?_⟩, abs_le.2 ⟨?_, ?_⟩⟩ <;>
    linarith

theorem outline_onCentres : box.outline.OnCentres :=
  ⟨box.left, box.top, box.right - 1, box.bottom - 1, box.exactly_outline_left.toRat, box.exactly_outline_top.toRat,
    box.exactly_outline_right.toRat, box.exactly_outline_bottom.toRat⟩

/-! ### Which pixels each rectangle covers -/

variable {u v : Nat}

theorem fillRect_centreInside : box.fillRect.CentreInside u v ↔ box.Contains u v := by
  simp only [Rect.CentreInside, fillRect, box.exactly_left.toRat, box.exactly_top.toRat, box.exactly_right.toRat,
    box.exactly_bottom.toRat, int_lt_centre, centre_lt_int, Contains]

theorem fillRect_centreOutside : box.fillRect.CentreOutside u v ↔ ¬ box.Contains u v := by
  simp only [Rect.CentreOutside, fillRect, box.exactly_left.toRat, box.exactly_top.toRat, box.exactly_right.toRat,
    box.exactly_bottom.toRat, int_lt_centre, centre_lt_int, Contains]
  omega

theorem outline_centreOnOutline : box.outline.CentreOnOutline u v ↔ box.OnBorder u v := by
  simp only [Rect.CentreOnOutline, outline, box.exactly_outline_left.toRat, box.exactly_outline_top.toRat,
    box.exactly_outline_right.toRat, box.exactly_outline_bottom.toRat, centre_eq_centre, le_centre_centre,
    centre_le_centre, OnBorder, Contains]
  have := box.edges
  omega

theorem outline_centreInside (inside : box.Contains u v) (off : ¬ box.OnBorder u v) :
    box.outline.CentreInside u v := by
  simp only [OnBorder, Contains] at inside off
  simp only [Rect.CentreInside, outline, box.exactly_outline_left.toRat, box.exactly_outline_top.toRat,
    box.exactly_outline_right.toRat, box.exactly_outline_bottom.toRat, lt_centre_centre, centre_lt_centre]
  omega

theorem outline_centreOutside (outside : ¬ box.Contains u v) : box.outline.CentreOutside u v := by
  simp only [Contains] at outside
  simp only [Rect.CentreOutside, outline, box.exactly_outline_left.toRat, box.exactly_outline_top.toRat,
    box.exactly_outline_right.toRat, box.exactly_outline_bottom.toRat, lt_centre_centre, centre_lt_centre]
  omega

end Box

/-! ### Drawing and filling a box -/

namespace Painter

variable (ops : RasterOps) (box : Box) (p : Pixmap) {c : PaintContext} (unclipped : c.clip = none)
include unclipped

theorem fillRectangle_repaints (fills : ops.FillsByCentres) (back : Colour) :
    Repainted (box.filledPixel back) p (fillRectangle ops box.bounds back p c).1 := by
  unfold fillRectangle total
  dsimp only
  rw [box.toRect_bounds]
  dsimp only
  unfold fill
  rw [unclipped]
  have filled := fills p box.fillRect back box.fillRect_moderate
  refine ⟨filled.width, filled.height, fun u v hu hv => ?_⟩
  unfold Box.filledPixel
  by_cases inside : box.Contains u v
  · rw [if_pos inside]
    exact filled.painted u v hu hv (box.fillRect_centreInside.2 inside)
  · rw [if_neg inside]
    exact filled.kept u v hu hv (box.fillRect_centreOutside.2 inside)

theorem rectangle_repaints (fills : ops.FillsByCentres) (strokes : ops.StrokesByCentres) (fore back : Colour) :
    Repainted (box.drawnPixel fore back) p (rectangle ops box.bounds fore back p c).1 := by
  unfold rectangle total
  dsimp only
  rw [box.outlineRect_bounds]
  dsimp only
  unfold fillAndOutline fill stroke
  dsimp only
  rw [unclipped]
  have filled := fills p box.outline back box.outline_moderate
  have stroked := strokes (ops.fillPath p (Path.ofRect box.outline) (solidShader back 255) .identity none)
    box.outline fore box.outline_moderate box.outline_onCentres
  refine ⟨stroked.width.trans filled.width, stroked.height.trans filled.height, fun u v hu hv => ?_⟩
  have hu' := filled.width ▸ hu
  have hv' := filled.height ▸ hv
  unfold Box.drawnPixel
  by_cases border : box.OnBorder u v
  · rw [if_pos border]
    exact stroked.painted u v hu' hv' (box.outline_centreOnOutline.2 border)
  · -- off the border the stroke keeps what the fill left
    rw [if_neg border, stroked.kept u v hu' hv' (mt box.outline_centreOnOutline.1 border)]
    by_cases inside : box.Contains u v
    · rw [if_pos inside]
      exact filled.painted u v hu hv (box.outline_centreInside inside border)
    · rw [if_neg inside]
      exact filled.kept u v hu hv (box.outline_centreOutside inside)

end Painter

namespace DrawingSurface

/-- On a surface with a device and no clip, drawing a box paints its border with the pen colour
and its inside with the brush colour, and filling it paints exactly its pixels with the brush
colour; neither changes a pixel outside the box, and the device keeps its size. -/
theorem rectangles_paint_box_pixels (ops : RasterOps) (fills : ops.FillsByCentres)
    (strokes : ops.StrokesByCentres) (s : DrawingSurface) (devices : Array PaintDevice) (d : PaintDevice)
    (bound : s.device devices = some d) (unclipped : (s.paint.getD {}).clip = none) (box : Box)
    (fore back : Colour) :
    (∃ q, (s.session devices (Painter.rectangle ops box.bounds fore back)).1.device
        (s.session devices (Painter.rectangle ops box.bounds fore back)).2.1 = some { d with pixmap := q } ∧
      Repainted (box.drawnPixel fore back) d.pixmap q) ∧
    (∃ q, (s.session devices (Painter.fillRectangle ops box.bounds back)).1.device
        (s.session devices (Painter.fillRectangle ops box.bounds back)).2.1 = some { d with pixmap := q } ∧
      Repainted (box.filledPixel back) d.pixmap q) := by
  obtain ⟨drawn, -, -⟩ := session_of_device bound (Painter.rectangle ops box.bounds fore back)
  obtain ⟨filled, -, -⟩ := session_of_device bound (Painter.fillRectangle ops box.bounds back)
  exact ⟨⟨_, drawn, Painter.rectangle_repaints ops box d.pixmap unclipped fills strokes fore back⟩,
    ⟨_, filled, Painter.fillRectangle_repaints ops box d.pixmap unclipped fills back⟩⟩

theorem framed_box_on_blank_device :
    let drawn := DrawingSurface.session
      ⟨⟨fun _ _ _ => none, fun _ _ => none, fun _ _ _ => .ok []⟩, 96,
        .owned ⟨Pixmap.ofFn 4 4 fun _ _ => ⟨0, 0, 0, 0⟩, 96⟩, none, Point.zero⟩ #[]
      (Painter.rectangle RasterOps.centred
        (Box.bounds ⟨0, 0, 3, 3, by norm_num, by norm_num, by norm_num, by norm_num⟩) ⟨1, 2, 3⟩ ⟨4, 5, 6⟩)
    ∃ d', drawn.1.device drawn.2.1 = some d' ∧ d'.pixmap.pixel 0 2 = ⟨1, 2, 3, 255⟩ ∧
      d'.pixmap.pixel 1 1 = ⟨4, 5, 6, 255⟩ ∧ d'.pixmap.pixel 3 1 = ⟨0, 0, 0, 0⟩ := by
  intro drawn
  obtain ⟨⟨q, device, repainted⟩, -⟩ := rectangles_paint_box_pixels RasterOps.centred
    RasterOps.centred_fillsByCentres RasterOps.centred_strokesByCentres
    ⟨⟨fun _ _ _ => none, fun _ _ => none, fun _ _ _ => .ok []⟩, 96,
      .owned ⟨Pixmap.ofFn 4 4 fun _ _ => ⟨0, 0, 0, 0⟩, 96⟩, none, Point.zero⟩ #[]
    ⟨Pixmap.ofFn 4 4 fun _ _ => ⟨0, 0, 0, 0⟩, 96⟩ rfl rfl
    ⟨0, 0, 3, 3, by norm_num, by norm_num, by norm_num, by norm_num⟩ ⟨1, 2, 3⟩ ⟨4, 5, 6⟩
  refine ⟨_, device, ?_, ?_, ?_⟩ <;> dsimp only <;> rw [repainted.pixel _ _ (by decide) (by decide)] <;>
    unfold Box.drawnPixel
  · rw [if_pos (by decide)]
    rfl
  · rw [if_neg (by decide), if_pos (by decide)]
    rfl
  · rw [if_neg (by decide), if_neg (by decide), Pixmap.pixel_ofFn _ (by decide) (by decide)]

end DrawingSurface

/-- A rectangle whose edges are whole numbers but whose width overflows single precision is not
filled at all: its bounds make no rectangle, so no operation is called. -/
theorem overflowing_rectangle_fills_nothing :
    Binary32.toRat 3e38 = 300000000549775575777803994281145270272 ∧
      Binary32.toRat (-3e38) = -300000000549775575777803994281145270272 ∧
      ∀ (ops : RasterOps) (p : Pixmap) (c : PaintContext),
        Painter.fillRectangle ops ⟨-3e38, 0, 3e38, 2⟩ ⟨0, 255, 0⟩ p c = (p, c, none) := by
  refine ⟨?_, ?_, fun ops p c => ?_⟩
  · rw [Binary32.toRat, show (3e38 : Binary32).value = .finite false 14791142 104 by decide]
    norm_num
  · rw [Binary32.toRat, show (-3e38 : Binary32).value = .finite true 14791142 104 by decide]
    norm_num
  · unfold Painter.fillRectangle Painter.total
    rw [show Bounds.toRect ⟨-3e38, 0, 3e38, 2⟩ = none by decide]

end GlyphCanvas
