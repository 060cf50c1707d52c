import Mathlib
import GlyphCanvas.Surface.Drawing
import GlyphCanvas.Proofs.Float.Distance

namespace GlyphCanvas

/-- Whether pixel `(u, v)` lies in the `w × h` rectangle with its corner at `(x, y)`. -/
def InRect (x y : Int) (w h : Nat) (u v : Nat) : Prop :=
  x ≤ u ∧ (u : Int) < x + w ∧ y ≤ v ∧ (v : Int) < y + h

instance (x y : Int) (w h u v : Nat) : Decidable (InRect x y w h u v) :=
  inferInstanceAs (Decidable (_ ∧ _ ∧ _ ∧ _))

/-- Whether a `w × h` block with its corner at `(x, y)` has an area and lies in the signed 32-bit
range, its extents included. -/
def BlockFits (x y : Int) (w h : Nat) : Prop :=
  0 < w ∧ 0 < h ∧ (w : Int) ≤ i32Max ∧ (h : Int) ≤ i32Max ∧ x + w ≤ i32Max ∧ y + h ≤ i32Max

instance (x y : Int) (w h : Nat) : Decidable (BlockFits x y w h) :=
  inferInstanceAs (Decidable (_ ∧ _ ∧ _ ∧ _ ∧ _ ∧ _))

/-- Whether `w × h` pixels can be stored: a positive 32-bit size whose rows' bytes stay within the
signed 32-bit range. -/
def PixmapSized (w h : Nat) : Prop := 0 < w ∧ 0 < h ∧ w * 4 ≤ 2147483647 ∧ h ≤ 4294967295

instance (w h : Nat) : Decidable (PixmapSized w h) := inferInstanceAs (Decidable (_ ∧ _ ∧ _ ∧ _))

/-- `q` is `p` with `src` placed at `(x, y)`: each pixel under `src` becomes `blend` of the source
pixel over the one below, and every other pixel is kept. -/
structure Drawn (blend : Pixel → Pixel → Pixel) (p : Pixmap) (x y : Int) (src q : Pixmap) : Prop where
  width : q.width = p.width
  height : q.height = p.height
  pixel : ∀ u v, u < p.width → v < p.height →
    q.pixel u v = if InRect x y src.width src.height u v
      then blend (src.pixel ((u : Int) - x).toNat ((v : Int) - y).toNat) (p.pixel u v)
      else p.pixel u v

/-- What copying rectangle `r` out of `src` may give: nothing when `r` misses `src`, else the common
part of the two, pixel for pixel. -/
def Cut (src : Pixmap) (r : IntRect) : Option Pixmap → Prop
  | none => src.bounds.intersect r = none
  | some c => ∃ i, src.bounds.intersect r = some i ∧ c.width = i.width ∧ c.height = i.height ∧
      ∀ a b, a < i.width → b < i.height → c.pixel a b = src.pixel (i.x.toNat + a) (i.y.toNat + b)

/-- `q` keeps the size of `p` and every pixel that mask `m` leaves uncovered. -/
structure Kept (m : Mask) (p q : Pixmap) : Prop where
  width : q.width = p.width
  height : q.height = p.height
  pixel : ∀ u v, u < p.width → v < p.height → m.coverage u v = 0 → q.pixel u v = p.pixel u v

theorem Kept.refl (m : Mask) (p : Pixmap) : Kept m p p := ⟨rfl, rfl, fun _ _ _ _ _ => rfl⟩

theorem Kept.trans {m : Mask} {p q r : Pixmap} (first : Kept m p q) (second : Kept m q r) :
    Kept m p r := by
  refine ⟨second.width.trans first.width, second.height.trans first.height, ?_⟩
  intro u v hu hv uncovered
  have hu' : u < q.width := first.width ▸ hu
  have hv' : v < q.height := first.height ▸ hv
  rw [second.pixel u v hu' hv' uncovered, first.pixel u v hu hv uncovered]

namespace RasterOps

variable (ops : RasterOps)

/-- Copying a rectangle gives its common part with the pixmap. -/
def CutsExactly : Prop := ∀ src r, Cut src r (ops.cloneRect src r)

/-- Drawing a pixmap with an area, unmasked and untransformed, at an offset that keeps it inside
the 32-bit range succeeds and blends each of its pixels over the pixel under it. -/
def Blends (blend : Pixel → Pixel → Pixel) : Prop :=
  ∀ p x y src, 0 < src.width → 0 < src.height → -2147483648 ≤ x → -2147483648 ≤ y →
    x + src.width ≤ i32Max → y + src.height ≤ i32Max →
    ∃ q, ops.drawPixmap p x y src .nearest .identity none = .ok q ∧ Drawn blend p x y src q

/-- Fills and draws under a mask keep every pixel the mask leaves uncovered. -/
structure HonoursMasks : Prop where
  fill : ∀ p path shader ts m, Kept m p (ops.fillPath p path shader ts (some m))
  draw : ∀ p x y src quality ts m q, ops.drawPixmap p x y src quality ts (some m) = .ok q → Kept m p q

/-- Pixmaps are made from exactly `w · h · 4` bytes, for a size that can be stored. -/
def MakesPixmaps : Prop :=
  ∀ w h bytes, ops.pixmapOf w h bytes =
    if PixmapSized w h ∧ bytes.size = w * h * 4 then some ⟨w, h, bytes⟩ else none

/-- Drawing a pixmap with its corner in the signed 32-bit range succeeds exactly when the placed
block fits that range, whatever the quality, transform and mask. -/
def PlacesInRange : Prop :=
  ∀ p x y src quality ts mask, -2147483648 ≤ x → -2147483648 ≤ y →
    ((∃ q, ops.drawPixmap p x y src quality ts mask = .ok q) ↔ BlockFits x y src.width src.height)

/-- Filling a rectangle whose edges are the whole numbers `L`, `T`, `R`, `B` into a mask changes no
coverage outside `[L, R) × [T, B)`. -/
def FillsWithin : Prop :=
  ∀ (m : Mask) (r : Rect) (L T R B : Int), Binary32.toRat r.left = L → Binary32.toRat r.top = T →
    Binary32.toRat r.right = R → Binary32.toRat r.bottom = B →
    ∀ u v, u < m.width → v < m.height → ¬ (L ≤ u ∧ (u : Int) < R ∧ T ≤ v ∧ (v : Int) < B) →
      (ops.fillMask m (Path.ofRect r)).coverage u v = m.coverage u v

end RasterOps

/-! An exact set of operations. -/

/-- A byte of a pixel: red, green, blue, then alpha. -/
def Pixel.byte (c : Pixel) : Nat → UInt8
  | 0 => c.r
  | 1 => c.g
  | 2 => c.b
  | _ => c.a

theorem rowMajor_lt {w h u v : Nat} (hu : u < w) (hv : v < h) : v * w + u < w * h :=
  calc v * w + u < v * w + w := by omega
    _ = (v + 1) * w := by ring
    _ ≤ h * w := Nat.mul_le_mul_right w hv
    _ = w * h := Nat.mul_comm h w

/-- The `w × h` pixmap whose pixel `(u, v)` is `f u v`. -/
def Pixmap.ofFn (w h : Nat) (f : Nat → Nat → Pixel) : Pixmap where
  width := w
  height := h
  data := ByteArray.mk (Array.ofFn fun (i : Fin (w * h * 4)) => (f (i / 4 % w) (i / 4 / w)).byte (i % 4))

theorem Pixmap.pixel_ofFn {w h u v : Nat} (f : Nat → Nat → Pixel) (hu : u < w) (hv : v < h) :
    (Pixmap.ofFn w h f).pixel u v = f u v := by
  -- the four bytes of pixel `(u, v)` sit at `4 (v w + u) + k`, all inside the data
  have inside : (v * w + u) * 4 + 3 < w * h * 4 := by
    have := rowMajor_lt hu hv
    omega
  have index (k : Nat) (hk : k < 4) : ((v * w + u) * 4 + k) / 4 = v * w + u := by omega
  have first : (v * w + u) * 4 / 4 = v * w + u := by omega
  have column : (v * w + u) % w = u := by
    rw [Nat.add_comm, Nat.add_mul_mod_self_right, Nat.mod_eq_of_lt hu]
  have row : (v * w + u) / w = v := by
    rw [Nat.add_comm, Nat.add_mul_div_right _ _ (by omega), Nat.div_eq_of_lt hu, Nat.zero_add]
  simp only [Pixmap.pixel, Pixmap.offset, Pixmap.ofFn, ByteArray.get!]
  rw [getElem!_pos _ _ (by simp; omega), getElem!_pos _ _ (by simp; omega),
    getElem!_pos _ _ (by simp; omega), getElem!_pos _ _ (by simp; omega)]
  simp only [Array.getElem_ofFn, first, index 1 (by omega), index 2 (by omega), index 3 (by omega),
    column, row]
  have m0 : (v * w + u) * 4 % 4 = 0 := by omega
  have m1 : ((v * w + u) * 4 + 1) % 4 = 1 := by omega
  have m2 : ((v * w + u) * 4 + 2) % 4 = 2 := by omega
  have m3 : ((v * w + u) * 4 + 3) % 4 = 3 := by omega
  simp only [m0, m1, m2, m3, Pixel.byte]

/-- Whether a mask, if any, covers pixel `(u, v)`. -/
def coveredBy : Option Mask → Nat → Nat → Bool
  | none, _, _ => true
  | some m, u, v => m.coverage u v != 0

/-- Operations that do exactly what their promises say, with `blend` for compositing: a copy is
the common part, a draw blends the pixels it covers and fails outside the 32-bit range. They fill
and stroke no path and fill no mask. -/
def RasterOps.exact (blend : Pixel → Pixel → Pixel) : RasterOps where
  fillPath p _ _ _ _ := p
  strokePath p _ _ _ := p
  drawPixmap p x y src _ _ mask :=
    if 0 < src.width ∧ 0 < src.height ∧ -2147483648 ≤ x ∧ -2147483648 ≤ y ∧
        x + src.width ≤ i32Max ∧ y + src.height ≤ i32Max then
      .ok (Pixmap.ofFn p.width p.height fun u v =>
        if InRect x y src.width src.height u v ∧ coveredBy mask u v then
          blend (src.pixel ((u : Int) - x).toNat ((v : Int) - y).toNat) (p.pixel u v)
        else p.pixel u v)
    else .error Pixmap.placementFailure
  cloneRect src r := (src.bounds.intersect r).map fun i =>
    Pixmap.ofFn i.width i.height fun a b => src.pixel (i.x.toNat + a) (i.y.toNat + b)
  pixmapOf := Pixmap.ofBytes
  fillMask m _ := m

theorem Pixmap.ofBytes_eq (w h : Nat) (bytes : ByteArray) :
    Pixmap.ofBytes w h bytes = if PixmapSized w h ∧ bytes.size = w * h * 4 then some ⟨w, h, bytes⟩ else none := by
  unfold Pixmap.ofBytes pixmapBytes? PixmapSized
  split_ifs <;> simp_all

namespace RasterOps

variable (blend : Pixel → Pixel → Pixel)

theorem exact_cutsExactly : (exact blend).CutsExactly := by
  intro src r
  cases common : src.bounds.intersect r with
  | none => simp [exact, common, Cut]
  | some i =>
    simp only [exact, common, Option.map_some, Cut, Option.some.injEq, exists_eq_left']
    exact ⟨rfl, rfl, fun a b ha hb => Pixmap.pixel_ofFn _ ha hb⟩

theorem exact_blends : (exact blend).Blends blend := by
  intro p x y src hw hh hx hy hr hb
  refine ⟨_, by simp only [exact]; rw [if_pos ⟨hw, hh, hx, hy, hr, hb⟩], ?_⟩
  refine ⟨rfl, rfl, fun u v hu hv => ?_⟩
  rw [Pixmap.pixel_ofFn _ hu hv]
  simp [coveredBy]

theorem exact_honoursMasks : (exact blend).HonoursMasks where
  fill _ _ _ _ m := Kept.refl m _
  draw p x y src _ _ m q drawn := by
    simp only [exact] at drawn
    split at drawn
    · cases drawn
      refine ⟨rfl, rfl, fun u v hu hv uncovered => ?_⟩
      rw [Pixmap.pixel_ofFn _ hu hv]
      simp [coveredBy, uncovered]
    · cases drawn

theorem exact_fillsWithin : (exact blend).FillsWithin :=
  fun _ _ _ _ _ _ _ _ _ _ _ _ _ _ _ => rfl

theorem exact_makesPixmaps : (exact blend).MakesPixmaps := Pixmap.ofBytes_eq

theorem tinySkia_makesPixmaps : tinySkia.MakesPixmaps := Pixmap.ofBytes_eq

end RasterOps

end GlyphCanvas
