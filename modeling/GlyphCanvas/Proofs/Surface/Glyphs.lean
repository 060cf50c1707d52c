import Mathlib
import GlyphCanvas.Proofs.Raster.Contract

namespace GlyphCanvas

/-! Premultiplying a channel. -/

theorem premultiply_eq_div {c a : Nat} (hc : c ≤ 255) (ha : a ≤ 255) :
    premultiply c a = (c * a + 126) / 255 := by
  have bound : c * a ≤ 255 * 255 := Nat.mul_le_mul hc ha
  simp only [premultiply]
  generalize c * a = n at bound ⊢
  omega

theorem premultiply_eq_round {c a : Nat} (hc : c ≤ 255) (ha : a ≤ 255) :
    (premultiply c a : Int) = round ((c * a : ℚ) / 255) - if c * a % 255 = 128 then 1 else 0 := by
  have bound : c * a ≤ 255 * 255 := Nat.mul_le_mul hc ha
  have half : (c * a : ℚ) / 255 + 1 / 2 = (((2 * (c * a) + 255 : Nat) : Int) : ℚ) / ((510 : Nat) : ℚ) := by
    push_cast
    ring
  rw [premultiply_eq_div hc ha, round_eq, half, Rat.floor_intCast_div_natCast]
  generalize c * a = n at bound ⊢
  split <;> omega

/-- At colour `128` and coverage `1` the exact value `128 / 255` is above a half, so it rounds to
`1`, but the premultiplied channel is `0`. -/
theorem premultiply_rounds_half_down : premultiply 128 1 = 0 ∧ round ((128 : ℚ) * 1 / 255) = 1 := by
  refine ⟨by decide, ?_⟩
  rw [round_eq]
  norm_num [Int.floor_eq_iff]

/-! Bytes of a tile. -/

theorem ByteArray.foldl_eq_foldl_toList {β : Type} (f : β → UInt8 → β) (init : β) (bs : ByteArray) :
    bs.foldl f init = bs.data.toList.foldl f init := by
  -- the loop has `i` bytes left to read from index `j`
  have loop : ∀ i j b, i + j = bs.size →
      (ByteArray.foldlM.loop (m := Id) (fun x y => pure (f x y)) bs bs.size (Nat.le_refl _) i j b).run =
        (bs.data.toList.drop j).foldl f b := by
    intro i
    induction i with
    | zero =>
      intro j b hj
      have : bs.data.toList.drop j = [] := by simp; omega
      rw [this, ByteArray.foldlM.loop]
      split <;> rfl
    | succ i ih =>
      intro j b hj
      have lt : j < bs.size := by omega
      rw [ByteArray.foldlM.loop, dif_pos lt]
      have drop : bs.data.toList.drop j = bs[j] :: bs.data.toList.drop (j + 1) := by
        rw [List.drop_eq_getElem_cons (by simpa using lt)]
        simp [ByteArray.getElem_eq_getElem_data]
      rw [drop, List.foldl_cons]
      exact ih (j + 1) _ (by omega)
  unfold ByteArray.foldl ByteArray.foldlM
  simp only [Nat.le_refl, ↓reduceDIte, Nat.sub_zero]
  exact loop bs.size 0 init (by omega)

theorem ByteArray.get!_eq_getD (b : ByteArray) (i : Nat) : b.get! i = (b.data.toList[i]?).getD 0 := by
  simp only [ByteArray.get!, Array.getElem!_eq_getD, Array.getD_eq_getD_getElem?, Array.getElem?_toList]
  rfl

/-- The four bytes of a pixel, red first. -/
def Pixel.bytes (c : Pixel) : List UInt8 := [c.r, c.g, c.b, c.a]

theorem toList_foldl_pushPixel {α : Type} (f : α → Pixel) (cs : List α) (acc : ByteArray) :
    (cs.foldl (fun acc c => let px := f c; ((acc.push px.r).push px.g |>.push px.b).push px.a)
      acc).data.toList = acc.data.toList ++ cs.flatMap fun c => (f c).bytes := by
  induction cs generalizing acc with
  | nil => simp
  | cons c cs ih =>
    rw [List.foldl_cons, ih]
    simp [ByteArray.push, Pixel.bytes]

theorem size_foldl_pushPixel {α : Type} (f : α → Pixel) (cs : List α) (acc : ByteArray) :
    (cs.foldl (fun acc c => let px := f c; ((acc.push px.r).push px.g |>.push px.b).push px.a)
      acc).size = acc.size + 4 * cs.length := by
  induction cs generalizing acc with
  | nil => simp
  | cons c cs ih =>
    rw [List.foldl_cons, ih]
    simp only [ByteArray.size_push, List.length_cons]
    ring

theorem getElem?_flatMap_bytes {α : Type} (f : α → Pixel) (cs : List α) (k : Nat) {i : Nat} (hi : i < 4) :
    (cs.flatMap fun c => (f c).bytes)[4 * k + i]? = cs[k]?.bind fun c => (f c).bytes[i]? := by
  induction cs generalizing k with
  | nil => simp
  | cons c cs ih =>
    rw [List.flatMap_cons]
    cases k with
    | zero =>
      rw [List.getElem?_append_left (by simp [Pixel.bytes]; omega)]
      simp
    | succ k =>
      rw [List.getElem?_append_right (by simp [Pixel.bytes]; omega)]
      rw [show 4 * (k + 1) + i - (f c).bytes.length = 4 * k + i by simp [Pixel.bytes]; omega, ih]
      simp

theorem Pixmap.pixel_of_bytes {α : Type} (f : α → Pixel) (cs : List α) {p : Pixmap}
    (bytes : p.data.data.toList = cs.flatMap fun c => (f c).bytes) {i j : Nat}
    (inside : j * p.width + i < cs.length) : p.pixel i j = f cs[j * p.width + i] := by
  have byte (k : Nat) (hk : k < 4) :
      p.data.get! ((j * p.width + i) * 4 + k) = ((f cs[j * p.width + i]).bytes[k]?).getD 0 := by
    rw [ByteArray.get!_eq_getD, bytes, show (j * p.width + i) * 4 + k = 4 * (j * p.width + i) + k by ring,
      getElem?_flatMap_bytes f cs _ hk, List.getElem?_eq_getElem inside]
    rfl
  have first := byte 0 (by omega)
  rw [Nat.add_zero] at first
  simp only [Pixmap.pixel, Pixmap.offset, first, byte 1 (by omega), byte 2 (by omega), byte 3 (by omega)]
  rfl

/-! Tiles. -/

/-- A mask that becomes a tile: positive extents, one coverage byte per pixel, and a size that a
pixmap can store. -/
def GlyphMask.Tileable (g : GlyphMask) : Prop :=
  0 < g.width ∧ 0 < g.height ∧ g.coverage.size = g.width * g.height ∧ PixmapSized g.width g.height

instance (g : GlyphMask) : Decidable g.Tileable := inferInstanceAs (Decidable (_ ∧ _ ∧ _ ∧ _))

section Tint

variable {ops : RasterOps} (makes : ops.MakesPixmaps)
include makes

theorem tint_none {g : GlyphMask} (colour : Colour) (antialias : Bool) (h : ¬ g.Tileable) :
    tint ops g colour antialias = none := by
  unfold tint
  split
  · rfl
  · rename_i fits
    simp only [Bool.or_eq_true, decide_eq_true_eq, not_or, not_lt] at fits
    rw [makes, if_neg]
    -- a tile is made only from exactly one coverage byte per pixel
    rintro ⟨sized, same⟩
    have size := size_foldl_pushPixel (tintPixel colour antialias) g.coverage.data.toList ByteArray.empty
    simp only [ByteArray.size_empty, Array.length_toList, Nat.zero_add] at size
    rw [ByteArray.foldl_eq_foldl_toList, size] at same
    have count : 4 * g.coverage.size = g.width * g.height * 4 := same
    exact h ⟨by omega, by omega, by omega, sized⟩

theorem tint_some {g : GlyphMask} (colour : Colour) (antialias : Bool) (h : g.Tileable) :
    ∃ t, tint ops g colour antialias = some t ∧ t.width = g.width ∧ t.height = g.height ∧
      ∀ i j, i < g.width → j < g.height →
        t.pixel i j = tintPixel colour antialias (g.coverage.get! (j * g.width + i)) := by
  obtain ⟨hw, hh, size, sized⟩ := h
  have data := toList_foldl_pushPixel (tintPixel colour antialias) g.coverage.data.toList ByteArray.empty
  have length := size_foldl_pushPixel (tintPixel colour antialias) g.coverage.data.toList ByteArray.empty
  simp only [ByteArray.size_empty, Array.length_toList, Nat.zero_add] at length
  unfold tint
  rw [if_neg]
  swap
  · -- the extents and the coverage pass the size check
    simp only [Bool.or_eq_true, decide_eq_true_eq]
    omega
  rw [ByteArray.foldl_eq_foldl_toList, makes,
    if_pos ⟨sized, by rw [length]; show 4 * g.coverage.size = _; omega⟩]
  refine ⟨_, rfl, rfl, rfl, fun i j hi hj => ?_⟩
  have inside : j * g.width + i < g.coverage.data.toList.length := by
    have grid := rowMajor_lt hi hj
    rw [← size] at grid
    rw [Array.length_toList]
    exact grid
  rw [Pixmap.pixel_of_bytes (tintPixel colour antialias) _ (by simpa using data) inside,
    ByteArray.get!_eq_getD, List.getElem?_eq_getElem inside]
  rfl

end Tint

/-! Placing tiles. -/

/-- Pixel `(u, v)` lies under glyph `g` placed from the pen origin `(ox, oy)`. -/
def GlyphMask.Covers (g : GlyphMask) (ox oy : Int) (u v : Nat) : Prop :=
  InRect (ox + g.left) (oy + g.top) g.width g.height u v

instance (g : GlyphMask) (ox oy : Int) (u v : Nat) : Decidable (g.Covers ox oy u v) :=
  inferInstanceAs (Decidable (InRect _ _ _ _ _ _))

/-- The coverage byte of glyph `g`, placed from the pen origin `(ox, oy)`, over pixel `(u, v)`. -/
def GlyphMask.coverageAt (g : GlyphMask) (ox oy : Int) (u v : Nat) : UInt8 :=
  g.coverage.get! (((v : Int) - (oy + g.top)).toNat * g.width + ((u : Int) - (ox + g.left)).toNat)

/-- Glyph `g`, placed from the pen origin `(ox, oy)`, has its offsets, its corner and its far
edges in the 32-bit range. -/
def GlyphMask.FitsAt (g : GlyphMask) (ox oy : Int) : Prop :=
  -2147483648 ≤ g.left ∧ g.left ≤ i32Max ∧ -2147483648 ≤ g.top ∧ g.top ≤ i32Max ∧
    -2147483648 ≤ ox + g.left ∧ ox + g.left + g.width ≤ i32Max ∧
    -2147483648 ≤ oy + g.top ∧ oy + g.top + g.height ≤ i32Max

section Composite

variable (blend : Pixel → Pixel → Pixel) (p : Pixmap) (ox oy : Int) (colour : Colour) (antialias : Bool)

/-- `q` is `p` with the tiles of the tileable glyphs of `gs` blended over the pixels under them,
and nothing else drawn. -/
structure Composited (gs : List GlyphMask) (q : Pixmap) : Prop where
  width : q.width = p.width
  height : q.height = p.height
  under : ∀ g ∈ gs, g.Tileable → ∀ u v, u < p.width → v < p.height → g.Covers ox oy u v →
    q.pixel u v = blend (tintPixel colour antialias (g.coverageAt ox oy u v)) (p.pixel u v)
  elsewhere : ∀ u v, u < p.width → v < p.height → (∀ g ∈ gs, g.Tileable → ¬ g.Covers ox oy u v) →
    q.pixel u v = p.pixel u v

variable {blend p ox oy colour antialias}

theorem composited_nil : Composited blend p ox oy colour antialias [] p :=
  ⟨rfl, rfl, fun _ h => (List.not_mem_nil h).elim, fun _ _ _ _ _ => rfl⟩

theorem Composited.skip {gs : List GlyphMask} {g : GlyphMask} {q : Pixmap}
    (composited : Composited blend p ox oy colour antialias gs q) (untiled : ¬ g.Tileable) :
    Composited blend p ox oy colour antialias (gs ++ [g]) q := by
  refine ⟨composited.width, composited.height, fun g' mem tiled => ?_, fun u v hu hv none => ?_⟩
  · rcases List.mem_append.1 mem with old | new
    · exact composited.under g' old tiled
    · rw [List.mem_singleton.1 new] at tiled
      exact (untiled tiled).elim
  · exact composited.elsewhere u v hu hv fun g' old => none g' (List.mem_append_left _ old)

theorem Composited.draw {gs : List GlyphMask} {g : GlyphMask} {q q' t : Pixmap}
    (composited : Composited blend p ox oy colour antialias gs q) (tiled : g.Tileable)
    (fresh : ∀ g' ∈ gs, ∀ u v, ¬ (g'.Covers ox oy u v ∧ g.Covers ox oy u v))
    (tile : t.width = g.width ∧ t.height = g.height ∧ ∀ i j, i < g.width → j < g.height →
      t.pixel i j = tintPixel colour antialias (g.coverage.get! (j * g.width + i)))
    (drawn : Drawn blend q (ox + g.left) (oy + g.top) t q') :
    Composited blend p ox oy colour antialias (gs ++ [g]) q' := by
  obtain ⟨tw, th, px⟩ := tile
  have placed (u v : Nat) : InRect (ox + g.left) (oy + g.top) t.width t.height u v ↔ g.Covers ox oy u v := by
    rw [tw, th]
    rfl
  refine ⟨drawn.width.trans composited.width, drawn.height.trans composited.height, ?_, ?_⟩
  · intro g' mem tiled' u v hu hv covered
    rw [drawn.pixel u v (composited.width ▸ hu) (composited.height ▸ hv)]
    rcases List.mem_append.1 mem with old | new
    · -- an earlier glyph's pixel is not under the new tile
      have away : ¬ g.Covers ox oy u v := fun h => fresh g' old u v ⟨covered, h⟩
      rw [if_neg fun h => away ((placed u v).1 h), composited.under g' old tiled' u v hu hv covered]
    · rw [List.mem_singleton.1 new] at covered
      have below : q.pixel u v = p.pixel u v :=
        composited.elsewhere u v hu hv fun g'' old _ h => fresh g'' old u v ⟨h, covered⟩
      have inside := covered
      unfold GlyphMask.Covers InRect at inside
      rw [if_pos ((placed u v).2 covered), below, px _ _ (by omega) (by omega), List.mem_singleton.1 new]
      rfl
  · intro u v hu hv none
    have away : ¬ g.Covers ox oy u v := none g (List.mem_append_right _ (List.mem_singleton_self g)) tiled
    rw [drawn.pixel u v (composited.width ▸ hu) (composited.height ▸ hv),
      if_neg fun h => away ((placed u v).1 h),
      composited.elsewhere u v hu hv fun g' old => none g' (List.mem_append_left _ old)]

end Composite

theorem foldl_without_failure {α γ : Type} {f : α × Option String → γ → α × Option String}
    (motive : List γ → α → Prop) (l : List γ) {a : α} {P : α → Prop} (start : motive [] a)
    (step : ∀ done g rest q, done ++ g :: rest = l → motive done q →
      ∃ q', f (q, none) g = (q', none) ∧ motive (done ++ [g]) q')
    (finish : ∀ q, motive l q → P q) :
    ∃ q, l.foldl f (a, none) = (q, none) ∧ P q := by
  -- the fold over the items still to come, from any state reached by those already taken
  have rest : ∀ rest done q, done ++ rest = l → motive done q →
      ∃ q', rest.foldl f (q, none) = (q', none) ∧ P q' := by
    intro rest
    induction rest with
    | nil =>
      intro done q whole reached
      rw [List.append_nil] at whole
      exact ⟨q, rfl, finish q (whole ▸ reached)⟩
    | cons g rest ih =>
      intro done q whole reached
      obtain ⟨q', taken, reached'⟩ := step done g rest q whole reached
      rw [List.foldl_cons, taken]
      exact ih (done ++ [g]) q' (by rw [List.append_assoc]; exact whole) reached'
  exact rest l [] a rfl start

/-- On a transparent pixmap, glyphs with disjoint destination rectangles in the 32-bit range are
composited without failure: each pixel under a tileable glyph becomes that glyph's tinted pixel,
and every other pixel stays transparent. -/
theorem compositeGlyphs_paints_tiles (ops : RasterOps) (blend : Pixel → Pixel → Pixel)
    (blends : ops.Blends blend) (makes : ops.MakesPixmaps) (overTransparent : ∀ s, blend s ⟨0, 0, 0, 0⟩ = s) (p : Pixmap)
    (transparent : ∀ u v, u < p.width → v < p.height → p.pixel u v = ⟨0, 0, 0, 0⟩)
    (glyphs : List GlyphMask) (x baseline : Binary32) (colour : Colour) (antialias : Bool)
    (ox oy : Int) (origin : x.round.toInt32 = ox ∧ baseline.round.toInt32 = oy)
    (fits : ∀ g ∈ glyphs, g.FitsAt ox oy)
    (disjoint : glyphs.Pairwise fun g g' => ∀ u v, ¬ (g.Covers ox oy u v ∧ g'.Covers ox oy u v)) :
    ∃ q, p.compositeGlyphs ops glyphs x baseline colour antialias none = (q, none) ∧
      q.width = p.width ∧ q.height = p.height ∧ ∀ u v, u < p.width → v < p.height →
        (∀ g ∈ glyphs, g.Tileable → g.Covers ox oy u v →
          q.pixel u v = tintPixel colour antialias (g.coverageAt ox oy u v)) ∧
        ((∀ g ∈ glyphs, g.Tileable → ¬ g.Covers ox oy u v) → q.pixel u v = ⟨0, 0, 0, 0⟩) := by
  unfold Pixmap.compositeGlyphs
  rw [origin.1, origin.2]
  refine foldl_without_failure (Composited blend p ox oy colour antialias) glyphs composited_nil ?_ ?_
  · intro done g rest q whole composited
    have mem : g ∈ glyphs := whole ▸ List.mem_append_right _ (List.mem_cons_self ..)
    obtain ⟨left, leftHigh, top, topHigh, cornerX, farX, cornerY, farY⟩ := fits g mem
    -- the glyphs before `g` do not overlap it
    have fresh : ∀ g' ∈ done, ∀ u v, ¬ (g'.Covers ox oy u v ∧ g.Covers ox oy u v) := by
      rw [← whole] at disjoint
      exact fun g' old => (List.pairwise_append.1 disjoint).2.2 g' old g (List.mem_cons_self ..)
    by_cases tiled : g.Tileable
    · obtain ⟨t, tinted, tile⟩ := tint_some makes colour antialias tiled
      obtain ⟨q', drawnAt, drawn⟩ := blends q (ox + g.left) (oy + g.top) t
        (by rw [tile.1]; exact tiled.1) (by rw [tile.2.1]; exact tiled.2.1) cornerX cornerY
        (by rw [tile.1]; exact farX) (by rw [tile.2.1]; exact farY)
      rw [tinted]
      dsimp only
      rw [if_neg, drawnAt]
      · exact ⟨q', rfl, composited.draw tiled fresh tile drawn⟩
      · -- the offsets and the corner pass the 32-bit range check
        simp only [i32Max] at leftHigh topHigh farX farY
        simp only [Bool.or_eq_true, Bool.not_eq_true', Bool.and_eq_false_iff, decide_eq_false_iff_not]
        omega
    · rw [tint_none makes colour antialias tiled]
      exact ⟨q, rfl, composited.skip tiled⟩
  · intro q composited
    refine ⟨composited.width, composited.height, fun u v hu hv => ⟨?_, ?_⟩⟩
    · intro g mem tiled covered
      rw [composited.under g mem tiled u v hu hv covered, transparent u v hu hv, overTransparent]
    · intro none
      rw [composited.elsewhere u v hu hv none, transparent u v hu hv]

/-- One pixel of coverage 1 in a red of 128 is composited as `⟨0, 0, 0, 1⟩`: the product
`128 · 1 / 255`, half way between 0 and 1, rounds down. -/
theorem compositeGlyphs_half_coverage :
    ∃ q, (Pixmap.ofFn 2 2 fun _ _ => ⟨0, 0, 0, 0⟩).compositeGlyphs (RasterOps.exact fun s _ => s)
        [⟨0, 0, 1, 1, ⟨#[1]⟩⟩] 0 0 ⟨128, 0, 0⟩ true none = (q, none) ∧
      q.pixel 0 0 = ⟨0, 0, 0, 1⟩ ∧ q.pixel 1 1 = ⟨0, 0, 0, 0⟩ := by
  obtain ⟨q, run, -, -, pixels⟩ := compositeGlyphs_paints_tiles (RasterOps.exact fun s _ => s)
    (fun s _ => s) (RasterOps.exact_blends _) (RasterOps.exact_makesPixmaps _) (fun _ => rfl) (Pixmap.ofFn 2 2 fun _ _ => ⟨0, 0, 0, 0⟩)
    (fun _ _ hu hv => Pixmap.pixel_ofFn _ hu hv) [⟨0, 0, 1, 1, ⟨#[1]⟩⟩] 0 0 ⟨128, 0, 0⟩ true 0 0
    ⟨by decide, by decide⟩ (by simp [GlyphMask.FitsAt, i32Max]) (List.pairwise_singleton _ _)
  refine ⟨q, run, ?_, ?_⟩
  · rw [(pixels 0 0 (by decide) (by decide)).1 _ (List.mem_singleton_self _) (by decide) (by decide)]
    decide
  · exact (pixels 1 1 (by decide) (by decide)).2 (by decide)

end GlyphCanvas
