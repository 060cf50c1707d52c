import Mathlib
import GlyphCanvas.Proofs.Raster.Contract

namespace GlyphCanvas

theorem FloatFormat.toIntClamped_mem (f : FloatFormat) {lo hi : Int} (hlo : lo ≤ 0) (hhi : 0 ≤ hi)
    (x : Nat) : lo ≤ f.toIntClamped lo hi x ∧ f.toIntClamped lo hi x ≤ hi := by
  unfold toIntClamped
  split
  · omega
  · split <;> omega
  · omega

theorem Binary32.toInt32_mem (x : Binary32) : -2147483648 ≤ x.toInt32 ∧ x.toInt32 ≤ i32Max :=
  FloatFormat.toIntClamped_mem _ (by decide) (by decide) _

namespace Painter

theorem foldl_tileStarts {α : Type} (motive : Int → α → Prop) (f : α → Int → α) {lo hi : Int} {a : α}
    (start : motive lo a)
    (step : ∀ x a, lo ≤ x → x < hi → (x - lo) % 8 = 0 → motive x a → motive (min (x + 8) hi) (f a x)) :
    motive (max lo hi) ((tileStarts lo hi).foldl f a) := by
  unfold tileStarts
  split
  · rename_i empty
    rwa [max_eq_left empty]
  · rename_i nonempty
    have below : lo < hi := not_le.1 nonempty
    -- after `k` blocks the fold has reached `min (lo + 8 k) hi`
    have reach : ∀ k, k ≤ (hi - lo - 1).toNat / patternTileSize + 1 →
        motive (min (lo + 8 * k) hi)
          (((List.range k).map fun (i : Nat) => lo + patternTileSize * (i : Int)).foldl f a) := by
      intro k
      induction k with
      | zero =>
        intro _
        simpa [min_eq_left below.le] using start
      | succ k ih =>
        intro bound
        have inside : lo + 8 * k < hi := by simp only [patternTileSize] at bound; omega
        have now := ih (by omega)
        rw [min_eq_left inside.le] at now
        have next := step (lo + 8 * k) _ (by omega) inside (by omega) now
        rw [List.range_succ, List.map_append, List.foldl_append]
        simpa [patternTileSize, mul_add, add_assoc] using next
    have done := reach _ le_rfl
    rw [max_eq_right below.le]
    rwa [min_eq_right (by simp only [patternTileSize]; omega)] at done

variable {ops : RasterOps}

/-- What the top-left `w × h` block of `source` may be: nothing when the source has no pixels,
else the source's pixels within both extents. -/
def Corner (source : Pixmap) (w h : Nat) : Option Pixmap → Prop
  | none => source.width = 0 ∨ source.height = 0
  | some t => 0 < source.width ∧ 0 < source.height ∧ t.width = min w source.width ∧
      t.height = min h source.height ∧ ∀ a b, a < t.width → b < t.height → t.pixel a b = source.pixel a b

theorem bounds_intersect_corner (source : Pixmap) {w h : Nat} (hw : w ≤ 8) (hh : h ≤ 8) :
    source.bounds.intersect ⟨0, 0, w, h⟩ =
      if 0 < min source.width w ∧ 0 < min source.height h
      then some ⟨0, 0, min source.width w, min source.height h⟩ else none := by
  have top : i32Max = 2147483647 := rfl
  unfold IntRect.intersect IntRect.ofXYWH
  dsimp only
  split
  · rename_i common
    simp only [Pixmap.bounds, IntRect.right, IntRect.bottom] at common
    split
    · rw [if_pos (by omega)]
      simp only [Pixmap.bounds, IntRect.right, IntRect.bottom, Option.some.injEq, IntRect.mk.injEq]
      omega
    · rename_i fits
      simp only [Pixmap.bounds, IntRect.right, IntRect.bottom] at fits
      omega
  · rename_i common
    simp only [Pixmap.bounds, IntRect.right, IntRect.bottom] at common
    rw [if_neg (by omega)]

theorem sourceBlock_corner (cuts : ops.CutsExactly) (source : Pixmap) {w h : Int} (hw : 0 < w)
    (hw8 : w ≤ 8) (hh : 0 < h) (hh8 : h ≤ 8) :
    Corner source w.toNat h.toNat (sourceBlock ops source w h) := by
  have placed : IntRect.ofXYWH 0 0 w.toNat h.toNat = some ⟨0, 0, w.toNat, h.toNat⟩ := by
    have top : i32Max = 2147483647 := rfl
    unfold IntRect.ofXYWH
    split
    · rfl
    · rename_i fits
      exact absurd (by rw [top]; omega) fits
  have cut := cuts source ⟨0, 0, w.toNat, h.toNat⟩
  have common := bounds_intersect_corner source (w := w.toNat) (h := h.toNat) (by omega) (by omega)
  have positive : (decide (w < 0) || decide (h < 0)) = false := by simp; omega
  simp only [sourceBlock, positive, Bool.false_eq_true, ↓reduceIte, placed, Option.bind_eq_bind,
    Option.bind_some]
  cases clone : ops.cloneRect source ⟨0, 0, w.toNat, h.toNat⟩ with
  | none =>
    rw [clone] at cut
    simp only [Cut, common] at cut
    split_ifs at cut
    simp only [Corner]
    omega
  | some t =>
    rw [clone] at cut
    obtain ⟨i, found, tw, th, px⟩ := cut
    rw [common] at found
    split_ifs at found with nonempty
    cases found
    dsimp only at tw th
    refine ⟨by omega, by omega, by rw [tw]; omega, by rw [th]; omega, fun a b ha hb => ?_⟩
    simpa using px a b (tw ▸ ha) (th ▸ hb)

theorem block_of_full {source full : Pixmap} (hfull : sourceBlock ops source 8 8 = some full) (w h : Int) :
    (if (decide (w = 8) && decide (h = 8)) = true then some full else sourceBlock ops source w h) =
      sourceBlock ops source w h := by
  split
  · rename_i both
    simp only [Bool.and_eq_true, decide_eq_true_eq] at both
    rw [both.1, both.2, hfull]
  · rfl

section Tiling

variable (blend : Pixel → Pixel → Pixel) (L T : Int) (source p : Pixmap)

/-- Pixel `(u, v)` of `p` with the pattern from corner `(L, T)` drawn over it: the source pixel at
its offset from the corner, modulo the block side, blended over `p`'s pixel when the source has
that pixel. -/
def patterned (u v : Nat) : Pixel :=
  let a := ((u : Int) - L).toNat % patternTileSize
  let b := ((v : Int) - T).toNat % patternTileSize
  if a < source.width ∧ b < source.height then blend (source.pixel a b) (p.pixel u v) else p.pixel u v

/-- `q` is `p` with the pattern drawn over the pixels of `done` and nowhere else. -/
structure Tiled (done : Nat → Nat → Prop) (q : Pixmap) : Prop where
  width : q.width = p.width
  height : q.height = p.height
  inside : ∀ u v, u < p.width → v < p.height → done u v → q.pixel u v = patterned blend L T source p u v
  outside : ∀ u v, u < p.width → v < p.height → ¬ done u v → q.pixel u v = p.pixel u v

/-- The pixels of columns `[x₀, x₁)` and rows `[y₀, y₁)`. -/
def Swept (x₀ x₁ y₀ y₁ : Int) (u v : Nat) : Prop := x₀ ≤ u ∧ (u : Int) < x₁ ∧ y₀ ≤ v ∧ (v : Int) < y₁

variable {blend L T source p}

theorem tiled_start : Tiled blend L T source p (fun _ _ => False) p :=
  ⟨rfl, rfl, fun _ _ _ _ h => h.elim, fun _ _ _ _ _ => rfl⟩

theorem Tiled.congr {d d' : Nat → Nat → Prop} {q : Pixmap} (tiled : Tiled blend L T source p d q)
    (same : ∀ u v, d u v ↔ d' u v) : Tiled blend L T source p d' q :=
  ⟨tiled.width, tiled.height, fun u v hu hv h => tiled.inside u v hu hv ((same u v).2 h),
    fun u v hu hv h => tiled.outside u v hu hv fun h' => h ((same u v).1 h')⟩

theorem patterned_of_empty (empty : source.width = 0 ∨ source.height = 0) (u v : Nat) :
    patterned blend L T source p u v = p.pixel u v := by
  unfold patterned
  rw [if_neg (by omega)]

theorem Tiled.skip {d : Nat → Nat → Prop} {q : Pixmap} {x y : Int} {w h : Nat}
    (tiled : Tiled blend L T source p d q) (fresh : ∀ u v, d u v → ¬ InRect x y w h u v)
    (empty : source.width = 0 ∨ source.height = 0) :
    Tiled blend L T source p (fun u v => d u v ∨ InRect x y w h u v) q := by
  refine ⟨tiled.width, tiled.height, fun u v hu hv reached => ?_, fun u v hu hv missed => ?_⟩
  · rcases reached with old | new
    · exact tiled.inside u v hu hv old
    · rw [tiled.outside u v hu hv fun old => fresh u v old new, patterned_of_empty empty]
  · exact tiled.outside u v hu hv fun old => missed (.inl old)

theorem Tiled.block {d : Nat → Nat → Prop} {q q' t : Pixmap} {x y : Int} {w h : Nat}
    (tiled : Tiled blend L T source p d q) (fresh : ∀ u v, d u v → ¬ InRect x y w h u v)
    (column : L ≤ x ∧ (x - L) % 8 = 0) (row : T ≤ y ∧ (y - T) % 8 = 0) (hw : w ≤ 8) (hh : h ≤ 8)
    (corner : Corner source w h (some t)) (drawn : Drawn blend q x y t q') :
    Tiled blend L T source p (fun u v => d u v ∨ InRect x y w h u v) q' := by
  obtain ⟨-, -, tw, th, px⟩ := corner
  -- the block covers the part of its tile that the source has pixels for
  have within (u v : Nat) (tile : InRect x y w h u v) : InRect x y t.width t.height u v ↔
      ((u : Int) - x).toNat < source.width ∧ ((v : Int) - y).toNat < source.height := by
    unfold InRect at tile ⊢
    rw [tw, th]
    omega
  have inTile (u v : Nat) (drawnThere : InRect x y t.width t.height u v) : InRect x y w h u v := by
    unfold InRect at drawnThere ⊢
    rw [tw, th] at drawnThere
    omega
  refine ⟨drawn.width.trans tiled.width, drawn.height.trans tiled.height, ?_, ?_⟩
  · intro u v hu hv reached
    rw [drawn.pixel u v (tiled.width ▸ hu) (tiled.height ▸ hv)]
    by_cases new : InRect x y w h u v
    · -- inside the tile, the offset from the tile is the offset from the corner modulo the side
      have below := tiled.outside u v hu hv fun old => fresh u v old new
      have drawnThere := within u v new
      unfold InRect at new
      have ha : ((u : Int) - L).toNat % patternTileSize = ((u : Int) - x).toNat := by
        simp only [patternTileSize]
        omega
      have hb : ((v : Int) - T).toNat % patternTileSize = ((v : Int) - y).toNat := by
        simp only [patternTileSize]
        omega
      unfold patterned
      rw [ha, hb, below]
      by_cases has : ((u : Int) - x).toNat < source.width ∧ ((v : Int) - y).toNat < source.height
      · rw [if_pos (drawnThere.2 has), if_pos has, px _ _ (by rw [tw]; omega) (by rw [th]; omega)]
      · rw [if_neg fun h => has (drawnThere.1 h), if_neg has]
    · rw [if_neg fun h => new (inTile u v h), tiled.inside u v hu hv (reached.resolve_right new)]
  · intro u v hu hv missed
    rw [drawn.pixel u v (tiled.width ▸ hu) (tiled.height ▸ hv),
      if_neg fun h => missed (.inr (inTile u v h)), tiled.outside u v hu hv fun old => missed (.inl old)]

theorem block_fresh {x y R B : Int} (u v : Nat)
    (old : Swept L x T (max T B) u v ∨ Swept x (min (x + 8) R) T y u v) :
    ¬ InRect x y (min 8 (R - x)).toNat (min 8 (B - y)).toNat u v := by
  simp only [Swept] at old
  unfold InRect
  omega

theorem block_grown {x y R B : Int} (lx : L ≤ x) (xR : x < R) (ty : T ≤ y) (yB : y < B) (u v : Nat) :
    ((Swept L x T (max T B) u v ∨ Swept x (min (x + 8) R) T y u v) ∨
      InRect x y (min 8 (R - x)).toNat (min 8 (B - y)).toNat u v) ↔
      (Swept L x T (max T B) u v ∨ Swept x (min (x + 8) R) T (min (y + 8) B) u v) := by
  simp only [Swept, InRect]
  omega

theorem Tiled.column {g : Pixmap × Option String → Int → Pixmap × Option String} {q : Pixmap}
    {x R B : Int} (start : L ≤ x) (before : x < R) (tiled : Tiled blend L T source p (Swept L x T (max T B)) q)
    (block : ∀ y q, T ≤ y → y < B → (y - T) % 8 = 0 →
      Tiled blend L T source p (fun u v => Swept L x T (max T B) u v ∨ Swept x (min (x + 8) R) T y u v) q →
      ∃ q', g (q, none) y = (q', none) ∧ Tiled blend L T source p
        (fun u v => Swept L x T (max T B) u v ∨ Swept x (min (x + 8) R) T (min (y + 8) B) u v) q') :
    ∃ q', (tileStarts T B).foldl g (q, none) = (q', none) ∧
      Tiled blend L T source p (Swept L (min (x + 8) R) T (max T B)) q' := by
  have rows : ∃ q', (tileStarts T B).foldl g (q, none) = (q', none) ∧ Tiled blend L T source p
      (fun u v => Swept L x T (max T B) u v ∨ Swept x (min (x + 8) R) T (max T B) u v) q' :=
    foldl_tileStarts (fun Y acc => ∃ q, acc = (q, none) ∧ Tiled blend L T source p
      (fun u v => Swept L x T (max T B) u v ∨ Swept x (min (x + 8) R) T Y u v) q) g
      ⟨q, rfl, tiled.congr fun u v => by simp only [Swept]; omega⟩
      (fun y acc ty yB ymod ⟨q, reached, tiledRow⟩ => by subst reached; exact block y q ty yB ymod tiledRow)
  obtain ⟨q', folded, tiledColumn⟩ := rows
  exact ⟨q', folded, tiledColumn.congr fun u v => by simp only [Swept]; omega⟩

theorem Tiled.columns {f : Pixmap × Option String → Int → Pixmap × Option String} {R B : Int}
    (column : ∀ x q, L ≤ x → x < R → (x - L) % 8 = 0 →
      Tiled blend L T source p (Swept L x T (max T B)) q →
      ∃ q', f (q, none) x = (q', none) ∧ Tiled blend L T source p (Swept L (min (x + 8) R) T (max T B)) q')
    {acc : Pixmap × Option String} (folded : (tileStarts L R).foldl f (p, none) = acc) :
    acc.2 = none ∧ Tiled blend L T source p (Swept L (max L R) T (max T B)) acc.1 := by
  have columns : ∃ q, (tileStarts L R).foldl f (p, none) = (q, none) ∧
      Tiled blend L T source p (Swept L (max L R) T (max T B)) q :=
    foldl_tileStarts (fun X acc => ∃ q, acc = (q, none) ∧ Tiled blend L T source p (Swept L X T (max T B)) q) f
      ⟨p, rfl, tiled_start.congr fun u v => ⟨False.elim, fun swept => by unfold Swept at swept; omega⟩⟩
      (fun x acc lx xR xmod ⟨q, atX, tiled⟩ => by subst atX; exact column x q lx xR xmod tiled)
  obtain ⟨q, reached, tiled⟩ := columns
  rw [← folded, reached]
  exact ⟨rfl, tiled⟩

theorem Tiled.rect {q : Pixmap} {R B : Int}
    (tiled : Tiled blend L T source p (Swept L (max L R) T (max T B)) q) :
    q.width = p.width ∧ q.height = p.height ∧ ∀ u v, u < p.width → v < p.height →
      q.pixel u v =
        let a := ((u : Int) - L).toNat % patternTileSize
        let b := ((v : Int) - T).toNat % patternTileSize
        if L ≤ u ∧ (u : Int) < R ∧ T ≤ v ∧ (v : Int) < B ∧ a < source.width ∧ b < source.height
        then blend (source.pixel a b) (p.pixel u v) else p.pixel u v := by
  refine ⟨tiled.width, tiled.height, fun u v hu hv => ?_⟩
  by_cases inRect : L ≤ u ∧ (u : Int) < R ∧ T ≤ v ∧ (v : Int) < B
  · rw [tiled.inside u v hu hv (by unfold Swept; omega)]
    unfold patterned
    by_cases has : ((u : Int) - L).toNat % patternTileSize < source.width ∧
        ((v : Int) - T).toNat % patternTileSize < source.height
    · rw [if_pos has]
      exact (if_pos ⟨inRect.1, inRect.2.1, inRect.2.2.1, inRect.2.2.2, has⟩).symm
    · rw [if_neg has]
      exact (if_neg fun h => has ⟨h.2.2.2.2.1, h.2.2.2.2.2⟩).symm
  · rw [tiled.outside u v hu hv (by unfold Swept; omega)]
    exact (if_neg fun h => inRect ⟨h.1, h.2.1, h.2.2.1, h.2.2.2.1⟩).symm

end Tiling

theorem exists_of_snd_eq_none {α β γ : Type} {a : α × Option β} {c : γ} {P : α → Prop}
    (h : a.2 = none ∧ P a.1) : ∃ q, (a.1, c, a.2) = (q, c, none) ∧ P q :=
  ⟨a.1, by rw [h.1], h.2⟩

/-- A pattern fill with no clip, over a rectangle whose 32-bit extents fit the 32-bit range,
blends every pixel of `[L, R) × [T, B)` once with the source pixel at its offset from `(L, T)`
modulo the block side, when the source has that pixel, and keeps every other pixel. -/
theorem pattern_tiles_rect (ops : RasterOps) (blend : Pixel → Pixel → Pixel) (cuts : ops.CutsExactly)
    (blends : ops.Blends blend) (rc : Bounds) (source p : Pixmap) (c : PaintContext)
    (unclipped : c.clip = none) (wide : rc.right.toInt32 - rc.left.toInt32 ≤ i32Max)
    (tall : rc.bottom.toInt32 - rc.top.toInt32 ≤ i32Max) :
    let L := rc.left.toInt32
    let T := rc.top.toInt32
    let R := rc.right.toInt32
    let B := rc.bottom.toInt32
    ∃ q, pattern ops rc source p c = (q, c, none) ∧ q.width = p.width ∧ q.height = p.height ∧
      ∀ u v, u < p.width → v < p.height →
        q.pixel u v =
          let a := ((u : Int) - L).toNat % patternTileSize
          let b := ((v : Int) - T).toNat % patternTileSize
          if L ≤ u ∧ (u : Int) < R ∧ T ≤ v ∧ (v : Int) < B ∧ a < source.width ∧ b < source.height
          then blend (source.pixel a b) (p.pixel u v) else p.pixel u v := by
  intro L T R B
  have lowL := (Binary32.toInt32_mem rc.left).1
  have lowT := (Binary32.toInt32_mem rc.top).1
  have highR := (Binary32.toInt32_mem rc.right).2
  have highB := (Binary32.toInt32_mem rc.bottom).2
  have side : ((patternTileSize : Nat) : Int) = 8 := rfl
  simp only [pattern, side]
  rcases hfull : sourceBlock ops source 8 8 with _ | full
  · -- a source without pixels: nothing is drawn, and the pattern has no pixel to draw
    have empty := sourceBlock_corner cuts source (w := 8) (h := 8) (by decide) le_rfl (by decide) le_rfl
    rw [hfull] at empty
    simp only [Corner] at empty
    refine ⟨p, rfl, rfl, rfl, fun u v _ _ => ?_⟩
    exact (if_neg fun h => by omega).symm
  · dsimp only
    rw [if_neg]
    swap
    · -- the extents pass the overflow check
      simp only [Bool.and_eq_true, Bool.or_eq_true, decide_eq_true_eq]
      omega
    -- the columns, each a fold over its rows, tile the rectangle block by block without failing
    refine exists_of_snd_eq_none (And.imp_right Tiled.rect (Tiled.columns ?_ rfl))
    intro x q lx xR xmod tiled
    refine Tiled.column lx xR tiled fun y q' ty yB ymod tiledColumn => ?_
    dsimp only
    rw [block_of_full hfull]
    have corner := sourceBlock_corner cuts source (w := min 8 (R - x)) (h := min 8 (B - y))
      (by omega) (by omega) (by omega) (by omega)
    rcases block : sourceBlock ops source (min 8 (R - x)) (min 8 (B - y)) with _ | t
    · rw [block] at corner
      exact ⟨q', rfl, (tiledColumn.skip block_fresh corner).congr (block_grown lx xR ty yB)⟩
    · rw [block] at corner
      obtain ⟨sw, sh, tw, th, -⟩ := id corner
      obtain ⟨q'', drawnAt, drawn⟩ := blends q' x y t (by omega) (by omega) (by omega) (by omega)
        (by omega) (by omega)
      simp only [unclipped, drawnAt]
      exact ⟨q'', rfl, (tiledColumn.block block_fresh ⟨lx, xmod⟩ ⟨ty, ymod⟩ (by omega) (by omega) corner
        drawn).congr (block_grown lx xR ty yB)⟩

/-- Filling `[1, 12) × [2, 7)` from a `3 × 10` source, copying: pixel `(9, 3)`, at offsets `(0, 1)`
in its block, takes source pixel `(0, 1)`; pixel `(4, 3)`, at column offset `3`, past the source's
width, is kept, and so is pixel `(12, 3)`, past the right edge. -/
theorem pattern_fill_unaligned :
    ∃ q, pattern (RasterOps.exact fun s _ => s) ⟨1, 2, 12, 7⟩
        (Pixmap.ofFn 3 10 fun a b => ⟨a.toUInt8, b.toUInt8, 0, 255⟩)
        (Pixmap.ofFn 16 9 fun _ _ => ⟨0, 0, 0, 0⟩) {} = (q, {}, none) ∧
      q.pixel 9 3 = ⟨0, 1, 0, 255⟩ ∧ q.pixel 4 3 = ⟨0, 0, 0, 0⟩ ∧ q.pixel 12 3 = ⟨0, 0, 0, 0⟩ := by
  obtain ⟨q, run, -, -, pixels⟩ := pattern_tiles_rect (RasterOps.exact fun s _ => s) (fun s _ => s)
    (RasterOps.exact_cutsExactly _) (RasterOps.exact_blends _) ⟨1, 2, 12, 7⟩
    (Pixmap.ofFn 3 10 fun a b => ⟨a.toUInt8, b.toUInt8, 0, 255⟩)
    (Pixmap.ofFn 16 9 fun _ _ => ⟨0, 0, 0, 0⟩) {} rfl (by decide) (by decide)
  refine ⟨q, run, ?_, ?_, ?_⟩
  · rw [pixels 9 3 (by decide) (by decide)]
    dsimp only
    rw [if_pos (by decide), Pixmap.pixel_ofFn _ (by decide) (by decide)]
    rfl
  · rw [pixels 4 3 (by decide) (by decide)]
    dsimp only
    rw [if_neg (by decide), Pixmap.pixel_ofFn _ (by decide) (by decide)]
  · rw [pixels 12 3 (by decide) (by decide)]
    dsimp only
    rw [if_neg (by decide), Pixmap.pixel_ofFn _ (by decide) (by decide)]

end Painter

end GlyphCanvas
