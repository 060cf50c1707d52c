import Mathlib
import GlyphCanvas.Proofs.Float.Between
import GlyphCanvas.Proofs.Surface.Binding
import GlyphCanvas.Proofs.Surface.Pattern
import GlyphCanvas.Proofs.Surface.ClippedText

namespace GlyphCanvas

theorem IntRect.ofXYWH_isSome_iff {x y : Int} {w h : Nat} :
    (IntRect.ofXYWH x y w h).isSome ↔ BlockFits x y w h := by
  unfold IntRect.ofXYWH BlockFits
  split <;> simp_all

theorem RasterOps.tinySkia_placesInRange : RasterOps.tinySkia.PlacesInRange := by
  intro p x y src quality ts mask cornerX cornerY
  show (∃ q, p.drawPixmap x y src quality ts mask = .ok q) ↔ _
  rw [← IntRect.ofXYWH_isSome_iff]
  unfold Pixmap.drawPixmap
  rcases placed : IntRect.ofXYWH x y src.width src.height with _ | ir
  · simp
  · have fits := IntRect.ofXYWH_isSome_iff.1 (by rw [placed]; rfl)
    unfold BlockFits at fits
    have corner : ir = ⟨x, y, src.width, src.height⟩ := by
      unfold IntRect.ofXYWH at placed
      rw [if_pos fits] at placed
      exact (Option.some.inj placed).symm
    subst corner
    unfold i32Max at fits
    obtain ⟨finX, finR, orderX, extentX⟩ := Binary32.placed_edges cornerX (w := src.width) (by omega)
    obtain ⟨finY, finB, orderY, extentY⟩ := Binary32.placed_edges cornerY (w := src.height) (by omega)
    dsimp only
    rw [Rect.ofLTRB, if_pos (by simp [finX, finY, finR, finB, orderX, orderY, extentX, extentY])]
    simp

theorem RasterOps.PlacesInRange.error_iff {ops : RasterOps} (places : ops.PlacesInRange) (p src : Pixmap)
    {x y : Int} (cornerX : -2147483648 ≤ x) (cornerY : -2147483648 ≤ y) (quality : FilterQuality)
    (ts : Transform) (mask : Option Mask) :
    (∃ m, ops.drawPixmap p x y src quality ts mask = .error m) ↔ ¬ BlockFits x y src.width src.height := by
  rw [← places p x y src quality ts mask cornerX cornerY]
  cases ops.drawPixmap p x y src quality ts mask <;> simp

/-- This library's operations with copies made cell by cell, as `RasterOps.exact` makes them: its
own copies of a pixmap whose bytes do not match its size need not be exact. -/
def RasterOps.tinySkiaExactCopies : RasterOps :=
  { RasterOps.tinySkia with cloneRect := (RasterOps.exact fun s _ => s).cloneRect }

/-- Glyph `g` can be drawn from the pen origin `(ox, oy)`: it fits the 32-bit range there, and
neither of its extents passes the range. -/
def GlyphMask.Placeable (g : GlyphMask) (ox oy : Int) : Prop :=
  g.FitsAt ox oy ∧ (g.width : Int) ≤ i32Max ∧ (g.height : Int) ≤ i32Max

instance (g : GlyphMask) (ox oy : Int) : Decidable (g.Placeable ox oy) :=
  inferInstanceAs (Decidable ((_ ∧ _ ∧ _ ∧ _ ∧ _ ∧ _ ∧ _ ∧ _) ∧ _ ∧ _))

theorem foldl_stops_iff {α γ : Type} {f : α × Option String → γ → α × Option String} (bad : γ → Prop)
    (keeps : ∀ q m g, f (q, some m) g = (q, some m)) (step : ∀ q g, (f (q, none) g).2.isSome ↔ bad g)
    (l : List γ) (q : α) : (l.foldl f (q, none)).2.isSome ↔ ∃ g ∈ l, bad g := by
  have failed : ∀ (rest : List γ) q m, rest.foldl f (q, some m) = (q, some m) := by
    intro rest
    induction rest with
    | nil => exact fun _ _ => rfl
    | cons g rest ih => exact fun q m => by rw [List.foldl_cons, keeps, ih]
  induction l generalizing q with
  | nil => simp
  | cons g rest ih =>
    rw [List.foldl_cons]
    rcases taken : f (q, none) g with ⟨q', _ | m⟩
    · have good : ¬ bad g := by simp [← step q g, taken]
      simp [ih q', good]
    · have stops : bad g := by simp [← step q g, taken]
      simp [failed, stops]

section Stops

variable {ops : RasterOps}

theorem compositeGlyphs_stops_iff (places : ops.PlacesInRange) (makes : ops.MakesPixmaps) (p : Pixmap)
    (glyphs : List GlyphMask) (x baseline : Binary32) (colour : Colour) (antialias : Bool)
    (clip : Option Mask) :
    (p.compositeGlyphs ops glyphs x baseline colour antialias clip).2.isSome ↔
      ∃ g ∈ glyphs, g.Tileable ∧ ¬ g.Placeable x.round.toInt32 baseline.round.toInt32 := by
  unfold Pixmap.compositeGlyphs
  dsimp only
  refine foldl_stops_iff _ (fun _ _ _ => rfl) (fun q g => ?_) glyphs p
  dsimp only
  by_cases tiled : g.Tileable
  · obtain ⟨t, tinted, tw, th, -⟩ := tint_some makes colour antialias tiled
    have wide := tiled.1
    have tall := tiled.2.1
    have top : i32Max = 2147483647 := rfl
    rw [tinted]
    dsimp only
    split
    · -- an offset or the corner leaves the signed range, so the glyph is not placeable
      rename_i outside
      simp only [Bool.or_eq_true, Bool.not_eq_true', Bool.and_eq_false_iff, decide_eq_false_iff_not] at outside
      simp only [Option.isSome_some, true_iff]
      refine ⟨tiled, fun placed => ?_⟩
      obtain ⟨⟨left, leftHigh, top, topHigh, cornerX, farX, cornerY, farY⟩, -, -⟩ := placed
      omega
    · rename_i inside
      simp only [Bool.or_eq_true, Bool.not_eq_true', Bool.and_eq_false_iff, decide_eq_false_iff_not,
        not_or, not_not] at inside
      have cornerX : -2147483648 ≤ x.round.toInt32 + g.left := by omega
      have cornerY : -2147483648 ≤ baseline.round.toInt32 + g.top := by omega
      have placing := places q _ _ t .nearest .identity clip cornerX cornerY
      have failing := places.error_iff q t cornerX cornerY .nearest .identity clip
      rw [tw, th] at placing failing
      have placeable : g.Placeable x.round.toInt32 baseline.round.toInt32 ↔
          BlockFits (x.round.toInt32 + g.left) (baseline.round.toInt32 + g.top) g.width g.height := by
        unfold GlyphMask.Placeable GlyphMask.FitsAt BlockFits
        omega
      rcases drawn : ops.drawPixmap q (x.round.toInt32 + g.left) (baseline.round.toInt32 + g.top) t .nearest
        .identity clip with m | q'
      · have unplaced : ¬ g.Placeable x.round.toInt32 baseline.round.toInt32 :=
          fun placed => failing.1 ⟨m, drawn⟩ (placeable.1 placed)
        simp [tiled, unplaced]
      · have placed := placeable.2 (placing.1 ⟨q', drawn⟩)
        simp [placed]
  · rw [tint_none makes colour antialias tiled]
    simp [tiled]

/-- Text stops: a font is given, and its line either cannot be rasterized or has a glyph with a
tile that cannot be placed from the pen origin, the rounded left edge and baseline. -/
def TextFaults (layout : LayoutService) (device : DeviceContext) (rc : Bounds)
    (font : Option FontParameters) (ybase : Binary32) (bytes : List UInt8) : Prop :=
  ∃ params, font = some params ∧
    ((∃ m, layout.rasterize (Utf8.textOf bytes) params device = .error m) ∨
      ∃ glyphs, layout.rasterize (Utf8.textOf bytes) params device = .ok glyphs ∧
        ∃ g ∈ glyphs, g.Tileable ∧ ¬ g.Placeable rc.left.round.toInt32 ybase.round.toInt32)

namespace Painter

theorem total_never_stops (f : Pixmap → PaintContext → Pixmap × PaintContext) (p : Pixmap) (c : PaintContext) :
    (total f p c).2.2 = none := by
  unfold total
  cases f p c
  rfl

theorem text_stops_iff (places : ops.PlacesInRange) (makes : ops.MakesPixmaps) (layout : LayoutService)
    (device : DeviceContext) (rc : Bounds) (font : Option FontParameters) (ybase : Binary32)
    (bytes : List UInt8) (fore : Colour) (back : Option Colour) (p : Pixmap) (c : PaintContext) :
    (text ops layout device rc font ybase bytes fore back p c).2.2.isSome ↔
      TextFaults layout device rc font ybase bytes := by
  unfold text TextFaults
  cases font with
  | none => simp
  | some params =>
    simp only [Option.some.injEq, exists_eq_left']
    cases rasterized : layout.rasterize (Utf8.textOf bytes) params device with
    | error m => simp
    | ok glyphs =>
      dsimp only
      rw [compositeGlyphs_stops_iff places makes]
      simp

/-- A pattern fill stops: the source has pixels, and the rectangle's 32-bit width, or its height
when it has rows, passes the 32-bit range. -/
def PatternOverflows (rc : Bounds) (source : Pixmap) : Prop :=
  0 < source.width ∧ 0 < source.height ∧ rc.left.toInt32 < rc.right.toInt32 ∧
    (i32Max < rc.right.toInt32 - rc.left.toInt32 ∨
      rc.top.toInt32 < rc.bottom.toInt32 ∧ i32Max < rc.bottom.toInt32 - rc.top.toInt32)

theorem tileStarts_foldl_snd {f : Pixmap × Option String → Int → Pixmap × Option String} {lo hi : Int}
    (step : ∀ x q, lo ≤ x → x < hi → (f (q, none) x).2 = none) (q : Pixmap) :
    ((tileStarts lo hi).foldl f (q, none)).2 = none :=
  foldl_tileStarts (fun _ acc => acc.2 = none) f rfl fun x acc lx xhi _ unfailed => by
    obtain ⟨q, _ | m⟩ := acc
    · exact step x q lx xhi
    · cases unfailed

theorem pattern_stops_iff (places : ops.PlacesInRange) (cuts : ops.CutsExactly) (rc : Bounds)
    (source p : Pixmap) (c : PaintContext) :
    (pattern ops rc source p c).2.2.isSome ↔ PatternOverflows rc source := by
  have lowL := (Binary32.toInt32_mem rc.left).1
  have lowT := (Binary32.toInt32_mem rc.top).1
  have highR := (Binary32.toInt32_mem rc.right).2
  have highB := (Binary32.toInt32_mem rc.bottom).2
  have top : i32Max = 2147483647 := rfl
  have side : ((patternTileSize : Nat) : Int) = 8 := rfl
  have corner := sourceBlock_corner cuts source (w := 8) (h := 8) (by decide) le_rfl (by decide) le_rfl
  simp only [pattern, PatternOverflows, side]
  rcases hfull : sourceBlock ops source 8 8 with _ | full
  · rw [hfull] at corner
    simp only [Corner] at corner
    simp only [Option.isSome_none, Bool.false_eq_true, false_iff]
    omega
  · rw [hfull] at corner
    obtain ⟨sw, sh, -⟩ := corner
    dsimp only
    split
    · rename_i overflow
      simp only [Bool.and_eq_true, Bool.or_eq_true, decide_eq_true_eq] at overflow
      simp only [Option.isSome_some, true_iff]
      exact ⟨sw, sh, overflow⟩
    · -- every block lies inside the rectangle, which lies in the 32-bit range, so none fails
      rename_i fits
      simp only [Bool.and_eq_true, Bool.or_eq_true, decide_eq_true_eq, not_and, not_or] at fits
      rw [tileStarts_foldl_snd ?_ p]
      · simp only [Option.isSome_none, Bool.false_eq_true, false_iff]
        omega
      intro x q lx xR
      refine tileStarts_foldl_snd (fun y q' ty yB => ?_) q
      dsimp only
      rw [block_of_full hfull]
      have block := sourceBlock_corner cuts source (w := min 8 (rc.right.toInt32 - x))
        (h := min 8 (rc.bottom.toInt32 - y)) (by omega) (by omega) (by omega) (by omega)
      rcases cut : sourceBlock ops source (min 8 (rc.right.toInt32 - x)) (min 8 (rc.bottom.toInt32 - y))
        with _ | t
      · rfl
      · rw [cut] at block
        obtain ⟨-, -, tw, th, -⟩ := block
        obtain ⟨q'', drawn⟩ := (places q' x y t .nearest .identity c.clip (by omega) (by omega)).2
          (by unfold BlockFits; omega)
        dsimp only
        rw [drawn]

/-- The region a copy takes from its source: from the origin on, to the source's far edges. The
origin's coordinates saturate to unsigned 32-bit values, which are read back as signed ones. -/
def copyRegion (src : Point) (source : Pixmap) : Option IntRect :=
  let fx := (src.x.max 0).toUInt32
  let fy := (src.y.max 0).toUInt32
  let sx : Int := if fx ≥ 2147483648 then fx - 4294967296 else fx
  let sy : Int := if fy ≥ 2147483648 then fy - 4294967296 else fy
  IntRect.ofXYWH sx sy (source.width - fx) (source.height - fy)

/-- A copy stops: the part of its region inside the source, placed at the rectangle's 32-bit
corner, passes the 32-bit range. -/
def CopyOverflows (rc : Bounds) (src : Point) (source : Pixmap) : Prop :=
  ∃ r i, copyRegion src source = some r ∧ source.bounds.intersect r = some i ∧
    ¬ BlockFits rc.left.toInt32 rc.top.toInt32 i.width i.height

theorem copy_stops_iff (places : ops.PlacesInRange) (cuts : ops.CutsExactly) (rc : Bounds) (src : Point)
    (source p : Pixmap) (c : PaintContext) :
    (copy ops rc src source p c).2.2.isSome ↔ CopyOverflows rc src source := by
  have cornerX := (Binary32.toInt32_mem rc.left).1
  have cornerY := (Binary32.toInt32_mem rc.top).1
  unfold copy CopyOverflows
  dsimp only
  split
  · -- the library copies nothing only when the region misses the source
    rename_i uncut
    have missing : copyRegion src source >>= ops.cloneRect source = none := uncut
    simp only [Option.isSome_none, Bool.false_eq_true, false_iff]
    rintro ⟨r, i, region, common, -⟩
    rw [region] at missing
    have cut := cuts source r
    rw [show ops.cloneRect source r = none from missing] at cut
    rw [show source.bounds.intersect r = none from cut] at common
    cases common
  · rename_i pixels cloned
    have cloned : copyRegion src source >>= ops.cloneRect source = some pixels := cloned
    rcases region : copyRegion src source with _ | r
    · rw [region] at cloned
      cases cloned
    rw [region] at cloned
    have cut := cuts source r
    rw [show ops.cloneRect source r = some pixels from cloned] at cut
    obtain ⟨i, common, pw, ph, -⟩ := cut
    have overflows : (∃ r' i', some r = some r' ∧ source.bounds.intersect r' = some i' ∧
        ¬ BlockFits rc.left.toInt32 rc.top.toInt32 i'.width i'.height) ↔
        ¬ BlockFits rc.left.toInt32 rc.top.toInt32 pixels.width pixels.height := by
      rw [pw, ph]
      refine ⟨fun ⟨r', i', same, common', unfit⟩ => ?_, fun unfit => ⟨r, i, rfl, common, unfit⟩⟩
      cases same
      rw [common, Option.some.injEq] at common'
      subst common'
      exact unfit
    rw [overflows]
    rcases drawn : ops.drawPixmap p rc.left.toInt32 rc.top.toInt32 pixels .nearest .identity c.clip with m | q
    · simp only [Option.isSome_some, true_iff]
      exact (places.error_iff p pixels cornerX cornerY _ _ c.clip).1 ⟨m, drawn⟩
    · simp only [Option.isSome_none, Bool.false_eq_true, false_iff, not_not]
      exact (places p _ _ pixels _ _ c.clip cornerX cornerY).1 ⟨q, drawn⟩

theorem size_foldl_push4 {α : Type} (f₁ f₂ f₃ f₄ : α → UInt8) (l : List α) (acc : ByteArray) :
    (l.foldl (fun acc i => (((acc.push (f₁ i)).push (f₂ i)).push (f₃ i)).push (f₄ i)) acc).size =
      acc.size + 4 * l.length := by
  induction l generalizing acc with
  | nil => simp
  | cons i l ih =>
    rw [List.foldl_cons, ih]
    simp only [ByteArray.size_push, List.length_cons]
    ring

/-- An image stops: it has enough bytes, a size a pixmap can have and a usable scale, and it is
taller than the 32-bit range. -/
def RgbaOverflows (rc : Bounds) (w h : Nat) (pixels : ByteArray) : Prop :=
  w * h * 4 ≤ pixels.size ∧ PixmapSized w h ∧ (rc.width / Binary32.ofNat w).isFinite = true ∧
    ¬ rc.width / Binary32.ofNat w ≤ 0 ∧ i32Max < h

theorem rgbaImage_stops_iff (places : ops.PlacesInRange) (makes : ops.MakesPixmaps) (rc : Bounds) (w h : Nat)
    (pixels : ByteArray) (p : Pixmap) (c : PaintContext) :
    (rgbaImage ops rc w h pixels p c).2.2.isSome ↔ RgbaOverflows rc w h pixels := by
  unfold rgbaImage RgbaOverflows
  split
  · rename_i empty
    simp only [Bool.or_eq_true, decide_eq_true_eq] at empty
    simp only [Option.isSome_none, Bool.false_eq_true, false_iff]
    rintro ⟨enough, ⟨wide, tall, -⟩, -⟩
    omega
  · rename_i enough
    simp only [Bool.or_eq_true, decide_eq_true_eq, not_or, not_lt] at enough
    dsimp only
    rw [makes, size_foldl_push4]
    simp only [ByteArray.size_empty, List.length_range, Nat.zero_add]
    by_cases sized : PixmapSized w h
    · rw [if_pos ⟨sized, by ring⟩]
      dsimp only
      -- the image is placed at the origin, so it fails to be placed exactly when it is too tall
      have fits (h' : Nat) : BlockFits 0 0 w h' ↔ (h' : Int) ≤ i32Max ∧ 0 < h' := by
        unfold BlockFits i32Max
        unfold PixmapSized at sized
        omega
      split
      · rename_i unusable
        simp only [Bool.or_eq_true, Bool.not_eq_true', decide_eq_true_eq] at unusable
        simp only [Option.isSome_none, Bool.false_eq_true, false_iff]
        rintro ⟨-, -, finite, positive, -⟩
        rcases unusable with infinite | negative
        · rw [finite] at infinite
          cases infinite
        · exact positive negative
      · rename_i usable
        simp only [Bool.or_eq_true, Bool.not_eq_true', decide_eq_true_eq, not_or, Bool.not_eq_false] at usable
        split
        · rename_i q drawn
          have short := (fits h).1 ((places p 0 0 _ _ _ c.clip (by norm_num) (by norm_num)).1 ⟨q, drawn⟩)
          simp only [Option.isSome_none, Bool.false_eq_true, false_iff]
          rintro ⟨-, -, -, -, taller⟩
          omega
        · rename_i m drawn
          have unfit : ¬ BlockFits 0 0 w h := (places.error_iff p _ (by norm_num) (by norm_num) _ _ c.clip).1 ⟨m, drawn⟩
          rw [fits] at unfit
          simp only [Option.isSome_some, true_iff]
          exact ⟨enough.2, sized, usable.1, usable.2, by unfold PixmapSized at sized; omega⟩
    · -- the bytes are exactly those of a `w × h` pixmap, so none is made only for a size it cannot have
      rw [if_neg fun made => sized made.1]
      simp [sized]

end Painter

end Stops

namespace DrawingSurface

variable {s : DrawingSurface} {devices : Array PaintDevice} {ops : RasterOps}

theorem session_of_no_device (bound : BindingKind.of s ≠ .unbound) (unheld : s.device devices = none)
    (body : Painter) : s.session devices body = (s, devices, none) := by
  obtain ⟨layout, dpi, binding, paint, current⟩ := s
  cases binding with
  | unbound => exact absurd rfl bound
  | unavailable => rfl
  | owned d => cases unheld
  | borrowed i =>
    have missing : devices[i]? = none := unheld
    simp [session, missing]

theorem session_stops_iff (bound : BindingKind.of s ≠ .unbound) (body : Painter) :
    (s.session devices body).2.2.isSome ↔
      ∃ d, s.device devices = some d ∧ (body d.pixmap (s.paint.getD {})).2.2.isSome := by
  cases held : s.device devices with
  | none => simp [session_of_no_device bound held]
  | some d => simp [(session_of_device held body).2.2]

theorem session_total (bound : BindingKind.of s ≠ .unbound) (f : Pixmap → PaintContext → Pixmap × PaintContext) :
    (s.session devices (Painter.total f)).2.2 = none := by
  rw [← Option.not_isSome_iff_eq_none, session_stops_iff bound]
  rintro ⟨d, -, stops⟩
  rw [Painter.total_never_stops] at stops
  cases stops

theorem session_keeps_device (bound : BindingKind.of s ≠ .unbound) (body : Painter) :
    ((s.session devices body).1.device (s.session devices body).2.1).isSome = (s.device devices).isSome ∧
      (s.session devices body).1.deviceContext (s.session devices body).2.1 = s.deviceContext devices := by
  cases held : s.device devices with
  | none => simp [session_of_no_device bound held, held]
  | some d =>
    have device := (session_of_device held body).1
    refine ⟨by rw [device]; rfl, ?_⟩
    unfold deviceContext
    rw [device, held]
    rfl

theorem lineTo_never_stops (bound : BindingKind.of s ≠ .unbound) (ops : RasterOps) (x y : Binary32) :
    (s.lineTo ops devices x y).2.2 = none := by
  have never : (s.session devices (Painter.line ops s.current ⟨x, y⟩)).2.2 = none := session_total bound _
  unfold lineTo
  rcases drawn : s.session devices (Painter.line ops s.current ⟨x, y⟩) with ⟨s', devices', _ | m⟩
  · rfl
  · rw [drawn] at never
    cases never

theorem drawText_stops_iff (places : ops.PlacesInRange) (makes : ops.MakesPixmaps)
    (bound : BindingKind.of s ≠ .unbound) (rc : Bounds) (font : Option FontParameters) (ybase : Binary32)
    (bytes : List UInt8) (fore : Colour) (back : Option Colour) :
    (s.drawText ops devices rc font ybase bytes fore back).2.2.isSome ↔
      (s.device devices).isSome ∧ TextFaults s.layout (s.deviceContext devices) rc font ybase bytes := by
  unfold drawText
  simp only [session_stops_iff bound, Painter.text_stops_iff places makes, exists_and_right,
    ← Option.isSome_iff_exists]

theorem drawTextClipped_stops_iff (places : ops.PlacesInRange) (makes : ops.MakesPixmaps)
    (bound : BindingKind.of s ≠ .unbound) (rc : Bounds) (font : Option FontParameters) (ybase : Binary32)
    (bytes : List UInt8) (fore back : Colour) :
    (s.drawTextClipped ops devices rc font ybase bytes fore back).2.2.isSome ↔
      (s.device devices).isSome ∧ TextFaults s.layout (s.deviceContext devices) rc font ybase bytes := by
  have never : (s.session devices (Painter.setClip ops rc)).2.2 = none := session_total bound _
  obtain ⟨device, context⟩ := @session_keeps_device s devices bound (Painter.setClip ops rc)
  have redraws : Redraws devices s _ _ := session_redraws (Painter.setClip ops rc)
  unfold drawTextClipped
  rcases clipped : s.session devices (Painter.setClip ops rc) with ⟨s₁, devices₁, _ | m⟩
  · rw [clipped] at device context redraws
    dsimp only at device context redraws ⊢
    have text := @drawText_stops_iff s₁ devices₁ ops places makes (redraws.kind ▸ bound) rc font ybase bytes
      fore (some back)
    rw [device, context, redraws.layout] at text
    rw [← text]
    rcases drawn : s₁.drawText ops devices₁ rc font ybase bytes fore (some back) with
      ⟨s₂, devices₂, _ | m'⟩ <;> rfl
  · rw [clipped] at never
    cases never

end DrawingSurface


/-- What makes a drawing step stop on a surface with a device: an image taller than the 32-bit
range, a copied block or a pattern fill past that range, or text whose line has a fault. -/
def SurfaceStep.Overflows (w : Workspace) (surf : DrawingSurface) : SurfaceStep → Prop
  | .drawRgbaImage wd ht data rc => Painter.RgbaOverflows rc wd ht data
  | .copy src origin rc => ∃ source, w.pixmapOf src = some source ∧ Painter.CopyOverflows rc origin source
  | .fillRectanglePattern src rc => ∃ source, w.pixmapOf src = some source ∧ Painter.PatternOverflows rc source
  | .drawTextNoClip rc f ybase bytes _ _ | .drawTextClipped rc f ybase bytes _ _
  | .drawTextTransparent rc f ybase bytes _ =>
    TextFaults surf.layout (surf.deviceContext w.devices) rc (w.font f) ybase bytes
  | _ => False

namespace Workspace

variable {w : Workspace} {ops : RasterOps} {s : Nat} {slot : SurfaceSlot}

theorem draw_panics_iff (surf : DrawingSurface)
    (call : DrawingSurface → Array PaintDevice → DrawingSurface × Array PaintDevice × Option String) :
    (∃ m, (w.draw s surf call).2 = .error (.panic m)) ↔ (call surf w.devices).2.2.isSome := by
  unfold draw
  rcases drawn : call surf w.devices with ⟨surf', devices', _ | m⟩ <;> simp

theorem paint_panics_iff {surf : DrawingSurface} (bound : BindingKind.of surf ≠ .unbound) {body : Painter}
    {stops : Prop} (bodyStops : ∀ p c, (body p c).2.2.isSome ↔ stops) :
    (∃ m, (w.paint s surf body).2 = .error (.panic m)) ↔ (surf.device w.devices).isSome ∧ stops := by
  unfold paint
  rw [draw_panics_iff, DrawingSurface.session_stops_iff bound]
  simp only [bodyStops, exists_and_right, ← Option.isSome_iff_exists]

theorem paint_total {surf : DrawingSurface} (bound : BindingKind.of surf ≠ .unbound)
    (f : Pixmap → PaintContext → Pixmap × PaintContext) :
    ¬ ∃ m, (w.paint s surf (Painter.total f)).2 = .error (.panic m) := by
  rw [paint_panics_iff bound (fun p c => show _ ↔ False by simp [Painter.total_never_stops])]
  exact fun panics => panics.2

/-- On a bound surface, a step panics exactly when the surface holds a device and the step
overflows: an image taller than the 32-bit range, a copied block landing past it, a pattern fill
whose 32-bit width or height passes it, or text whose line cannot be rasterized or has a glyph that
cannot be placed from the rounded pen origin. Shapes, lines, clips, queries and bindings never
panic, and on a surface whose allocation failed nothing does. -/
theorem apply_panics_iff (cuts : ops.CutsExactly) (places : ops.PlacesInRange) (makes : ops.MakesPixmaps)
    (held : w.surfaces[s]? = some slot) (bound : BindingKind.of slot.surface ≠ .unbound) (step : SurfaceStep) :
    (∃ m, (w.apply ops s step).2 = .error (.panic m)) ↔
      (slot.surface.device w.devices).isSome ∧ step.Overflows w slot.surface := by
  simp only [Workspace.apply, held]
  cases step
  case penColour | polygon | rectangleDraw | fillRectangle | roundedRectangle | ellipse | alphaRectangle
    | setClip =>
    simp only [applyAt, SurfaceStep.Overflows, and_false, iff_false]
    exact paint_total bound _
  case drawRgbaImage wd ht pixels rc =>
    rw [applyAt, paint_panics_iff bound (Painter.rgbaImage_stops_iff places makes rc wd ht pixels)]
    rfl
  case copy src origin rc =>
    simp only [applyAt, SurfaceStep.Overflows]
    cases found : w.pixmapOf src with
    | none => simp
    | some source =>
      rw [paint_panics_iff bound (Painter.copy_stops_iff places cuts rc origin source)]
      simp
  case fillRectanglePattern src rc =>
    simp only [applyAt, SurfaceStep.Overflows]
    cases found : w.pixmapOf src with
    | none => simp
    | some source =>
      rw [paint_panics_iff bound (Painter.pattern_stops_iff places cuts rc source)]
      simp
  case drawTextNoClip | drawTextTransparent =>
    rw [applyAt, draw_panics_iff, DrawingSurface.drawText_stops_iff places makes bound]
    rfl
  case drawTextClipped =>
    rw [applyAt, draw_panics_iff, DrawingSurface.drawTextClipped_stops_iff places makes bound]
    rfl
  case lineTo x y =>
    rw [applyAt, draw_panics_iff, DrawingSurface.lineTo_never_stops bound]
    simp [SurfaceStep.Overflows]
  case newDevice | initDevice | devicePixels =>
    simp only [applyAt, SurfaceStep.Overflows, and_false, iff_false]
    repeat' split
    all_goals simp
  case initOffscreen | release | intoDevice | sharesLayout | state | pixels | pixel | metrics
    | deviceHeightFont | measureWidths | widthText | widthChar | moveTo | clearClip | flushCachedState =>
    simp [applyAt, SurfaceStep.Overflows]

/-- Text drawn from `x = 3·10⁹` on an `8 × 8` offscreen surface: the pen origin saturates to
`2^31 - 1`, so the far edge of the first glyph leaves the 32-bit range and the call panics. -/
theorem far_text_panics :
    RasterOps.tinySkiaExactCopies.CutsExactly ∧ RasterOps.tinySkiaExactCopies.PlacesInRange ∧
      RasterOps.tinySkiaExactCopies.MakesPixmaps ∧
      (⟨#[⟨(DrawingSurface.new (LayoutService.fixed 4) 96).initOffscreen 8 8, 0⟩], #[], #[],
        #[some (FontParameters.new "Reference" 12)]⟩ : Workspace).surfaces[0]? =
        some ⟨(DrawingSurface.new (LayoutService.fixed 4) 96).initOffscreen 8 8, 0⟩ ∧
      BindingKind.of ((DrawingSurface.new (LayoutService.fixed 4) 96).initOffscreen 8 8) ≠ .unbound ∧
      ∃ m, ((⟨#[⟨(DrawingSurface.new (LayoutService.fixed 4) 96).initOffscreen 8 8, 0⟩], #[], #[],
          #[some (FontParameters.new "Reference" 12)]⟩ : Workspace).apply RasterOps.tinySkiaExactCopies 0
          (.drawTextTransparent ⟨3000000000, 0, 3000000010, 10⟩ 0 4 [97, 98] Colour.black)).2 =
        .error (.panic m) := by
  have cuts : RasterOps.tinySkiaExactCopies.CutsExactly := RasterOps.exact_cutsExactly fun s _ => s
  have places : RasterOps.tinySkiaExactCopies.PlacesInRange := RasterOps.tinySkia_placesInRange
  have makes : RasterOps.tinySkiaExactCopies.MakesPixmaps := RasterOps.tinySkia_makesPixmaps
  have held := (rfl : (⟨#[⟨(DrawingSurface.new (LayoutService.fixed 4) 96).initOffscreen 8 8, 0⟩], #[], #[],
        #[some (FontParameters.new "Reference" 12)]⟩ : Workspace).surfaces[0]? =
        some ⟨(DrawingSurface.new (LayoutService.fixed 4) 96).initOffscreen 8 8, 0⟩)
  have bound : BindingKind.of ((DrawingSurface.new (LayoutService.fixed 4) 96).initOffscreen 8 8) ≠ .unbound := by
    decide
  have text : Utf8.textOf [97, 98] = "ab" := by decide +kernel
  refine ⟨cuts, places, makes, held, bound, (apply_panics_iff cuts places makes held bound _).2 ⟨rfl, ?_⟩⟩
  -- both glyphs are four pixels wide, and the first already reaches past `2^31 - 1`
  refine ⟨FontParameters.new "Reference" 12, rfl, .inr ⟨[⟨0, -13, 4, 13, FixedAdvance.solidCoverage 52⟩,
    ⟨4, -13, 4, 13, FixedAdvance.solidCoverage 52⟩], ?_, _, List.mem_cons_self, by decide, by decide⟩⟩
  rw [text]
  rfl

end Workspace

end GlyphCanvas
