import Mathlib
import GlyphCanvas.Proofs.Surface.Glyphs
import GlyphCanvas.Layout.Fixed

namespace GlyphCanvas

/-- Pixel `(u, v)` is hidden by a clip to `rc`: `rc` is empty or not finite, or its edges are whole
numbers and `(u, v)` lies outside them. -/
def ClippedAway (rc : Bounds) (u v : Nat) : Prop :=
  rc.toRect = none ∨ ∃ L T R B : Int, Binary32.toRat rc.left = L ∧ Binary32.toRat rc.top = T ∧
    Binary32.toRat rc.right = R ∧ Binary32.toRat rc.bottom = B ∧
    ¬ (L ≤ u ∧ (u : Int) < R ∧ T ≤ v ∧ (v : Int) < B)

theorem Bounds.toRect_eq {rc : Bounds} {r : Rect} (h : rc.toRect = some r) :
    r = ⟨rc.left, rc.top, rc.right, rc.bottom⟩ := by
  unfold Bounds.toRect Rect.ofLTRB at h
  split at h
  · cases h
  · split at h
    · exact (Option.some.inj h).symm
    · cases h

theorem Mask.new_blank {w h : Nat} {m : Mask} (made : Mask.new w h = some m) :
    m.width = w ∧ m.height = h ∧ ∀ u v, m.coverage u v = 0 := by
  unfold Mask.new at made
  split at made
  · cases made
    refine ⟨rfl, rfl, fun u v => ?_⟩
    simp only [Mask.coverage, ByteArray.get!_eq_getD, Array.toList_replicate, List.getElem?_replicate]
    split <;> rfl
  · cases made

theorem Mask.new_isSome {w h : Nat} (sized : (pixmapBytes? w h).isSome) : (Mask.new w h).isSome := by
  unfold pixmapBytes? at sized
  split at sized
  · rename_i fits
    obtain ⟨hw, hh, row, column⟩ := fits
    -- fewer than `2^29` columns and `2^32` rows
    have area : w * h < Nat.pow 2 63 :=
      calc w * h < 536870912 * 4294967296 := Nat.mul_lt_mul'' (by omega) (by omega)
        _ ≤ Nat.pow 2 63 := by decide
    simp [Mask.new, hw, hh, area]
  · cases sized

namespace Painter

variable (ops : RasterOps)

theorem setClip_installs (within : ops.FillsWithin) (rc : Bounds) (p : Pixmap) (c : PaintContext)
    (sized : (Mask.new p.width p.height).isSome) :
    ∃ m, setClip ops rc p c = (p, { c with clip := some m }, none) ∧
      ∀ u v, u < p.width → v < p.height → ClippedAway rc u v → m.coverage u v = 0 := by
  obtain ⟨m, made⟩ := Option.isSome_iff_exists.1 sized
  obtain ⟨mw, mh, blank⟩ := Mask.new_blank made
  unfold setClip total
  dsimp only
  rw [made]
  dsimp only
  cases rect : rc.toRect with
  | none => exact ⟨m, rfl, fun u v _ _ _ => blank u v⟩
  | some r =>
    refine ⟨ops.fillMask m (Path.ofRect r), rfl, fun u v hu hv away => ?_⟩
    rcases away with empty | ⟨L, T, R, B, hl, ht, hr, hb, outside⟩
    · rw [rect] at empty
      cases empty
    · have edges := Bounds.toRect_eq rect
      subst edges
      rw [within m _ L T R B hl ht hr hb u v (mw ▸ hu) (mh ▸ hv) outside]
      exact blank u v

theorem text_paint (layout : LayoutService) (device : DeviceContext) (rc : Bounds)
    (font : Option FontParameters) (ybase : Binary32) (bytes : List UInt8) (fore : Colour)
    (back : Option Colour) (p : Pixmap) (c : PaintContext) :
    (text ops layout device rc font ybase bytes fore back p c).2.1 = { c with pen := ⟨fore, 1⟩ } := by
  unfold text
  dsimp only
  split
  · rfl
  · split <;> rfl

variable (honours : ops.HonoursMasks)
include honours

theorem compositeGlyphs_kept (p : Pixmap) (glyphs : List GlyphMask) (x baseline : Binary32)
    (colour : Colour) (antialias : Bool) (m : Mask) :
    Kept m p (p.compositeGlyphs ops glyphs x baseline colour antialias (some m)).1 := by
  unfold Pixmap.compositeGlyphs
  refine List.foldlRecOn (motive := fun (state : Pixmap × Option String) => Kept m p state.1) glyphs _
    (Kept.refl m p) ?_
  intro state kept g _
  obtain ⟨q, failure⟩ := state
  dsimp only at kept ⊢
  split
  · exact kept
  · split
    · exact kept
    · split
      · exact kept
      · split
        · rename_i q' drawn
          exact kept.trans (honours.draw _ _ _ _ _ _ _ _ drawn)
        · exact kept

theorem text_kept (layout : LayoutService) (device : DeviceContext) (rc : Bounds)
    (font : Option FontParameters) (ybase : Binary32) (bytes : List UInt8) (fore : Colour)
    (back : Option Colour) (p : Pixmap) {c : PaintContext} {m : Mask} (clip : c.clip = some m) :
    Kept m p (text ops layout device rc font ybase bytes fore back p c).1 := by
  unfold text
  dsimp only
  rw [clip]
  split
  · exact Kept.refl m p
  · -- the background is filled under the mask, and on rasterized glyphs the tiles are drawn under it
    split
    on_goal 2 => refine Kept.trans ?_ (compositeGlyphs_kept ops honours _ _ _ _ _ _ m)
    all_goals
      cases back with
      | none => exact Kept.refl m p
      | some back =>
        dsimp only
        split
        · exact honours.fill _ _ _ _ m
        · exact Kept.refl m p

end Painter

namespace DrawingSurface

variable {s : DrawingSurface} {devices : Array PaintDevice} {d : PaintDevice}

theorem session_of_device (bound : s.device devices = some d) (body : Painter) :
    (s.session devices body).1.device (s.session devices body).2.1 =
        some { d with pixmap := (body d.pixmap (s.paint.getD {})).1 } ∧
      (s.session devices body).1.paint = some (body d.pixmap (s.paint.getD {})).2.1 ∧
      (s.session devices body).2.2 = (body d.pixmap (s.paint.getD {})).2.2 := by
  obtain ⟨layout, dpi, binding, paint, current⟩ := s
  cases binding with
  | unbound => cases bound
  | unavailable => cases bound
  | owned d' =>
    cases bound
    exact ⟨rfl, rfl, rfl⟩
  | borrowed i =>
    have lent : devices[i]? = some d := bound
    obtain ⟨lt, here⟩ := Array.getElem?_eq_some_iff.1 lent
    simp [session, device, lt, here]

/-- On a surface with a device whose pixmap has a size a pixmap can have, text drawn clipped to
`rc` keeps the pixmap's size and every pixel the clip hides: those outside `rc` when its edges are
whole numbers, and all of them when `rc` is empty or not finite. A call that finishes leaves the
text colour as the pen, the rest of the paint state as it was (the default one if there was none)
and no clip. A call that stops early, at a failed glyph, leaves the clip to `rc` installed. -/
theorem drawTextClipped_confined (ops : RasterOps) (honours : ops.HonoursMasks)
    (within : ops.FillsWithin) (bound : s.device devices = some d)
    (sized : (pixmapBytes? d.pixmap.width d.pixmap.height).isSome) (rc : Bounds)
    (font : Option FontParameters) (ybase : Binary32) (bytes : List UInt8) (fore back : Colour)
    {s' : DrawingSurface} {devices' : Array PaintDevice} {failure : Option String}
    (drawn : s.drawTextClipped ops devices rc font ybase bytes fore back = (s', devices', failure)) :
    ∃ d', s'.device devices' = some d' ∧ d'.pixmap.width = d.pixmap.width ∧
      d'.pixmap.height = d.pixmap.height ∧
      (∀ u v, u < d.pixmap.width → v < d.pixmap.height → ClippedAway rc u v →
        d'.pixmap.pixel u v = d.pixmap.pixel u v) ∧
      (failure = none → s'.paint = some { s.paint.getD {} with pen := ⟨fore, 1⟩, clip := none }) ∧
      (failure.isSome → ∃ m, s'.paint = some { s.paint.getD {} with pen := ⟨fore, 1⟩, clip := some m } ∧
        ∀ u v, u < d.pixmap.width → v < d.pixmap.height → ClippedAway rc u v → m.coverage u v = 0) := by
  -- the clip session keeps the pixmap and installs a mask over what `rc` lets through
  obtain ⟨m, install, hidden⟩ := Painter.setClip_installs ops within rc d.pixmap (s.paint.getD {})
    (Mask.new_isSome sized)
  obtain ⟨device₁, paint₁, failure₁⟩ := session_of_device bound (Painter.setClip ops rc)
  rw [install] at device₁ paint₁ failure₁
  unfold drawTextClipped at drawn
  rcases clipped : s.session devices (Painter.setClip ops rc) with ⟨s₁, devices₁, f₁⟩
  rw [clipped] at drawn device₁ paint₁ failure₁
  dsimp only at device₁ paint₁ failure₁
  subst failure₁
  dsimp only at drawn
  -- the text session draws under that mask
  obtain ⟨device₂, paint₂, -⟩ := session_of_device device₁
    (Painter.text ops s₁.layout (s₁.deviceContext devices₁) rc font ybase bytes fore (some back))
  have kept := Painter.text_kept ops honours s₁.layout (s₁.deviceContext devices₁) rc font ybase bytes
    fore (some back) d.pixmap (c := { s.paint.getD {} with clip := some m }) rfl
  rw [paint₁, Option.getD_some, Painter.text_paint] at paint₂
  rw [paint₁, Option.getD_some] at device₂
  unfold drawText at drawn
  rcases texted : s₁.session devices₁
    (Painter.text ops s₁.layout (s₁.deviceContext devices₁) rc font ybase bytes fore (some back)) with
    ⟨s₂, devices₂, f₂⟩
  rw [texted] at drawn device₂ paint₂
  dsimp only at device₂ paint₂
  have frame (u v : Nat) (hu : u < d.pixmap.width) (hv : v < d.pixmap.height) (away : ClippedAway rc u v) :=
    kept.pixel u v hu hv (hidden u v hu hv away)
  cases f₂ with
  | none =>
    dsimp only at drawn
    cases drawn
    refine ⟨_, device₂, kept.width, kept.height, frame, fun _ => ?_, fun stopped => nomatch stopped⟩
    simp only [clearClip, paint₂, Option.map_some]
  | some message =>
    dsimp only at drawn
    cases drawn
    exact ⟨_, device₂, kept.width, kept.height, frame, (fun stopped => nomatch stopped),
      fun _ => ⟨m, paint₂, hidden⟩⟩

/-- Text clipped to a rectangle from `x = 3·10⁹` on an `8 × 8` surface in the fixed-advance layout:
the first glyph's far edge leaves the 32-bit range, so the call stops with the clip of the
rectangle still installed, and the pixel at `(7, 7)`, outside it, keeps its value. -/
theorem far_clipped_text_keeps_clip :
    let surface := (DrawingSurface.new (LayoutService.fixed 4) 96).initOffscreen 8 8
    let result := surface.drawTextClipped (RasterOps.exact fun s _ => s) #[] ⟨3000000000, 0, 3000000256, 10⟩
      (some (FontParameters.new "Reference" 12)) 4 [97, 98] Colour.black Colour.white
    result.2.2.isSome = true ∧
      (∃ m, result.1.paint = some { surface.paint.getD {} with pen := ⟨Colour.black, 1⟩, clip := some m }) ∧
      ∃ d d', surface.device #[] = some d ∧ result.1.device result.2.1 = some d' ∧
        d'.pixmap.pixel 7 7 = d.pixmap.pixel 7 7 := by
  intro surface result
  have bound :
      surface.device #[] = some ⟨(Pixmap.new 8 8).getD ⟨0, 0, .empty⟩, (DeviceContext.new 96).logicalDpi⟩ :=
    rfl
  have drawn : surface.drawTextClipped (RasterOps.exact fun s _ => s) #[] ⟨3000000000, 0, 3000000256, 10⟩
      (some (FontParameters.new "Reference" 12)) 4 [97, 98] Colour.black Colour.white =
      (result.1, result.2.1, result.2.2) := by
    rw [Prod.mk.eta]
  -- the first glyph lands past the 32-bit range, so the text stops
  have stopped : result.2.2.isSome = true := by decide +kernel
  obtain ⟨d', device, -, -, frame, -, clipped⟩ := drawTextClipped_confined (RasterOps.exact fun s _ => s)
    (RasterOps.exact_honoursMasks _) (RasterOps.exact_fillsWithin _) bound (by decide) _ _ _ _ _ _ drawn
  obtain ⟨m, paint, -⟩ := clipped stopped
  have left : Binary32.toRat 3000000000 = 3000000000 := by
    rw [Binary32.toRat, show (3000000000 : Binary32).value = .finite false 11718750 8 by decide]
    norm_num
  have top : Binary32.toRat 0 = 0 := by
    rw [Binary32.toRat, show (0 : Binary32).value = .finite false 0 (-149) by decide]
    norm_num
  have right : Binary32.toRat 3000000256 = 3000000256 := by
    rw [Binary32.toRat, show (3000000256 : Binary32).value = .finite false 11718751 8 by decide]
    norm_num
  have bottom : Binary32.toRat 10 = 10 := by
    rw [Binary32.toRat, show (10 : Binary32).value = .finite false 10485760 (-20) by decide]
    norm_num
  have away : ClippedAway ⟨3000000000, 0, 3000000256, 10⟩ 7 7 :=
    .inr ⟨3000000000, 0, 3000000256, 10, by exact_mod_cast left, by exact_mod_cast top, by exact_mod_cast right,
      by exact_mod_cast bottom, by decide⟩
  exact ⟨stopped, ⟨m, paint⟩, _, d', bound, device, frame 7 7 (by decide) (by decide) away⟩

end DrawingSurface

end GlyphCanvas
