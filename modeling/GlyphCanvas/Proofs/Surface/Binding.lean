import Mathlib
import GlyphCanvas.Surface.Workspace
import GlyphCanvas.Layout.Fixed

namespace GlyphCanvas

/-- A binding that holds a device: borrowed or owned. -/
def BindingKind.holdsDevice : BindingKind → Bool
  | .borrowed | .owned => true
  | .unbound | .unavailable => false

theorem DeviceContext.new_logicalDpi_idem (dpi : Binary32) :
    (DeviceContext.new (DeviceContext.new dpi).logicalDpi).logicalDpi = (DeviceContext.new dpi).logicalDpi := by
  unfold DeviceContext.new
  dsimp only
  split
  · rfl
  · exact ite_self _

namespace DrawingSurface

/-- Paint state exists only while the binding holds a device, a borrowed device is one of the
caller's, and the default dpi is already normalized. -/
structure Coupled (devices : Array PaintDevice) (s : DrawingSurface) : Prop where
  paint_held : s.paint.isSome = true → (BindingKind.of s).holdsDevice = true
  borrowed_lt : ∀ i, s.binding = .borrowed i → i < devices.size
  dpi_normal : (DeviceContext.new s.defaultDpi).logicalDpi = s.defaultDpi

variable {devices devices' devices'' : Array PaintDevice} {s s' s'' : DrawingSurface}

theorem Coupled.grow (coupled : s.Coupled devices) (grow : devices.size ≤ devices'.size) :
    s.Coupled devices' :=
  ⟨coupled.paint_held, fun i borrowed => (coupled.borrowed_lt i borrowed).trans_le grow, coupled.dpi_normal⟩

theorem coupled_new (layout : LayoutService) (dpi : Binary32) : (DrawingSurface.new layout dpi).Coupled devices where
  paint_held := by simp [DrawingSurface.new]
  borrowed_lt := by simp [DrawingSurface.new]
  dpi_normal := DeviceContext.new_logicalDpi_idem dpi

theorem release_eq_new (normal : (DeviceContext.new s.defaultDpi).logicalDpi = s.defaultDpi) :
    s.release = DrawingSurface.new s.layout s.defaultDpi := by
  simp only [release, DrawingSurface.new, normal]

theorem release_release : s.release.release = s.release := rfl

theorem initDevice_eq (i : Nat) : s.initDevice i = s.release.initDevice i := rfl

theorem initOffscreen_eq (w h : Nat) : s.initOffscreen w h = s.release.initOffscreen w h := rfl

theorem Coupled.release (coupled : s.Coupled devices) : s.release.Coupled devices' :=
  ⟨by simp [DrawingSurface.release], by simp [DrawingSurface.release], coupled.dpi_normal⟩

theorem Coupled.initDevice (coupled : s.Coupled devices) {i : Nat} (lent : i < devices'.size) :
    (s.initDevice i).Coupled devices' :=
  ⟨by simp [DrawingSurface.initDevice, DrawingSurface.release], by simp [DrawingSurface.initDevice, lent],
    coupled.dpi_normal⟩

theorem Coupled.initOffscreen (coupled : s.Coupled devices) (w h : Nat) : (s.initOffscreen w h).Coupled devices' := by
  unfold DrawingSurface.initOffscreen
  dsimp only
  split
  · exact ⟨fun _ => rfl, by simp, coupled.dpi_normal⟩
  · exact ⟨by simp [DrawingSurface.release], by simp, coupled.dpi_normal⟩

theorem device_isSome_iff (coupled : s.Coupled devices) :
    (s.device devices).isSome = true ↔ (BindingKind.of s).holdsDevice = true := by
  unfold device BindingKind.of
  split
  · rename_i i borrowed
    simp [borrowed, coupled.borrowed_lt i borrowed, BindingKind.holdsDevice]
  · rename_i d owned
    simp [owned, BindingKind.holdsDevice]
  · rename_i notHeld
    split <;> simp_all [BindingKind.holdsDevice]

/-- What a drawing call may do: repaint the devices and change the paint state and the current
point, keeping the layout, the dpi, the binding's kind and borrowed device and the number of the
caller's devices, and making paint state only on a surface whose binding holds a device. -/
structure Redraws (devices : Array PaintDevice) (s : DrawingSurface) (devices' : Array PaintDevice)
    (s' : DrawingSurface) : Prop where
  layout : s'.layout = s.layout
  dpi : s'.defaultDpi = s.defaultDpi
  kind : BindingKind.of s' = BindingKind.of s
  borrowed : ∀ i, s'.binding = .borrowed i → s.binding = .borrowed i
  size : devices'.size = devices.size
  paint : s'.paint.isSome = true → s.paint.isSome = true ∨ (BindingKind.of s).holdsDevice = true

theorem Redraws.refl : Redraws devices s devices s :=
  ⟨rfl, rfl, rfl, fun _ h => h, rfl, .inl⟩

theorem Redraws.trans (first : Redraws devices s devices' s') (second : Redraws devices' s' devices'' s'') :
    Redraws devices s devices'' s'' where
  layout := second.layout.trans first.layout
  dpi := second.dpi.trans first.dpi
  kind := second.kind.trans first.kind
  borrowed i h := first.borrowed i (second.borrowed i h)
  size := second.size.trans first.size
  paint h := by
    rcases second.paint h with earlier | held
    · exact first.paint earlier
    · exact .inr (first.kind ▸ held)

theorem Redraws.coupled (redraws : Redraws devices s devices' s') (coupled : s.Coupled devices) :
    s'.Coupled devices' where
  paint_held h := by
    rw [redraws.kind]
    rcases redraws.paint h with earlier | held
    · exact coupled.paint_held earlier
    · exact held
  borrowed_lt i h := redraws.size ▸ coupled.borrowed_lt i (redraws.borrowed i h)
  dpi_normal := redraws.dpi ▸ coupled.dpi_normal

theorem session_redraws (body : Painter) :
    Redraws devices s (s.session devices body).2.1 (s.session devices body).1 := by
  unfold session
  split
  · exact Redraws.refl
  · exact Redraws.refl
  · rename_i d owned
    exact ⟨rfl, rfl, by simp [BindingKind.of, owned], by simp, rfl,
      fun _ => .inr (by simp [BindingKind.of, owned, BindingKind.holdsDevice])⟩
  · rename_i i borrowed
    split
    · exact Redraws.refl
    · exact ⟨rfl, rfl, rfl, fun _ h => h, Array.size_set! .., fun _ => .inr (by
        simp [BindingKind.of, borrowed, BindingKind.holdsDevice])⟩

theorem session_of_unavailable (unavailable : s.binding = .unavailable) (body : Painter) :
    s.session devices body = (s, devices, none) := by
  simp [session, unavailable]

theorem moveTo_redraws (x y : Binary32) : Redraws devices s devices (s.moveTo x y) :=
  ⟨rfl, rfl, rfl, fun _ h => h, rfl, .inl⟩

theorem clearClip_redraws : Redraws devices s devices s.clearClip :=
  ⟨rfl, rfl, rfl, fun _ h => h, rfl, fun h => .inl (by simpa [clearClip] using h)⟩

theorem flushCachedState_redraws : Redraws devices s devices s.flushCachedState :=
  ⟨rfl, rfl, rfl, fun _ h => h, rfl, fun h => .inl (by simpa [flushCachedState] using h)⟩

theorem lineTo_redraws {ops : RasterOps} (x y : Binary32) :
    Redraws devices s (s.lineTo ops devices x y).2.1 (s.lineTo ops devices x y).1 := by
  have session := @session_redraws devices s (Painter.line ops s.current ⟨x, y⟩)
  unfold lineTo
  rcases drawn : s.session devices (Painter.line ops s.current ⟨x, y⟩) with ⟨s₁, devices₁, _ | m⟩
  all_goals rw [drawn] at session
  · exact session.trans (moveTo_redraws x y)
  · exact session

theorem drawText_redraws (ops : RasterOps) (rc : Bounds) (font : Option FontParameters) (ybase : Binary32)
    (bytes : List UInt8) (fore : Colour) (back : Option Colour) :
    Redraws devices s (s.drawText ops devices rc font ybase bytes fore back).2.1
      (s.drawText ops devices rc font ybase bytes fore back).1 :=
  session_redraws _

theorem drawTextClipped_redraws (ops : RasterOps) (rc : Bounds) (font : Option FontParameters)
    (ybase : Binary32) (bytes : List UInt8) (fore back : Colour) :
    Redraws devices s (s.drawTextClipped ops devices rc font ybase bytes fore back).2.1
      (s.drawTextClipped ops devices rc font ybase bytes fore back).1 := by
  have clip := @session_redraws devices s (Painter.setClip ops rc)
  unfold drawTextClipped
  rcases clipped : s.session devices (Painter.setClip ops rc) with ⟨s₁, devices₁, _ | m⟩
  all_goals rw [clipped] at clip
  · dsimp only
    have text := @drawText_redraws devices₁ s₁ ops rc font ybase bytes fore (some back)
    rcases drawn : s₁.drawText ops devices₁ rc font ybase bytes fore (some back) with
      ⟨s₂, devices₂, _ | m'⟩
    all_goals rw [drawn] at text
    · exact (clip.trans text).trans clearClip_redraws
    · exact clip.trans text
  · exact clip

theorem binding_of_unavailable (unavailable : BindingKind.of s = .unavailable) : s.binding = .unavailable := by
  unfold BindingKind.of at unavailable
  split at unavailable <;> simp_all

theorem paint_of_not_held (coupled : s.Coupled devices) (notHeld : (BindingKind.of s).holdsDevice = false) :
    s.paint = none := by
  cases painted : s.paint with
  | none => rfl
  | some c =>
    have held := coupled.paint_held (by rw [painted]; rfl)
    rw [notHeld] at held
    contradiction

theorem clearClip_of_none (unpainted : s.paint = none) : s.clearClip = s := by
  cases s
  simp_all [clearClip]

theorem flushCachedState_of_none (unpainted : s.paint = none) : s.flushCachedState = s := by
  cases s
  simp_all [flushCachedState]

theorem lineTo_of_unavailable (unavailable : s.binding = .unavailable) {ops : RasterOps} (x y : Binary32) :
    s.lineTo ops devices x y = (s.moveTo x y, devices, none) := by
  simp [lineTo, session_of_unavailable unavailable, moveTo]

theorem drawText_of_unavailable (unavailable : s.binding = .unavailable) (ops : RasterOps) (rc : Bounds)
    (font : Option FontParameters) (ybase : Binary32) (bytes : List UInt8) (fore : Colour) (back : Option Colour) :
    s.drawText ops devices rc font ybase bytes fore back = (s, devices, none) :=
  session_of_unavailable unavailable _

theorem drawTextClipped_of_unavailable (unavailable : s.binding = .unavailable) (unpainted : s.paint = none)
    (ops : RasterOps) (rc : Bounds) (font : Option FontParameters) (ybase : Binary32) (bytes : List UInt8)
    (fore back : Colour) :
    s.drawTextClipped ops devices rc font ybase bytes fore back = (s, devices, none) := by
  simp [drawTextClipped, drawText, session_of_unavailable unavailable, clearClip_of_none unpainted]

end DrawingSurface

/-- Steps that draw on their surface or change its paint state. -/
def SurfaceStep.paints : SurfaceStep → Bool
  | .penColour _ | .polygon .. | .rectangleDraw .. | .fillRectangle .. | .roundedRectangle .. | .ellipse ..
  | .alphaRectangle .. | .drawRgbaImage .. | .copy .. | .fillRectanglePattern .. | .drawTextNoClip ..
  | .drawTextClipped .. | .drawTextTransparent .. | .setClip _ | .clearClip | .flushCachedState => true
  | _ => false

/-- Steps that read a surface: its state, pixels, metrics and measurements. -/
def SurfaceStep.queries : SurfaceStep → Bool
  | .sharesLayout _ | .state | .pixels | .pixel .. | .metrics _ | .deviceHeightFont _ | .measureWidths ..
  | .widthText .. | .widthChar .. => true
  | _ => false

/-- The steps a caller may issue: a device is lent only if it exists. -/
def SurfaceStep.Admissible (w : Workspace) : SurfaceStep → Prop
  | .initDevice d => d < w.devices.size
  | _ => True

namespace Workspace

open DrawingSurface

variable {w w' : Workspace} {ops : RasterOps} {s : Nat} {slot : SurfaceSlot}

/-- Every surface of the workspace is coupled with the workspace's devices. -/
def Coupled (w : Workspace) : Prop :=
  ∀ (i : Nat) (slot : SurfaceSlot), w.surfaces[i]? = some slot → slot.surface.Coupled w.devices

theorem getElem?_setSurface (w : Workspace) (s : Nat) (surf : DrawingSurface) (i : Nat) :
    (w.setSurface s surf).surfaces[i]? =
      if s = i then w.surfaces[i]?.map (fun slot => { slot with surface := surf }) else w.surfaces[i]? := by
  simp [setSurface, Array.getElem?_modify]

theorem setSurface_self (held : w.surfaces[s]? = some slot) : w.setSurface s slot.surface = w := by
  have same : (w.setSurface s slot.surface).surfaces = w.surfaces := by
    apply Array.ext_getElem?
    intro i
    rw [getElem?_setSurface]
    split
    · subst s
      simp [held]
    · rfl
  cases w
  simp only [setSurface] at same ⊢
  rw [same]

theorem Coupled.keep (coupled : w.Coupled) (surfaces : w'.surfaces = w.surfaces)
    (grow : w.devices.size ≤ w'.devices.size) : w'.Coupled := by
  intro i slot held
  rw [surfaces] at held
  exact (coupled i slot held).grow grow

theorem Coupled.update (coupled : w.Coupled) {surf : DrawingSurface}
    (surfaces : w'.surfaces = (w.setSurface s surf).surfaces) (grow : w.devices.size ≤ w'.devices.size)
    (fresh : surf.Coupled w'.devices) : w'.Coupled := by
  intro i slot' held
  rw [surfaces, getElem?_setSurface] at held
  split at held
  · obtain ⟨slot, -, rfl⟩ := Option.map_eq_some_iff.1 held
    exact fresh
  · exact (coupled i slot' held).grow grow

theorem draw_fst (surf : DrawingSurface)
    (call : DrawingSurface → Array PaintDevice → DrawingSurface × Array PaintDevice × Option String) :
    (w.draw s surf call).1 = { w.setSurface s (call surf w.devices).1 with devices := (call surf w.devices).2.1 } := by
  unfold draw
  rcases call surf w.devices with ⟨surf', devices', _ | m⟩ <;> rfl

theorem Coupled.draw (coupled : w.Coupled) (held : w.surfaces[s]? = some slot)
    {call : DrawingSurface → Array PaintDevice → DrawingSurface × Array PaintDevice × Option String}
    (redraws : Redraws w.devices slot.surface (call slot.surface w.devices).2.1 (call slot.surface w.devices).1) :
    (w.draw s slot.surface call).1.Coupled := by
  rw [draw_fst]
  exact coupled.update rfl redraws.size.ge (redraws.coupled (coupled s slot held))

theorem Coupled.paint (coupled : w.Coupled) (held : w.surfaces[s]? = some slot) (body : Painter) :
    (w.paint s slot.surface body).1.Coupled :=
  coupled.draw held (session_redraws body)

theorem Coupled.apply (coupled : w.Coupled) (ops : RasterOps) (s : Nat) {step : SurfaceStep}
    (admissible : step.Admissible w) : (w.apply ops s step).1.Coupled := by
  rcases held : w.surfaces[s]? with _ | slot
  · simpa only [Workspace.apply, held] using coupled
  simp only [Workspace.apply, held]
  have surf := coupled s slot held
  cases step
  case initOffscreen wd ht => exact coupled.update rfl le_rfl (surf.initOffscreen wd ht)
  case newDevice wd ht dpi =>
    simp only [applyAt]
    split
    · exact coupled.keep rfl (by simp)
    · exact coupled
  case initDevice d =>
    simp only [applyAt]
    split
    · split
      · exact coupled
      · exact coupled.update rfl le_rfl (surf.initDevice admissible)
    · exact coupled.update rfl le_rfl (surf.initDevice admissible)
  case devicePixels d =>
    simp only [applyAt]
    split <;> exact coupled
  case release => exact coupled.update rfl le_rfl surf.release
  case intoDevice => exact coupled.update rfl le_rfl (coupled_new _ _)
  case moveTo x y => exact coupled.update rfl le_rfl ((moveTo_redraws x y).coupled surf)
  case lineTo x y => exact coupled.draw held (lineTo_redraws x y)
  case drawTextNoClip | drawTextTransparent => exact coupled.draw held (drawText_redraws ..)
  case drawTextClipped => exact coupled.draw held (drawTextClipped_redraws ..)
  case clearClip => exact coupled.update rfl le_rfl (clearClip_redraws.coupled surf)
  case flushCachedState => exact coupled.update rfl le_rfl (flushCachedState_redraws.coupled surf)
  case copy | fillRectanglePattern =>
    simp only [applyAt]
    split
    · exact coupled.paint held _
    · exact coupled
  case penColour | polygon | rectangleDraw | fillRectangle | roundedRectangle | ellipse | alphaRectangle
    | drawRgbaImage | setClip => exact coupled.paint held _
  case sharesLayout | state | pixels | pixel | metrics | deviceHeightFont | measureWidths | widthText
    | widthChar => exact coupled

theorem draw_of_unchanged (held : w.surfaces[s]? = some slot)
    {call : DrawingSurface → Array PaintDevice → DrawingSurface × Array PaintDevice × Option String}
    (unchanged : call slot.surface w.devices = (slot.surface, w.devices, none)) :
    w.draw s slot.surface call = (w, .ok .none) := by
  simp only [draw, unchanged, setSurface_self held]

theorem paint_of_unavailable (held : w.surfaces[s]? = some slot) (unavailable : slot.surface.binding = .unavailable)
    (body : Painter) : w.paint s slot.surface body = (w, .ok .none) :=
  draw_of_unchanged held (session_of_unavailable unavailable body)

theorem apply_of_unavailable (coupled : w.Coupled) (held : w.surfaces[s]? = some slot)
    (unavailable : BindingKind.of slot.surface = .unavailable) {step : SurfaceStep}
    (quiet : step.paints = true ∨ step.queries = true) : ∃ r, w.apply ops s step = (w, .ok r) := by
  have binding := binding_of_unavailable unavailable
  -- a surface that holds no device has no paint state, so clearing the clip changes nothing
  have unpainted := paint_of_not_held (coupled s slot held) (by rw [unavailable]; rfl)
  simp only [Workspace.apply, held]
  cases step
  case penColour | polygon | rectangleDraw | fillRectangle | roundedRectangle | ellipse | alphaRectangle
    | drawRgbaImage | setClip =>
    simp only [applyAt]
    exact ⟨_, paint_of_unavailable held binding _⟩
  case drawTextNoClip | drawTextTransparent =>
    simp only [applyAt]
    exact ⟨_, draw_of_unchanged held (drawText_of_unavailable binding ..)⟩
  case drawTextClipped =>
    simp only [applyAt]
    exact ⟨_, draw_of_unchanged held (drawTextClipped_of_unavailable binding unpainted ..)⟩
  case clearClip => exact ⟨_, by rw [applyAt, clearClip_of_none unpainted, setSurface_self held]⟩
  case flushCachedState => exact ⟨_, by rw [applyAt, flushCachedState_of_none unpainted, setSurface_self held]⟩
  case copy | fillRectanglePattern =>
    simp only [applyAt]
    split
    · exact ⟨_, paint_of_unavailable held binding _⟩
    · exact ⟨_, rfl⟩
  case sharesLayout | state | pixels | pixel | metrics | deviceHeightFont | measureWidths | widthText
    | widthChar => exact ⟨_, rfl⟩
  case initOffscreen | newDevice | initDevice | devicePixels | release | intoDevice | moveTo | lineTo =>
    simp [SurfaceStep.paints, SurfaceStep.queries] at quiet

theorem apply_lineTo_of_unavailable (held : w.surfaces[s]? = some slot)
    (unavailable : BindingKind.of slot.surface = .unavailable) (x y : Binary32) :
    w.apply ops s (.lineTo x y) = (w.setSurface s (slot.surface.moveTo x y), .ok .none) := by
  simp only [Workspace.apply, held, applyAt, draw, lineTo_of_unavailable (binding_of_unavailable unavailable)]
  rfl

/-- The workspaces a session drawing with `ops` reaches: surfaces as they were made, then any
admissible step on any surface. -/
inductive Reachable (ops : RasterOps) : Workspace → Prop
  | fresh {w : Workspace} (made : ∀ (i : Nat) (slot : SurfaceSlot), w.surfaces[i]? = some slot →
      ∃ layout dpi, slot.surface = DrawingSurface.new layout dpi) : Reachable ops w
  | step {w : Workspace} (s : Nat) {step : SurfaceStep} (reachable : Reachable ops w)
      (admissible : step.Admissible w) : Reachable ops (w.apply ops s step).1

theorem Reachable.coupled (reachable : w.Reachable ops) : w.Coupled := by
  induction reachable with
  | fresh made =>
    intro i slot held
    obtain ⟨layout, dpi, made⟩ := made i slot held
    rw [made]
    exact coupled_new layout dpi
  | step s reachable admissible coupled => exact coupled.apply ops s admissible

end Workspace

open DrawingSurface Workspace in
/-- On every surface a session reaches: paint state exists only while the binding holds a device;
the surface is initialised exactly when it reports a device, exactly when its binding holds one;
releasing it gives the surface as it was made, binding it anew starts from that surface, and a
second release changes nothing; and once its offscreen allocation has failed, every drawing step
and query leaves the whole workspace as it was without a fault, while `moveTo` and `lineTo` only
move the current point. -/
theorem surface_binding_invariants {ops : RasterOps} {w : Workspace} (reachable : w.Reachable ops) {i : Nat}
    {slot : SurfaceSlot}
    (held : w.surfaces[i]? = some slot) :
    (slot.surface.paint.isSome = true → (BindingKind.of slot.surface).holdsDevice = true) ∧
    (slot.surface.initialised w.devices = true ↔ (slot.surface.device w.devices).isSome = true) ∧
    ((slot.surface.device w.devices).isSome = true ↔ (BindingKind.of slot.surface).holdsDevice = true) ∧
    slot.surface.release = DrawingSurface.new slot.surface.layout slot.surface.defaultDpi ∧
    (∀ d, slot.surface.initDevice d =
      (DrawingSurface.new slot.surface.layout slot.surface.defaultDpi).initDevice d) ∧
    (∀ wd ht, slot.surface.initOffscreen wd ht =
      (DrawingSurface.new slot.surface.layout slot.surface.defaultDpi).initOffscreen wd ht) ∧
    slot.surface.release.release = slot.surface.release ∧
    (BindingKind.of slot.surface = .unavailable →
      (∀ step : SurfaceStep, step.paints = true ∨ step.queries = true →
        ∃ r, w.apply ops i step = (w, .ok r)) ∧
      ∀ x y, w.apply ops i (.moveTo x y) = (w.setSurface i (slot.surface.moveTo x y), .ok .none) ∧
        w.apply ops i (.lineTo x y) = (w.setSurface i (slot.surface.moveTo x y), .ok .none)) := by
  have coupled := reachable.coupled
  have surf := coupled i slot held
  have fresh := release_eq_new surf.dpi_normal
  refine ⟨surf.paint_held, Iff.rfl, device_isSome_iff surf, fresh, fun d => ?_, fun wd ht => ?_,
    release_release, fun unavailable => ⟨fun step quiet => apply_of_unavailable coupled held unavailable quiet,
      fun x y => ⟨?_, apply_lineTo_of_unavailable held unavailable x y⟩⟩⟩
  · rw [initDevice_eq, fresh]
  · rw [initOffscreen_eq, fresh]
  · simp only [Workspace.apply, held]
    rfl

/-- A session whose one surface asks for an offscreen bitmap too large to allocate: the surface
is left unavailable, and a request to clear its clip changes nothing. -/
theorem failed_offscreen_keeps_state :
    (Workspace.apply ⟨#[⟨DrawingSurface.new (LayoutService.fixed 4) 96, 0⟩], #[], #[], #[]⟩
        RasterOps.tinySkia 0 (.initOffscreen 4294967295 1)).1.Reachable RasterOps.tinySkia ∧
      (Workspace.apply ⟨#[⟨DrawingSurface.new (LayoutService.fixed 4) 96, 0⟩], #[], #[], #[]⟩
          RasterOps.tinySkia 0 (.initOffscreen 4294967295 1)).1.surfaces[0]? =
        some ⟨(DrawingSurface.new (LayoutService.fixed 4) 96).initOffscreen 4294967295 1, 0⟩ ∧
      BindingKind.of ((DrawingSurface.new (LayoutService.fixed 4) 96).initOffscreen 4294967295 1) =
        .unavailable ∧
      ∃ r, (Workspace.apply ⟨#[⟨DrawingSurface.new (LayoutService.fixed 4) 96, 0⟩], #[], #[], #[]⟩
          RasterOps.tinySkia 0 (.initOffscreen 4294967295 1)).1.apply RasterOps.tinySkia 0 .clearClip =
        ((Workspace.apply ⟨#[⟨DrawingSurface.new (LayoutService.fixed 4) 96, 0⟩], #[], #[], #[]⟩
          RasterOps.tinySkia 0 (.initOffscreen 4294967295 1)).1, .ok r) := by
  have made : ∀ (i : Nat) (slot : SurfaceSlot),
      (⟨#[⟨DrawingSurface.new (LayoutService.fixed 4) 96, 0⟩], #[], #[], #[]⟩ : Workspace).surfaces[i]? =
          some slot →
        ∃ layout dpi, slot.surface = DrawingSurface.new layout dpi := by
    intro i slot held
    cases i with
    | zero =>
      simp only [List.getElem?_toArray, List.getElem?_cons_zero, Option.some.injEq] at held
      exact ⟨_, _, by rw [← held]⟩
    | succ i => simp at held
  have reachable : (Workspace.apply ⟨#[⟨DrawingSurface.new (LayoutService.fixed 4) 96, 0⟩], #[], #[], #[]⟩
      RasterOps.tinySkia 0 (.initOffscreen 4294967295 1)).1.Reachable RasterOps.tinySkia :=
    .step 0 (.fresh made) trivial
  have held : (Workspace.apply ⟨#[⟨DrawingSurface.new (LayoutService.fixed 4) 96, 0⟩], #[], #[], #[]⟩
      RasterOps.tinySkia 0 (.initOffscreen 4294967295 1)).1.surfaces[0]? =
      some ⟨(DrawingSurface.new (LayoutService.fixed 4) 96).initOffscreen 4294967295 1, 0⟩ := rfl
  have unavailable :
      BindingKind.of ((DrawingSurface.new (LayoutService.fixed 4) 96).initOffscreen 4294967295 1) =
        .unavailable := by
    decide
  exact ⟨reachable, held, unavailable,
    ((surface_binding_invariants reachable held).2.2.2.2.2.2.2 unavailable).1 .clearClip (.inl rfl)⟩

end GlyphCanvas
