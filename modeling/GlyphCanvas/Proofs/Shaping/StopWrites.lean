import Mathlib
import GlyphCanvas.Proofs.Shaping.Stops

namespace GlyphCanvas

namespace Stops

/-- Writes each value at its offset, in order. -/
def applyWrites {α : Type} (ws : List (Nat × α)) (a : Array α) : Array α :=
  ws.foldl (fun a w => a.set! w.1 w.2) a

/-- The writes that set the entries `[lo, hi)` to `v`. -/
def fillWrites {α : Type} (lo hi : Nat) (v : α) : List (Nat × α) :=
  (List.range (hi - lo)).map fun k => (lo + k, v)

theorem applyWrites_append {α : Type} (ws vs : List (Nat × α)) (a : Array α) :
    applyWrites (ws ++ vs) a = applyWrites vs (applyWrites ws a) :=
  List.foldl_append

theorem fillRange_eq_applyWrites {α : Type} (a : Array α) (lo hi : Nat) (v : α) :
    fillRange a lo hi v = applyWrites (fillWrites lo hi v) a := by
  rw [fillRange, applyWrites, fillWrites, List.foldl_map]

theorem mem_offsetWrites {α : Type} {lo hi : Nat} {f : Nat → α} {w : Nat × α}
    (hw : w ∈ (List.range (hi - lo)).map fun k => (lo + k, f k)) : lo ≤ w.1 ∧ w.1 < hi := by
  obtain ⟨k, hk, rfl⟩ := List.mem_map.1 hw
  have := List.mem_range.1 hk
  constructor <;> dsimp only <;> omega

theorem mem_fillWrites {α : Type} {lo hi : Nat} {v : α} {w : Nat × α} (hw : w ∈ fillWrites lo hi v) :
    lo ≤ w.1 ∧ w.1 < hi :=
  mem_offsetWrites hw

section Clamped

variable {α : Type} (codeUnits : Nat) (gs : Array (GroupOf α))

/-- Where group `i` starts, clamped to the run; the end of the run past the last group. -/
def clampedStart (i : Nat) : Nat := (gs[i]?.map fun g => min g.start codeUnits).getD codeUnits

/-- Where group `i` ends: where the next group starts, but never before its own start. -/
def clampedEnd (i : Nat) : Nat := max (clampedStart codeUnits gs (i + 1)) (clampedStart codeUnits gs i)

/-- How far the stops are covered once `i` groups are placed. -/
def clampedCovered : Nat → Nat
  | 0 => 0
  | i + 1 => clampedEnd codeUnits gs i

theorem clampedStart_le (i : Nat) : clampedStart codeUnits gs i ≤ codeUnits := by
  unfold clampedStart
  cases gs[i]? with
  | none => exact le_rfl
  | some g => exact Nat.min_le_right g.start codeUnits

theorem clampedEnd_le (i : Nat) : clampedEnd codeUnits gs i ≤ codeUnits :=
  max_le (clampedStart_le codeUnits gs (i + 1)) (clampedStart_le codeUnits gs i)

theorem clampedCovered_size (some_group : 0 < gs.size) : clampedCovered codeUnits gs gs.size = codeUnits := by
  obtain ⟨k, hk⟩ : ∃ k, gs.size = k + 1 := ⟨gs.size - 1, by omega⟩
  have past : clampedStart codeUnits gs (k + 1) = codeUnits := by
    rw [clampedStart, Array.getElem?_eq_none (by omega), Option.map_none, Option.getD_none]
  rw [hk, clampedCovered, clampedEnd, past]
  exact Nat.max_eq_left (clampedStart_le codeUnits gs k)

end Clamped

variable {α : Type} [Add α] [Mul α] [Div α] (ofNat : Nat → α) (codeUnits : Nat) (gs : Array (GroupOf α))

/-- The writes that spread group `g`'s advance over the units `[s, e)`. -/
def shareWrites (s e : Nat) (g : GroupOf α) : List (Nat × α) :=
  (List.range (e - s)).map fun k => (s + k, g.x + g.advance * ofNat k / ofNat (max (e - s) 1))

/-- The writes of placing group `i`: its pen from where the stops are covered up to its start, then
its share over the units up to its end. -/
def groupWrites (i : Nat) : List (Nat × α) :=
  match gs[i]? with
  | none => []
  | some g =>
    fillWrites (clampedCovered codeUnits gs i) (clampedStart codeUnits gs i) g.x ++
      shareWrites ofNat (clampedStart codeUnits gs i) (clampedEnd codeUnits gs i) g

/-- Every write of a run's caret stops, in order: the groups placed one after another, then the
width from where they end to the end of the run. -/
def stopWrites (clusters : List Nat) (advances : List α) (width : α) : List (Nat × α) :=
  let gs := groups (ofNat 0) clusters advances
  (List.range gs.size).flatMap (groupWrites ofNat codeUnits gs) ++
    fillWrites (clampedCovered codeUnits gs gs.size) (codeUnits + 1) width

theorem mem_shareWrites {s e : Nat} {g : GroupOf α} {w : Nat × α} (hw : w ∈ shareWrites ofNat s e g) :
    s ≤ w.1 ∧ w.1 < e :=
  mem_offsetWrites hw

theorem groupWrites_below {i : Nat} {w : Nat × α} (hw : w ∈ groupWrites ofNat codeUnits gs i) :
    w.1 < codeUnits := by
  unfold groupWrites at hw
  cases hg : gs[i]? with
  | none => rw [hg] at hw; cases hw
  | some g =>
    rw [hg, List.mem_append] at hw
    have start := clampedStart_le codeUnits gs i
    have stop := clampedEnd_le codeUnits gs i
    rcases hw with fill | share
    · have := mem_fillWrites fill
      omega
    · have := mem_shareWrites ofNat share
      omega

theorem placeGroup_of_some {i : Nat} {g : GroupOf α} (hg : gs[i]? = some g) (stops : Array α) (covered : Nat) :
    placeGroup ofNat codeUnits gs (stops, covered) i =
      (applyWrites (fillWrites covered (clampedStart codeUnits gs i) g.x ++
        shareWrites ofNat (clampedStart codeUnits gs i) (clampedEnd codeUnits gs i) g) stops,
        clampedEnd codeUnits gs i) := by
  have start : clampedStart codeUnits gs i = min g.start codeUnits := by
    rw [clampedStart, hg, Option.map_some, Option.getD_some]
  unfold placeGroup
  simp only [hg]
  rw [applyWrites_append, ← fillRange_eq_applyWrites, clampedEnd, start, clampedStart, applyWrites, shareWrites,
    List.foldl_map]

theorem foldl_placeGroup {i : Nat} (hi : i ≤ gs.size) (stops : Array α) :
    (List.range i).foldl (placeGroup ofNat codeUnits gs) (stops, 0) =
      (applyWrites ((List.range i).flatMap (groupWrites ofNat codeUnits gs)) stops,
        clampedCovered codeUnits gs i) := by
  induction i with
  | zero => rfl
  | succ i ih =>
    obtain ⟨g, hg⟩ : ∃ g, gs[i]? = some g := ⟨gs[i], Array.getElem?_eq_getElem (by omega)⟩
    rw [List.range_succ, List.foldl_append, ih (by omega), List.foldl_cons, List.foldl_nil,
      placeGroup_of_some ofNat codeUnits gs hg, List.flatMap_append, List.flatMap_singleton, groupWrites, hg]
    simp only [applyWrites_append]
    rfl

theorem caretStops_eq_applyWrites (clusters : List Nat) (advances : List α) (width : α) :
    caretStops ofNat clusters advances codeUnits width =
      applyWrites (stopWrites ofNat codeUnits clusters advances width)
        (Array.replicate (codeUnits + 1) (ofNat 0)) := by
  unfold caretStops stopWrites
  dsimp only
  rw [foldl_placeGroup ofNat codeUnits _ le_rfl, applyWrites_append, fillRange_eq_applyWrites]

theorem stopWrites_inside (clusters : List Nat) (advances : List α) (width : α) {w : Nat × α}
    (hw : w ∈ stopWrites ofNat codeUnits clusters advances width) : w.1 < codeUnits + 1 := by
  unfold stopWrites at hw
  rcases List.mem_append.1 hw with placing | last
  · obtain ⟨i, -, member⟩ := List.mem_flatMap.1 placing
    have := groupWrites_below ofNat codeUnits _ member
    omega
  · exact (mem_fillWrites last).2

/-! ### Groups of any glyphs -/

omit [Mul α] [Div α] in
theorem addGlyph_nonempty (acc : Array (GroupOf α) × α) (z : Nat × α) : 0 < (addGlyph acc z).1.size := by
  obtain ⟨gs, pen⟩ := acc
  obtain ⟨c, a⟩ := z
  simp only [addGlyph]
  cases back : gs.back? with
  | none => simp
  | some last =>
    have : 0 < gs.size := Array.size_pos_iff_exists_mem.2 ⟨last, Array.mem_of_back? back⟩
    by_cases same : last.start = c <;> simp [same]

omit [Mul α] [Div α] in
theorem foldl_addGlyph_nonempty (zs : List (Nat × α)) {acc : Array (GroupOf α) × α} (some_group : 0 < acc.1.size) :
    0 < (zs.foldl addGlyph acc).1.size := by
  induction zs generalizing acc with
  | nil => exact some_group
  | cons z zs ih => exact ih (addGlyph_nonempty acc z)

omit [Mul α] [Div α] in
theorem groups_nonempty_iff (zero : α) (clusters : List Nat) (advances : List α) :
    0 < (groups zero clusters advances).size ↔ clusters.zip advances ≠ [] := by
  unfold groups
  cases hz : clusters.zip advances with
  | nil => simp
  | cons z zs =>
    simp only [List.foldl_cons, ne_eq, reduceCtorEq, not_false_eq_true, iff_true]
    exact foldl_addGlyph_nonempty zs (addGlyph_nonempty _ z)

/-! ### The stops -/

theorem size_applyWrites {β : Type} (ws : List (Nat × β)) (a : Array β) : (applyWrites ws a).size = a.size := by
  induction ws generalizing a with
  | nil => rfl
  | cons w ws ih => rw [applyWrites, List.foldl_cons, ← applyWrites, ih, Array.size_set!]

theorem caretStops_eq_fillRange (clusters : List Nat) (advances : List α) (width : α) :
    ∃ stops, stops.size = codeUnits + 1 ∧
      caretStops ofNat clusters advances codeUnits width =
        fillRange stops (clampedCovered codeUnits (groups (ofNat 0) clusters advances)
          (groups (ofNat 0) clusters advances).size) (codeUnits + 1) width := by
  unfold caretStops
  dsimp only
  rw [foldl_placeGroup ofNat codeUnits _ le_rfl]
  exact ⟨_, by rw [size_applyWrites, Array.size_replicate], rfl⟩

theorem size_caretStops (clusters : List Nat) (advances : List α) (width : α) :
    (caretStops ofNat clusters advances codeUnits width).size = codeUnits + 1 := by
  obtain ⟨stops, size, eq⟩ := caretStops_eq_fillRange ofNat codeUnits clusters advances width
  rw [eq, size_fillRange, size]

theorem caretStops_last {clusters : List Nat} {advances : List α} (width : α)
    (glyph : clusters.zip advances ≠ []) :
    (caretStops ofNat clusters advances codeUnits width)[codeUnits]? = some width := by
  obtain ⟨stops, size, eq⟩ := caretStops_eq_fillRange ofNat codeUnits clusters advances width
  rw [eq, clampedCovered_size codeUnits _ ((groups_nonempty_iff _ _ _).2 glyph), getElem?_fillRange,
    if_pos ⟨le_rfl, Nat.lt_succ_self codeUnits⟩, Array.getElem?_eq_getElem (by omega), Option.map_some]

theorem caretStops_glyphless {clusters : List Nat} {advances : List α} (width : α)
    (none_ : clusters.zip advances = []) {u : Nat} (hu : u ≤ codeUnits) :
    (caretStops ofNat clusters advances codeUnits width)[u]? = some width := by
  obtain ⟨stops, size, eq⟩ := caretStops_eq_fillRange ofNat codeUnits clusters advances width
  have empty : (groups (ofNat 0) clusters advances).size = 0 := by
    by_contra some_group
    exact (groups_nonempty_iff _ _ _).1 (Nat.pos_of_ne_zero some_group) none_
  rw [eq, empty, clampedCovered, getElem?_fillRange, if_pos ⟨Nat.zero_le u, Nat.lt_succ_of_le hu⟩,
    Array.getElem?_eq_getElem (by omega), Option.map_some]

end Stops

/-- The caret stops of any run, whatever its clusters and advances: they are the result of writes
that all fall inside an array of `codeUnits + 1` entries; the last stop is the width once some
cluster is paired with an advance, and every stop is the width when none is. The run's layout spans
`codeUnits` units and reads the stop at each offset, the last one past the end. -/
theorem ShapedRun.caretStops_any_clusters (run : ShapedRun) :
    run.caretStops = Stops.applyWrites
        (Stops.stopWrites Binary32.ofNat run.codeUnits run.clusters run.advances run.width)
        (Array.replicate (run.codeUnits + 1) 0) ∧
      (∀ w ∈ Stops.stopWrites Binary32.ofNat run.codeUnits run.clusters run.advances run.width,
        w.1 < run.codeUnits + 1) ∧
      run.caretStops.size = run.codeUnits + 1 ∧
      (run.clusters.zip run.advances ≠ [] → run.caretStops[run.codeUnits]? = some run.width) ∧
      (run.clusters.zip run.advances = [] → ∀ u ≤ run.codeUnits, run.caretStops[u]? = some run.width) ∧
      run.toLayout.codeUnits = run.codeUnits ∧
      ∀ n, run.caretStops[min n run.codeUnits]? = some (run.toLayout.cursorToX n) := by
  have size : run.caretStops.size = run.codeUnits + 1 := by
    rw [caretStops_eq]
    exact Stops.size_caretStops _ _ _ _ _
  refine ⟨?_, fun w member => Stops.stopWrites_inside _ _ _ _ _ member, size,
    fun glyph => by rw [caretStops_eq]; exact Stops.caretStops_last _ _ _ glyph,
    fun none_ u hu => by rw [caretStops_eq]; exact Stops.caretStops_glyphless _ _ _ none_ hu, ?_, ?_⟩
  · rw [caretStops_eq, Stops.caretStops_eq_applyWrites]
    rfl
  · simp only [toLayout, ShapedLayout.ofStops, size, Nat.add_sub_cancel]
  · intro n
    have inside : min n run.codeUnits < run.caretStops.size := by rw [size]; omega
    simp only [toLayout, ShapedLayout.ofStops, size, Nat.add_sub_cancel, Array.getElem?_eq_getElem inside,
      Option.getD_some]

end GlyphCanvas
