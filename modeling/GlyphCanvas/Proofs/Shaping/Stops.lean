import Mathlib
import GlyphCanvas.Proofs.Shaping.Carets

namespace GlyphCanvas

/-- A cluster group over a number type: its first unit, its pen position and its advance. -/
structure GroupOf (α : Type) where
  start : Nat
  x : α
  advance : α

namespace Stops

/-- Sets the entries `[lo, hi)` of an array to `v`. -/
def fillRange {α : Type} (a : Array α) (lo hi : Nat) (v : α) : Array α :=
  (List.range (hi - lo)).foldl (fun a k => a.set! (lo + k) v) a

variable {α : Type} [Add α] [Mul α] [Div α]

/-- Adds one glyph: it joins the last group when its cluster is that group's start, and opens a
new group at the current pen otherwise. -/
def addGlyph (acc : Array (GroupOf α) × α) (g : Nat × α) : Array (GroupOf α) × α :=
  let (groups, pen) := acc
  let (cluster, adv) := g
  match groups.back? with
  | some last =>
    if last.start = cluster then (groups.pop.push { last with advance := last.advance + adv }, pen + adv)
    else (groups.push ⟨cluster, pen, adv⟩, pen + adv)
  | none => (groups.push ⟨cluster, pen, adv⟩, pen + adv)

/-- The groups of consecutive glyphs with one cluster, clusters and advances taken in pairs. -/
def groups (zero : α) (clusters : List Nat) (advances : List α) : Array (GroupOf α) :=
  ((clusters.zip advances).foldl addGlyph (#[], zero)).1

/-- Lays out group `i`: the units from where the stops are covered up to its start stand at its
pen, and the units up to the next group share its advance evenly. -/
def placeGroup (ofNat : Nat → α) (codeUnits : Nat) (gs : Array (GroupOf α)) (acc : Array α × Nat)
    (i : Nat) : Array α × Nat :=
  let (stops, covered) := acc
  match gs[i]? with
  | none => acc
  | some g =>
    let start := min g.start codeUnits
    let stop := max ((gs[i + 1]?.map fun n => min n.start codeUnits).getD codeUnits) start
    let stops := fillRange stops covered start g.x
    let span := ofNat (max (stop - start) 1)
    let stops := (List.range (stop - start)).foldl
      (fun a k => a.set! (start + k) (g.x + g.advance * ofNat k / span)) stops
    (stops, stop)

/-- The pen position at each unit `0 … codeUnits` of a run. -/
def caretStops (ofNat : Nat → α) (clusters : List Nat) (advances : List α) (codeUnits : Nat)
    (width : α) : Array α :=
  let gs := groups (ofNat 0) clusters advances
  let (stops, covered) :=
    (List.range gs.size).foldl (placeGroup ofNat codeUnits gs) (Array.replicate (codeUnits + 1) (ofNat 0), 0)
  fillRange stops covered (codeUnits + 1) width

end Stops

/-! ### The binary32 instance -/

/-- A run's group as a group over binary32. -/
def ClusterGroup.toGroupOf (g : ClusterGroup) : GroupOf Binary32 := ⟨g.start, g.x, g.advance⟩

theorem addGlyph_toGroupOf (acc : Array ClusterGroup × Binary32) (z : Nat × Binary32) :
    Stops.addGlyph (acc.1.map ClusterGroup.toGroupOf, acc.2) z =
      ((ShapedRun.addGlyph acc z).1.map ClusterGroup.toGroupOf, (ShapedRun.addGlyph acc z).2) := by
  obtain ⟨gs, pen⟩ := acc
  obtain ⟨c, a⟩ := z
  simp only [Stops.addGlyph, ShapedRun.addGlyph, Array.back?_map]
  cases gs.back? with
  | none => simp [ClusterGroup.toGroupOf]
  | some last =>
    by_cases same : last.start = c
    · simp [same, ClusterGroup.toGroupOf, Array.map_pop]
    · simp [same, ClusterGroup.toGroupOf]

theorem groups_toGroupOf (run : ShapedRun) :
    run.groups.map ClusterGroup.toGroupOf = Stops.groups (Binary32.ofNat 0) run.clusters run.advances := by
  have hom := @List.foldl_hom _ _ _ (fun acc : Array ClusterGroup × Binary32 =>
    (acc.1.map ClusterGroup.toGroupOf, acc.2)) ShapedRun.addGlyph Stops.addGlyph
    (run.clusters.zip run.advances) (#[], 0) (fun acc z => addGlyph_toGroupOf acc z)
  rw [Array.map_empty] at hom
  exact (congrArg Prod.fst hom).symm

theorem placeGroup_toGroupOf (run : ShapedRun) (gs : Array ClusterGroup) (acc : Array Binary32 × Nat)
    (i : Nat) :
    Stops.placeGroup Binary32.ofNat run.codeUnits (gs.map ClusterGroup.toGroupOf) acc i =
      run.placeGroup gs acc i := by
  obtain ⟨stops, covered⟩ := acc
  simp only [Stops.placeGroup, ShapedRun.placeGroup, Array.getElem?_map, Option.map_map]
  cases gs[i]? <;> rfl

theorem ShapedRun.caretStops_eq (run : ShapedRun) :
    run.caretStops = Stops.caretStops Binary32.ofNat run.clusters run.advances run.codeUnits run.width := by
  unfold ShapedRun.caretStops Stops.caretStops
  dsimp only
  have placing : Stops.placeGroup Binary32.ofNat run.codeUnits (run.groups.map ClusterGroup.toGroupOf) =
      run.placeGroup run.groups :=
    funext fun acc => funext fun i => placeGroup_toGroupOf run run.groups acc i
  rw [← groups_toGroupOf, Array.size_map, placing]
  rfl

/-! ### The placing pass -/

namespace Stops

theorem size_fillRange {α : Type} (a : Array α) (lo hi : Nat) (v : α) : (fillRange a lo hi v).size = a.size :=
  size_setRange a lo (hi - lo) fun _ => v

theorem getElem?_fillRange {α : Type} (a : Array α) (lo hi : Nat) (v : α) (j : Nat) :
    (fillRange a lo hi v)[j]? = if lo ≤ j ∧ j < hi then a[j]?.map fun _ => v else a[j]? := by
  rw [fillRange, getElem?_setRange]
  by_cases inside : lo ≤ j ∧ j < hi
  · rw [if_pos ⟨inside.1, by omega⟩, if_pos inside]
  · rw [if_neg (by omega), if_neg inside]

section Groups

variable {α : Type} (codeUnits : Nat) (gs : Array (GroupOf α))

/-- Where group `i` ends: at the next group's start, or at the end of the run. -/
def endAt (i : Nat) : Nat := (gs[i + 1]?.map GroupOf.start).getD codeUnits

/-- How far the stops are covered once `i` groups are placed. -/
def coveredAfter : Nat → Nat
  | 0 => 0
  | i + 1 => endAt codeUnits gs i

/-- Group starts that increase and lie inside the run. -/
structure Rising : Prop where
  increasing : (gs.toList.map GroupOf.start).Pairwise (· < ·)
  inside : ∀ g ∈ gs, g.start < codeUnits

variable {codeUnits gs}

theorem Rising.start_lt (rising : Rising codeUnits gs) {i j : Nat} {g h : GroupOf α}
    (hg : gs[i]? = some g) (hh : gs[j]? = some h) (order : i < j) : g.start < h.start := by
  obtain ⟨hi, rfl⟩ := Array.getElem?_eq_some_iff.1 hg
  obtain ⟨hj, rfl⟩ := Array.getElem?_eq_some_iff.1 hh
  have ordered := List.pairwise_iff_getElem.1 rising.increasing i j (by simpa using hi)
    (by simpa using hj) order
  simpa using ordered

theorem Rising.start_le (rising : Rising codeUnits gs) {i j : Nat} {g h : GroupOf α}
    (hg : gs[i]? = some g) (hh : gs[j]? = some h) (order : i ≤ j) : g.start ≤ h.start := by
  rcases Nat.lt_or_eq_of_le order with earlier | rfl
  · exact (rising.start_lt hg hh earlier).le
  · rw [hg, Option.some_inj] at hh
    rw [hh]

theorem Rising.start_lt_endAt (rising : Rising codeUnits gs) {i : Nat} {g : GroupOf α}
    (hg : gs[i]? = some g) : g.start < endAt codeUnits gs i := by
  unfold endAt
  cases hnext : gs[i + 1]? with
  | none => exact rising.inside g (Array.mem_of_getElem? hg)
  | some h => exact rising.start_lt hg hnext (Nat.lt_succ_self i)

theorem Rising.endAt_le (rising : Rising codeUnits gs) (i : Nat) : endAt codeUnits gs i ≤ codeUnits := by
  unfold endAt
  cases hnext : gs[i + 1]? with
  | none => exact le_rfl
  | some h => exact (rising.inside h (Array.mem_of_getElem? hnext)).le

theorem Rising.endAt_le_start (rising : Rising codeUnits gs) {i j : Nat} {g : GroupOf α}
    (hg : gs[j]? = some g) (order : i < j) : endAt codeUnits gs i ≤ g.start := by
  have bound : i + 1 < gs.size := by have := (Array.getElem?_eq_some_iff.1 hg).1; omega
  obtain ⟨h, hh⟩ : ∃ h, gs[i + 1]? = some h := ⟨gs[i + 1], Array.getElem?_eq_getElem bound⟩
  rw [endAt, hh, Option.map_some, Option.getD_some]
  exact rising.start_le hh hg order

theorem Rising.coveredAfter_le (rising : Rising codeUnits gs) {i : Nat} {g : GroupOf α}
    (hg : gs[i]? = some g) : coveredAfter codeUnits gs i ≤ g.start := by
  cases i with
  | zero => exact Nat.zero_le _
  | succ i => exact rising.endAt_le_start hg (Nat.lt_succ_self i)

theorem coveredAfter_size :
    (0 < gs.size → coveredAfter codeUnits gs gs.size = codeUnits) ∧
      (gs.size = 0 → coveredAfter codeUnits gs gs.size = 0) := by
  constructor
  · intro some_group
    obtain ⟨k, hk⟩ : ∃ k, gs.size = k + 1 := ⟨gs.size - 1, by omega⟩
    rw [hk, coveredAfter, endAt, Array.getElem?_eq_none (by omega), Option.map_none, Option.getD_none]
  · intro none_
    rw [none_, coveredAfter]

end Groups

section Placement

variable {α : Type} [Add α] [Mul α] [Div α] (ofNat : Nat → α) (codeUnits : Nat) (gs : Array (GroupOf α))

/-- The stop of group `g`, which ends at `e`, at unit `u`: its pen plus the share of its advance
for the units before `u`. -/
def share (g : GroupOf α) (e u : Nat) : α :=
  g.x + g.advance * ofNat (u - g.start) / ofNat (max (e - g.start) 1)

/-- The stops after `i` groups are placed: covered up to where group `i - 1` ends, the units
before the first group at its pen, and each placed group's units at its share. -/
structure Placed (i : Nat) (acc : Array α × Nat) : Prop where
  size : acc.1.size = codeUnits + 1
  covered : acc.2 = coveredAfter codeUnits gs i
  leading : ∀ g ∈ gs[0]?, ∀ u < min g.start acc.2, acc.1[u]? = some g.x
  spread : ∀ j < i, ∀ g ∈ gs[j]?, ∀ u, g.start ≤ u → u < endAt codeUnits gs j →
    acc.1[u]? = some (share ofNat g (endAt codeUnits gs j) u)

/-- What the stops hold once every group is placed and the rest filled with the width. -/
structure Laid (width : α) (stops : Array α) : Prop where
  size : stops.size = codeUnits + 1
  leading : ∀ g ∈ gs[0]?, ∀ u < g.start, stops[u]? = some g.x
  spread : ∀ j, ∀ g ∈ gs[j]?, ∀ u, g.start ≤ u → u < endAt codeUnits gs j →
    stops[u]? = some (share ofNat g (endAt codeUnits gs j) u)
  last : stops[codeUnits]? = some width
  empty : gs.size = 0 → ∀ u ≤ codeUnits, stops[u]? = some width

variable {codeUnits gs}

theorem placeGroup_eq (rising : Rising codeUnits gs) (stops : Array α) (covered : Nat) {i : Nat}
    {g : GroupOf α} (hg : gs[i]? = some g) :
    placeGroup ofNat codeUnits gs (stops, covered) i =
      ((List.range (endAt codeUnits gs i - g.start)).foldl (fun a k => a.set! (g.start + k)
        (g.x + g.advance * ofNat k / ofNat (max (endAt codeUnits gs i - g.start) 1)))
        (fillRange stops covered g.start g.x), endAt codeUnits gs i) := by
  have inside := rising.inside g (Array.mem_of_getElem? hg)
  have ends : (gs[i + 1]?.map fun n => min n.start codeUnits).getD codeUnits = endAt codeUnits gs i := by
    unfold endAt
    cases hnext : gs[i + 1]? with
    | none => rfl
    | some h => exact Nat.min_eq_left (rising.inside h (Array.mem_of_getElem? hnext)).le
  unfold placeGroup
  simp only [hg, ends, Nat.min_eq_left inside.le, Nat.max_eq_left (rising.start_lt_endAt hg).le]

theorem placed_zero : Placed ofNat codeUnits gs 0 (Array.replicate (codeUnits + 1) (ofNat 0), 0) where
  size := Array.size_replicate
  covered := rfl
  leading _ _ u below := absurd below (by omega)
  spread _ none := absurd none (Nat.not_lt_zero _)

theorem Placed.step (rising : Rising codeUnits gs) {i : Nat} {acc : Array α × Nat}
    (placed : Placed ofNat codeUnits gs i acc) (hi : i < gs.size) :
    Placed ofNat codeUnits gs (i + 1) (placeGroup ofNat codeUnits gs acc i) := by
  obtain ⟨stops, covered⟩ := acc
  obtain ⟨size, hcovered, leading, spread⟩ := placed
  dsimp only at size hcovered leading spread
  obtain ⟨g, hg⟩ : ∃ g, gs[i]? = some g := ⟨gs[i], Array.getElem?_eq_getElem hi⟩
  have reached : covered ≤ g.start := hcovered ▸ rising.coveredAfter_le hg
  have within := rising.start_lt_endAt hg
  have ends := rising.endAt_le i
  rw [placeGroup_eq ofNat rising stops covered hg]
  refine ⟨by rw [size_setRange, size_fillRange, size], rfl, ?_, ?_⟩
  · -- before the first group: its pen, set now for the first group and kept after
    intro g₀ first u below
    have before_group : u < g.start := by
      cases i with
      | zero =>
        rw [Option.mem_def, hg, Option.some_inj] at first
        subst first
        omega
      | succ i =>
        have := rising.start_le first hg (Nat.zero_le _)
        omega
    rw [getElem?_setRange, if_neg (by omega), getElem?_fillRange]
    cases i with
    | zero =>
      rw [Option.mem_def, hg, Option.some_inj] at first
      subst first
      rw [hcovered, coveredAfter, if_pos ⟨Nat.zero_le u, by omega⟩,
        Array.getElem?_eq_getElem (by omega), Option.map_some]
    | succ i =>
      have earlier := rising.start_le first hg (Nat.zero_le _)
      have covered_eq : covered = g.start := by
        rw [hcovered, coveredAfter, endAt, hg, Option.map_some, Option.getD_some]
      rw [if_neg (by omega)]
      exact leading g₀ first u (by omega)
  · intro j hj g' hg' u lo hi
    rcases Nat.lt_succ_iff_lt_or_eq.1 hj with earlier | rfl
    · -- an earlier group ends before this one starts, where the stops are covered
      have before := rising.endAt_le_start hg earlier
      have covered_eq : covered = g.start := by
        cases i with
        | zero => exact absurd earlier (Nat.not_lt_zero j)
        | succ i => rw [hcovered, coveredAfter, endAt, hg, Option.map_some, Option.getD_some]
      rw [getElem?_setRange, if_neg (by omega), getElem?_fillRange, if_neg (by omega)]
      exact spread j earlier g' hg' u lo hi
    · -- this group's own units take its share
      rw [Option.mem_def, hg, Option.some_inj] at hg'
      subst hg'
      rw [getElem?_setRange, if_pos ⟨lo, by omega⟩,
        Array.getElem?_eq_getElem (by rw [size_fillRange, size]; omega), Option.map_some]
      rfl

theorem placed_range (rising : Rising codeUnits gs) {i : Nat} (hi : i ≤ gs.size) :
    Placed ofNat codeUnits gs i
      ((List.range i).foldl (placeGroup ofNat codeUnits gs) (Array.replicate (codeUnits + 1) (ofNat 0), 0)) := by
  induction i with
  | zero => exact placed_zero ofNat
  | succ i ih =>
    rw [List.range_succ, List.foldl_append, List.foldl_cons, List.foldl_nil]
    exact (ih (by omega)).step ofNat rising (by omega)

theorem caretStops_laid {clusters : List Nat} {advances : List α} {width : α}
    (rising : Rising codeUnits (groups (ofNat 0) clusters advances)) :
    Laid ofNat codeUnits (groups (ofNat 0) clusters advances) width
      (caretStops ofNat clusters advances codeUnits width) := by
  unfold caretStops
  dsimp only
  generalize groups (ofNat 0) clusters advances = gs at rising ⊢
  obtain ⟨size, hcovered, leading, spread⟩ := placed_range ofNat rising (le_refl gs.size)
  generalize (List.range gs.size).foldl (placeGroup ofNat codeUnits gs)
    (Array.replicate (codeUnits + 1) (ofNat 0), 0) = acc at size hcovered leading spread
  obtain ⟨stops, covered⟩ := acc
  dsimp only at size hcovered leading spread ⊢
  obtain ⟨full, bare⟩ := @coveredAfter_size _ codeUnits gs
  have reach : covered ≤ codeUnits := by
    rcases Nat.eq_zero_or_pos gs.size with none_ | some_group
    · rw [hcovered, bare none_]; exact Nat.zero_le _
    · rw [hcovered, full some_group]
  refine ⟨by rw [size_fillRange, size], ?_, ?_, ?_, ?_⟩
  · intro g first u below
    have some_group : 0 < gs.size := (Array.getElem?_eq_some_iff.1 first).1
    have inside := rising.inside g (Array.mem_of_getElem? first)
    rw [hcovered, full some_group] at leading
    rw [getElem?_fillRange, hcovered, full some_group, if_neg (by omega)]
    exact leading g first u (by omega)
  · intro j g hg u lo hi
    have present : j < gs.size := (Array.getElem?_eq_some_iff.1 hg).1
    have ends := rising.endAt_le j
    rw [getElem?_fillRange, hcovered, full (by omega), if_neg (by omega)]
    exact spread j present g hg u lo hi
  · rw [getElem?_fillRange, if_pos ⟨reach, Nat.lt_succ_self _⟩, Array.getElem?_eq_getElem (by omega),
      Option.map_some]
  · intro none_ u hu
    rw [getElem?_fillRange, hcovered, bare none_, if_pos ⟨Nat.zero_le u, by omega⟩,
      Array.getElem?_eq_getElem (by omega), Option.map_some]

end Placement

end Stops

end GlyphCanvas
