import Mathlib
import GlyphCanvas.Shaping.Run
import GlyphCanvas.Proofs.Float.Arith
import GlyphCanvas.Proofs.Layout.Caret

namespace GlyphCanvas

open Binary32 Utf8

/-- The pen after the first `k` advances, added from `0` left to right. -/
def penAfter (advances : List Binary32) (k : Nat) : Binary32 := (advances.take k).foldl (· + ·) 0

section Pen

variable {advances : List Binary32}

theorem penAfter_succ {k : Nat} {a : Binary32} (h : advances[k]? = some a) :
    penAfter advances (k + 1) = penAfter advances k + a := by
  rw [penAfter, penAfter, List.take_add_one, h, Option.toList_some, List.foldl_append, List.foldl_cons,
    List.foldl_nil]

theorem penAfter_of_none {k : Nat} (h : advances[k]? = none) :
    penAfter advances (k + 1) = penAfter advances k := by
  rw [penAfter, penAfter, List.take_add_one, h, Option.toList_none, List.append_nil]

theorem penAfter_plus (nonneg : ∀ a ∈ advances, 0 ≤ a ∧ a.isFinite = true) (k : Nat) :
    (penAfter advances k).Plus := by
  induction k with
  | zero => exact zero_plus
  | succ k ih =>
    cases h : advances[k]? with
    | none => rw [penAfter_of_none h]; exact ih
    | some a =>
      obtain ⟨ha, finite⟩ := nonneg a (List.mem_of_getElem? h)
      rw [penAfter_succ h]
      exact (add_mono_of_nonneg ih ha finite).1

theorem penAfter_le_succ (nonneg : ∀ a ∈ advances, 0 ≤ a ∧ a.isFinite = true) (k : Nat) :
    penAfter advances k ≤ penAfter advances (k + 1) := by
  cases h : advances[k]? with
  | none => rw [penAfter_of_none h]; exact (penAfter_plus nonneg k).le_refl
  | some a =>
    obtain ⟨ha, finite⟩ := nonneg a (List.mem_of_getElem? h)
    rw [penAfter_succ h]
    exact (add_mono_of_nonneg (penAfter_plus nonneg k) ha finite).2

theorem add_share_zero {p a : Binary32} (hp : p.Plus) (ha : 0 ≤ a) (finite : a.isFinite = true) {m : Nat}
    (pos : 1 ≤ m) (small : m < 2 ^ 64) : p + a * Binary32.ofNat 0 / Binary32.ofNat m = p := by
  obtain ⟨M, Q, dm, nonzero⟩ := decode_ofNat pos small
  rw [show Binary32.ofNat 0 = 0 by decide]
  rcases mul_zero_of_nonneg ha finite with product | product <;> rw [product]
  · exact add_zero_of_plus hp (div_of_zero decode_zero dm nonzero)
  · exact add_zero_of_plus hp (div_of_zero decode_negZero dm nonzero)

end Pen

section Groups

/-- The groups of glyphs whose clusters all differ: each glyph opens a group at the pen. -/
def openGroups : List (Nat × Binary32) → Binary32 → List ClusterGroup
  | [], _ => []
  | (c, a) :: zs, pen => ⟨c, pen, a⟩ :: openGroups zs (pen + a)

theorem length_openGroups (zs : List (Nat × Binary32)) (pen : Binary32) :
    (openGroups zs pen).length = zs.length := by
  induction zs generalizing pen with
  | nil => rfl
  | cons z zs ih => simp [openGroups, ih]

theorem getElem?_openGroups (zs : List (Nat × Binary32)) (pen : Binary32) (i : Nat) :
    (openGroups zs pen)[i]? =
      zs[i]?.map fun z => ⟨z.1, ((zs.take i).map Prod.snd).foldl (· + ·) pen, z.2⟩ := by
  induction zs generalizing pen i with
  | nil => simp [openGroups]
  | cons z zs ih =>
    obtain ⟨c, a⟩ := z
    cases i with
    | zero => simp [openGroups]
    | succ i => simp [openGroups, ih]

theorem addGlyph_fresh {gs : Array ClusterGroup} {c : Nat} (fresh : ∀ last ∈ gs.back?, last.start ≠ c)
    (pen a : Binary32) : ShapedRun.addGlyph (gs, pen) (c, a) = (gs.push ⟨c, pen, a⟩, pen + a) := by
  simp only [ShapedRun.addGlyph]
  cases back : gs.back? with
  | none => rfl
  | some last => simp only [if_neg (fresh last back)]

theorem foldl_addGlyph (zs : List (Nat × Binary32)) (gs : Array ClusterGroup) (pen : Binary32)
    (increasing : (zs.map Prod.fst).Pairwise (· < ·))
    (after : ∀ last ∈ gs.back?, ∀ z ∈ zs, last.start < z.1) :
    (zs.foldl ShapedRun.addGlyph (gs, pen)).1.toList = gs.toList ++ openGroups zs pen := by
  induction zs generalizing gs pen with
  | nil => simp [openGroups]
  | cons z zs ih =>
    obtain ⟨c, a⟩ := z
    rw [List.map_cons, List.pairwise_cons] at increasing
    have fresh : ∀ last ∈ gs.back?, last.start ≠ c :=
      fun last member => (after last member (c, a) List.mem_cons_self).ne
    have later : ∀ last ∈ (gs.push ⟨c, pen, a⟩).back?, ∀ z ∈ zs, last.start < z.1 := by
      intro last member z inside
      rw [Array.back?_push, Option.mem_some_iff] at member
      subst member
      exact increasing.1 z.1 (List.mem_map_of_mem inside)
    rw [List.foldl_cons, addGlyph_fresh fresh, ih _ _ increasing.2 later, Array.toList_push, openGroups,
      List.append_assoc, List.singleton_append]

end Groups

section Stops

theorem size_setRange {α : Type} (a : Array α) (lo m : Nat) (f : Nat → α) :
    ((List.range m).foldl (fun a k => a.set! (lo + k) (f k)) a).size = a.size := by
  induction m with
  | zero => rfl
  | succ m ih =>
    rw [List.range_succ, List.foldl_append, List.foldl_cons, List.foldl_nil, Array.set!_eq_setIfInBounds,
      Array.size_setIfInBounds, ih]

theorem getElem?_setRange {α : Type} (a : Array α) (lo m : Nat) (f : Nat → α) (j : Nat) :
    ((List.range m).foldl (fun a k => a.set! (lo + k) (f k)) a)[j]? =
      if lo ≤ j ∧ j < lo + m then a[j]?.map fun _ => f (j - lo) else a[j]? := by
  induction m with
  | zero => simp
  | succ m ih =>
    rw [List.range_succ, List.foldl_append, List.foldl_cons, List.foldl_nil, Array.set!_eq_setIfInBounds,
      Array.getElem?_setIfInBounds, size_setRange, ih]
    by_cases hit : lo + m = j
    · subst hit
      by_cases inside : lo + m < a.size
      · simp [inside]
      · simp [inside]
    · rw [if_neg hit]
      by_cases range : lo ≤ j ∧ j < lo + m
      · rw [if_pos range, if_pos ⟨range.1, by omega⟩]
      · rw [if_neg range, if_neg (by omega)]

theorem placeGroup_at (run : ShapedRun) (gs : Array ClusterGroup) (stops : Array Binary32) {i : Nat}
    {g : ClusterGroup} (hg : gs[i]? = some g) {next : Nat}
    (hnext : (gs[i + 1]?.map fun n => min n.start run.codeUnits).getD run.codeUnits = next)
    (within : g.start ≤ run.codeUnits) (order : g.start ≤ next) :
    run.placeGroup gs (stops, g.start) i =
      ((List.range (next - g.start)).foldl (fun a k => a.set! (g.start + k)
        (g.x + g.advance * Binary32.ofNat k / Binary32.ofNat (max (next - g.start) 1))) stops, next) := by
  unfold ShapedRun.placeGroup
  simp only [hg, hnext, Nat.min_eq_left within, Nat.max_eq_left order]
  rw [show ShapedRun.fillRange stops g.start g.start g.x = stops by simp [ShapedRun.fillRange]]

end Stops

/-- A run that sets one glyph per character of `cs`: the `k`-th cluster is the UTF-16 offset the
`k`-th character starts at, the advances are finite and at or above zero, the run spans the
characters' units, and its width is the sum of the advances, added from zero left to right. -/
structure OneGlyphEach (run : ShapedRun) (cs : List Char) : Prop where
  clusters : run.clusters = (List.range cs.length).map fun k => units (cs.take k)
  advances : run.advances.length = cs.length
  nonneg : ∀ a ∈ run.advances, 0 ≤ a ∧ a.isFinite = true
  codeUnits : run.codeUnits = units cs
  width : run.width = run.advances.foldl (· + ·) 0

/-- The stops after the first `i` groups are placed: covered up to the `i`-th character's start,
with the pen before each earlier character's glyph at that character's start. -/
structure Placed (run : ShapedRun) (cs : List Char) (i : Nat) (placed : Array Binary32 × Nat) : Prop where
  size : placed.1.size = units cs + 1
  covered : placed.2 = units (cs.take i)
  pens : ∀ k < i, placed.1[units (cs.take k)]? = some (penAfter run.advances k)

section OneGlyphEach

variable {run : ShapedRun} {cs : List Char}

theorem units_take_lt {i j : Nat} (order : i < j) (inside : j ≤ cs.length) :
    units (cs.take i) < units (cs.take j) := by
  obtain ⟨c, hc⟩ : ∃ c, cs[i]? = some c := ⟨cs[i], List.getElem?_eq_getElem (by omega)⟩
  calc units (cs.take i) < units (cs.take i) + charUnits c := Nat.lt_add_of_pos_right (charUnits_pos c)
    _ = units (cs.take (i + 1)) := (units_take_succ hc).symm
    _ ≤ units (cs.take j) := units_take_mono cs order

theorem groups_one_each (each : OneGlyphEach run cs) :
    run.groups.toList = openGroups (run.clusters.zip run.advances) 0 := by
  have lengths : run.clusters.length = run.advances.length := by
    rw [each.clusters, List.length_map, List.length_range, each.advances]
  have increasing : ((run.clusters.zip run.advances).map Prod.fst).Pairwise (· < ·) := by
    rw [List.map_fst_zip lengths.le, each.clusters, List.pairwise_map]
    exact List.pairwise_lt_range.imp_of_mem fun _ later order =>
      units_take_lt order (List.mem_range.1 later).le
  unfold ShapedRun.groups
  rw [foldl_addGlyph _ #[] 0 increasing (by simp), Array.toList_empty, List.nil_append]

theorem size_groups (each : OneGlyphEach run cs) : run.groups.size = cs.length := by
  rw [← Array.length_toList, groups_one_each each, length_openGroups, List.length_zip, each.clusters,
    List.length_map, List.length_range, each.advances, Nat.min_self]

theorem groups_getElem? (each : OneGlyphEach run cs) {i : Nat} {a : Binary32} (ha : run.advances[i]? = some a) :
    run.groups[i]? = some ⟨units (cs.take i), penAfter run.advances i, a⟩ := by
  have inside : i < cs.length := each.advances ▸ (List.getElem?_eq_some_iff.1 ha).1
  have zipped : (run.clusters.zip run.advances)[i]? = some (units (cs.take i), a) := by
    rw [List.getElem?_zip_eq_some, each.clusters, List.getElem?_map, List.getElem?_range inside]
    exact ⟨rfl, ha⟩
  have lengths : run.advances.length ≤ run.clusters.length := by
    rw [each.clusters, List.length_map, List.length_range, each.advances]
  rw [← Array.getElem?_toList, groups_one_each each, getElem?_openGroups, zipped, Option.map_some,
    List.map_take, List.map_snd_zip lengths]
  rfl

theorem next_start (each : OneGlyphEach run cs) {i : Nat} (inside : i < cs.length) :
    (run.groups[i + 1]?.map fun n => min n.start run.codeUnits).getD run.codeUnits = units (cs.take (i + 1)) := by
  rcases Nat.lt_or_eq_of_le (Nat.succ_le_of_lt inside) with more | last
  · have more : i + 1 < run.advances.length := by rw [each.advances]; exact more
    obtain ⟨b, hb⟩ : ∃ b, run.advances[i + 1]? = some b := ⟨run.advances[i + 1], List.getElem?_eq_getElem more⟩
    rw [groups_getElem? each hb, Option.map_some, Option.getD_some, each.codeUnits,
      Nat.min_eq_left (units_take_le cs _)]
  · have last : i + 1 = cs.length := last
    rw [Array.getElem?_eq_none (by rw [size_groups each]; omega), Option.map_none, Option.getD_none,
      each.codeUnits, last, List.take_length]

theorem placed_step (each : OneGlyphEach run cs) {i : Nat} (inside : i < cs.length)
    {placed : Array Binary32 × Nat} (before : Placed run cs i placed) :
    Placed run cs (i + 1) (run.placeGroup run.groups placed i) := by
  obtain ⟨stops, covered⟩ := placed
  obtain ⟨size, rfl, pens⟩ := before
  have present : i < run.advances.length := by rw [each.advances]; exact inside
  obtain ⟨a, ha⟩ : ∃ a, run.advances[i]? = some a := ⟨run.advances[i], List.getElem?_eq_getElem present⟩
  obtain ⟨c, hc⟩ : ∃ c, cs[i]? = some c := ⟨cs[i], List.getElem?_eq_getElem inside⟩
  have advance := each.nonneg a (List.mem_of_getElem? ha)
  have width := units_take_succ hc
  have short := charUnits_le_two c
  have grows := charUnits_pos c
  rw [placeGroup_at run run.groups stops (groups_getElem? each ha) (next_start each inside)
    (by rw [each.codeUnits]; exact units_take_le cs i) (units_take_mono cs (Nat.le_succ i))]
  refine ⟨by rw [size_setRange]; exact size, rfl, ?_⟩
  intro k before
  rw [getElem?_setRange]
  simp only
  rcases Nat.lt_succ_iff_lt_or_eq.1 before with earlier | rfl
  · -- an earlier character starts below the group, so its stop stays
    have below := units_take_lt earlier inside.le
    rw [if_neg (by omega), pens k earlier]
  · -- the group's own start takes its pen plus a zero share
    have room : units (cs.take k) < stops.size := by
      rw [size]; exact Nat.lt_succ_of_le (units_take_le cs k)
    rw [if_pos ⟨le_rfl, by omega⟩, Array.getElem?_eq_getElem room, Option.map_some, Nat.sub_self,
      add_share_zero (penAfter_plus each.nonneg k) advance.1 advance.2 (by omega) (by omega)]

theorem placed_groups (each : OneGlyphEach run cs) {i : Nat} (inside : i ≤ cs.length) :
    Placed run cs i ((List.range i).foldl (run.placeGroup run.groups)
      (Array.replicate (run.codeUnits + 1) 0, 0)) := by
  induction i with
  | zero =>
    rw [List.range_zero, List.foldl_nil]
    exact ⟨by rw [Array.size_replicate, each.codeUnits], rfl, fun k none => absurd none (Nat.not_lt_zero k)⟩
  | succ i ih =>
    rw [List.range_succ, List.foldl_append, List.foldl_cons, List.foldl_nil]
    exact placed_step each (by omega) (ih (by omega))

theorem caretStops_one_each (each : OneGlyphEach run cs) :
    run.caretStops.size = units cs + 1 ∧
      ∀ k ≤ cs.length, run.caretStops[units (cs.take k)]? = some (penAfter run.advances k) := by
  have whole : units (cs.take cs.length) = units cs := by rw [List.take_length]
  unfold ShapedRun.caretStops
  simp only
  rw [size_groups each]
  generalize placing : List.foldl (run.placeGroup run.groups) (Array.replicate (run.codeUnits + 1) 0, 0)
    (List.range cs.length) = placed
  obtain ⟨size, covered, pens⟩ := placing ▸ placed_groups each (le_refl cs.length)
  refine ⟨by rw [ShapedRun.fillRange, size_setRange, size], fun k inside => ?_⟩
  rw [ShapedRun.fillRange, getElem?_setRange, covered, whole]
  rcases Nat.lt_or_eq_of_le inside with earlier | rfl
  · -- the stops before the end keep the pen placed with their group
    have below := units_take_lt earlier le_rfl
    rw [whole] at below
    rw [if_neg (by omega), pens k earlier]
  · -- the end takes the width, which is the pen after all advances
    rw [if_pos ⟨by rw [whole], by rw [whole, each.codeUnits]; omega⟩, whole,
      Array.getElem?_eq_getElem (by omega), Option.map_some, each.width, penAfter,
      List.take_of_length_le (by rw [each.advances])]

theorem toLayout_one_each (each : OneGlyphEach run cs) :
    run.toLayout.codeUnits = units cs ∧
      ∀ k ≤ cs.length, run.toLayout.cursorToX (units (cs.take k)) = penAfter run.advances k := by
  obtain ⟨size, stops⟩ := caretStops_one_each each
  refine ⟨by simp only [ShapedRun.toLayout, ShapedLayout.ofStops, size, Nat.add_sub_cancel], ?_⟩
  intro k inside
  simp only [ShapedRun.toLayout, ShapedLayout.ofStops, size, Nat.add_sub_cancel,
    Nat.min_eq_left (units_take_le cs k), stops k inside, Option.getD_some]

theorem lastCaret_one_each (each : OneGlyphEach run cs) {k : Nat} (inside : k < cs.length) :
    lastCaret run.toLayout 0 0 cs (k + 1) = penAfter run.advances (k + 1) :=
  lastCaret_of_growing _ (penAfter run.advances) (toLayout_one_each each).2
    (penAfter_plus each.nonneg 1).zero_le (fun m _ => penAfter_le_succ each.nonneg (m + 1)) inside

end OneGlyphEach

/-- A line laid out from a run with one glyph per character: every octet of the `k`-th character
(from zero) sits at the pen after that character's glyph, the advances added from zero left to
right. -/
theorem measure_one_glyph_each (s : String) (params : FontParameters) (device : DeviceContext)
    (service : LayoutService) (run : ShapedRun) (each : OneGlyphEach run s.toList)
    (shaped : service.shape s params device = some run.toLayout) :
    ∀ k c, s.toList[k]? = some c → ∀ j < c.utf8Size,
      (measure s.toByteArray.data.toList (some params) service device).xAt
        ((String.ofList (s.toList.take k)).utf8ByteSize + j) = some ((run.advances.take (k + 1)).foldl (· + ·) 0) := by
  intro k c hc j hj
  have inside : k < s.toList.length := (List.getElem?_eq_some_iff.1 hc).1
  rw [xAt_measure_text run.toLayout shaped (toLayout_one_each each).1.ge hc hj, lastCaret_one_each each inside]
  rfl

/-- "a😀b" shaped with advances 5, 7 and 6: the four octets of the emoji sit at 12, the pen after
its glyph, not at the stop halfway through its cluster. -/
theorem emoji_caret_at_next_pen :
    OneGlyphEach ⟨16, [1, 2, 3], [], [5, 7, 6], [0, 1, 3], 4, 18⟩ "a😀b".toList ∧
      (measure "a😀b".toByteArray.data.toList (some (FontParameters.new "Sans" 12))
        ⟨fun _ _ _ => some (ShapedRun.toLayout ⟨16, [1, 2, 3], [], [5, 7, 6], [0, 1, 3], 4, 18⟩),
          fun _ _ => none, fun _ _ _ => .ok []⟩ default).xAt 4 = some 12 := by
  have each : OneGlyphEach ⟨16, [1, 2, 3], [], [5, 7, 6], [0, 1, 3], 4, 18⟩ "a😀b".toList :=
    ⟨by decide, by decide, by decide, by decide, by decide⟩
  have caret : (measure "a😀b".toByteArray.data.toList (some (FontParameters.new "Sans" 12))
      ⟨fun _ _ _ => some (ShapedRun.toLayout ⟨16, [1, 2, 3], [], [5, 7, 6], [0, 1, 3], 4, 18⟩),
        fun _ _ => none, fun _ _ _ => .ok []⟩ default).xAt
        ((String.ofList ("a😀b".toList.take 1)).utf8ByteSize + 3) =
      some ((([5, 7, 6] : List Binary32).take 2).foldl (· + ·) 0) :=
    measure_one_glyph_each "a😀b" (FontParameters.new "Sans" 12) default
      ⟨fun _ _ _ => some (ShapedRun.toLayout ⟨16, [1, 2, 3], [], [5, 7, 6], [0, 1, 3], 4, 18⟩),
        fun _ _ => none, fun _ _ _ => .ok []⟩ _ each rfl 1 '😀' (by decide) 3 (by decide)
  rw [show (String.ofList ("a😀b".toList.take 1)).utf8ByteSize + 3 = 4 by decide,
    show (([5, 7, 6] : List Binary32).take 2).foldl (· + ·) 0 = 12 by decide] at caret
  exact ⟨each, caret⟩

end GlyphCanvas
