import Mathlib
import GlyphCanvas.Proofs.Shaping.Stops

namespace GlyphCanvas

namespace Stops

section Reference

variable (zs : List (Nat × ℚ))

/-- The advances of the glyphs whose cluster lies before `c`: the pen where the group of `c`
starts. -/
def penBefore (c : Nat) : ℚ := ((zs.filter fun z => z.1 < c).map Prod.snd).sum

/-- The advances of the glyphs of cluster `c`. -/
def groupAdvance (c : Nat) : ℚ := ((zs.filter fun z => z.1 = c).map Prod.snd).sum

/-- Where the group of `c` ends: at the least later cluster, or at the end of the run. -/
def groupEnd (codeUnits c : Nat) : Nat :=
  (((zs.map Prod.fst).filter fun d => c < d).min?).getD codeUnits

/-- Caret stops as the glyphs `zs` (cluster and advance) call for: zero before the first
cluster, the pen of each cluster's group plus an even share of the group's advance across the
units up to where the group ends, and the width at the end; the width throughout when there is no
glyph. -/
structure FollowsClusters (codeUnits : Nat) (width : ℚ) (stops : Array ℚ) : Prop where
  size : stops.size = codeUnits + 1
  leading : ∀ c ∈ (zs.map Prod.fst).head?, ∀ u < c, stops[u]? = some 0
  spread : ∀ c ∈ zs.map Prod.fst, ∀ u, c ≤ u → u < groupEnd zs codeUnits c →
    stops[u]? = some (penBefore zs c + groupAdvance zs c * (u - c : Nat) / (groupEnd zs codeUnits c - c : Nat))
  last : stops[codeUnits]? = some width
  glyphless : zs = [] → ∀ u ≤ codeUnits, stops[u]? = some width

end Reference

section Pens

variable {zs : List (Nat × ℚ)}

theorem penBefore_cons (z : Nat × ℚ) (d : Nat) :
    penBefore (z :: zs) d = (if z.1 < d then z.2 else 0) + penBefore zs d := by
  by_cases h : z.1 < d <;> simp [penBefore, h]

theorem groupAdvance_cons (z : Nat × ℚ) (d : Nat) :
    groupAdvance (z :: zs) d = (if z.1 = d then z.2 else 0) + groupAdvance zs d := by
  by_cases h : z.1 = d <;> simp [groupAdvance, h]

theorem penBefore_snoc (c : Nat) (a : ℚ) (d : Nat) :
    penBefore (zs ++ [(c, a)]) d = penBefore zs d + if c < d then a else 0 := by
  by_cases h : c < d <;> simp [penBefore, List.filter_append, h]

theorem groupAdvance_snoc (c : Nat) (a : ℚ) (d : Nat) :
    groupAdvance (zs ++ [(c, a)]) d = groupAdvance zs d + if c = d then a else 0 := by
  by_cases h : c = d <;> simp [groupAdvance, List.filter_append, h]

theorem penBefore_of_lt {d : Nat} (below : ∀ z ∈ zs, z.1 < d) : penBefore zs d = (zs.map Prod.snd).sum := by
  rw [penBefore, List.filter_eq_self.2 (by simpa using below)]

theorem penBefore_of_le {d : Nat} (above : ∀ z ∈ zs, d ≤ z.1) : penBefore zs d = 0 := by
  rw [penBefore, List.filter_eq_nil_iff.2 (by simpa using above)]
  rfl

theorem groupAdvance_of_ne {d : Nat} (absent : ∀ z ∈ zs, z.1 ≠ d) : groupAdvance zs d = 0 := by
  rw [groupAdvance, List.filter_eq_nil_iff.2 (by simpa using absent)]
  rfl

variable (nonneg : ∀ z ∈ zs, 0 ≤ z.2)
include nonneg

theorem sum_advances_nonneg : 0 ≤ (zs.map Prod.snd).sum :=
  List.sum_nonneg fun x member => by
    obtain ⟨z, hz, rfl⟩ := List.mem_map.1 member
    exact nonneg z hz

theorem penBefore_nonneg (c : Nat) : 0 ≤ penBefore zs c :=
  List.sum_nonneg fun x member => by
    obtain ⟨z, hz, rfl⟩ := List.mem_map.1 member
    exact nonneg z (List.mem_of_mem_filter hz)

theorem groupAdvance_nonneg (c : Nat) : 0 ≤ groupAdvance zs c :=
  List.sum_nonneg fun x member => by
    obtain ⟨z, hz, rfl⟩ := List.mem_map.1 member
    exact nonneg z (List.mem_of_mem_filter hz)

theorem penThrough_le_penBefore {c c' : Nat} (order : c < c') :
    penBefore zs c + groupAdvance zs c ≤ penBefore zs c' := by
  induction zs with
  | nil => simp [penBefore, groupAdvance]
  | cons z zs ih =>
    have hz := nonneg z List.mem_cons_self
    have rest := ih fun y hy => nonneg y (List.mem_cons_of_mem z hy)
    rw [penBefore_cons, groupAdvance_cons, penBefore_cons]
    rcases Nat.lt_trichotomy z.1 c with below | same | above
    · rw [if_pos below, if_neg below.ne, if_pos (below.trans order)]
      linarith
    · rw [if_neg (by omega), if_pos same, if_pos (by omega)]
      linarith
    · rw [if_neg (by omega), if_neg (by omega)]
      split_ifs <;> linarith

theorem penThrough_le_total (c : Nat) : penBefore zs c + groupAdvance zs c ≤ (zs.map Prod.snd).sum := by
  induction zs with
  | nil => simp [penBefore, groupAdvance]
  | cons z zs ih =>
    have hz := nonneg z List.mem_cons_self
    have rest := ih fun y hy => nonneg y (List.mem_cons_of_mem z hy)
    rw [penBefore_cons, groupAdvance_cons, List.map_cons, List.sum_cons]
    split_ifs <;> linarith

end Pens

theorem share_bounds {A : ℚ} (hA : 0 ≤ A) {c u e : Nat} (lo : c ≤ u) (hi : u < e) :
    0 ≤ A * (u - c : Nat) / (e - c : Nat) ∧ A * (u - c : Nat) / (e - c : Nat) ≤ A := by
  have span : (0 : ℚ) < (e - c : Nat) := by exact_mod_cast Nat.sub_pos_of_lt (by omega)
  have part : ((u - c : Nat) : ℚ) ≤ (e - c : Nat) := by exact_mod_cast Nat.sub_le_sub_right hi.le c
  refine ⟨by positivity, ?_⟩
  rw [div_le_iff₀ span]
  exact mul_le_mul_of_nonneg_left part hA

theorem share_mono {A : ℚ} (hA : 0 ≤ A) (c u e : Nat) :
    A * (u - c : Nat) / (e - c : Nat) ≤ A * (u + 1 - c : Nat) / (e - c : Nat) := by
  have step : ((u - c : Nat) : ℚ) ≤ (u + 1 - c : Nat) := by exact_mod_cast Nat.sub_le_sub_right (Nat.le_succ u) c
  gcongr

/-! ### The grouping pass -/

/-- The groups made from the glyphs `p`, with the pen after them: the pen is the sum of their
advances, the groups' starts rise and are the clusters of `p`, and each group holds the pen before
its cluster and the advances of that cluster's glyphs. -/
structure Grouped (p : List (Nat × ℚ)) (acc : Array (GroupOf ℚ) × ℚ) : Prop where
  pen : acc.2 = (p.map Prod.snd).sum
  increasing : (acc.1.toList.map GroupOf.start).Pairwise (· < ·)
  starts : ∀ c, c ∈ acc.1.toList.map GroupOf.start ↔ c ∈ p.map Prod.fst
  exact : ∀ g ∈ acc.1.toList, g.x = penBefore p g.start ∧ g.advance = groupAdvance p g.start

theorem grouped_nil : Grouped [] (#[], ((0 : Nat) : ℚ)) where
  pen := by simp
  increasing := List.Pairwise.nil
  starts _ := by simp
  exact _ none := absurd none (by simp)

section Grouping

variable {p : List (Nat × ℚ)} {gs : Array (GroupOf ℚ)} {pen : ℚ} {last : GroupOf ℚ}

theorem Grouped.le_last (grouped : Grouped p (gs.push last, pen)) : ∀ z ∈ p, z.1 ≤ last.start := by
  intro z hz
  have member := (grouped.starts z.1).2 (List.mem_map_of_mem hz)
  have increasing := grouped.increasing
  simp only [Array.toList_push, List.map_append, List.map_cons, List.map_nil] at member increasing
  rcases List.mem_append.1 member with earlier | last_one
  · exact (increasing.rel_of_mem_append earlier List.mem_cons_self).le
  · rw [List.mem_singleton.1 last_one]

theorem Grouped.merge (grouped : Grouped p (gs.push last, pen)) {a : ℚ} :
    Grouped (p ++ [(last.start, a)]) (gs.push { last with advance := last.advance + a }, pen + a) := by
  obtain ⟨hpen, increasing, starts, exact⟩ := grouped
  dsimp only at hpen
  simp only [Array.toList_push, List.map_append, List.map_cons, List.map_nil] at increasing starts exact
  have earlier_lt : ∀ g ∈ gs.toList, g.start < last.start := fun g hg =>
    increasing.rel_of_mem_append (List.mem_map_of_mem hg) List.mem_cons_self
  refine ⟨by simp [hpen], by simpa using increasing, fun c => ?_, fun g hg => ?_⟩
  · have := starts c
    simp only [Array.toList_push, List.map_append, List.map_cons, List.map_nil, List.mem_append,
      List.mem_singleton] at this ⊢
    constructor
    · intro h
      exact .inl (this.1 h)
    · rintro (h | rfl)
      · exact this.2 h
      · exact .inr rfl
  · rw [penBefore_snoc, groupAdvance_snoc]
    simp only [Array.toList_push, List.mem_append, List.mem_singleton] at hg
    rcases hg with earlier | rfl
    · have below := earlier_lt g earlier
      obtain ⟨hx, hadv⟩ := exact g (List.mem_append_left _ earlier)
      rw [if_neg (by omega), if_neg (by omega), hx, hadv, add_zero, add_zero]
      exact ⟨rfl, rfl⟩
    · obtain ⟨hx, hadv⟩ := exact last (by simp)
      rw [if_neg (lt_irrefl _), if_pos rfl, add_zero]
      exact ⟨hx, by rw [← hadv]⟩

theorem Grouped.fresh (grouped : Grouped p (gs, pen)) {c : Nat} (above : ∀ g ∈ gs.toList, g.start < c)
    (ahead : ∀ z ∈ p, z.1 < c) {a : ℚ} :
    Grouped (p ++ [(c, a)]) (gs.push ⟨c, pen, a⟩, pen + a) := by
  obtain ⟨hpen, increasing, starts, exact⟩ := grouped
  simp only at hpen increasing starts exact
  refine ⟨by simp [hpen], ?_, fun d => ?_, fun g hg => ?_⟩
  · rw [Array.toList_push, List.map_append, List.pairwise_append]
    refine ⟨increasing, List.pairwise_singleton _ _, fun x hx y hy => ?_⟩
    obtain ⟨g, hg, rfl⟩ := List.mem_map.1 hx
    rw [List.map_cons, List.map_nil, List.mem_singleton] at hy
    rw [hy]
    exact above g hg
  · have := starts d
    simp only [Array.toList_push, List.map_append, List.map_cons, List.map_nil, List.mem_append,
      List.mem_singleton] at this ⊢
    rw [this]
  · rw [penBefore_snoc, groupAdvance_snoc]
    simp only [Array.toList_push, List.mem_append, List.mem_singleton] at hg
    rcases hg with earlier | rfl
    · have below := above g earlier
      obtain ⟨hx, hadv⟩ := exact g earlier
      rw [if_neg (by omega), if_neg (by omega), hx, hadv, add_zero, add_zero]
      exact ⟨rfl, rfl⟩
    · rw [if_neg (lt_irrefl _), if_pos rfl, add_zero, penBefore_of_lt ahead,
        groupAdvance_of_ne fun z hz => (ahead z hz).ne, zero_add]
      exact ⟨hpen, rfl⟩

theorem Grouped.addGlyph (grouped : Grouped p (gs, pen)) {c : Nat} {a : ℚ} (above : ∀ z ∈ p, z.1 ≤ c) :
    Grouped (p ++ [(c, a)]) (addGlyph (gs, pen) (c, a)) := by
  cases back : gs.back? with
  | none =>
    -- no group yet, so no glyph yet
    obtain rfl := Array.back?_eq_none_iff.1 back
    have empty : p = [] := by
      rcases p with _ | ⟨z, p⟩
      · rfl
      · have := (grouped.starts z.1).2 (by simp)
        simp at this
    subst empty
    simp only [Stops.addGlyph, back]
    exact grouped.fresh (by simp) (by simp)
  | some last =>
    obtain ⟨init, rfl⟩ := Array.back?_eq_some_iff.1 back
    have last_le := grouped.le_last
    simp only [Stops.addGlyph, Array.back?_push]
    by_cases same : last.start = c
    · subst same
      rw [if_pos rfl, Array.pop_push]
      exact grouped.merge
    · rw [if_neg same]
      have increasing := grouped.increasing
      simp only [Array.toList_push, List.map_append, List.map_cons, List.map_nil] at increasing
      obtain ⟨z, hz, hzs⟩ := List.mem_map.1 ((grouped.starts last.start).1 (by simp))
      have last_lt : last.start < c := lt_of_le_of_ne (hzs ▸ above z hz) same
      refine grouped.fresh (fun g hg => ?_) (fun z hz => lt_of_le_of_lt (last_le z hz) last_lt)
      simp only [Array.toList_push, List.mem_append, List.mem_singleton] at hg
      rcases hg with earlier | rfl
      · exact (increasing.rel_of_mem_append (List.mem_map_of_mem earlier) List.mem_cons_self).trans last_lt
      · exact last_lt

theorem Grouped.foldl {rest : List (Nat × ℚ)} {acc : Array (GroupOf ℚ) × ℚ} (grouped : Grouped p acc)
    (sorted : ((p ++ rest).map Prod.fst).Pairwise (· ≤ ·)) :
    Grouped (p ++ rest) (rest.foldl Stops.addGlyph acc) := by
  induction rest generalizing p acc with
  | nil => simpa using grouped
  | cons z rest ih =>
    obtain ⟨gs, pen⟩ := acc
    obtain ⟨c, a⟩ := z
    rw [List.map_append, List.map_cons] at sorted
    have above : ∀ y ∈ p, y.1 ≤ c := fun y hy =>
      sorted.rel_of_mem_append (List.mem_map_of_mem hy) List.mem_cons_self
    have next := ih (grouped.addGlyph (a := a) above) (by simpa using sorted)
    rw [List.append_assoc, List.singleton_append] at next
    exact next

end Grouping

section Groups

variable {zs : List (Nat × ℚ)} {gs : Array (GroupOf ℚ)} {pen : ℚ} {codeUnits : Nat}

theorem Grouped.rising (grouped : Grouped zs (gs, pen)) (inside : ∀ z ∈ zs, z.1 < codeUnits) :
    Rising codeUnits gs where
  increasing := grouped.increasing
  inside g hg := by
    obtain ⟨z, hz, hzs⟩ := List.mem_map.1
      ((grouped.starts g.start).1 (List.mem_map_of_mem (Array.mem_toList_iff.2 hg)))
    exact hzs ▸ inside z hz

theorem Grouped.index (grouped : Grouped zs (gs, pen)) {c : Nat} (hc : c ∈ zs.map Prod.fst) :
    ∃ j : Nat, ∃ g : GroupOf ℚ, gs[j]? = some g ∧ g.start = c := by
  obtain ⟨g, hg, rfl⟩ := List.mem_map.1 ((grouped.starts c).2 hc)
  obtain ⟨j, hj⟩ := Array.mem_iff_getElem?.1 (Array.mem_toList_iff.1 hg)
  exact ⟨j, g, hj, rfl⟩

theorem Grouped.start_mem (grouped : Grouped zs (gs, pen)) {j : Nat} {g : GroupOf ℚ} (hg : gs[j]? = some g) :
    g.start ∈ zs.map Prod.fst :=
  (grouped.starts g.start).1 (List.mem_map_of_mem (Array.mem_toList_iff.2 (Array.mem_of_getElem? hg)))

theorem Rising.index_lt (rising : Rising codeUnits gs) {j k : Nat} {g h : GroupOf ℚ} (hg : gs[j]? = some g)
    (hh : gs[k]? = some h) (order : g.start < h.start) : j < k := by
  by_contra later
  exact absurd (rising.start_le hh hg (Nat.le_of_not_lt later)) (Nat.not_le_of_lt order)

theorem Grouped.endAt_eq (grouped : Grouped zs (gs, pen)) (rising : Rising codeUnits gs) {j : Nat}
    {g : GroupOf ℚ} (hg : gs[j]? = some g) : endAt codeUnits gs j = groupEnd zs codeUnits g.start := by
  unfold endAt groupEnd
  cases hnext : gs[j + 1]? with
  | none =>
    -- no group follows, so no cluster lies after this group's start
    have none_after : ((zs.map Prod.fst).filter fun d => g.start < d) = [] := by
      rw [List.filter_eq_nil_iff]
      intro d hd after
      obtain ⟨k, h, hk, rfl⟩ := grouped.index hd
      have later := rising.index_lt hg hk (by simpa using after)
      have present := (Array.getElem?_eq_some_iff.1 hk).1
      rw [Array.getElem?_eq_getElem (by omega)] at hnext
      exact absurd hnext (Option.some_ne_none _)
    rw [none_after]
    rfl
  | some h =>
    -- the next group starts at the least later cluster
    have least : ((zs.map Prod.fst).filter fun d => g.start < d).min? = some h.start := by
      rw [List.min?_eq_some_iff]
      refine ⟨List.mem_filter.2 ⟨grouped.start_mem hnext, by simpa using rising.start_lt hg hnext (Nat.lt_succ_self j)⟩,
        fun b hb => ?_⟩
      obtain ⟨hb, after⟩ := List.mem_filter.1 hb
      obtain ⟨k, h', hk, rfl⟩ := grouped.index hb
      exact rising.start_le hnext hk (rising.index_lt hg hk (by simpa using after))
    rw [least]
    rfl

theorem head_le_of_pairwise {l : List Nat} (sorted : l.Pairwise (· ≤ ·)) {c d : Nat} (hc : c ∈ l.head?)
    (hd : d ∈ l) : c ≤ d := by
  cases l with
  | nil => exact absurd hc (by simp)
  | cons x rest =>
    rw [List.head?_cons, Option.mem_some_iff] at hc
    subst hc
    rcases List.mem_cons.1 hd with rfl | later
    · exact le_rfl
    · exact List.rel_of_pairwise_cons sorted later

theorem Grouped.first (grouped : Grouped zs (gs, pen)) (rising : Rising codeUnits gs)
    (sorted : (zs.map Prod.fst).Pairwise (· ≤ ·)) {c : Nat} (hc : c ∈ (zs.map Prod.fst).head?) :
    ∃ g, gs[0]? = some g ∧ g.start = c := by
  obtain ⟨k, h, hk, rfl⟩ := grouped.index (List.mem_of_mem_head? hc)
  have present := (Array.getElem?_eq_some_iff.1 hk).1
  obtain ⟨g, hg⟩ : ∃ g, gs[0]? = some g := ⟨gs[0], Array.getElem?_eq_getElem (by omega)⟩
  exact ⟨g, hg, le_antisymm (rising.start_le hg hk (Nat.zero_le k))
    (head_le_of_pairwise sorted hc (grouped.start_mem hg))⟩

end Groups

/-! ### Stops that follow the clusters -/

section Follows

variable {zs : List (Nat × ℚ)} {codeUnits : Nat} {width : ℚ} {stops : Array ℚ}

theorem zip_fst_sublist (clusters : List Nat) (advances : List ℚ) :
    List.Sublist ((clusters.zip advances).map Prod.fst) clusters := by
  rw [List.zip_eq_zip_take_min, List.map_fst_zip (by simp)]
  exact List.take_sublist _ _

theorem zip_inside {clusters : List Nat} {advances : List ℚ} (inside : ∀ c ∈ clusters, c < codeUnits) :
    ∀ z ∈ clusters.zip advances, z.1 < codeUnits :=
  fun z hz => inside z.1 ((zip_fst_sublist clusters advances).subset (List.mem_map_of_mem hz))

theorem caretStops_follows {clusters : List Nat} (advances : List ℚ) (width : ℚ)
    (sorted : clusters.Pairwise (· ≤ ·)) (inside : ∀ c ∈ clusters, c < codeUnits) :
    FollowsClusters (clusters.zip advances) codeUnits width (caretStops Nat.cast clusters advances codeUnits width) := by
  have zsorted := sorted.sublist (zip_fst_sublist clusters advances)
  have folded : Grouped ([] ++ clusters.zip advances)
      ((clusters.zip advances).foldl Stops.addGlyph (#[], ((0 : Nat) : ℚ))) :=
    grouped_nil.foldl (by simpa using zsorted)
  rw [List.nil_append] at folded
  have grouped : Grouped (clusters.zip advances) (groups ((0 : Nat) : ℚ) clusters advances, _) := folded
  have rising := grouped.rising (zip_inside inside)
  have laid : Laid Nat.cast codeUnits (groups ((0 : Nat) : ℚ) clusters advances) width
      (caretStops Nat.cast clusters advances codeUnits width) := caretStops_laid Nat.cast rising
  refine ⟨laid.size, fun c hc u hu => ?_, fun c hc u lo hi => ?_, laid.last, fun none_ => ?_⟩
  · -- before the first cluster: the first group's pen, before which no glyph lies
    obtain ⟨g, hg, rfl⟩ := grouped.first rising zsorted hc
    rw [laid.leading g hg u hu, (grouped.exact g (Array.mem_toList_iff.2 (Array.mem_of_getElem? hg))).1,
      penBefore_of_le fun z hz => head_le_of_pairwise zsorted hc (List.mem_map_of_mem hz)]
  · -- inside a group: the share the pass gives, its group read off the glyphs
    obtain ⟨j, g, hg, rfl⟩ := grouped.index hc
    have ends := grouped.endAt_eq rising hg
    obtain ⟨hx, hadv⟩ := grouped.exact g (Array.mem_toList_iff.2 (Array.mem_of_getElem? hg))
    rw [laid.spread j g hg u lo (ends ▸ hi), share, ends, Nat.max_eq_left (by omega), hx, hadv]
  · -- no glyph, so no group
    refine laid.empty (Array.size_eq_zero_iff.2 (Array.eq_empty_of_size_eq_zero ?_))
    by_contra some_group
    have first := grouped.start_mem (Array.getElem?_eq_getElem (Nat.pos_of_ne_zero some_group))
    rw [none_] at first
    exact absurd first List.not_mem_nil

theorem lt_groupEnd {c u : Nat} (hu : u < codeUnits)
    (latest : ∀ d ∈ zs.map Prod.fst, d ≤ u → d ≤ c) : u < groupEnd zs codeUnits c := by
  unfold groupEnd
  cases least : ((zs.map Prod.fst).filter fun d => c < d).min? with
  | none => exact hu
  | some e =>
    obtain ⟨member, -⟩ := List.min?_eq_some_iff.1 least
    obtain ⟨he, after⟩ := List.mem_filter.1 member
    have after : c < e := by simpa using after
    by_contra reached
    exact absurd (latest e he (by simpa using reached)) (by omega)

theorem exists_group {u c₀ : Nat} (hc₀ : c₀ ∈ zs.map Prod.fst)
    (reached : c₀ ≤ u) (hu : u < codeUnits) :
    ∃ c ∈ zs.map Prod.fst, c ≤ u ∧ u < groupEnd zs codeUnits c := by
  cases most : ((zs.map Prod.fst).filter fun d => d ≤ u).max? with
  | none =>
    rw [List.max?_eq_none_iff, List.filter_eq_nil_iff] at most
    exact absurd (by simpa using reached) (most c₀ hc₀)
  | some c =>
    obtain ⟨member, greatest⟩ := List.max?_eq_some_iff.1 most
    obtain ⟨hc, below⟩ := List.mem_filter.1 member
    exact ⟨c, hc, by simpa using below,
      lt_groupEnd hu fun d hd hdu => greatest d (List.mem_filter.2 ⟨hd, by simpa using hdu⟩)⟩

section Rising

variable (follows : FollowsClusters zs codeUnits width stops) (sorted : (zs.map Prod.fst).Pairwise (· ≤ ·))
  (inside : ∀ z ∈ zs, z.1 < codeUnits) (nonneg : ∀ z ∈ zs, 0 ≤ z.2) (total : width = (zs.map Prod.snd).sum)
include follows sorted inside nonneg total

omit inside in
theorem FollowsClusters.between {u : Nat} (hu : u < codeUnits) {v : ℚ} (hv : stops[u]? = some v) :
    (v = 0 ∧ ∀ c ∈ zs.map Prod.fst, u < c) ∨
      ∃ c ∈ zs.map Prod.fst, c ≤ u ∧ u < groupEnd zs codeUnits c ∧ penBefore zs c ≤ v ∧
        v ≤ penBefore zs c + groupAdvance zs c := by
  cases first : (zs.map Prod.fst).head? with
  | none =>
    -- no glyph: the width, which is the empty sum
    have empty : zs = [] := by simpa using first
    rw [follows.glyphless empty u hu.le, total, empty, Option.some_inj] at hv
    exact .inl ⟨hv.symm, by simp [empty]⟩
  | some c₀ =>
    by_cases before : u < c₀
    · rw [follows.leading c₀ first u before, Option.some_inj] at hv
      exact .inl ⟨hv.symm, fun c hc => lt_of_lt_of_le before (head_le_of_pairwise sorted first hc)⟩
    · obtain ⟨c, hc, lo, hi⟩ := exists_group (List.mem_of_mem_head? first) (by omega) hu
      rw [follows.spread c hc u lo hi, Option.some_inj] at hv
      obtain ⟨low, high⟩ := share_bounds (groupAdvance_nonneg nonneg c) lo hi
      refine .inr ⟨c, hc, lo, hi, ?_, ?_⟩ <;> rw [← hv] <;> linarith

omit inside in
theorem FollowsClusters.le_succ {u : Nat} (hu : u < codeUnits) {v v' : ℚ} (hv : stops[u]? = some v)
    (hv' : stops[u + 1]? = some v') : v ≤ v' := by
  rcases Nat.lt_or_ge (u + 1) codeUnits with before_end | at_end
  · rcases follows.between sorted nonneg total before_end hv' with ⟨rfl, after⟩ | ⟨c', hc', lo', hi', above', -⟩
    · -- the next unit lies before every cluster, so this one does too
      rcases follows.between sorted nonneg total hu hv with ⟨rfl, -⟩ | ⟨c, hc, lo, -, -, -⟩
      · exact le_rfl
      · exact absurd (after c hc) (by omega)
    · by_cases same : c' ≤ u
      · -- both units lie in the group of `c'`
        rw [follows.spread c' hc' u same (by omega), Option.some_inj] at hv
        rw [follows.spread c' hc' (u + 1) lo' hi', Option.some_inj] at hv'
        have grows := share_mono (groupAdvance_nonneg nonneg c') c' u (groupEnd zs codeUnits c')
        rw [← hv, ← hv']
        linarith
      · -- the next unit starts the group of `c'`, past the end of this unit's group
        rcases follows.between sorted nonneg total hu hv with ⟨rfl, -⟩ | ⟨c, -, lo, -, -, upper⟩
        · exact (penBefore_nonneg nonneg c').trans above'
        · calc v ≤ penBefore zs c + groupAdvance zs c := upper
            _ ≤ penBefore zs c' := penThrough_le_penBefore nonneg (by omega)
            _ ≤ v' := above'
  · -- the next unit is the end, which stands at the sum of all advances
    have last : u + 1 = codeUnits := by omega
    rw [last, follows.last, Option.some_inj] at hv'
    rw [← hv', total]
    rcases follows.between sorted nonneg total hu hv with ⟨rfl, -⟩ | ⟨c, -, -, -, -, upper⟩
    · exact sum_advances_nonneg nonneg
    · exact upper.trans (penThrough_le_total nonneg c)

theorem FollowsClusters.rising : stops.toList.Pairwise (· ≤ ·) ∧ stops[0]? = some 0 := by
  refine ⟨List.isChain_iff_pairwise.1 (List.isChain_iff_getElem.2 fun i hi => ?_), ?_⟩
  · have size := follows.size
    rw [Array.length_toList] at hi
    rw [Array.getElem_toList, Array.getElem_toList]
    exact follows.le_succ sorted nonneg total (by omega) (Array.getElem?_eq_getElem _)
      (Array.getElem?_eq_getElem _)
  · cases first : (zs.map Prod.fst).head? with
    | none =>
      have empty : zs = [] := by simpa using first
      rw [follows.glyphless empty 0 (Nat.zero_le _), total, empty]
      rfl
    | some c₀ =>
      rcases Nat.eq_zero_or_pos c₀ with rfl | pos
      · -- the first group starts at zero, where no advance lies before it
        have hc₀ := List.mem_of_mem_head? first
        obtain ⟨z, hz, hz0⟩ := List.mem_map.1 hc₀
        have within := inside z hz
        rw [follows.spread 0 hc₀ 0 le_rfl (lt_groupEnd (by omega) fun d _ hd => hd),
          penBefore_of_le fun _ _ => Nat.zero_le _]
        simp
      · exact follows.leading c₀ first 0 pos

end Rising

end Follows

/-- In exact arithmetic, the caret stops of a run whose clusters do not decrease and lie inside it
follow its clusters, the glyphs being the clusters and advances taken in pairs; with the glyphs'
advances at or above zero and the width their sum, the stops rise from zero to the width. -/
theorem exact_caretStops_follow_clusters (clusters : List Nat) (advances : List ℚ) (codeUnits : Nat)
    (width : ℚ) (sorted : clusters.Pairwise (· ≤ ·)) (inside : ∀ c ∈ clusters, c < codeUnits) :
    FollowsClusters (clusters.zip advances) codeUnits width (caretStops Nat.cast clusters advances codeUnits width) ∧
      ((∀ z ∈ clusters.zip advances, 0 ≤ z.2) → width = ((clusters.zip advances).map Prod.snd).sum →
        (caretStops Nat.cast clusters advances codeUnits width).toList.Pairwise (· ≤ ·) ∧
          (caretStops Nat.cast clusters advances codeUnits width)[0]? = some 0 ∧
          (caretStops Nat.cast clusters advances codeUnits width)[codeUnits]? = some width) := by
  have follows := caretStops_follows advances width sorted inside
  refine ⟨follows, fun nonneg total => ?_⟩
  obtain ⟨rising, first⟩ :=
    follows.rising (sorted.sublist (zip_fst_sublist clusters advances)) (zip_inside inside) nonneg total
  exact ⟨rising, first, follows.last⟩

/-- A base glyph and a mark of no advance in cluster 0, then a glyph at unit 2: the group's advance
of 6 is spread over units 0 and 1, and the stops rise to the width 12. -/
theorem combining_mark_spreads_base :
    ([0, 0, 2] : List Nat).Pairwise (· ≤ ·) ∧ (∀ c ∈ ([0, 0, 2] : List Nat), c < 3) ∧
      FollowsClusters ([0, 0, 2].zip [6, 0, 6]) 3 12 (caretStops Nat.cast [0, 0, 2] [6, 0, 6] 3 12) ∧
      (caretStops (Nat.cast : Nat → ℚ) [0, 0, 2] [6, 0, 6] 3 12).toList.Pairwise (· ≤ ·) := by
  have sorted : ([0, 0, 2] : List Nat).Pairwise (· ≤ ·) := by decide
  have inside : ∀ c ∈ ([0, 0, 2] : List Nat), c < 3 := by decide
  obtain ⟨follows, rises⟩ := exact_caretStops_follow_clusters [0, 0, 2] [6, 0, 6] 3 12 sorted inside
  exact ⟨sorted, inside, follows, (rises (by simp) (by norm_num)).1⟩

/-- A run with an advance but no cluster has no glyph, so every stop stands at its width: with its
advances at or above zero and its width their sum, its first stop is the width 3, not 0, in exact
arithmetic and in binary32 alike. -/
theorem glyphless_run_starts_at_width :
    (∀ a ∈ ([3] : List ℚ), 0 ≤ a) ∧ (3 : ℚ) = [3].sum ∧
      caretStops (Nat.cast : Nat → ℚ) [] [3] 1 3 = #[3, 3] ∧
      (⟨12, [], [], [3], [], 1, 3⟩ : ShapedRun).caretStops = #[3, 3] := by
  refine ⟨by norm_num, by norm_num, by decide, by decide⟩

end Stops

end GlyphCanvas
