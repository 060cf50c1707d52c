import Mathlib
import GlyphCanvas.Proofs.Layout.Caret
import GlyphCanvas.Proofs.Float.Distance

namespace GlyphCanvas

open Binary32 Utf8

namespace PositionTable

/-- Whether an entry followed by `rest` ends a character: it is the last one, or the next one differs
from it. -/
def endsBefore (p : Binary32) : List Binary32 → Bool
  | [] => true
  | n :: _ => !n.eqv p

theorem hitScan_cons (x p : Binary32) (rest : List Binary32) (i best : Nat) (dist : Binary32) :
    hitScan x (p :: rest) i best dist =
      if endsBefore p rest && decide ((x - p).abs < dist) then hitScan x rest (i + 1) (i + 1) (x - p).abs
      else hitScan x rest (i + 1) best dist := by
  cases rest <;> rfl

theorem hitScan_of_no_win (x dist : Binary32) (ps : List Binary32) (i best : Nat)
    (beaten : ∀ p ∈ ps, ¬ (x - p).abs < dist) : hitScan x ps i best dist = best := by
  induction ps generalizing i with
  | nil => rfl
  | cons p ps ih =>
    rw [hitScan_cons, if_neg (by simp [beaten p List.mem_cons_self]),
      ih (i + 1) (fun q member => beaten q (List.mem_cons_of_mem p member))]

theorem hitScan_replicate {v : Binary32} (valid : v.isNaN = false) (x : Binary32) (rest : List Binary32)
    (n : Nat) : ∀ i best dist,
      hitScan x (List.replicate n v ++ v :: rest) i best dist = hitScan x (v :: rest) (i + n) best dist := by
  induction n with
  | zero => intro i best dist; rfl
  | succ n ih =>
    intro i best dist
    have inside : endsBefore v (List.replicate n v ++ v :: rest) = false := by
      cases n with
      | zero => simp [endsBefore, eqv_self valid]
      | succ n => simp [endsBefore, List.replicate_succ, eqv_self valid]
    rw [List.replicate_succ, List.cons_append, hitScan_cons, inside, Bool.false_and, if_neg (by simp), ih]
    rw [Nat.add_assoc, Nat.add_comm 1 n]

end PositionTable

open PositionTable

section Plateaus

/-- A table holding one value per character, repeated over the character's octets. -/
def charBlocks : List Char → List Binary32 → List Binary32
  | c :: cs, v :: vs => List.replicate c.utf8Size v ++ charBlocks cs vs
  | _, _ => []

theorem charBlocks_replicate (cs : List Char) (v : Binary32) :
    charBlocks cs (List.replicate cs.length v) = List.replicate (encode cs).length v := by
  induction cs with
  | nil => rfl
  | cons c cs ih =>
    rw [List.length_cons, List.replicate_succ, charBlocks, ih, encode_cons, List.length_append,
      String.length_utf8EncodeChar, List.replicate_add]

theorem hitScan_charBlocks (x : Binary32) (cs : List Char) (vs : List Binary32)
    (valid : ∀ v ∈ vs, v.isNaN = false) (i best : Nat) (dist : Binary32) :
    hitScan x (charBlocks cs vs) i best dist = best ∨
      ∃ k, 1 ≤ k ∧ k ≤ cs.length ∧ hitScan x (charBlocks cs vs) i best dist = i + (encode (cs.take k)).length := by
  induction cs generalizing vs i best dist with
  | nil => exact .inl rfl
  | cons c cs ih =>
    cases vs with
    | nil => exact .inl rfl
    | cons v vs =>
      obtain ⟨m, size⟩ : ∃ m, c.utf8Size = m + 1 := ⟨c.utf8Size - 1, by have := Char.utf8Size_pos c; omega⟩
      have valid_tail : ∀ w ∈ vs, w.isNaN = false := fun w member => valid w (List.mem_cons_of_mem v member)
      -- the scan reaches the character's last octet with its best unchanged, and goes on after it
      have later : ∀ best' dist', (hitScan x (charBlocks cs vs) (i + m + 1) best' dist' = best' ∨
          ∃ k, 1 ≤ k ∧ k ≤ (c :: cs).length ∧
            hitScan x (charBlocks cs vs) (i + m + 1) best' dist' = i + (encode ((c :: cs).take k)).length) := by
        intro best' dist'
        rcases ih vs valid_tail (i + m + 1) best' dist' with same | ⟨k, one, le, moved⟩
        · exact .inl same
        · refine .inr ⟨k + 1, by omega, by simpa using le, ?_⟩
          rw [moved, List.take_succ_cons, encode_cons, List.length_append, String.length_utf8EncodeChar, size]
          omega
      rw [charBlocks, size, List.replicate_succ', List.append_assoc, List.singleton_append,
        hitScan_replicate (valid v List.mem_cons_self), hitScan_cons]
      split
      · rcases later (i + m + 1) (x - v).abs with same | moved
        · refine .inr ⟨1, le_rfl, by simp, ?_⟩
          rw [same, List.take_succ_cons, List.take_zero, encode_cons, encode_nil, List.append_nil,
            String.length_utf8EncodeChar, size, Nat.add_assoc]
        · exact .inr moved
      · exact later best dist

theorem walk_of_spent (L : ShapedLayout) {b : UInt8} {bs : List UInt8} {unit : Nat} {last : Binary32}
    (spent : ¬ unit < L.codeUnits) : walk L (b :: bs) unit last = List.replicate (bs.length + 1) last := by
  rw [walk]
  exact if_neg fun both => spent both.1

theorem walk_charBlocks (L : ShapedLayout) (cs : List Char) (unit : Nat) (last : Binary32)
    (valid : last.isNaN = false) :
    ∃ vs, (∀ v ∈ vs, v.isNaN = false) ∧ walk L (encode cs) unit last = charBlocks cs vs := by
  induction cs generalizing unit last with
  | nil => exact ⟨[], by simp, by simp [walk, charBlocks]⟩
  | cons c cs ih =>
    by_cases room : unit < L.codeUnits
    · have fresh := not_nan_right (le_max_right (x := L.cursorToX (unit + charUnits c)) valid)
      obtain ⟨vs, valid_vs, rest⟩ := ih (unit + charUnits c) _ fresh
      refine ⟨_ :: vs, ?_, by rw [walk_encode_cons L c cs unit last room, rest, charBlocks]⟩
      intro v member
      rcases List.mem_cons.1 member with rfl | member
      · exact fresh
      · exact valid_vs v member
    · -- with no units left the walk repeats the last caret to the end of the line
      refine ⟨List.replicate (c :: cs).length last, fun v member => (List.eq_of_mem_replicate member) ▸ valid, ?_⟩
      obtain ⟨b, bs, encoded, -⟩ := utf8EncodeChar_lead c
      have whole : (b :: (bs ++ encode cs)).length = (encode (c :: cs)).length := by
        rw [encode_cons, encoded, List.cons_append]
      rw [charBlocks_replicate, encode_cons, encoded, List.cons_append, walk_of_spent L room,
        ← List.length_cons, whole]

theorem measure_charBlocks (s : String) (font : Option FontParameters) (service : LayoutService)
    (device : DeviceContext) :
    ∃ vs, (∀ v ∈ vs, v.isNaN = false) ∧
      (measure s.toByteArray.data.toList font service device).positions = charBlocks s.toList vs := by
  rw [toByteArray_eq_encode]
  rcases measure_cases (encode s.toList) font service device with table | ⟨L, table⟩
  · refine ⟨List.replicate s.toList.length 0, fun v member => ?_, by rw [table, charBlocks_replicate]⟩
    rw [List.eq_of_mem_replicate member]
    exact zero_plus.not_nan
  · rw [table]
    exact walk_charBlocks L s.toList 0 0 zero_plus.not_nan

end Plateaus

section Caret

variable {x : Binary32} (positive : 0 < x) (finite : x.isFinite = true)
include positive finite

theorem hitScan_below (post : List Binary32) (pre : List Binary32) (i best : Nat) (dist : Binary32)
    (pos : 0 < dist) (above : ∀ p ∈ pre, 0 ≤ p) (sorted : (pre ++ x :: post).Pairwise (· ≤ ·)) :
    ∃ best' dist', 0 < dist' ∧
      hitScan x (pre ++ x :: post) i best dist = hitScan x (x :: post) (i + pre.length) best' dist' := by
  induction pre generalizing i best dist with
  | nil => exact ⟨best, dist, pos, rfl⟩
  | cons p pre ih =>
    have plus := plus_of_pos positive
    rw [List.cons_append] at sorted
    obtain ⟨first, sorted⟩ := List.pairwise_cons.1 sorted
    have step : ∀ best' dist', 0 < dist' → ∃ best'' dist'', 0 < dist'' ∧
        hitScan x (pre ++ x :: post) (i + 1) best' dist' =
          hitScan x (x :: post) (i + (p :: pre).length) best'' dist'' := by
      intro best' dist' pos'
      obtain ⟨best'', dist'', pos'', rest⟩ :=
        ih (i + 1) best' dist' pos' (fun q member => above q (List.mem_cons_of_mem p member)) sorted
      refine ⟨best'', dist'', pos'', ?_⟩
      rw [rest, List.length_cons, Nat.add_assoc, Nat.add_comm 1]
    rw [List.cons_append, hitScan_cons]
    split
    · rename_i wins
      obtain ⟨ends, -⟩ := Bool.and_eq_true _ _ ▸ wins
      -- the entry after `p` is at most `x` and differs from `p`, so `p` lies strictly below `x`
      obtain ⟨n, rest, next, atMost⟩ : ∃ n rest, pre ++ x :: post = n :: rest ∧ n ≤ x := by
        cases pre with
        | nil => exact ⟨x, post, rfl, plus.le_refl⟩
        | cons q pre =>
          refine ⟨q, pre ++ x :: post, rfl, ?_⟩
          exact List.rel_of_pairwise_cons sorted (List.mem_append_right _ List.mem_cons_self)
      rw [next] at ends first
      have differs : n.eqv p = false := by simpa [endsBefore] using ends
      obtain ⟨np, nn, low⟩ := le_iff.1 (first n List.mem_cons_self)
      have unequal : p.key ≠ n.key := fun same => by
        rw [eqv_iff.2 ⟨nn, np, same.symm⟩] at differs
        exact Bool.noConfusion differs
      have below : p.key < x.key := lt_of_lt_of_le (lt_of_le_of_ne low unequal) (le_iff.1 atMost).2.2
      exact step _ _ (abs_sub_pos plus (isFinite_datum_lt plus finite) (above p List.mem_cons_self) below)
    · exact step best dist pos

theorem hitScan_caret (post : List Binary32) (i best : Nat) (dist : Binary32) (pos : 0 < dist)
    (ends : endsBefore x post = true) : hitScan x (x :: post) i best dist = i + 1 := by
  have plus := plus_of_pos positive
  have zero : (x - x).abs = 0 := by
    rw [sub_self_of_finite (isFinite_datum_lt plus finite), abs_of_plus zero_plus]
  rw [hitScan_cons, if_pos (by simp [ends, zero, pos]), zero]
  exact hitScan_of_no_win x 0 post (i + 1) (i + 1) fun p _ => not_abs_lt_zero (x - p)

theorem hitScan_sorted (pre post : List Binary32) (above : ∀ p ∈ pre, 0 ≤ p)
    (sorted : (pre ++ x :: post).Pairwise (· ≤ ·)) (ends : endsBefore x post = true) :
    hitScan x (pre ++ x :: post) 0 0 x.abs = pre.length + 1 := by
  have start : 0 < x.abs := by rw [abs_of_plus (plus_of_pos positive)]; exact positive
  obtain ⟨best, dist, pos, moved⟩ := hitScan_below positive finite post pre 0 0 x.abs start above sorted
  rw [moved, hitScan_caret positive finite post _ best dist pos ends, Nat.zero_add]

end Caret

/-- On well-formed text, whatever the font and the service: every hit lands on a character boundary
(offset `0` and the line's length included), and a click exactly on a positive finite caret where the
table changes value gives back the offset of that caret. -/
theorem hitTest_character_boundaries (s : String) (font : Option FontParameters) (service : LayoutService)
    (device : DeviceContext) :
    (∀ x : Binary32, ∃ k ≤ s.length,
      (measure s.toByteArray.data.toList font service device).hitTest x =
        (String.ofList (s.toList.take k)).utf8ByteSize) ∧
    ∀ (b : Nat) (x : Binary32), 1 ≤ b →
      (measure s.toByteArray.data.toList font service device).xAt (b - 1) = some x →
      (b = s.utf8ByteSize ∨
        ∃ y, (measure s.toByteArray.data.toList font service device).xAt b = some y ∧ y.eqv x = false) →
      x.isFinite = true → 0 < x →
      (measure s.toByteArray.data.toList font service device).hitTest x = b := by
  refine ⟨fun x => ?_, fun b x one hx change finite positive => ?_⟩
  · obtain ⟨vs, valid, table⟩ := measure_charBlocks s font service device
    rw [hitTest, table]
    rcases hitScan_charBlocks x s.toList vs valid 0 0 x.abs with start | ⟨k, -, le, hit⟩
    · exact ⟨0, Nat.zero_le _, by rw [start]; rfl⟩
    · exact ⟨k, String.length_toList ▸ le, by rw [hit, utf8ByteSize_ofList, Nat.zero_add]⟩
  · obtain ⟨above, sorted⟩ := measure_entries s.toByteArray.data.toList font service device
    have length := measure_len s.toByteArray.data.toList font service device
    have size : s.toByteArray.data.toList.length = s.utf8ByteSize := by
      rw [toByteArray_eq_encode, ← utf8ByteSize_ofList, String.ofList_toList]
    generalize (measure s.toByteArray.data.toList font service device) = T at *
    obtain ⟨inside, entry⟩ := List.getElem?_eq_some_iff.1 hx
    -- cut the table at the caret: the entries before it, the caret, and the entries after it
    have cut : T.positions = T.positions.take (b - 1) ++ x :: T.positions.drop b := by
      conv_lhs => rw [← List.take_append_drop (b - 1) T.positions]
      rw [List.drop_eq_getElem_cons inside, entry, Nat.sub_add_cancel one]
    have ends : endsBefore x (T.positions.drop b) = true := by
      rcases change with last | ⟨y, hy, differs⟩
      · rw [List.drop_eq_nil_of_le (by rw [PositionTable.len] at length; omega)]
        rfl
      · rw [List.drop_eq_getElem_cons (List.getElem?_eq_some_iff.1 hy).1, (List.getElem?_eq_some_iff.1 hy).2]
        simp [endsBefore, differs]
    rw [hitTest, cut, hitScan_sorted positive finite _ _ (fun p member => above p (List.mem_of_mem_take member))
      (cut ▸ sorted) ends, List.length_take, Nat.min_eq_left (by omega), Nat.sub_add_cancel one]

/-- In `a😀b` at advance `8` the caret after the emoji stands at `24` and the next one at `32`: a click
at `24` gives back offset `5`, right after the emoji. -/
theorem emoji_caret_clicks_back :
    1 ≤ 5 ∧
      (measure "a😀b".toByteArray.data.toList (some (FontParameters.new "Reference" 10)) (LayoutService.fixed 8)
        default).xAt (5 - 1) = some 24 ∧
      (5 = "a😀b".utf8ByteSize ∨ ∃ y, (measure "a😀b".toByteArray.data.toList
        (some (FontParameters.new "Reference" 10)) (LayoutService.fixed 8) default).xAt 5 = some y ∧
          y.eqv 24 = false) ∧
      (24 : Binary32).isFinite = true ∧ (0 : Binary32) < 24 ∧
      (measure "a😀b".toByteArray.data.toList (some (FontParameters.new "Reference" 10)) (LayoutService.fixed 8)
        default).hitTest 24 = 5 := by
  have caret : (measure "a😀b".toByteArray.data.toList (some (FontParameters.new "Reference" 10))
      (LayoutService.fixed 8) default).xAt (5 - 1) = some 24 := by decide +kernel
  have next : ∃ y, (measure "a😀b".toByteArray.data.toList (some (FontParameters.new "Reference" 10))
      (LayoutService.fixed 8) default).xAt 5 = some y ∧ y.eqv 24 = false := ⟨32, by decide +kernel, by decide⟩
  exact ⟨by decide, caret, .inr next, by decide, by decide,
    (hitTest_character_boundaries "a😀b" _ _ default).2 5 24 (by decide) caret (.inr next) (by decide) (by decide)⟩

namespace PositionTable

/-- The boundaries of a table from index `i` on: the offset after each entry that ends a character,
with that entry. -/
def boundaries : List Binary32 → Nat → List (Nat × Binary32)
  | [], _ => []
  | p :: rest, i =>
    if endsBefore p rest then (i + 1, p) :: boundaries rest (i + 1) else boundaries rest (i + 1)

/-- The candidates of a hit at `x` with their distances as computed in single precision: offset `0`
at `|x|`, and each boundary at `|x - entry|`. -/
def candidates (t : PositionTable) (x : Binary32) : List (Nat × Binary32) :=
  (0, x.abs) :: (boundaries t.positions 0).map fun b => (b.1, (x - b.2).abs)

/-- Offset `r` at distance `d` comes first among the least distances of `cands`, NaN distances left
out. -/
structure FirstLeast (cands : List (Nat × Binary32)) (r : Nat) (d : Binary32) : Prop where
  mem : (r, d) ∈ cands
  least : ∀ c e, (c, e) ∈ cands → e.isNaN = false → d ≤ e
  first : ∀ c e, (c, e) ∈ cands → e.isNaN = false → c < r → d < e

section Candidates

variable {H : List (Nat × Binary32)} {r i c : Nat} {d e e' : Binary32}

theorem mem_snoc_pair (member : (c, e') ∈ H ++ [(i, e)]) : (c, e') ∈ H ∨ c = i ∧ e' = e := by
  simpa using member

theorem FirstLeast.snoc_win (least : FirstLeast H r d) (wins : e < d) : FirstLeast (H ++ [(i + 1, e)]) (i + 1) e := by
  have valid : e.isNaN = false := (lt_iff.1 wins).1
  refine ⟨by simp, fun c e' member nan => ?_, fun c e' member nan before => ?_⟩
  · rcases mem_snoc_pair member with old | ⟨-, rfl⟩
    · exact le_of_lt (lt_of_lt_of_le wins (least.least c e' old nan))
    · exact le_refl_of_not_nan valid
  · rcases mem_snoc_pair member with old | ⟨rfl, -⟩
    · exact lt_of_lt_of_le wins (least.least c e' old nan)
    · omega

theorem FirstLeast.snoc_lose (least : FirstLeast H r d) (valid : d.isNaN = false)
    (earlier : ∀ c e, (c, e) ∈ H → c ≤ i) (loses : ¬ e < d) : FirstLeast (H ++ [(i + 1, e)]) r d := by
  have settled : r ≤ i := earlier r d least.mem
  refine ⟨List.mem_append_left _ least.mem, fun c e' member nan => ?_, fun c e' member nan before => ?_⟩
  · rcases mem_snoc_pair member with old | ⟨-, rfl⟩
    · exact least.least c e' old nan
    · exact le_of_not_lt nan valid loses
  · rcases mem_snoc_pair member with old | ⟨rfl, -⟩
    · exact least.first c e' old nan before
    · omega

end Candidates

theorem hitScan_firstLeast (x : Binary32) (ps : List Binary32) (i best : Nat) (dist : Binary32)
    (H : List (Nat × Binary32)) (valid : dist.isNaN = false) (least : FirstLeast H best dist)
    (earlier : ∀ c e, (c, e) ∈ H → c ≤ i) :
    ∃ d, FirstLeast (H ++ (boundaries ps i).map fun b => (b.1, (x - b.2).abs)) (hitScan x ps i best dist) d := by
  induction ps generalizing i best dist H with
  | nil => exact ⟨dist, by simpa [boundaries, hitScan] using least⟩
  | cons p rest ih =>
    rw [hitScan_cons]
    by_cases ends : endsBefore p rest = true
    · have later : ∀ c e, (c, e) ∈ H ++ [(i + 1, (x - p).abs)] → c ≤ i + 1 := by
        intro c e member
        rcases mem_snoc_pair member with old | ⟨rfl, -⟩
        · exact Nat.le_succ_of_le (earlier c e old)
        · exact le_rfl
      have split : boundaries (p :: rest) i = (i + 1, p) :: boundaries rest (i + 1) := by
        simp [boundaries, ends]
      rw [split, List.map_cons, ← List.singleton_append, ← List.append_assoc]
      by_cases wins : (x - p).abs < dist
      · rw [if_pos (by simp [ends, wins])]
        exact ih (i + 1) (i + 1) _ _ (lt_iff.1 wins).1 (least.snoc_win wins) later
      · rw [if_neg (by simp [wins])]
        exact ih (i + 1) best dist _ valid (least.snoc_lose valid earlier wins) later
    · have split : boundaries (p :: rest) i = boundaries rest (i + 1) := by simp [boundaries, ends]
      rw [split, if_neg (by simp [ends])]
      exact ih (i + 1) best dist H valid least fun c e member => Nat.le_succ_of_le (earlier c e member)

/-- For a non-NaN `x` the hit is the first of the candidates whose distance, computed in single
precision, is least (NaN distances left out): offset `0` at `|x|` and the offset after each entry
that ends a character at `|x - entry|`. The exact distances can order the candidates otherwise. -/
theorem hitTest_first_least_distance (t : PositionTable) (x : Binary32) (valid : x.isNaN = false) :
    ∃ d, FirstLeast (t.candidates x) (t.hitTest x) d := by
  have start : FirstLeast [(0, x.abs)] 0 x.abs := by
    refine ⟨List.mem_singleton_self _, fun c e member nan => ?_, fun c e member _ before => ?_⟩
    · obtain ⟨-, rfl⟩ := Prod.mk.inj (List.mem_singleton.1 member)
      exact le_refl_of_not_nan nan
    · obtain ⟨rfl, -⟩ := Prod.mk.inj (List.mem_singleton.1 member)
      omega
  have scan := hitScan_firstLeast x t.positions 0 0 x.abs [(0, x.abs)] (by rw [isNaN_abs]; exact valid) start
    (by simp)
  simpa [candidates, hitTest] using scan

/-- At `1e30` on the table `[8, 16]` the three candidates all lie at the computed distance `1e30`,
the first of them is offset `0`. -/
theorem far_click_first_least :
    (1e30 : Binary32).isNaN = false ∧
      ∃ d, FirstLeast ((⟨[8, 16]⟩ : PositionTable).candidates 1e30) ((⟨[8, 16]⟩ : PositionTable).hitTest 1e30) d :=
  ⟨by decide, hitTest_first_least_distance _ _ (by decide)⟩

end PositionTable

/-- Far to the right of `ab` at advance `8` every computed distance rounds to `1e30` itself, so no
boundary beats offset `0`, although the end of the line, at `16`, is nearer in exact arithmetic. -/
theorem far_click_keeps_line_start :
    (measure "ab".toByteArray.data.toList (some (FontParameters.new "Reference" 12)) (LayoutService.fixed 8)
      default).positions = [8, 16] ∧
    (measure "ab".toByteArray.data.toList (some (FontParameters.new "Reference" 12)) (LayoutService.fixed 8)
      default).hitTest 1e30 = 0 ∧
    |(1e30 : Binary32).toRat - (16 : Binary32).toRat| < |(1e30 : Binary32).toRat - 0| := by
  have far : (1e30 : Binary32).value = .finite false 13234890 76 := by decide +kernel
  have sixteen : (16 : Binary32).value = .finite false 8388608 (-19) := by decide +kernel
  refine ⟨by decide +kernel, by decide +kernel, ?_⟩
  rw [toRat, toRat, far, sixteen]
  norm_num

end GlyphCanvas
