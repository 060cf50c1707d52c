import Mathlib
import GlyphCanvas.Proofs.Float.Distance
import GlyphCanvas.Proofs.Float.Integral
import GlyphCanvas.Proofs.Layout.Caret

namespace GlyphCanvas

namespace FixedAdvance

open Binary32 Utf8

/-- The box of character `c` starting `u` units into the line: from the rounded caret before it to
the rounded caret after it, `height` high on the baseline and fully covered; none for white space
or when both carets round alike. -/
def charBox (advance : Binary32) (height : Nat) (c : Char) (u : Nat) : Option GlyphMask :=
  if isWhiteSpace c = true ∨ caret advance (u + charUnits c) ≤ caret advance u then none
  else
    let width := (caret advance (u + charUnits c) - caret advance u).toNat
    some ⟨caret advance u, -signed32 height, width, height, solidCoverage (width * height)⟩

/-- The boxes of the characters `cs`, in order, for a line whose first character starts `u`
units in. -/
def boxesFrom (advance : Binary32) (height : Nat) (cs : List Char) (u : Nat) : List GlyphMask :=
  (List.range cs.length).filterMap fun k => cs[k]?.bind fun c => charBox advance height c (u + units (cs.take k))

/-- The boxes of a line's characters, in order. -/
def lineBoxes (advance : Binary32) (height : Nat) (s : String) : List GlyphMask :=
  boxesFrom advance height s.toList 0

variable {advance : Binary32} {height : Nat}

theorem charBox_eq_some {c : Char} {u : Nat} {m : GlyphMask} (drawn : charBox advance height c u = some m) :
    isWhiteSpace c = false ∧ m.left = caret advance u ∧ m.left < caret advance (u + charUnits c) ∧
      m.left + m.width = caret advance (u + charUnits c) ∧ m.top = -signed32 height ∧ m.height = height ∧
      m.coverage = solidCoverage (m.width * m.height) := by
  unfold charBox at drawn
  split at drawn
  · cases drawn
  · rename_i visible
    cases drawn
    dsimp only
    refine ⟨by simpa using fun h => visible (.inl h), rfl, by omega, by omega, rfl, rfl, rfl⟩

theorem charBox_eq_none_iff {c : Char} {u : Nat} :
    charBox advance height c u = none ↔ isWhiteSpace c = true ∨ caret advance (u + charUnits c) ≤ caret advance u := by
  unfold charBox
  split
  · rename_i skip
    exact iff_of_true rfl skip
  · rename_i visible
    exact iff_of_false (Option.some_ne_none _) visible

theorem fill_toList (k : Nat) (b : ByteArray) :
    (solidCoverage.fill k b).data.toList = b.data.toList ++ List.replicate k 255 := by
  induction k generalizing b with
  | zero => simp [solidCoverage.fill]
  | succ k ih =>
    rw [solidCoverage.fill, ih, ByteArray.data_push, Array.toList_push, List.append_assoc, List.singleton_append,
      List.replicate_succ]

theorem solidCoverage_toList (n : Nat) : (solidCoverage n).data.toList = List.replicate n 255 := by
  rw [solidCoverage, fill_toList]
  rfl

theorem boxesFrom_cons (c : Char) (cs : List Char) (u : Nat) :
    boxesFrom advance height (c :: cs) u =
      (charBox advance height c u).toList ++ boxesFrom advance height cs (u + charUnits c) := by
  unfold boxesFrom
  rw [List.length_cons, List.range_succ_eq_map, List.filterMap_cons, List.filterMap_map]
  -- the `k + 1`-st character starts where the `k`-th character of the rest does
  have shift : ((fun k => (c :: cs)[k]?.bind fun c' => charBox advance height c' (u + units ((c :: cs).take k))) ∘
      Nat.succ) = fun k => cs[k]?.bind fun c' => charBox advance height c' (u + charUnits c + units (cs.take k)) := by
    funext k
    simp [Nat.add_assoc]
  simp only [shift, List.getElem?_cons_zero, Option.bind_some, List.take_zero, units_nil, Nat.add_zero]
  cases charBox advance height c u <;> rfl

/-! ### The boxes rasterizing makes -/

theorem box_ok {left : Int} {width : Nat} (negates : signed32 height ≠ -2147483648)
    (fits : width * height < 4294967296) :
    box left width height = .ok ⟨left, -signed32 height, width, height, solidCoverage (width * height)⟩ := by
  unfold box
  rw [if_neg negates, if_neg (by omega)]

theorem skipped_iff (c : Char) (u : Nat) :
    (isWhiteSpace c || (max (caret advance (u + charUnits c) - caret advance u) 0).toNat == 0) = true ↔
      charBox advance height c u = none := by
  unfold charBox
  by_cases skip : isWhiteSpace c = true ∨ caret advance (u + charUnits c) ≤ caret advance u
  · rw [if_pos skip]
    simp only [Bool.or_eq_true, beq_iff_eq, iff_true]
    rcases skip with blank | empty
    · exact .inl blank
    · exact .inr (by omega)
  · rw [if_neg skip]
    simp only [Bool.or_eq_true, beq_iff_eq, reduceCtorEq, iff_false, not_or] at skip ⊢
    exact ⟨skip.1, by omega⟩

theorem boxes_eq_boxesFrom (negates : signed32 height ≠ -2147483648) (cs : List Char) (u : Nat)
    (fits : ∀ m ∈ boxesFrom advance height cs u, m.width * m.height < 4294967296) :
    boxes advance height cs u = .ok (boxesFrom advance height cs u) := by
  induction cs generalizing u with
  | nil => rfl
  | cons c cs ih =>
    rw [boxesFrom_cons] at fits ⊢
    have rest := ih (u + charUnits c) fun m member => fits m (List.mem_append_right _ member)
    rw [boxes]
    cases drawn : charBox advance height c u with
    | none =>
      rw [if_pos ((skipped_iff c u).2 drawn), rest]
      rfl
    | some m =>
      obtain ⟨-, left, -, right, top, tall, solid⟩ := charBox_eq_some drawn
      have area := fits m (by rw [drawn]; exact List.mem_append_left _ (List.mem_singleton_self m))
      have width : (max (caret advance (u + charUnits c) - caret advance u) 0).toNat = m.width := by omega
      rw [if_neg (by rw [skipped_iff c u, drawn]; exact Option.some_ne_none m), width, box_ok negates
        (by rw [← tall]; exact area), rest]
      cases m
      dsimp only at left top tall solid ⊢
      subst left top tall solid
      rfl

theorem boxes_spaces (n : Nat) (rest : List Char) (u : Nat) :
    boxes advance height (List.replicate n ' ' ++ rest) u = boxes advance height rest (u + n) := by
  induction n generalizing u with
  | zero => rfl
  | succ n ih =>
    have blank : isWhiteSpace ' ' = true := by decide
    rw [List.replicate_succ, List.cons_append, boxes, blank, Bool.true_or, if_pos rfl, ih,
      show charUnits ' ' = 1 by decide, Nat.add_assoc, Nat.add_comm 1 n]

/-! ### Rounded carets -/

theorem caret_negZero {u : Nat} (small : u < 2 ^ 64) : caret negZero u = 0 := by
  obtain ⟨M, Q, du, -⟩ := decode_finite (ofNat_datum_lt_top small)
  rw [caret, mul_negZero du]
  decide

theorem caret_mono (ha : 0 ≤ advance) (finite : advance.isFinite = true) {u v : Nat} (order : u ≤ v)
    (small : v < 2 ^ 64) : caret advance u ≤ caret advance v := by
  rcases zero_le_cases ha with rfl | plus
  · rw [caret_negZero (by omega), caret_negZero small]
  · obtain ⟨pu, pv, products⟩ := mul_plus_mono (ofNat_datum_lt_top (by omega)) (ofNat_datum_lt_top small)
      (ofNat_datum_mono order) (isFinite_datum_lt plus finite)
    exact toInt32_mono pu.round pv.round (round_datum_mono pu pv products)

/-! ### The boxes of a line -/

section Line

variable (ha : 0 ≤ advance) (finite : advance.isFinite = true)
include ha finite

theorem boxesFrom_disjoint (cs : List Char) (small : units cs < 2 ^ 64) :
    (boxesFrom advance height cs 0).Pairwise fun m n : GlyphMask => m.left + m.width ≤ n.left := by
  unfold boxesFrom
  refine List.pairwise_filterMap.2 (List.pairwise_lt_range.imp_of_mem ?_)
  intro k k' _ later order m first n second
  obtain ⟨c, hc, drawn⟩ := Option.bind_eq_some_iff.1 first
  obtain ⟨c', hc', drawn'⟩ := Option.bind_eq_some_iff.1 second
  obtain ⟨-, -, -, right, -⟩ := charBox_eq_some drawn
  obtain ⟨-, left', -⟩ := charBox_eq_some drawn'
  -- the first box ends where its character ends, no later than the second character starts
  have ends : 0 + units (cs.take k) + charUnits c ≤ 0 + units (cs.take k') := by
    rw [Nat.zero_add, Nat.zero_add, ← units_take_succ hc]
    exact units_take_mono cs order
  have bound := units_take_le cs k'
  rw [right, left']
  exact caret_mono ha finite ends (by omega)

end Line

theorem boxesFrom_abut {cs : List Char} {k : Nat} {c c' : Char} (hc : cs[k]? = some c) {m m' : GlyphMask}
    (drawn : charBox advance height c (units (cs.take k)) = some m)
    (drawn' : charBox advance height c' (units (cs.take (k + 1))) = some m') : m.left + m.width = m'.left := by
  rw [(charBox_eq_some drawn).2.2.2.1, (charBox_eq_some drawn').2.1, units_take_succ hc]

theorem xAt_measure_fixed (ha : 0 ≤ advance) (s : String) (params : FontParameters) (device : DeviceContext)
    (size : s.utf8ByteSize < 2 ^ 64) {k : Nat} {c : Char} (hc : s.toList[k]? = some c) {j : Nat}
    (hj : j < c.utf8Size) :
    (measure s.toByteArray.data.toList (some params) (LayoutService.fixed advance) device).xAt
      ((String.ofList (s.toList.take k)).utf8ByteSize + j) = some (ofNat (units (s.toList.take (k + 1))) * advance) := by
  have inside : k < s.toList.length := (List.getElem?_eq_some_iff.1 hc).1
  have small : units s.toList < 2 ^ 64 := (units_le_utf8ByteSize s).trans_lt size
  rw [xAt_measure_text _ rfl (utf16Length_eq_units s).ge hc hj,
    lastCaret_fixed ha (utf16Length_eq_units s).ge small inside]

/-- Rasterizing a line with a finite advance `a ≥ 0`, when negating the height and every box's area
fit 32-bit arithmetic, gives the boxes of `lineBoxes` in order. Writing `U k` for the UTF-16 length
of the first `k` characters, the `k`-th character (from zero) has a box exactly when it is not white
space and its rounded carets `caret a (U k)` and `caret a (U (k + 1))` differ; the box runs from the
first to the second, `height` high on the baseline with its top at `-height` read as a signed 32-bit
number, and every octet of its `width · height` is full. It ends where the next character's box
starts and at the rounded position `measure` gives every octet of its character, and no two boxes
overlap. -/
theorem rasterize_boxes_follow_carets (a : Binary32) (s : String) (font : FontParameters)
    (device : DeviceContext) (ha : 0 ≤ a) (finite : a.isFinite = true) (size : s.utf8ByteSize < 2 ^ 64)
    (negates : signed32 (boxHeight font device) ≠ -2147483648)
    (fits : ∀ m ∈ lineBoxes a (boxHeight font device) s, m.width * m.height < 4294967296) :
    rasterize a s font device = .ok (lineBoxes a (boxHeight font device) s) ∧
      (lineBoxes a (boxHeight font device) s).Pairwise (fun m n : GlyphMask => m.left + m.width ≤ n.left) ∧
      ∀ k c, s.toList[k]? = some c →
        (charBox a (boxHeight font device) c (units (s.toList.take k)) = none ↔
          isWhiteSpace c = true ∨ caret a (units (s.toList.take (k + 1))) ≤ caret a (units (s.toList.take k))) ∧
        ∀ m, charBox a (boxHeight font device) c (units (s.toList.take k)) = some m →
          m.left = caret a (units (s.toList.take k)) ∧
          m.left + m.width = caret a (units (s.toList.take (k + 1))) ∧
          m.top = -signed32 (boxHeight font device) ∧ m.height = boxHeight font device ∧
          m.coverage.data.toList = List.replicate (m.width * m.height) 255 ∧
          (∀ c' m', s.toList[k + 1]? = some c' →
            charBox a (boxHeight font device) c' (units (s.toList.take (k + 1))) = some m' →
              m.left + m.width = m'.left) ∧
          ∀ j < c.utf8Size, ∃ x,
            (measure s.toByteArray.data.toList (some font) (LayoutService.fixed a) device).xAt
              ((String.ofList (s.toList.take k)).utf8ByteSize + j) = some x ∧
            m.left + m.width = x.round.toInt32 := by
  have small : units s.toList < 2 ^ 64 := (units_le_utf8ByteSize s).trans_lt size
  refine ⟨boxes_eq_boxesFrom negates s.toList 0 fits, boxesFrom_disjoint ha finite s.toList small, ?_⟩
  intro k c hc
  have next := units_take_succ hc
  refine ⟨by rw [charBox_eq_none_iff, next], fun m drawn => ?_⟩
  obtain ⟨-, left, -, right, top, tall, solid⟩ := charBox_eq_some drawn
  refine ⟨left, by rw [right, next], top, tall, by rw [solid, solidCoverage_toList], ?_, ?_⟩
  · intro c' m' _ drawn'
    exact boxesFrom_abut hc drawn drawn'
  · intro j hj
    refine ⟨_, xAt_measure_fixed ha s font device size hc hj, ?_⟩
    rw [right, ← next]
    rfl

/-- At an advance of `2^20` pixels the carets pass `2^31 - 1` at the 2048th unit. After 2047 spaces
"a" starts at `2047 · 2^20`, and its right caret stops at `2^31 - 1`, one short of the rounded
product `2^31`: its box is `2^20 - 1` pixels wide, where the rounded products differ by `2^20`. -/
theorem saturated_caret_narrows_box :
    ∃ m, rasterize 1048576 (String.ofList (List.replicate 2047 ' ' ++ ['a'])) (FontParameters.new "Reference" 1)
        (DeviceContext.new 72) = .ok [m] ∧
      m.left = 2146435072 ∧ m.width = 1048575 ∧
      (ofNat 2048 * 1048576).round.toRat - (ofNat 2047 * 1048576).round.toRat = 1048576 := by
  have tall : boxHeight (FontParameters.new "Reference" 1) (DeviceContext.new 72) = 1 := by decide
  refine ⟨⟨2146435072, -1, 1048575, 1, solidCoverage 1048575⟩, ?_, rfl, rfl, ?_⟩
  · rw [rasterize, String.toList_ofList, tall, boxes_spaces, boxes, if_neg (by decide),
      box_ok (by decide) (by decide)]
    rfl
  · rw [toRat, toRat, show (ofNat 2048 * 1048576).round.value = .finite false 8388608 8 by decide,
      show (ofNat 2047 * 1048576).round.value = .finite false 16769024 7 by decide]
    norm_num

/-- "a😀b" at an advance of five pixels in 12pt at 96 dpi: three boxes thirteen pixels high, the
emoji's spanning its two units. -/
theorem emoji_box_spans_two_advances :
    (0 : Binary32) ≤ 5 ∧ (5 : Binary32).isFinite = true ∧ "a😀b".utf8ByteSize < 2 ^ 64 ∧
      signed32 (boxHeight (FontParameters.new "Reference" 12) default) ≠ -2147483648 ∧
      (∀ m ∈ lineBoxes 5 (boxHeight (FontParameters.new "Reference" 12) default) "a😀b",
        m.width * m.height < 4294967296) ∧
      rasterize 5 "a😀b" (FontParameters.new "Reference" 12) default = .ok (lineBoxes 5 13 "a😀b") ∧
      (lineBoxes 5 13 "a😀b").map (fun m => (m.left, m.width, m.height)) = [(0, 5, 13), (5, 10, 13), (15, 5, 13)] := by
  have tall : boxHeight (FontParameters.new "Reference" 12) default = 13 := by decide
  have boxes := (rasterize_boxes_follow_carets 5 "a😀b" (FontParameters.new "Reference" 12) default
    (by decide) (by decide) (by decide) (by decide) (by decide)).1
  rw [tall] at boxes
  exact ⟨by decide, by decide, by decide, by decide, by decide, boxes, by decide⟩

end FixedAdvance

end GlyphCanvas
