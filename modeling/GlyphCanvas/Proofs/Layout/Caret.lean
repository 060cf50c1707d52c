import Mathlib
import GlyphCanvas.Layout.Positions
import GlyphCanvas.Layout.Fixed
import GlyphCanvas.Proofs.Float.Arith
import GlyphCanvas.Proofs.Text.Utf8

namespace GlyphCanvas

open Binary32 Utf8

section Walk

variable (L : ShapedLayout)

theorem length_walk (bs : List UInt8) (unit : Nat) (last : Binary32) :
    (walk L bs unit last).length = bs.length := by
  fun_induction walk L bs unit last with
  | case1 => rfl
  | case2 b bs unit last s fits x ih =>
    simp only [List.length_append, List.length_replicate, ih, List.length_drop, List.length_cons]
    have := step_bytes_pos b
    omega
  | case3 b bs unit last s stops => simp

theorem le_of_mem_walk (bs : List UInt8) (unit : Nat) (last : Binary32) (valid : last.isNaN = false) :
    ∀ e ∈ walk L bs unit last, last ≤ e := by
  fun_induction walk L bs unit last with
  | case1 => simp
  | case2 b bs unit last s fits x ih =>
    -- the caret a step writes is a running maximum, so it is never below the one before
    have above : last ≤ x := le_max_right valid
    intro e member
    rcases List.mem_append.1 member with member | member
    · rw [List.eq_of_mem_replicate member]; exact above
    · exact le_trans above (ih (not_nan_right above) e member)
  | case3 b bs unit last s stops =>
    intro e member
    rw [List.eq_of_mem_replicate member]
    exact le_refl_of_not_nan valid

theorem walk_sorted (bs : List UInt8) (unit : Nat) (last : Binary32) (valid : last.isNaN = false) :
    (walk L bs unit last).Pairwise (· ≤ ·) := by
  fun_induction walk L bs unit last with
  | case1 => simp
  | case2 b bs unit last s fits x ih =>
    have above : last ≤ x := le_max_right valid
    have fresh := not_nan_right above
    rw [List.pairwise_append]
    refine ⟨List.pairwise_replicate.2 (Or.inr (le_refl_of_not_nan fresh)), ih fresh, ?_⟩
    -- everything the rest of the walk writes lies at or above this step's caret
    intro a left b right
    rw [List.eq_of_mem_replicate left]
    exact le_of_mem_walk L _ _ x fresh b right
  | case3 b bs unit last s stops =>
    exact List.pairwise_replicate.2 (Or.inr (le_refl_of_not_nan valid))

end Walk

section Table

theorem measure_cases (line : List UInt8) (font : Option FontParameters) (service : LayoutService)
    (device : DeviceContext) :
    measure line font service device = ⟨List.replicate line.length 0⟩ ∨
      ∃ L, measure line font service device = ⟨walk L line 0 0⟩ := by
  unfold measure
  split
  · exact .inl rfl
  · exact .inl rfl
  · split
    · exact .inl rfl
    · exact .inr ⟨_, rfl⟩

theorem measure_len (line : List UInt8) (font : Option FontParameters) (service : LayoutService)
    (device : DeviceContext) : (measure line font service device).len = line.length := by
  rcases measure_cases line font service device with table | ⟨L, table⟩
  all_goals rw [PositionTable.len, table]
  · exact List.length_replicate
  · exact length_walk L line 0 0

theorem measure_entries (line : List UInt8) (font : Option FontParameters) (service : LayoutService)
    (device : DeviceContext) :
    (∀ x ∈ (measure line font service device).positions, 0 ≤ x) ∧
      (measure line font service device).positions.Pairwise (· ≤ ·) := by
  have zero : (0 : Binary32) ≤ 0 := zero_plus.le_refl
  rcases measure_cases line font service device with table | ⟨L, table⟩
  all_goals rw [table]
  · refine ⟨fun x member => ?_, List.pairwise_replicate.2 (Or.inr zero)⟩
    rw [List.eq_of_mem_replicate member]
    exact zero
  · exact ⟨le_of_mem_walk L line 0 0 zero_plus.not_nan, walk_sorted L line 0 0 zero_plus.not_nan⟩

theorem le_of_getElem?_of_pairwise {ps : List Binary32} (sorted : ps.Pairwise (· ≤ ·))
    (valid : ∀ x ∈ ps, x.isNaN = false) {i j : Nat} {x y : Binary32} (order : i ≤ j)
    (hx : ps[i]? = some x) (hy : ps[j]? = some y) : x ≤ y := by
  rcases Nat.lt_or_eq_of_le order with before | rfl
  · obtain ⟨hi, rfl⟩ := List.getElem?_eq_some_iff.1 hx
    obtain ⟨hj, rfl⟩ := List.getElem?_eq_some_iff.1 hy
    exact List.pairwise_iff_getElem.1 sorted i j hi hj before
  · obtain rfl : x = y := Option.some.inj (hx.symm.trans hy)
    exact le_refl_of_not_nan (valid x (List.mem_of_getElem? hx))

/-- Whatever the line, the font and the service, the table has one entry per octet, each at or
above zero and none NaN, and an entry is never below one before it. -/
theorem measure_table_ordered (line : List UInt8) (font : Option FontParameters)
    (service : LayoutService) (device : DeviceContext) :
    (measure line font service device).len = line.length ∧
      (∀ x ∈ (measure line font service device).positions, 0 ≤ x ∧ x.isNaN = false) ∧
      ∀ i j x y, i ≤ j → (measure line font service device).xAt i = some x →
        (measure line font service device).xAt j = some y → x ≤ y := by
  obtain ⟨above, sorted⟩ := measure_entries line font service device
  have valid : ∀ x ∈ (measure line font service device).positions, x.isNaN = false :=
    fun x member => not_nan_right (above x member)
  refine ⟨measure_len line font service device, fun x member => ⟨above x member, valid x member⟩, ?_⟩
  intro i j x y order hx hy
  exact le_of_getElem?_of_pairwise sorted valid order hx hy

end Table

section ValidText

variable (L : ShapedLayout)

/-- The caret the octets of the `k`-th character hold when the walk starts `unit` units in after
`last`: the running maximum of the layout's carets at the ends of the first `k` characters. -/
def lastCaret (unit : Nat) (last : Binary32) (cs : List Char) : Nat → Binary32
  | 0 => last
  | k + 1 => (L.cursorToX (unit + units (cs.take (k + 1)))).max (lastCaret unit last cs k)

theorem lastCaret_cons (unit : Nat) (last : Binary32) (c : Char) (cs : List Char) (k : Nat) :
    lastCaret L unit last (c :: cs) (k + 1) =
      lastCaret L (unit + charUnits c) ((L.cursorToX (unit + charUnits c)).max last) cs k := by
  induction k with
  | zero => simp [lastCaret]
  | succ k ih =>
    rw [lastCaret, ih, lastCaret, List.take_succ_cons, units_cons, Nat.add_assoc]

theorem walk_utf8EncodeChar (c : Char) (rest : List UInt8) (unit : Nat) (last : Binary32)
    (room : unit < L.codeUnits) :
    walk L (String.utf8EncodeChar c ++ rest) unit last =
      List.replicate c.utf8Size ((L.cursorToX (unit + charUnits c)).max last) ++
        walk L rest (unit + charUnits c) ((L.cursorToX (unit + charUnits c)).max last) := by
  obtain ⟨b, bs, encoded, stepped⟩ := utf8EncodeChar_lead c
  have width : (b :: bs).length = c.utf8Size := by rw [← encoded, String.length_utf8EncodeChar]
  have fits : c.utf8Size ≤ (bs ++ rest).length + 1 := by
    rw [List.length_append, ← Nat.add_right_comm, ← List.length_cons, width]
    exact Nat.le_add_right _ _
  rw [encoded, List.cons_append, walk, stepped]
  simp only
  rw [if_pos ⟨room, fits⟩, ← List.cons_append, List.drop_left' width]

theorem walk_encode_cons (c : Char) (cs : List Char) (unit : Nat) (last : Binary32)
    (room : unit < L.codeUnits) :
    walk L (encode (c :: cs)) unit last =
      List.replicate c.utf8Size ((L.cursorToX (unit + charUnits c)).max last) ++
        walk L (encode cs) (unit + charUnits c) ((L.cursorToX (unit + charUnits c)).max last) := by
  rw [encode_cons]
  exact walk_utf8EncodeChar L c (encode cs) unit last room

theorem getElem?_walk_encode (cs : List Char) (unit : Nat) (last : Binary32)
    (room : unit + units cs ≤ L.codeUnits) {k : Nat} {c : Char} (hc : cs[k]? = some c) {j : Nat}
    (hj : j < c.utf8Size) :
    (walk L (encode cs) unit last)[(encode (cs.take k)).length + j]? =
      some (lastCaret L unit last cs (k + 1)) := by
  induction cs generalizing unit last k with
  | nil => simp at hc
  | cons d cs ih =>
    have units_pos := charUnits_pos d
    rw [units_cons] at room
    rw [walk_encode_cons L d cs unit last (by omega)]
    cases k with
    | zero =>
      obtain rfl : d = c := by simpa using hc
      rw [List.take_zero, encode_nil, List.length_nil, Nat.zero_add,
        List.getElem?_append_left (by simpa using hj), List.getElem?_replicate, if_pos hj]
      simp [lastCaret]
    | succ k =>
      have hc : cs[k]? = some c := by simpa using hc
      rw [List.take_succ_cons, encode_cons, List.length_append, String.length_utf8EncodeChar,
        Nat.add_assoc, List.getElem?_append_right (by simp), List.length_replicate,
        Nat.add_sub_cancel_left, ih (unit + charUnits d) _ (by omega) hc, lastCaret_cons]

theorem measure_of_shape {line : List UInt8} (nonempty : line ≠ []) {params : FontParameters}
    {service : LayoutService} {device : DeviceContext}
    (shaped : service.shape (textOf line) params device = some L) :
    measure line (some params) service device = ⟨walk L line 0 0⟩ := by
  cases line with
  | nil => contradiction
  | cons b bs => simp only [measure, shaped]

theorem xAt_measure_encode {cs : List Char} {params : FontParameters} {service : LayoutService}
    {device : DeviceContext} (shaped : service.shape (String.ofList cs) params device = some L)
    (room : units cs ≤ L.codeUnits) {k : Nat} {c : Char} (hc : cs[k]? = some c) {j : Nat}
    (hj : j < c.utf8Size) :
    (measure (encode cs) (some params) service device).xAt ((encode (cs.take k)).length + j) =
      some (lastCaret L 0 0 cs (k + 1)) := by
  have nonempty : encode cs ≠ [] := by
    cases cs with
    | nil => simp at hc
    | cons d cs =>
      rw [encode_cons]
      exact List.append_ne_nil_of_left_ne_nil (List.ne_nil_of_length_pos (length_utf8EncodeChar_pos d)) _
  rw [measure_of_shape L nonempty (by rw [textOf_encode]; exact shaped)]
  exact getElem?_walk_encode L cs 0 0 (by omega) hc hj

theorem xAt_measure_text {s : String} {params : FontParameters} {service : LayoutService}
    {device : DeviceContext} (shaped : service.shape s params device = some L)
    (room : units s.toList ≤ L.codeUnits) {k : Nat} {c : Char} (hc : s.toList[k]? = some c) {j : Nat}
    (hj : j < c.utf8Size) :
    (measure s.toByteArray.data.toList (some params) service device).xAt
      ((String.ofList (s.toList.take k)).utf8ByteSize + j) = some (lastCaret L 0 0 s.toList (k + 1)) := by
  rw [toByteArray_eq_encode, utf8ByteSize_ofList]
  exact xAt_measure_encode L (by rw [String.ofList_toList]; exact shaped) room hc hj

theorem lastCaret_of_growing {cs : List Char} (f : Nat → Binary32)
    (carets : ∀ m, m ≤ cs.length → L.cursorToX (units (cs.take m)) = f m) (start : 0 ≤ f 1)
    (grows : ∀ m, m + 1 < cs.length → f (m + 1) ≤ f (m + 2)) {k : Nat} (inside : k < cs.length) :
    lastCaret L 0 0 cs (k + 1) = f (k + 1) := by
  induction k with
  | zero => rw [lastCaret, lastCaret, Nat.zero_add, carets 1 inside, max_eq_left start]
  | succ k ih => rw [lastCaret, ih (by omega), Nat.zero_add, carets (k + 2) inside, max_eq_left (grows k inside)]

theorem lastCaret_fixed {a : Binary32} (ha : 0 ≤ a) {cs : List Char} {N : Nat}
    (span : units cs ≤ N) (small : units cs < 2 ^ 64) {k : Nat} (inside : k < cs.length) :
    lastCaret (FixedAdvance.layout a N) 0 0 cs (k + 1) = Binary32.ofNat (units (cs.take (k + 1))) * a := by
  have finite : ∀ m, (Binary32.ofNat (units (cs.take m))).datum < 0x7F800000 :=
    fun m => ofNat_datum_lt_top ((units_take_le cs m).trans_lt small)
  have nonzero : ∀ m < cs.length, (Binary32.ofNat (units (cs.take (m + 1)))).datum ≠ 0 :=
    fun m inside => ofNat_datum_pos (units_take_succ_pos inside)
  refine lastCaret_of_growing _ (fun m => Binary32.ofNat (units (cs.take m)) * a) ?carets ?start ?grows inside
  case carets =>
    intro m _
    simp only [FixedAdvance.layout]
    rw [Nat.min_eq_left ((units_take_le cs m).trans span)]
  case start => exact (mul_mono_of_nonneg (finite 1) (finite 1) (nonzero 0 (by omega)) le_rfl ha).1
  case grows =>
    intro m more
    exact (mul_mono_of_nonneg (finite (m + 1)) (finite (m + 2)) (nonzero m (by omega))
      (ofNat_datum_mono (units_take_mono cs (Nat.le_succ _))) ha).2

end ValidText

/-- Well-formed text: when the service shapes the line into a layout spanning its UTF-16 units,
every octet of the `k`-th character (from zero) holds the running maximum of the layout's carets at
the ends of the first `k + 1` characters. With the fixed-advance service at an advance `a ≥ 0`,
that is the UTF-16 length of those characters times `a`. -/
theorem measure_valid_text (s : String) (params : FontParameters) (device : DeviceContext) :
    (∀ (service : LayoutService) (L : ShapedLayout), service.shape s params device = some L →
      utf16Length s ≤ L.codeUnits → ∀ k c, s.toList[k]? = some c → ∀ j < c.utf8Size,
        (measure s.toByteArray.data.toList (some params) service device).xAt
          ((String.ofList (s.toList.take k)).utf8ByteSize + j) = some (lastCaret L 0 0 s.toList (k + 1))) ∧
    ∀ a : Binary32, 0 ≤ a → s.utf8ByteSize < 2 ^ 64 → ∀ k c, s.toList[k]? = some c → ∀ j < c.utf8Size,
      (measure s.toByteArray.data.toList (some params) (LayoutService.fixed a) device).xAt
        ((String.ofList (s.toList.take k)).utf8ByteSize + j) =
          some (Binary32.ofNat (utf16Length (String.ofList (s.toList.take (k + 1)))) * a) := by
  refine ⟨fun service L shape room k c hc j hj =>
    xAt_measure_text L shape (by rwa [utf16Length_eq_units] at room) hc hj, ?_⟩
  intro a ha size k c hc j hj
  have inside : k < s.toList.length := (List.getElem?_eq_some_iff.1 hc).1
  have small : units s.toList < 2 ^ 64 := by
    have := units_le_length_encode s.toList
    rw [← utf8ByteSize_ofList, String.ofList_toList] at this
    omega
  rw [xAt_measure_text _ rfl (utf16Length_eq_units s).ge hc hj, utf16Length_eq_units (String.ofList _),
    String.toList_ofList, lastCaret_fixed ha (utf16Length_eq_units s).ge small inside]

/-- A layout whose carets fall keeps the first character's caret; the fixed advance places the
astral character after one unit at offset three. -/
theorem measure_astral_caret :
    utf16Length "a😀b" ≤ 4 ∧
      (measure "a😀b".toByteArray.data.toList (some (FontParameters.new "Sans" 12))
        ⟨fun _ _ _ => some ⟨4, fun n => Binary32.ofNat (10 - n)⟩, fun _ _ => none, fun _ _ _ => .ok []⟩
        default).xAt 4 = some (Binary32.ofNat 9) ∧
      (0 : Binary32) ≤ 8 ∧ "a😀b".utf8ByteSize < 2 ^ 64 ∧
      (measure "a😀b".toByteArray.data.toList (some (FontParameters.new "Sans" 12)) (LayoutService.fixed 8)
        default).xAt 4 = some (Binary32.ofNat 3 * 8) := by
  have valid := measure_valid_text "a😀b" (FontParameters.new "Sans" 12) default
  have offset : (String.ofList ("a😀b".toList.take 1)).utf8ByteSize + 3 = 4 := by decide
  have falling := valid.1
    ⟨fun _ _ _ => some ⟨4, fun n => Binary32.ofNat (10 - n)⟩, fun _ _ => none, fun _ _ _ => .ok []⟩
    ⟨4, fun n => Binary32.ofNat (10 - n)⟩ rfl (by decide) 1 '😀' (by decide) 3 (by decide)
  have fixed := valid.2 8 (by decide) (by decide) 1 '😀' (by decide) 3 (by decide)
  rw [offset, show lastCaret ⟨4, fun n => Binary32.ofNat (10 - n)⟩ 0 0 "a😀b".toList 2 = Binary32.ofNat 9 by decide]
    at falling
  rw [offset, show utf16Length (String.ofList ("a😀b".toList.take 2)) = 3 by decide] at fixed
  exact ⟨by decide, falling, by decide, by decide, fixed⟩

end GlyphCanvas
