import Mathlib
import GlyphCanvas.Proofs.Float.Arith

namespace GlyphCanvas

namespace Binary32

variable {x y z : Binary32}

/-- The exact value of a finite value as a rational number, and `0` for NaN and the infinities. -/
def toRat (x : Binary32) : ℚ :=
  match x.value with
  | .finite neg m q => (if neg then -1 else 1) * m * 2 ^ q
  | _ => 0

theorem abs_datum (z : Binary32) : z.abs.datum = z.datum % 0x80000000 := by
  simp only [abs, datum, UInt32.toNat_and]
  rw [show (0x7FFFFFFF : UInt32).toNat = 2 ^ 31 - 1 from rfl, Nat.and_two_pow_sub_one_eq_mod]

theorem abs_of_plus (h : x.Plus) : x.abs = x := by
  apply eq_of_datum_eq
  rw [abs_datum, Nat.mod_eq_of_lt (by unfold Plus at h; omega)]

theorem key_of_datum_lt (h : x.datum < 0x80000000) : x.key = x.datum := by
  simp only [key, FloatFormat.orderKey, FloatFormat.isNeg, FloatFormat.magnitude, FloatFormat.signBit,
    FloatFormat.fractionBits, FloatFormat.binary32, Nat.pow_eq]
  norm_num
  rw [if_neg (by omega)]
  omega

theorem biased_flip (w : Nat) :
    FloatFormat.binary32.biased (w + 0x80000000) = FloatFormat.binary32.biased w := by
  simp only [FloatFormat.biased, FloatFormat.fractionBits, FloatFormat.binary32, Nat.pow_eq]
  norm_num; omega

theorem fraction_flip (w : Nat) :
    FloatFormat.binary32.fraction (w + 0x80000000) = FloatFormat.binary32.fraction w := by
  simp only [FloatFormat.fraction, FloatFormat.fractionBits, FloatFormat.binary32, Nat.pow_eq]
  norm_num; omega

theorem isNaN_abs (z : Binary32) : z.abs.isNaN = z.isNaN := by
  -- clearing the sign bit leaves the exponent and fraction fields, which alone decide NaN
  have sign : z.datum = z.datum % 0x80000000 ∨ z.datum = z.datum % 0x80000000 + 0x80000000 := by
    have := z.datum_lt
    omega
  simp only [isNaN, FloatFormat.isNaN, abs_datum]
  rcases sign with low | high
  · rw [← low]
  · rw [high, biased_flip, fraction_flip, Nat.add_mod_right, Nat.mod_mod]

theorem not_abs_lt_zero (z : Binary32) : ¬ z.abs < 0 := by
  rw [lt_iff, zero_plus.key_eq, zero_datum, key_of_datum_lt (by rw [abs_datum]; omega)]
  omega

theorem le_of_lt (h : x < y) : x ≤ y := by
  obtain ⟨nx, ny, k⟩ := lt_iff.1 h
  exact le_iff.2 ⟨nx, ny, k.le⟩

theorem lt_of_lt_of_le (hxy : x < y) (hyz : y ≤ z) : x < z := by
  obtain ⟨nx, -, kxy⟩ := lt_iff.1 hxy
  obtain ⟨-, nz, kyz⟩ := le_iff.1 hyz
  exact lt_iff.2 ⟨nx, nz, Int.lt_of_lt_of_le kxy kyz⟩

theorem plus_of_pos (h : 0 < x) : x.Plus := by
  rcases zero_le_cases (le_of_lt h) with rfl | plus
  · exact absurd h (by decide)
  · exact plus

section SignFlip

variable {w : Nat} (low : w < 0x80000000)
include low

theorem isNeg_low : FloatFormat.binary32.isNeg w = false := by
  simp only [FloatFormat.isNeg, FloatFormat.signBit, FloatFormat.fractionBits, FloatFormat.binary32, Nat.pow_eq]
  norm_num; omega

theorem isNeg_flip : FloatFormat.binary32.isNeg (w + 0x80000000) = true := by
  simp only [FloatFormat.isNeg, FloatFormat.signBit, FloatFormat.fractionBits, FloatFormat.binary32, Nat.pow_eq]
  norm_num; omega

theorem neg_low : FloatFormat.binary32.neg w = w + 0x80000000 := by
  rw [FloatFormat.neg, isNeg_low low]
  rfl

theorem decode_flip {m : Nat} {q : Int} (dy : FloatFormat.binary32.decode w = .finite false m q) :
    FloatFormat.binary32.decode (w + 0x80000000) = .finite true m q := by
  unfold FloatFormat.decode at dy ⊢
  rw [biased_flip, fraction_flip, isNeg_flip low]
  rw [isNeg_low low] at dy
  split_ifs at dy ⊢ <;> obtain ⟨-, rfl, rfl⟩ := FloatValue.finite.inj dy <;> rfl

end SignFlip

theorem quantum_floor {w m : Nat} {q : Int} (h : w < 0x7F800000)
    (dy : FloatFormat.binary32.decode w = .finite false m q) : -149 ≤ q := by
  rw [decode_of_lt h] at dy
  split at dy <;> simp only [FloatValue.finite.injEq] at dy <;> omega

theorem sub_of_finite (hy : y.datum < 0x7F800000) :
    x - y = ofDatum (FloatFormat.binary32.add x.datum (y.datum + 0x80000000)) := by
  obtain ⟨n, r, dy, -⟩ := decode_finite hy
  change ofDatum (FloatFormat.binary32.sub x.datum y.datum) = _
  simp only [FloatFormat.sub, dy]
  rw [neg_low (by omega)]

theorem sub_self_of_finite (hx : x.datum < 0x7F800000) : x - x = 0 := by
  obtain ⟨m, q, dx, -⟩ := decode_finite hx
  rw [sub_of_finite hx]
  simp only [FloatFormat.add, dx, decode_flip (by omega) dx, Bool.false_eq_true, if_false, one_mul,
    neg_one_mul, add_neg_cancel, if_pos]
  rfl

theorem round_pos {S : Nat} {e : Int} (pos : 0 < S) (floor : -149 ≤ e) :
    1 ≤ FloatFormat.binary32.round false S 1 e := by
  have least : FloatFormat.binary32.round false 1 1 (-149) = 1 := by decide
  rw [← least]
  apply round_mono_one
  have : (2 : ℚ) ^ (-149 : Int) ≤ 2 ^ e := zpow_le_zpow_right₀ (by norm_num) floor
  have : (1 : ℚ) ≤ S := by exact_mod_cast pos
  calc ((1 : Nat) : ℚ) * 2 ^ (-149 : Int) = 2 ^ (-149 : Int) := by simp
    _ ≤ 1 * 2 ^ e := by linarith
    _ ≤ S * 2 ^ e := by gcongr

theorem value_lt_of_datum_lt {a b M₁ M₂ : Nat} {Q₁ Q₂ : Int} (ha : a < 0x7F800000) (hb : b < 0x7F800000)
    (da : FloatFormat.binary32.decode a = .finite false M₁ Q₁)
    (db : FloatFormat.binary32.decode b = .finite false M₂ Q₂) (h : a < b) :
    (M₁ : ℚ) * 2 ^ Q₁ < M₂ * 2 ^ Q₂ := by
  rcases (value_le_of_datum_le ha hb da db h.le).lt_or_eq with less | same
  · exact less
  · -- equal values round to the same datum
    have back := round_mono_one same.ge
    rw [round_datum hb db, round_datum ha da] at back
    omega

theorem scaled_lt_of_value_lt {m n : Nat} {q r : Int} (smaller : (n : ℚ) * 2 ^ r < m * 2 ^ q) :
    n * 2 ^ (r - Min.min q r).toNat < m * 2 ^ (q - Min.min q r).toNat := by
  have scaled : ((n * 2 ^ (r - Min.min q r).toNat : ℕ) : ℚ) * 2 ^ (Min.min q r) <
      ((m * 2 ^ (q - Min.min q r).toNat : ℕ) : ℚ) * 2 ^ (Min.min q r) := by
    push_cast
    rw [mul_assoc, mul_assoc, pow_toNat_mul (min_le_right q r), pow_toNat_mul (min_le_left q r)]
    exact smaller
  exact_mod_cast lt_of_mul_lt_mul_right scaled (by positivity)

theorem add_opposite {a b m n : Nat} {q r : Int}
    (da : FloatFormat.binary32.decode a = .finite false m q)
    (db : FloatFormat.binary32.decode b = .finite true n r) (smaller : (n : ℚ) * 2 ^ r < m * 2 ^ q) :
    FloatFormat.binary32.add a b =
      FloatFormat.binary32.round false
        (m * 2 ^ (q - Min.min q r).toNat - n * 2 ^ (r - Min.min q r).toNat) 1 (Min.min q r) := by
  have less := scaled_lt_of_value_lt smaller
  simp only [FloatFormat.add, da, db, Bool.false_eq_true, if_false, if_true, one_mul, neg_one_mul, Nat.pow_eq]
  generalize m * 2 ^ (q - Min.min q r).toNat = A at less ⊢
  generalize n * 2 ^ (r - Min.min q r).toNat = B at less ⊢
  rw [if_neg (by omega), decide_eq_false (by omega)]
  congr 1
  omega

theorem sub_pos_of_datum_lt (hx : x.datum < 0x7F800000) (order : y.datum < x.datum) :
    (x - y).Plus ∧ 0 < x - y := by
  obtain ⟨m, q, dx, -⟩ := decode_finite hx
  obtain ⟨n, r, dy, -⟩ := decode_finite (order.trans hx)
  have value := value_lt_of_datum_lt (order.trans hx) hx dy dx order
  have floor : -149 ≤ Min.min q r := le_min (quantum_floor hx dx) (quantum_floor (order.trans hx) dy)
  rw [sub_of_finite (order.trans hx), add_opposite dx (decode_flip (by omega) dy) value]
  have exact : 0 < m * 2 ^ (q - Min.min q r).toNat - n * 2 ^ (r - Min.min q r).toNat :=
    Nat.sub_pos_of_lt (scaled_lt_of_value_lt value)
  refine ⟨rounded_plus _ _ _, lt_iff.2 ⟨zero_plus.not_nan, (rounded_plus _ _ _).not_nan, ?_⟩⟩
  rw [zero_plus.key_eq, (rounded_plus _ _ _).key_eq, zero_datum, rounded_datum]
  have := round_pos exact floor
  omega

theorem sub_negZero (hx : x.Plus) : x - negZero = x := by
  change ofDatum (FloatFormat.binary32.sub x.datum negZero.datum) = x
  simp only [FloatFormat.sub, decode_negZero]
  rw [show FloatFormat.binary32.neg negZero.datum = (0 : Binary32).datum by decide]
  exact add_zero_of_plus hx decode_zero

theorem abs_sub_pos (hx : x.Plus) (finite : x.datum < 0x7F800000) (hy : 0 ≤ y) (below : y.key < x.key) :
    0 < (x - y).abs := by
  rcases zero_le_cases hy with rfl | plus
  · rw [sub_negZero hx, abs_of_plus hx]
    rw [show negZero.key = 0 by decide] at below
    exact lt_iff.2 ⟨zero_plus.not_nan, hx.not_nan, by rw [zero_plus.key_eq, zero_datum]; exact below⟩
  · rw [plus.key_eq, hx.key_eq] at below
    obtain ⟨difference, positive⟩ := sub_pos_of_datum_lt finite (by exact_mod_cast below)
    rw [abs_of_plus difference]
    exact positive

end Binary32

end GlyphCanvas
