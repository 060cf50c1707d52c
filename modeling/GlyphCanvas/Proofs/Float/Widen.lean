import Mathlib
import GlyphCanvas.Proofs.Float.Exact
import GlyphCanvas.Float.Binary64

namespace GlyphCanvas

theorem leadExponent_one {m : Nat} (hm : 0 < m) : FloatFormat.leadExponent m 1 = m.log2 := by
  obtain ⟨low, high⟩ := leadExponent_spec hm one_pos
  rw [Nat.cast_one, div_one] at low high
  have mLow : (2 : ℚ) ^ (m.log2 : Int) ≤ m := by exact_mod_cast Nat.log2_self_le hm.ne'
  have mHigh : (m : ℚ) < 2 ^ ((m.log2 : Int) + 1) := by exact_mod_cast Nat.lt_log2_self
  have below := (zpow_lt_zpow_iff_right₀ (by norm_num : (1 : ℚ) < 2)).1 (lt_of_le_of_lt low mHigh)
  have above := (zpow_lt_zpow_iff_right₀ (by norm_num : (1 : ℚ) < 2)).1 (lt_of_le_of_lt mLow high)
  omega

theorem widened_bounds {m : Nat} (pos : 0 < m) (narrow : m.log2 < 24) :
    2 ^ 52 ≤ m * 2 ^ (52 - m.log2) ∧ m * 2 ^ (52 - m.log2) < 2 ^ 53 := by
  constructor
  · calc 2 ^ 52 = 2 ^ m.log2 * 2 ^ (52 - m.log2) := by rw [← pow_add]; congr 1; omega
      _ ≤ m * 2 ^ (52 - m.log2) := Nat.mul_le_mul_right _ (Nat.log2_self_le pos.ne')
  · calc m * 2 ^ (52 - m.log2) < 2 ^ (m.log2 + 1) * 2 ^ (52 - m.log2) :=
          Nat.mul_lt_mul_of_pos_right Nat.lt_log2_self (by positivity)
      _ = 2 ^ 53 := by rw [← pow_add]; congr 1; omega

theorem binary64_decode_pack (neg : Bool) {e frac : Nat} (normal : 0 < e) (below : e < 2047)
    (fits : frac < 2 ^ 52) :
    FloatFormat.binary64.decode (FloatFormat.binary64.pack neg e frac) =
      .finite neg (frac + 2 ^ 52) ((e : Int) - 1075) := by
  simp only [FloatFormat.decode, FloatFormat.pack, FloatFormat.biased, FloatFormat.fraction, FloatFormat.isNeg,
    FloatFormat.maxBiased, FloatFormat.minQuantum, FloatFormat.signBit, FloatFormat.fractionBits,
    FloatFormat.binary64, Nat.pow_eq]
  norm_num
  have fields : ∀ sign : Nat, sign ≤ 1 →
      (sign * 9223372036854775808 + e * 4503599627370496 + frac) / 4503599627370496 % 2048 = e ∧
      (sign * 9223372036854775808 + e * 4503599627370496 + frac) % 4503599627370496 = frac ∧
      (sign * 9223372036854775808 + e * 4503599627370496 + frac) / 9223372036854775808 % 2 = sign := by
    intro sign one
    omega
  cases neg
  · obtain ⟨b, f, s⟩ := fields 0 (by norm_num)
    simp only [zero_mul, zero_add] at b f s
    simp only [Bool.false_eq_true, ↓reduceIte, zero_add, b, f, s]
    rw [if_neg (by omega), if_neg (by omega)]
    congr 1
    omega
  · obtain ⟨b, f, s⟩ := fields 1 le_rfl
    simp only [one_mul] at b f s
    simp only [↓reduceIte, b, f, s]
    rw [if_neg (by omega), if_neg (by omega)]
    congr 1
    omega

theorem binary64_round_widen (neg : Bool) {m : Nat} {q : Int} (pos : 0 < m) (small : m < 2 ^ 24)
    (floor : -149 ≤ q) (high : q ≤ 104) :
    FloatFormat.binary64.round neg m 1 q =
      FloatFormat.binary64.pack neg (m.log2 + q + 1023).toNat (m * 2 ^ (52 - m.log2) - 2 ^ 52) := by
  have l23 : m.log2 < 24 := (Nat.log2_lt pos.ne').2 small
  have quantum : max (FloatFormat.leadExponent m 1 + q - (FloatFormat.binary64.fractionBits : Int))
      FloatFormat.binary64.minQuantum = m.log2 + q - 52 := by
    rw [leadExponent_one pos]
    have bits : FloatFormat.binary64.fractionBits = 52 := rfl
    have least : FloatFormat.binary64.minQuantum = -1074 := by decide
    omega
  have shift : shiftRatio m 1 (q - (m.log2 + q - 52)) = (m * 2 ^ (52 - m.log2), 1) := by
    unfold shiftRatio
    rw [if_pos (by omega), Nat.pow_eq, show (q - (m.log2 + q - 52)).toNat = 52 - m.log2 by omega]
  obtain ⟨low, below⟩ := widened_bounds pos l23
  have top : Nat.pow 2 FloatFormat.binary64.precision = 2 ^ 53 := rfl
  have hidden : Nat.pow 2 FloatFormat.binary64.fractionBits = 2 ^ 52 := rfl
  have infinite : FloatFormat.binary64.maxBiased = 2047 := rfl
  have least : FloatFormat.binary64.minQuantum = -1074 := by decide
  unfold FloatFormat.round
  rw [if_neg (by omega)]
  simp only [quantum, shift, Binary32.divRoundEven_of_dvd one_pos (one_dvd _), Nat.div_one]
  unfold FloatFormat.encode FloatFormat.encodeNormal
  rw [top, hidden, infinite, least, if_neg below.ne, if_neg (by omega), if_neg (by omega)]
  congr 1
  omega

namespace Binary32

theorem isNaN_of_decode {w : Nat} (h : FloatFormat.binary32.decode w = .nan) :
    FloatFormat.binary32.isNaN w = true := by
  unfold FloatFormat.decode at h
  unfold FloatFormat.isNaN
  split_ifs at h with top zero
  simp [top, zero]

theorem decode_datum_eq (x : Binary32) :
    FloatFormat.binary32.decode x.datum =
      if x.datum / 0x800000 % 256 = 255 then
        (if x.datum % 0x800000 = 0 then .infinite (x.datum / 0x80000000 % 2 == 1) else .nan)
      else if x.datum / 0x800000 % 256 = 0 then .finite (x.datum / 0x80000000 % 2 == 1) (x.datum % 0x800000) (-149)
      else .finite (x.datum / 0x80000000 % 2 == 1) (x.datum % 0x800000 + 0x800000)
        (-149 + ((x.datum / 0x800000 % 256 - 1 : Nat) : Int)) := by
  simp only [FloatFormat.decode, FloatFormat.biased, FloatFormat.fraction, FloatFormat.isNeg,
    FloatFormat.maxBiased, FloatFormat.minQuantum, FloatFormat.signBit, FloatFormat.fractionBits,
    FloatFormat.binary32, Nat.pow_eq]
  norm_num

theorem datum_of_infinite {x : Binary32} {s : Bool} (h : FloatFormat.binary32.decode x.datum = .infinite s) :
    x.datum = s.toNat * 0x80000000 + 0x7F800000 := by
  have lt := datum_lt x
  rw [decode_datum_eq] at h
  split_ifs at h with top zero
  obtain rfl := FloatValue.infinite.inj h
  cases sign : x.datum / 0x80000000 % 2 == 1 <;> simp at sign <;> simp <;> omega

theorem decode_finite_bounds {x : Binary32} {s : Bool} {m : Nat} {q : Int}
    (h : FloatFormat.binary32.decode x.datum = .finite s m q) :
    m < 2 ^ 24 ∧ -149 ≤ q ∧ q ≤ 104 ∧ x.datum / 0x80000000 = s.toNat ∧ x.datum % 0x80000000 < 0x7F800000 ∧
      (m = 0 → x.datum = s.toNat * 0x80000000) := by
  have lt := datum_lt x
  rw [decode_datum_eq] at h
  split_ifs at h with top zero
  all_goals obtain ⟨rfl, rfl, rfl⟩ := FloatValue.finite.inj h
  all_goals cases sign : x.datum / 0x80000000 % 2 == 1 <;> simp at sign <;> simp <;> omega

theorem round_congr {n₁ n₂ : Nat} {k₁ k₂ : Int} (same : (n₁ : ℚ) * 2 ^ k₁ = n₂ * 2 ^ k₂) :
    FloatFormat.binary32.round false n₁ 1 k₁ = FloatFormat.binary32.round false n₂ 1 k₂ := by
  have forth : ((n₁ : ℚ) / (1 : Nat)) * 2 ^ k₁ ≤ (n₂ : ℚ) / (1 : Nat) * 2 ^ k₂ := by simp [same]
  have back : ((n₂ : ℚ) / (1 : Nat)) * 2 ^ k₂ ≤ (n₁ : ℚ) / (1 : Nat) * 2 ^ k₁ := by simp [same]
  exact le_antisymm (round_mono forth) (round_mono back)

theorem round_of_decode {x : Binary32} {s : Bool} {m M : Nat} {q Q : Int} (pos : 0 < m)
    (dx : FloatFormat.binary32.decode x.datum = .finite s m q) (same : (M : ℚ) * 2 ^ Q = m * 2 ^ q) :
    FloatFormat.binary32.round s M 1 Q = x.datum := by
  obtain ⟨-, -, -, sign, finite, -⟩ := decode_finite_bounds dx
  have hM : M ≠ 0 := by
    rintro rfl
    have : (m : ℚ) * 2 ^ q ≠ 0 := by positivity
    rw [Nat.cast_zero, zero_mul] at same
    exact this same.symm
  cases s
  · have low : x.datum < 0x7F800000 := by simp at sign; omega
    rw [round_congr same]
    exact round_datum low dx
  · have top : x.datum / 0x80000000 = 1 := by simpa using sign
    have flipped : x.datum - 0x80000000 + 0x80000000 = x.datum := by omega
    have low : x.datum - 0x80000000 < 0x7F800000 := by omega
    rw [← flipped] at dx
    have dw := (decode_unflip (by omega) dx).1
    rw [round_true hM one_ne_zero, round_congr same, round_datum low dw]
    exact flipped

theorem widen_finite {x : Binary32} {s : Bool} {m : Nat} {q : Int} (pos : 0 < m)
    (dx : FloatFormat.binary32.decode x.datum = .finite s m q) :
    ∃ M Q, FloatFormat.binary64.decode x.toBinary64.datum = .finite s M Q ∧ (M : ℚ) * 2 ^ Q = m * 2 ^ q := by
  obtain ⟨small, floor, high, -⟩ := decode_finite_bounds dx
  have l23 : m.log2 < 24 := (Nat.log2_lt pos.ne').2 small
  obtain ⟨low, below⟩ := widened_bounds pos l23
  have packed : FloatFormat.binary64.pack s (m.log2 + q + 1023).toNat (m * 2 ^ (52 - m.log2) - 2 ^ 52) < 2 ^ 64 := by
    have sign : FloatFormat.binary64.signBit = 2 ^ 63 := rfl
    have hidden : Nat.pow 2 FloatFormat.binary64.fractionBits = 2 ^ 52 := rfl
    unfold FloatFormat.pack
    rw [sign, hidden]
    cases s <;> simp <;> omega
  unfold toBinary64 FloatFormat.convert
  rw [dx]
  dsimp only
  rw [binary64_round_widen s pos small floor high]
  simp only [Binary64.ofDatum, Binary64.datum, Nat.toUInt64_eq, UInt64.toNat_ofNat', Nat.mod_eq_of_lt packed]
  rw [binary64_decode_pack s (by omega) (by omega) (by omega)]
  refine ⟨_, _, rfl, ?_⟩
  rw [Nat.sub_add_cancel low, show (((m.log2 + q + 1023).toNat : Nat) : Int) - 1075 = m.log2 + q - 52 by omega]
  push_cast
  rw [mul_assoc, ← zpow_natCast, ← zpow_add₀ two_ne_zero]
  congr 2
  push_cast [show m.log2 ≤ 52 by omega]
  ring

theorem toBinary64_toBinary32 {x : Binary32} (h : x.isNaN = false) : x.toBinary64.toBinary32 = x := by
  cases dx : FloatFormat.binary32.decode x.datum with
  | nan =>
    have nan := isNaN_of_decode dx
    simp [isNaN, nan] at h
  | infinite s =>
    -- the two infinities convert through their own double-precision infinities
    have top := datum_of_infinite dx
    cases s
    · rw [eq_of_datum_eq (y := inf) top]
      decide
    · rw [eq_of_datum_eq (y := negInf) top]
      decide
  | finite s m q =>
    rcases Nat.eq_zero_or_pos m with vanishes | pos
    · -- the two zeros likewise
      obtain ⟨-, -, -, -, -, signed⟩ := decode_finite_bounds dx
      cases s
      · rw [eq_of_datum_eq (y := Binary32.zero) (signed vanishes)]
        decide
      · rw [eq_of_datum_eq (y := negZero) (signed vanishes)]
        decide
    · obtain ⟨M, Q, wide, same⟩ := widen_finite pos dx
      unfold Binary64.toBinary32 FloatFormat.convert
      rw [wide]
      dsimp only
      rw [round_of_decode pos dx same]
      exact eq_of_datum_eq (datum_ofDatum (datum_lt x))

end Binary32

end GlyphCanvas
