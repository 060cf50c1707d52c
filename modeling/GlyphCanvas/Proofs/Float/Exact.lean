import Mathlib
import GlyphCanvas.Proofs.Float.Distance

namespace GlyphCanvas

namespace Binary32

/-- The exact value of a finite datum read as `(neg, m, q)`. -/
def signedValue (neg : Bool) (m : Nat) (q : Int) : ℚ := (if neg then -1 else 1) * m * 2 ^ q

theorem toRat_of_value {x : Binary32} {neg : Bool} {m : Nat} {q : Int} (h : x.value = .finite neg m q) :
    x.toRat = signedValue neg m q := by
  unfold toRat
  rw [h]
  rfl

/-! ### Rounding a representable value -/

theorem divRoundEven_of_dvd {a b : Nat} (hb : 0 < b) (h : b ∣ a) : divRoundEven a b = a / b := by
  unfold divRoundEven
  rw [Nat.mod_eq_zero_of_dvd h, if_neg (by omega)]

theorem quantum_le {n N : Nat} {k e : Int} (hn : 0 < n) (value : (n : ℚ) * 2 ^ k = N * 2 ^ e)
    (small : N < 2 ^ 24) (floor : -149 ≤ e) : quantum n 1 k ≤ e := by
  obtain ⟨low, -⟩ := leadExponent_spec hn one_pos
  rw [Nat.cast_one, div_one] at low
  have chain : (2 : ℚ) ^ (FloatFormat.leadExponent n 1 + k) < 2 ^ (e + 24) :=
    calc (2 : ℚ) ^ (FloatFormat.leadExponent n 1 + k) = 2 ^ FloatFormat.leadExponent n 1 * 2 ^ k :=
          zpow_add₀ two_ne_zero _ _
      _ ≤ n * 2 ^ k := by gcongr
      _ = N * 2 ^ e := value
      _ < 2 ^ 24 * 2 ^ e := by gcongr; exact_mod_cast small
      _ = 2 ^ (e + 24) := by rw [zpow_add₀ two_ne_zero, mul_comm]; norm_num
  have := (zpow_lt_zpow_iff_right₀ (by norm_num : (1 : ℚ) < 2)).1 chain
  unfold quantum
  omega

theorem significand_exact {n N : Nat} {k e : Int} (value : (n : ℚ) * 2 ^ k = N * 2 ^ e)
    (le : quantum n 1 k ≤ e) : significand n 1 k = N * 2 ^ (e - quantum n 1 k).toNat := by
  have den := shiftRatio_den_pos (n := n) (k - quantum n 1 k) one_pos
  have ratio := significand_ratio n 1 k
  have scaled : (n : ℚ) / (1 : Nat) * 2 ^ (k - quantum n 1 k) = ((N * 2 ^ (e - quantum n 1 k).toNat : Nat) : ℚ) := by
    rw [Nat.cast_one, div_one, zpow_sub₀ two_ne_zero, ← mul_div_assoc, value, mul_div_assoc,
      ← zpow_sub₀ two_ne_zero, ← Int.toNat_of_nonneg (by omega : 0 ≤ e - quantum n 1 k), zpow_natCast]
    push_cast
    rfl
  rw [scaled, div_eq_iff (by exact_mod_cast den.ne')] at ratio
  have exact : (shiftRatio n 1 (k - quantum n 1 k)).1 =
      (shiftRatio n 1 (k - quantum n 1 k)).2 * (N * 2 ^ (e - quantum n 1 k).toNat) := by
    rw [mul_comm] at ratio
    exact_mod_cast ratio
  unfold significand
  rw [divRoundEven_of_dvd den ⟨_, exact⟩, exact, Nat.mul_div_cancel_left _ den]

theorem decode_packed {q : Int} {m : Nat} (floor : -149 ≤ q) (bound : m ≤ 0x1000000)
    (normal : q = -149 ∨ 0x800000 ≤ m) (below : (q + 149).toNat * 0x800000 + m < 0x7F800000) :
    ∃ M Q, FloatFormat.binary32.decode ((q + 149).toNat * 0x800000 + m) = .finite false M Q ∧
      (M : ℚ) * 2 ^ Q = m * 2 ^ q := by
  rw [decode_of_lt below]
  split_ifs with sub
  · -- subnormal: the least quantum, the datum is the significand
    have least : q = -149 := by omega
    refine ⟨_, _, rfl, ?_⟩
    subst least
    norm_num
  · have big : 0x800000 ≤ m := by omega
    rcases Nat.lt_or_eq_of_le bound with inside | carried
    · -- the significand keeps its binade
      refine ⟨_, _, rfl, ?_⟩
      rw [show ((q + 149).toNat * 0x800000 + m) % 0x800000 + 0x800000 = m by omega,
        show ((((q + 149).toNat * 0x800000 + m) / 0x800000 : Nat) : Int) - 150 = q by omega]
    · -- the significand carried into the next binade
      refine ⟨_, _, rfl, ?_⟩
      rw [show ((q + 149).toNat * 0x800000 + m) % 0x800000 + 0x800000 = 0x800000 by omega,
        show ((((q + 149).toNat * 0x800000 + m) / 0x800000 : Nat) : Int) - 150 = q + 1 by omega,
        carried, zpow_add₀ two_ne_zero]
      norm_num
      ring

theorem round_exact {n N : Nat} {k e : Int} (hn : 0 < n) (value : (n : ℚ) * 2 ^ k = N * 2 ^ e)
    (small : N < 2 ^ 24) (floor : -149 ≤ e) (high : e ≤ 104) :
    FloatFormat.binary32.round false n 1 k < 0x7F800000 ∧
      ∃ M Q, FloatFormat.binary32.decode (FloatFormat.binary32.round false n 1 k) = .finite false M Q ∧
        (M : ℚ) * 2 ^ Q = n * 2 ^ k := by
  have le := quantum_le hn value small floor
  have exact := significand_exact value le
  have bound := significand_le k hn one_pos
  have least : -149 ≤ quantum n 1 k := by unfold quantum; omega
  have normal : quantum n 1 k = -149 ∨ 0x800000 ≤ significand n 1 k := by
    by_cases sub : quantum n 1 k = -149
    · exact .inl sub
    · exact .inr (significand_normal hn one_pos sub)
  -- the packed datum stays below infinity: the top binade holds only what fits 24 bits
  have below : (quantum n 1 k + 149).toNat * 0x800000 + significand n 1 k < 0x7F800000 := by
    rcases le.lt_or_eq with coarser | same
    · omega
    · rw [exact, same, sub_self, Int.toNat_zero, pow_zero, mul_one]
      have : N < 0x1000000 := by norm_num at small ⊢; omega
      omega
  rw [round_eq k hn one_pos, Nat.min_eq_left below.le]
  refine ⟨below, ?_⟩
  obtain ⟨M, Q, decoded, same⟩ := decode_packed least bound normal below
  refine ⟨M, Q, decoded, ?_⟩
  rw [same, exact, value]
  push_cast
  rw [mul_assoc, ← zpow_natCast, ← zpow_add₀ two_ne_zero, Int.toNat_of_nonneg (by omega), sub_add_cancel]

theorem encode_true (m : Nat) (q : Int) :
    FloatFormat.binary32.encode true m q = FloatFormat.binary32.encode false m q + 0x80000000 := by
  have sign : FloatFormat.binary32.signBit = 0x80000000 := rfl
  simp only [FloatFormat.encode, FloatFormat.encodeNormal, FloatFormat.infinity, FloatFormat.pack, sign,
    ↓reduceIte, Bool.false_eq_true]
  split_ifs <;> ring

theorem round_true {n d : Nat} (hn : n ≠ 0) (hd : d ≠ 0) (k : Int) :
    FloatFormat.binary32.round true n d k = FloatFormat.binary32.round false n d k + 0x80000000 := by
  rw [round_eq_encode true k hn hd, round_eq_encode false k hn hd, encode_true]

theorem round_lt (neg : Bool) (n d : Nat) (k : Int) : FloatFormat.binary32.round neg n d k < 0x100000000 := by
  by_cases degenerate : n = 0 ∨ d = 0
  · rw [round_zero_of_degenerate neg k degenerate]
    cases neg <;> decide
  · rw [not_or] at degenerate
    have top := round_le_top n d k
    cases neg
    · omega
    · rw [round_true degenerate.1 degenerate.2]
      omega

theorem round_exact_signed (neg : Bool) {n N : Nat} {k e : Int} (hn : 0 < n)
    (value : (n : ℚ) * 2 ^ k = N * 2 ^ e) (small : N < 2 ^ 24) (floor : -149 ≤ e) (high : e ≤ 104) :
    FloatFormat.binary32.round neg n 1 k < 0x100000000 ∧
      ∃ M Q, FloatFormat.binary32.decode (FloatFormat.binary32.round neg n 1 k) = .finite neg M Q ∧
        signedValue neg M Q = signedValue neg n k := by
  obtain ⟨below, M, Q, decoded, same⟩ := round_exact hn value small floor high
  cases neg
  · exact ⟨by omega, M, Q, decoded, by simp [signedValue, same]⟩
  · rw [round_true hn.ne' one_ne_zero]
    exact ⟨by omega, M, Q, decode_flip (by omega) decoded, by simp [signedValue, same]⟩

/-! ### Data that stand for a value exactly -/

/-- Datum `w` is a finite single-precision value standing for exactly `v`. -/
structure Exactly (w : Nat) (v : ℚ) : Prop where
  lt : w < 0x100000000
  parts : ∃ neg m q, FloatFormat.binary32.decode w = .finite neg m q ∧ signedValue neg m q = v

theorem Exactly.toRat {x : Binary32} {v : ℚ} (h : Exactly x.datum v) : x.toRat = v := by
  obtain ⟨neg, m, q, decoded, value⟩ := h.parts
  rw [toRat_of_value decoded, value]

theorem signedValue_int (z : Int) (k : Int) : signedValue (decide (z < 0)) z.natAbs k = z * 2 ^ k := by
  unfold signedValue
  rw [Nat.cast_natAbs, Int.cast_abs]
  by_cases negative : z < 0
  · rw [decide_eq_true negative, if_pos rfl, abs_of_neg (by exact_mod_cast negative)]
    ring
  · rw [decide_eq_false negative, if_neg Bool.false_ne_true, abs_of_nonneg (by exact_mod_cast not_lt.1 negative)]
    ring

theorem exactly_zero (neg : Bool) : Exactly (FloatFormat.binary32.zero neg) 0 := by
  cases neg
  · exact ⟨by decide, false, 0, -149, by decide, by simp [signedValue]⟩
  · exact ⟨by decide, true, 0, -149, by decide, by simp [signedValue]⟩

theorem exactly_round_int {z : Int} (k : Int) (nonzero : z ≠ 0) {Z e : Int}
    (value : (z : ℚ) * 2 ^ k = Z * 2 ^ e) (small : Z.natAbs < 2 ^ 24) (floor : -149 ≤ e) (high : e ≤ 104) :
    Exactly (FloatFormat.binary32.round (decide (z < 0)) z.natAbs 1 k) (z * 2 ^ k) := by
  have magnitude : (z.natAbs : ℚ) * 2 ^ k = (Z.natAbs : Nat) * 2 ^ e := by
    have absolute : |(z : ℚ) * 2 ^ k| = |(Z : ℚ) * 2 ^ e| := by rw [value]
    rw [abs_mul, abs_mul, abs_of_pos (by positivity : (0 : ℚ) < 2 ^ k),
      abs_of_pos (by positivity : (0 : ℚ) < 2 ^ e)] at absolute
    rw [Nat.cast_natAbs, Nat.cast_natAbs, Int.cast_abs, Int.cast_abs]
    exact absolute
  obtain ⟨lt, M, Q, decoded, same⟩ :=
    round_exact_signed (decide (z < 0)) (Int.natAbs_pos.2 nonzero) magnitude small floor high
  exact ⟨lt, _, M, Q, decoded, by rw [same, signedValue_int]⟩

theorem exactly_ofInt {i : Int} (small : i.natAbs < 2 ^ 24) : Exactly (ofInt i).datum i := by
  have datum : (ofInt i).datum = FloatFormat.binary32.round (decide (i < 0)) i.natAbs 1 0 := by
    unfold ofInt FloatFormat.ofInt
    exact datum_ofDatum (round_lt _ _ _ _)
  rw [datum]
  by_cases zero : i = 0
  · subst zero
    rw [round_zero_of_degenerate _ _ (Or.inl Int.natAbs_zero)]
    exact_mod_cast exactly_zero _
  · have exact := exactly_round_int 0 zero rfl small (by norm_num) (by norm_num)
    rwa [zpow_zero, mul_one] at exact

/-- A finite addend as a signed integer multiple of `2^e`, for `e` at most its quantum. -/
def signedScaled (neg : Bool) (m : Nat) (q e : Int) : Int := (if neg then -1 else 1) * ((m * 2 ^ (q - e).toNat : Nat) : Int)

theorem signedScaled_value (neg : Bool) (m : Nat) {q e : Int} (h : e ≤ q) :
    (signedScaled neg m q e : ℚ) * 2 ^ e = signedValue neg m q := by
  unfold signedScaled signedValue
  cases neg <;> push_cast <;> rw [mul_assoc, mul_assoc, pow_toNat_mul h, mul_assoc]

theorem add_of_decode {a b : Nat} {s t : Bool} {m n : Nat} {q r : Int}
    (da : FloatFormat.binary32.decode a = .finite s m q) (db : FloatFormat.binary32.decode b = .finite t n r) :
    FloatFormat.binary32.add a b =
      if signedScaled s m q (Min.min q r) + signedScaled t n r (Min.min q r) = 0 then FloatFormat.binary32.zero (s && t)
      else FloatFormat.binary32.round (decide (signedScaled s m q (Min.min q r) + signedScaled t n r (Min.min q r) < 0))
        (signedScaled s m q (Min.min q r) + signedScaled t n r (Min.min q r)).natAbs 1 (Min.min q r) := by
  simp only [FloatFormat.add, da, db, Nat.pow_eq]
  rfl

theorem exactly_add {a b : Nat} {u v : ℚ} (ha : Exactly a u) (hb : Exactly b v) {z e : Int}
    (sum : u + v = z * 2 ^ e) (small : z.natAbs < 2 ^ 24) (floor : -149 ≤ e) (high : e ≤ 104) :
    Exactly (FloatFormat.binary32.add a b) (u + v) := by
  obtain ⟨-, s, m, q, da, rfl⟩ := ha
  obtain ⟨-, t, n, r, db, rfl⟩ := hb
  have scaled : ((signedScaled s m q (Min.min q r) + signedScaled t n r (Min.min q r) : Int) : ℚ) * 2 ^ Min.min q r =
      signedValue s m q + signedValue t n r := by
    rw [Int.cast_add, add_mul, signedScaled_value s m (min_le_left q r), signedScaled_value t n (min_le_right q r)]
  rw [add_of_decode da db]
  split_ifs with zero
  · rw [← scaled, zero, Int.cast_zero, zero_mul]
    exact exactly_zero _
  · rw [← scaled]
    exact exactly_round_int _ zero (scaled.trans sum) small floor high

theorem decode_sign_low {w : Nat} (low : w < 0x80000000) {neg : Bool} {m : Nat} {q : Int}
    (h : FloatFormat.binary32.decode w = .finite neg m q) : neg = false := by
  unfold FloatFormat.decode at h
  rw [isNeg_low low] at h
  split_ifs at h <;> obtain ⟨rfl, -, -⟩ := FloatValue.finite.inj h <;> rfl

theorem decode_unflip {w : Nat} (low : w < 0x80000000) {neg : Bool} {m : Nat} {q : Int}
    (h : FloatFormat.binary32.decode (w + 0x80000000) = .finite neg m q) :
    FloatFormat.binary32.decode w = .finite false m q ∧ neg = true := by
  unfold FloatFormat.decode at h ⊢
  rw [biased_flip, fraction_flip, isNeg_flip low] at h
  rw [isNeg_low low]
  split_ifs at h ⊢ <;> obtain ⟨rfl, rfl, rfl⟩ := FloatValue.finite.inj h <;> exact ⟨rfl, rfl⟩

theorem neg_flip {w : Nat} (low : w < 0x80000000) : FloatFormat.binary32.neg (w + 0x80000000) = w := by
  have sign : FloatFormat.binary32.signBit = 0x80000000 := rfl
  simp only [FloatFormat.neg, isNeg_flip low, sign, ↓reduceIte, Nat.add_sub_cancel]

/-! ### Finiteness and order of exact data -/

theorem and_exponentMask (w : Nat) : w &&& 0x7F800000 = w / 0x800000 % 256 * 0x800000 := by
  have low : (w &&& 0x7F800000) % 2 ^ 23 = 0 := by
    rw [Nat.and_mod_two_pow]
    norm_num
  have high : (w &&& 0x7F800000) / 2 ^ 23 = w / 2 ^ 23 % 2 ^ 8 := by
    rw [Nat.and_div_two_pow, show 0x7F800000 / 2 ^ 23 = 2 ^ 8 - 1 by norm_num, Nat.and_two_pow_sub_one_eq_mod]
  have whole := Nat.div_add_mod (w &&& 0x7F800000) (2 ^ 23)
  norm_num at low high whole ⊢
  omega

theorem biased_ne_of_finite {w : Nat} {neg : Bool} {m : Nat} {q : Int}
    (h : FloatFormat.binary32.decode w = .finite neg m q) : w / 0x800000 % 256 ≠ 255 := by
  intro top
  have field : FloatFormat.binary32.biased w = FloatFormat.binary32.maxBiased := by
    simp only [FloatFormat.biased, FloatFormat.maxBiased, FloatFormat.fractionBits, FloatFormat.binary32, Nat.pow_eq]
    norm_num
    exact top
  unfold FloatFormat.decode at h
  rw [if_pos field] at h
  split_ifs at h

theorem Exactly.isFinite {x : Binary32} {v : ℚ} (h : Exactly x.datum v) : x.isFinite = true := by
  obtain ⟨-, neg, m, q, decoded, -⟩ := h
  have field := biased_ne_of_finite decoded
  have masked := and_exponentMask x.datum
  simp only [Binary32.isFinite, bne_iff_ne, ne_eq, ← UInt32.toNat_inj, UInt32.toNat_and]
  rw [show UInt32.toNat 2139095040 = 2139095040 from rfl]
  change ¬ x.datum &&& 2139095040 = 2139095040
  omega

theorem Exactly.not_nan {x : Binary32} {v : ℚ} (h : Exactly x.datum v) : x.isNaN = false := by
  obtain ⟨-, neg, m, q, decoded, -⟩ := h
  have field := biased_ne_of_finite decoded
  simp only [isNaN, FloatFormat.isNaN, FloatFormat.biased, FloatFormat.fraction, FloatFormat.maxBiased,
    FloatFormat.fractionBits, FloatFormat.binary32, Nat.pow_eq]
  norm_num
  omega

theorem Exactly.sided {w : Nat} {v : ℚ} (h : Exactly w v) :
    ∃ mag m q, mag < 0x7F800000 ∧ FloatFormat.binary32.decode mag = .finite false m q ∧
      (w = mag ∧ v = m * 2 ^ q ∨ w = mag + 0x80000000 ∧ v = -(m * 2 ^ q)) := by
  obtain ⟨lt, neg, m, q, decoded, rfl⟩ := h
  have field := biased_ne_of_finite decoded
  by_cases low : w < 0x80000000
  · obtain rfl := decode_sign_low low decoded
    exact ⟨w, m, q, by omega, decoded, .inl ⟨rfl, by simp [signedValue]⟩⟩
  · obtain ⟨mag, rfl⟩ : ∃ mag, w = mag + 0x80000000 := ⟨w - 0x80000000, by omega⟩
    obtain ⟨dm, rfl⟩ := decode_unflip (by omega) decoded
    exact ⟨mag, m, q, by omega, dm, .inr ⟨rfl, by simp [signedValue]⟩⟩

theorem exactly_neg {b : Nat} {v : ℚ} (hb : Exactly b v) : Exactly (FloatFormat.binary32.neg b) (-v) := by
  obtain ⟨mag, m, q, top, decoded, ⟨rfl, rfl⟩ | ⟨rfl, rfl⟩⟩ := hb.sided
  · -- the sign bit is clear and negation sets it
    rw [neg_low (by omega)]
    exact ⟨by omega, true, m, q, decode_flip (by omega) decoded, by simp [signedValue]⟩
  · -- the sign bit is set and negation clears it
    rw [neg_flip (by omega), neg_neg]
    exact ⟨by omega, false, m, q, decoded, by simp [signedValue]⟩

theorem orderKey_low {w : Nat} (low : w < 0x80000000) : FloatFormat.binary32.orderKey w = w := by
  unfold FloatFormat.orderKey
  rw [isNeg_low low, if_neg Bool.false_ne_true]
  simp only [FloatFormat.magnitude, FloatFormat.signBit, FloatFormat.fractionBits, FloatFormat.binary32, Nat.pow_eq]
  norm_num
  omega

theorem orderKey_flip {w : Nat} (low : w < 0x80000000) :
    FloatFormat.binary32.orderKey (w + 0x80000000) = -w := by
  unfold FloatFormat.orderKey
  rw [isNeg_flip low, if_pos rfl]
  simp only [FloatFormat.magnitude, FloatFormat.signBit, FloatFormat.fractionBits, FloatFormat.binary32, Nat.pow_eq]
  norm_num
  omega

theorem value_le_iff {a b M₁ M₂ : Nat} {Q₁ Q₂ : Int} (ha : a < 0x7F800000) (hb : b < 0x7F800000)
    (da : FloatFormat.binary32.decode a = .finite false M₁ Q₁)
    (db : FloatFormat.binary32.decode b = .finite false M₂ Q₂) :
    (M₁ : ℚ) * 2 ^ Q₁ ≤ M₂ * 2 ^ Q₂ ↔ a ≤ b :=
  ⟨fun le => not_lt.1 fun gt => not_lt.2 le (value_lt_of_datum_lt hb ha db da gt),
    value_le_of_datum_le ha hb da db⟩

theorem value_eq_zero_iff {a M : Nat} {Q : Int} (ha : a < 0x7F800000)
    (da : FloatFormat.binary32.decode a = .finite false M Q) : (M : ℚ) * 2 ^ Q = 0 ↔ a = 0 := by
  rw [mul_eq_zero, Nat.cast_eq_zero, or_iff_left (zpow_ne_zero _ two_ne_zero)]
  rw [decode_of_lt ha] at da
  split at da <;> obtain ⟨-, rfl, -⟩ := FloatValue.finite.inj da <;> omega

theorem orderKey_le_iff {a b : Nat} {u v : ℚ} (ha : Exactly a u) (hb : Exactly b v) :
    FloatFormat.binary32.orderKey a ≤ FloatFormat.binary32.orderKey b ↔ u ≤ v := by
  obtain ⟨magA, M₁, Q₁, topA, dA, sideA⟩ := ha.sided
  obtain ⟨magB, M₂, Q₂, topB, dB, sideB⟩ := hb.sided
  have zeroA := value_eq_zero_iff topA dA
  have zeroB := value_eq_zero_iff topB dB
  have posA : (0 : ℚ) ≤ M₁ * 2 ^ Q₁ := by positivity
  have posB : (0 : ℚ) ≤ M₂ * 2 ^ Q₂ := by positivity
  rcases sideA with ⟨rfl, rfl⟩ | ⟨rfl, rfl⟩ <;> rcases sideB with ⟨rfl, rfl⟩ | ⟨rfl, rfl⟩
  · -- both at or above zero
    rw [orderKey_low (by omega), orderKey_low (by omega), Nat.cast_le, value_le_iff topA topB dA dB]
  · -- above against below: only zero against zero
    rw [orderKey_low (by omega), orderKey_flip (by omega)]
    constructor
    · intro keys
      rw [zeroA.2 (by omega), zeroB.2 (by omega)]
      simp
    · intro values
      have := zeroA.1 (by linarith)
      have := zeroB.1 (by linarith)
      omega
  · -- below against above: always
    rw [orderKey_flip (by omega), orderKey_low (by omega)]
    exact ⟨fun _ => by linarith, fun _ => by omega⟩
  · -- both at or below zero: the magnitudes compare the other way
    rw [orderKey_flip (by omega), orderKey_flip (by omega), neg_le_neg_iff, neg_le_neg_iff, Nat.cast_le,
      value_le_iff topB topA dB dA]

theorem le_iff_of_exactly {x y : Binary32} {u v : ℚ} (hx : Exactly x.datum u) (hy : Exactly y.datum v) :
    x ≤ y ↔ u ≤ v := by
  rw [le_iff]
  simp only [hx.not_nan, hy.not_nan, true_and]
  exact orderKey_le_iff hx hy

theorem Exactly.add {x y : Binary32} {u v : ℚ} (hx : Exactly x.datum u) (hy : Exactly y.datum v) {z e : Int}
    (sum : u + v = z * 2 ^ e) (small : z.natAbs < 2 ^ 24) (floor : -149 ≤ e) (high : e ≤ 104) :
    Exactly (x + y).datum (u + v) := by
  have exact := exactly_add hx hy sum small floor high
  change Exactly (ofDatum _).datum _
  rwa [datum_ofDatum exact.lt]

theorem Exactly.sub {x y : Binary32} {u v : ℚ} (hx : Exactly x.datum u) (hy : Exactly y.datum v) {z e : Int}
    (difference : u - v = z * 2 ^ e) (small : z.natAbs < 2 ^ 24) (floor : -149 ≤ e) (high : e ≤ 104) :
    Exactly (x - y).datum (u - v) := by
  obtain ⟨t, n, r, dy, -⟩ := hy.parts
  have exact := exactly_add hx (exactly_neg hy) (by rw [← sub_eq_add_neg]; exact difference) small floor high
  rw [← sub_eq_add_neg] at exact
  change Exactly (ofDatum (FloatFormat.binary32.sub x.datum y.datum)).datum _
  simp only [FloatFormat.sub, dy]
  rwa [datum_ofDatum exact.lt]

theorem exactly_half : Exactly (0.5 : Binary32).datum (1 / 2) :=
  ⟨by decide, false, 0x800000, -24, by decide, by norm_num [signedValue]⟩

end Binary32

end GlyphCanvas
