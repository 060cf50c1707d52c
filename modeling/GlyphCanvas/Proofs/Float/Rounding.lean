import Mathlib
import GlyphCanvas.Float.Binary32

namespace GlyphCanvas

theorem shiftRatio_den_pos {n d : Nat} (s : Int) (hd : 0 < d) : 0 < (shiftRatio n d s).2 := by
  unfold shiftRatio
  split <;> simp only [Nat.pow_eq] <;> positivity

theorem shiftRatio_ratio (n d : Nat) (s : Int) :
    ((shiftRatio n d s).1 : ℚ) / (shiftRatio n d s).2 = n / d * 2 ^ s := by
  unfold shiftRatio
  split
  · rename_i nonneg
    obtain ⟨t, rfl⟩ := Int.eq_ofNat_of_zero_le nonneg
    simp [Nat.pow_eq]
    ring
  · rename_i neg
    obtain ⟨t, ht⟩ : ∃ t : Nat, s = -t := ⟨(-s).toNat, by omega⟩
    subst ht
    simp [Nat.pow_eq, zpow_neg]
    ring

theorem leadExponent_eq (n d : Nat) :
    FloatFormat.leadExponent n d =
      if (shiftRatio n d (-(n.log2 - d.log2 : Int))).2 ≤ (shiftRatio n d (-(n.log2 - d.log2 : Int))).1
      then (n.log2 - d.log2 : Int) else n.log2 - d.log2 - 1 := rfl

theorem leadExponent_spec {n d : Nat} (hn : 0 < n) (hd : 0 < d) :
    (2 : ℚ) ^ FloatFormat.leadExponent n d ≤ n / d ∧
      (n / d : ℚ) < 2 ^ (FloatFormat.leadExponent n d + 1) := by
  have nLow : (2 : ℚ) ^ n.log2 ≤ n := by exact_mod_cast Nat.log2_self_le hn.ne'
  have nHigh : (n : ℚ) < 2 ^ (n.log2 + 1) := by exact_mod_cast Nat.lt_log2_self
  have dLow : (2 : ℚ) ^ d.log2 ≤ d := by exact_mod_cast Nat.log2_self_le hd.ne'
  have dHigh : (d : ℚ) < 2 ^ (d.log2 + 1) := by exact_mod_cast Nat.lt_log2_self
  have dPos : (0 : ℚ) < d := by exact_mod_cast hd
  set e0 : Int := n.log2 - d.log2 with he0
  have split1 : (2 : ℚ) ^ (e0 + 1) * 2 ^ d.log2 = 2 ^ (n.log2 + 1) := by
    rw [← zpow_natCast, ← zpow_natCast, ← zpow_add₀ (by norm_num)]
    congr 1; push_cast; omega
  have split2 : (2 : ℚ) ^ (e0 - 1) * 2 ^ (d.log2 + 1) = 2 ^ n.log2 := by
    rw [← zpow_natCast, ← zpow_natCast, ← zpow_add₀ (by norm_num)]
    congr 1; push_cast; omega
  have up : (n / d : ℚ) < 2 ^ (e0 + 1) := by
    rw [div_lt_iff₀ dPos]
    calc (n : ℚ) < 2 ^ (n.log2 + 1) := nHigh
      _ = 2 ^ (e0 + 1) * 2 ^ d.log2 := split1.symm
      _ ≤ 2 ^ (e0 + 1) * d := by gcongr
  have down : (2 : ℚ) ^ (e0 - 1) < n / d := by
    rw [lt_div_iff₀ dPos]
    calc (2 : ℚ) ^ (e0 - 1) * d < 2 ^ (e0 - 1) * 2 ^ (d.log2 + 1) := by gcongr
      _ = 2 ^ n.log2 := split2
      _ ≤ n := nLow
  have ratio := shiftRatio_ratio n d (-e0)
  have den : (0 : ℚ) < (shiftRatio n d (-e0)).2 := by exact_mod_cast shiftRatio_den_pos (-e0) hd
  have cancel : (n / d : ℚ) * 2 ^ (-e0) * 2 ^ e0 = n / d := by
    rw [mul_assoc, ← zpow_add₀ (by norm_num), neg_add_cancel, zpow_zero, mul_one]
  have pow : (0 : ℚ) < 2 ^ e0 := by positivity
  rw [leadExponent_eq, ← he0]
  split
  · rename_i big
    have one : (1 : ℚ) ≤ (shiftRatio n d (-e0)).1 / (shiftRatio n d (-e0)).2 := by
      rw [le_div_iff₀ den, one_mul]; exact_mod_cast big
    rw [ratio] at one
    refine ⟨?_, up⟩
    calc (2 : ℚ) ^ e0 = 1 * 2 ^ e0 := (one_mul _).symm
      _ ≤ n / d * 2 ^ (-e0) * 2 ^ e0 := by gcongr
      _ = n / d := cancel
  · rename_i small
    have below : ((shiftRatio n d (-e0)).1 : ℚ) / (shiftRatio n d (-e0)).2 < 1 := by
      rw [div_lt_iff₀ den, one_mul]; exact_mod_cast (Nat.lt_of_not_le small)
    rw [ratio] at below
    refine ⟨down.le, ?_⟩
    rw [sub_add_cancel]
    calc (n / d : ℚ) = n / d * 2 ^ (-e0) * 2 ^ e0 := cancel.symm
      _ < 1 * 2 ^ e0 := by gcongr
      _ = 2 ^ e0 := one_mul _

theorem ratio_split {a b : Nat} (hb : 0 < b) : (a : ℚ) / b = (a / b : Nat) + ((a % b : Nat) : ℚ) / b := by
  have bPos : (0 : ℚ) < b := by exact_mod_cast hb
  have whole : ((b * (a / b) + a % b : Nat) : ℚ) = a := by exact_mod_cast Nat.div_add_mod a b
  push_cast at whole
  field_simp
  linarith

theorem rem_ratio_lt_one {a b : Nat} (hb : 0 < b) : ((a % b : Nat) : ℚ) / b < 1 := by
  have bPos : (0 : ℚ) < b := by exact_mod_cast hb
  rw [div_lt_one bPos]
  exact_mod_cast Nat.mod_lt a hb

theorem divRoundEven_le_succ (a b : Nat) : divRoundEven a b ≤ a / b + 1 := by
  unfold divRoundEven; split <;> omega

theorem div_le_divRoundEven (a b : Nat) : a / b ≤ divRoundEven a b := by
  unfold divRoundEven; split <;> omega

theorem half_lt_iff {r b : Nat} (hb : 0 < b) : (1 / 2 : ℚ) < (r : ℚ) / b ↔ b < 2 * r := by
  rw [lt_div_iff₀ (by exact_mod_cast hb)]
  constructor <;> intro h
  · exact_mod_cast (by linarith : (b : ℚ) < 2 * r)
  · have : (b : ℚ) < 2 * r := by exact_mod_cast h
    linarith

theorem half_eq_iff {r b : Nat} (hb : 0 < b) : (r : ℚ) / b = 1 / 2 ↔ 2 * r = b := by
  rw [div_eq_iff (by exact_mod_cast hb.ne')]
  constructor <;> intro h
  · exact_mod_cast (by linarith : (2 * r : ℚ) = b)
  · have : (2 * r : ℚ) = b := by exact_mod_cast h
    linarith

theorem divRoundEven_mono {a₁ b₁ a₂ b₂ : Nat} (hb₁ : 0 < b₁) (hb₂ : 0 < b₂)
    (h : (a₁ : ℚ) / b₁ ≤ a₂ / b₂) : divRoundEven a₁ b₁ ≤ divRoundEven a₂ b₂ := by
  have x₁ := ratio_split (a := a₁) hb₁
  have x₂ := ratio_split (a := a₂) hb₂
  have t₁ := rem_ratio_lt_one (a := a₁) hb₁
  have t₂ := rem_ratio_lt_one (a := a₂) hb₂
  have t₁Pos : (0 : ℚ) ≤ ((a₁ % b₁ : Nat) : ℚ) / b₁ := by positivity
  have t₂Pos : (0 : ℚ) ≤ ((a₂ % b₂ : Nat) : ℚ) / b₂ := by positivity
  have floors : a₁ / b₁ ≤ a₂ / b₂ := by
    have : ((a₁ / b₁ : Nat) : ℚ) < (a₂ / b₂ : Nat) + 1 := by linarith
    exact_mod_cast Nat.lt_succ_iff.1 (by exact_mod_cast this)
  rcases Nat.lt_or_eq_of_le floors with lower | same
  · calc divRoundEven a₁ b₁ ≤ a₁ / b₁ + 1 := divRoundEven_le_succ a₁ b₁
      _ ≤ a₂ / b₂ := lower
      _ ≤ divRoundEven a₂ b₂ := div_le_divRoundEven a₂ b₂
  · have fracs : ((a₁ % b₁ : Nat) : ℚ) / b₁ ≤ ((a₂ % b₂ : Nat) : ℚ) / b₂ := by
      rw [same] at x₁; linarith
    have up : b₁ < 2 * (a₁ % b₁) ∨ (2 * (a₁ % b₁) = b₁ ∧ a₁ / b₁ % 2 = 1) →
        b₂ < 2 * (a₂ % b₂) ∨ (2 * (a₂ % b₂) = b₂ ∧ a₂ / b₂ % 2 = 1) := by
      rintro (above | ⟨tie, odd⟩)
      · exact Or.inl ((half_lt_iff hb₂).1 (lt_of_lt_of_le ((half_lt_iff hb₁).2 above) fracs))
      · have atLeast : (1 / 2 : ℚ) ≤ ((a₂ % b₂ : Nat) : ℚ) / b₂ := ((half_eq_iff hb₁).2 tie) ▸ fracs
        rcases atLeast.lt_or_eq with above | tie₂
        · exact Or.inl ((half_lt_iff hb₂).1 above)
        · exact Or.inr ⟨(half_eq_iff hb₂).1 tie₂.symm, same ▸ odd⟩
    unfold divRoundEven
    split
    · rw [if_pos (up ‹_›), same]
    · split <;> omega

theorem divRoundEven_le_of_lt {a b K : Nat} (hb : 0 < b) (h : a < K * b) : divRoundEven a b ≤ K := by
  have : a / b < K := (Nat.div_lt_iff_lt_mul hb).2 h
  have := divRoundEven_le_succ a b
  omega

theorem le_divRoundEven_of_le {a b K : Nat} (hb : 0 < b) (h : K * b ≤ a) : K ≤ divRoundEven a b :=
  le_trans ((Nat.le_div_iff_mul_le hb).2 h) (div_le_divRoundEven a b)

namespace Binary32

/-- The quantum that rounding `n / d · 2^k` to single precision works at: that of the value's binade
with 24 significant bits, or that of the subnormals. -/
def quantum (n d : Nat) (k : Int) : Int := Max.max (FloatFormat.leadExponent n d + k - 23) (-149)

/-- The significand that rounding `n / d · 2^k` picks at its quantum. -/
def significand (n d : Nat) (k : Int) : Nat :=
  divRoundEven (shiftRatio n d (k - quantum n d k)).1 (shiftRatio n d (k - quantum n d k)).2

theorem round_eq_encode {n d : Nat} (neg : Bool) (k : Int) (hn : n ≠ 0) (hd : d ≠ 0) :
    FloatFormat.binary32.round neg n d k =
      FloatFormat.binary32.encode neg (significand n d k) (quantum n d k) := by
  simp only [FloatFormat.round, hn, hd, or_self, if_false]
  rfl

theorem encode_eq {m : Nat} {q : Int} (low : -149 ≤ q) (bound : m ≤ 0x1000000)
    (normal : q = -149 ∨ 0x800000 ≤ m) :
    FloatFormat.binary32.encode false m q = Min.min ((q + 149).toNat * 0x800000 + m) 0x7F800000 := by
  simp only [FloatFormat.encode, FloatFormat.encodeNormal, FloatFormat.pack, FloatFormat.infinity,
    FloatFormat.fractionBits, FloatFormat.minQuantum, FloatFormat.maxBiased, FloatFormat.binary32,
    Nat.pow_eq]
  norm_num
  split_ifs <;> omega

theorem significand_ratio (n d : Nat) (k : Int) :
    ((shiftRatio n d (k - quantum n d k)).1 : ℚ) / (shiftRatio n d (k - quantum n d k)).2 =
      n / d * 2 ^ (k - quantum n d k) :=
  shiftRatio_ratio n d _

theorem significand_le {n d : Nat} (k : Int) (hn : 0 < n) (hd : 0 < d) : significand n d k ≤ 0x1000000 := by
  obtain ⟨-, high⟩ := leadExponent_spec hn hd
  have den := shiftRatio_den_pos (n := n) (k - quantum n d k) hd
  have step : FloatFormat.leadExponent n d + 1 + (k - quantum n d k) ≤ 24 := by
    unfold quantum; omega
  have below : (n / d : ℚ) * 2 ^ (k - quantum n d k) < 2 ^ 24 :=
    calc (n / d : ℚ) * 2 ^ (k - quantum n d k)
        < 2 ^ (FloatFormat.leadExponent n d + 1) * 2 ^ (k - quantum n d k) := by gcongr
      _ = 2 ^ (FloatFormat.leadExponent n d + 1 + (k - quantum n d k)) :=
        (zpow_add₀ (by norm_num) _ _).symm
      _ ≤ 2 ^ (24 : Int) := zpow_le_zpow_right₀ (by norm_num) step
      _ = 2 ^ 24 := by norm_num
  rw [← significand_ratio, div_lt_iff₀ (by exact_mod_cast den)] at below
  exact divRoundEven_le_of_lt den (by exact_mod_cast below)

theorem significand_normal {n d : Nat} {k : Int} (hn : 0 < n) (hd : 0 < d)
    (normal : quantum n d k ≠ -149) : 0x800000 ≤ significand n d k := by
  obtain ⟨low, -⟩ := leadExponent_spec hn hd
  have den := shiftRatio_den_pos (n := n) (k - quantum n d k) hd
  have step : FloatFormat.leadExponent n d + (k - quantum n d k) = 23 := by
    unfold quantum at normal ⊢; omega
  have above : (2 : ℚ) ^ 23 ≤ (n / d : ℚ) * 2 ^ (k - quantum n d k) :=
    calc (2 : ℚ) ^ 23 = 2 ^ (23 : Int) := by norm_num
      _ = 2 ^ (FloatFormat.leadExponent n d + (k - quantum n d k)) := by rw [step]
      _ = 2 ^ FloatFormat.leadExponent n d * 2 ^ (k - quantum n d k) := zpow_add₀ (by norm_num) _ _
      _ ≤ (n / d : ℚ) * 2 ^ (k - quantum n d k) := by gcongr
  rw [← significand_ratio, le_div_iff₀ (by exact_mod_cast den)] at above
  exact le_divRoundEven_of_le den (by exact_mod_cast above)

theorem round_eq {n d : Nat} (k : Int) (hn : 0 < n) (hd : 0 < d) :
    FloatFormat.binary32.round false n d k =
      Min.min ((quantum n d k + 149).toNat * 0x800000 + significand n d k) 0x7F800000 := by
  rw [round_eq_encode false k hn.ne' hd.ne']
  refine encode_eq (by unfold quantum; omega) (significand_le k hn hd) ?_
  by_cases low : quantum n d k = -149
  · exact Or.inl low
  · exact Or.inr (significand_normal hn hd low)

theorem round_zero_of_degenerate {n d : Nat} (neg : Bool) (k : Int) (h : n = 0 ∨ d = 0) :
    FloatFormat.binary32.round neg n d k = FloatFormat.binary32.zero neg := by
  simp [FloatFormat.round, h]

theorem exponent_mono {n₁ d₁ n₂ d₂ : Nat} {k₁ k₂ : Int} (hn₁ : 0 < n₁) (hd₁ : 0 < d₁)
    (hn₂ : 0 < n₂) (hd₂ : 0 < d₂) (h : (n₁ / d₁ : ℚ) * 2 ^ k₁ ≤ n₂ / d₂ * 2 ^ k₂) :
    FloatFormat.leadExponent n₁ d₁ + k₁ ≤ FloatFormat.leadExponent n₂ d₂ + k₂ := by
  obtain ⟨low, -⟩ := leadExponent_spec hn₁ hd₁
  obtain ⟨-, high⟩ := leadExponent_spec hn₂ hd₂
  have chain : (2 : ℚ) ^ (FloatFormat.leadExponent n₁ d₁ + k₁) <
      2 ^ (FloatFormat.leadExponent n₂ d₂ + k₂ + 1) :=
    calc (2 : ℚ) ^ (FloatFormat.leadExponent n₁ d₁ + k₁)
        = 2 ^ FloatFormat.leadExponent n₁ d₁ * 2 ^ k₁ := zpow_add₀ (by norm_num) _ _
      _ ≤ n₁ / d₁ * 2 ^ k₁ := by gcongr
      _ ≤ n₂ / d₂ * 2 ^ k₂ := h
      _ < 2 ^ (FloatFormat.leadExponent n₂ d₂ + 1) * 2 ^ k₂ := by gcongr
      _ = 2 ^ (FloatFormat.leadExponent n₂ d₂ + k₂ + 1) := by
        rw [← zpow_add₀ (by norm_num)]; ring_nf
  have := (zpow_lt_zpow_iff_right₀ (by norm_num : (1 : ℚ) < 2)).1 chain
  omega

theorem packed_mono {q₁ q₂ : Int} {m₁ m₂ : Nat} (floor : -149 ≤ q₁) (bound : m₁ ≤ 0x1000000)
    (h : q₁ < q₂ ∧ 0x800000 ≤ m₂ ∨ q₁ = q₂ ∧ m₁ ≤ m₂) :
    Min.min ((q₁ + 149).toNat * 0x800000 + m₁) 0x7F800000 ≤
      Min.min ((q₂ + 149).toNat * 0x800000 + m₂) 0x7F800000 := by
  omega

theorem round_mono {n₁ d₁ n₂ d₂ : Nat} {k₁ k₂ : Int}
    (h : (n₁ / d₁ : ℚ) * 2 ^ k₁ ≤ n₂ / d₂ * 2 ^ k₂) :
    FloatFormat.binary32.round false n₁ d₁ k₁ ≤ FloatFormat.binary32.round false n₂ d₂ k₂ := by
  by_cases degenerate : n₁ = 0 ∨ d₁ = 0
  · rw [round_zero_of_degenerate false k₁ degenerate]
    exact Nat.zero_le _
  have hn₁ : 0 < n₁ := by omega
  have hd₁ : 0 < d₁ := by omega
  have positive : (0 : ℚ) < n₁ / d₁ * 2 ^ k₁ := by positivity
  have hn₂ : 0 < n₂ := by
    rcases Nat.eq_zero_or_pos n₂ with zero | pos
    · subst zero; simp at h; linarith
    · exact pos
  have hd₂ : 0 < d₂ := by
    rcases Nat.eq_zero_or_pos d₂ with zero | pos
    · subst zero; simp at h; linarith
    · exact pos
  have exponents := exponent_mono hn₁ hd₁ hn₂ hd₂ h
  have quanta : quantum n₁ d₁ k₁ ≤ quantum n₂ d₂ k₂ := by unfold quantum; omega
  have first := significand_le k₁ hn₁ hd₁
  have floor₁ : -149 ≤ quantum n₁ d₁ k₁ := by unfold quantum; omega
  rw [round_eq k₁ hn₁ hd₁, round_eq k₂ hn₂ hd₂]
  apply packed_mono floor₁ first
  rcases quanta.lt_or_eq with lower | same
  · exact Or.inl ⟨lower, significand_normal hn₂ hd₂ (by unfold quantum at lower ⊢; omega)⟩
  · refine Or.inr ⟨same, ?_⟩
    have ratios : (n₁ / d₁ : ℚ) * 2 ^ (k₁ - quantum n₁ d₁ k₁) ≤ n₂ / d₂ * 2 ^ (k₂ - quantum n₂ d₂ k₂) := by
      rw [zpow_sub₀ (by norm_num), zpow_sub₀ (by norm_num), same, ← mul_div_assoc, ← mul_div_assoc]
      gcongr
    rw [← significand_ratio, ← significand_ratio] at ratios
    exact divRoundEven_mono (shiftRatio_den_pos _ hd₁) (shiftRatio_den_pos _ hd₂) ratios

theorem decode_of_lt {x : Nat} (h : x < 0x7F800000) :
    FloatFormat.binary32.decode x =
      if x < 0x800000 then .finite false x (-149)
      else .finite false (x % 0x800000 + 0x800000) ((x / 0x800000 : Nat) - 150) := by
  simp only [FloatFormat.decode, FloatFormat.biased, FloatFormat.fraction, FloatFormat.isNeg,
    FloatFormat.maxBiased, FloatFormat.minQuantum, FloatFormat.signBit, FloatFormat.fractionBits,
    FloatFormat.binary32, Nat.pow_eq]
  norm_num
  have sign : x / 2147483648 % 2 = 0 := by omega
  simp only [sign]
  have top : x / 8388608 % 256 ≠ 255 := by omega
  rw [if_neg top]
  by_cases sub : x < 8388608
  · rw [if_pos (by omega), if_pos sub, Nat.mod_eq_of_lt sub]
    rfl
  · rw [if_neg (by omega), if_neg sub]
    congr 1
    omega

theorem quantum_of_bounds {M : Nat} {Q : Int} (hM : 0 < M) (bound : M < 0x1000000)
    (normal : Q = -149 ∨ 0x800000 ≤ M) (floor : -149 ≤ Q) : quantum M 1 Q = Q := by
  obtain ⟨low, high⟩ := leadExponent_spec hM one_pos
  rw [Nat.cast_one, div_one] at low high
  have below : FloatFormat.leadExponent M 1 < 24 := by
    have : (2 : ℚ) ^ FloatFormat.leadExponent M 1 < 2 ^ (24 : Int) :=
      lt_of_le_of_lt low (by exact_mod_cast (by norm_num; omega : M < 2 ^ 24))
    exact (zpow_lt_zpow_iff_right₀ (by norm_num)).1 this
  unfold quantum
  rcases normal with sub | normal
  · omega
  · have above : 23 < FloatFormat.leadExponent M 1 + 1 := by
      have : (2 : ℚ) ^ (23 : Int) < 2 ^ (FloatFormat.leadExponent M 1 + 1) :=
        lt_of_le_of_lt (by exact_mod_cast (by norm_num; omega : 2 ^ 23 ≤ M)) high
      exact (zpow_lt_zpow_iff_right₀ (by norm_num)).1 this
    omega

theorem significand_self (M : Nat) (Q : Int) (same : quantum M 1 Q = Q) : significand M 1 Q = M := by
  simp [significand, same, shiftRatio, divRoundEven, Nat.mod_one]

theorem round_datum {x M : Nat} {Q : Int} (h : x < 0x7F800000)
    (hx : FloatFormat.binary32.decode x = .finite false M Q) :
    FloatFormat.binary32.round false M 1 Q = x := by
  rw [decode_of_lt h] at hx
  by_cases zero : x = 0
  · subst zero
    simp only [if_pos (by norm_num : 0 < 0x800000), FloatValue.finite.injEq] at hx
    obtain ⟨-, rfl, -⟩ := hx
    rw [round_zero_of_degenerate false Q (Or.inl rfl)]
    rfl
  have parts : (M = x ∧ Q = -149 ∧ x < 0x800000) ∨
      (M = x % 0x800000 + 0x800000 ∧ Q = (x / 0x800000 : Nat) - 150 ∧ 0x800000 ≤ x) := by
    split at hx <;> simp only [FloatValue.finite.injEq] at hx <;> omega
  have hM : 0 < M := by omega
  have same : quantum M 1 Q = Q := quantum_of_bounds hM (by omega) (by omega) (by omega)
  rw [round_eq Q hM one_pos, same, significand_self M Q same]
  omega

end Binary32

end GlyphCanvas
