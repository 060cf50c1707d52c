import Mathlib
import GlyphCanvas.Proofs.Float.Arith

namespace GlyphCanvas

namespace Binary32

variable {x y : Binary32}

theorem nearestAway_eq_floor (m d : Nat) (hd : 0 < d) :
    m / d + (if d ≤ 2 * (m % d) then 1 else 0) = ⌊(m : ℚ) / d + 1 / 2⌋₊ := by
  have split := ratio_split (a := m) hd
  have below := rem_ratio_lt_one (a := m) hd
  have dPos : (0 : ℚ) < d := by exact_mod_cast hd
  symm
  rw [Nat.floor_eq_iff (by positivity), split]
  split_ifs with up
  · -- the remainder is at least half: the next integer
    have half : (1 / 2 : ℚ) ≤ ((m % d : Nat) : ℚ) / d := by
      rw [le_div_iff₀ dPos]
      have : (d : ℚ) ≤ 2 * (m % d : Nat) := by exact_mod_cast up
      linarith
    push_cast
    constructor <;> linarith
  · -- the remainder is below half: the quotient itself
    have half : ((m % d : Nat) : ℚ) / d < 1 / 2 := by
      rw [div_lt_iff₀ dPos]
      have : (2 * (m % d : Nat) : ℚ) < d := by exact_mod_cast Nat.lt_of_not_le up
      linarith
    have : (0 : ℚ) ≤ ((m % d : Nat) : ℚ) / d := by positivity
    push_cast
    constructor <;> linarith

theorem floor_natCast_add_half (n : Nat) : ⌊(n : ℚ) + 1 / 2⌋₊ = n := by
  rw [Nat.floor_eq_iff (by positivity)]
  constructor <;> linarith

theorem scaled_of_nonneg (m : Nat) {q : Int} (hq : 0 ≤ q) : (m : ℚ) * 2 ^ q = ((m * 2 ^ q.toNat : Nat) : ℚ) := by
  rw [← Int.toNat_of_nonneg hq, zpow_natCast]
  push_cast
  rfl

theorem scaled_of_neg (m : Nat) {q : Int} (hq : q < 0) : (m : ℚ) * 2 ^ q = (m : ℚ) / ((2 ^ (-q).toNat : Nat) : ℚ) := by
  have exponent : q = -((-q).toNat : Int) := by omega
  conv_lhs => rw [exponent, zpow_neg, zpow_natCast]
  push_cast
  rw [div_eq_mul_inv]

theorem roundIntegral_away {x m : Nat} {q : Int} (h : x < 0x7F800000)
    (dx : FloatFormat.binary32.decode x = .finite false m q) :
    FloatFormat.binary32.roundIntegral .nearestAway x =
      FloatFormat.binary32.round false ⌊(m : ℚ) * 2 ^ q + 1 / 2⌋₊ 1 0 := by
  unfold FloatFormat.roundIntegral
  rw [dx]
  dsimp only
  by_cases hq : 0 ≤ q
  · -- an integral value: the datum is kept, and it is the rounding of its own value
    rw [if_pos hq, scaled_of_nonneg m hq, floor_natCast_add_half, ← round_datum h dx]
    apply le_antisymm <;> apply round_mono_one <;> rw [← scaled_of_nonneg m hq] <;> simp
  · have nearest := nearestAway_eq_floor m (2 ^ (-q).toNat) (by positivity)
    rw [if_neg hq, scaled_of_neg m (by omega)]
    simp only [Nat.pow_eq, decide_eq_true_eq, ge_iff_le]
    rw [nearest]

theorem roundIntegral_le_top (hx : x.Plus) :
    FloatFormat.binary32.roundIntegral .nearestAway x.datum ≤ 0x7F800000 := by
  rcases Nat.lt_or_eq_of_le hx with finite | top
  · obtain ⟨m, q, dx, -⟩ := decode_finite finite
    rw [roundIntegral_away finite dx]
    exact round_le_top _ _ _
  · rw [top]
    decide

theorem round_datum_eq (hx : x.Plus) :
    x.round.datum = FloatFormat.binary32.roundIntegral .nearestAway x.datum :=
  datum_ofDatum (lt_of_le_of_lt (roundIntegral_le_top hx) (by norm_num))

theorem Plus.round (hx : x.Plus) : x.round.Plus := by
  unfold Plus
  rw [round_datum_eq hx]
  exact roundIntegral_le_top hx

theorem round_datum_mono (hx : x.Plus) (hy : y.Plus) (h : x.datum ≤ y.datum) : x.round.datum ≤ y.round.datum := by
  rw [round_datum_eq hx, round_datum_eq hy]
  rcases Nat.lt_or_eq_of_le hy with finite | top
  · obtain ⟨m₂, q₂, dy, -⟩ := decode_finite finite
    obtain ⟨m₁, q₁, dx, -⟩ := decode_finite (lt_of_le_of_lt h finite)
    have values := value_le_of_datum_le (lt_of_le_of_lt h finite) finite dx dy h
    rw [roundIntegral_away (lt_of_le_of_lt h finite) dx, roundIntegral_away finite dy]
    apply round_mono_one
    have floors := Nat.floor_le_floor (a := (m₁ : ℚ) * 2 ^ q₁ + 1 / 2) (b := (m₂ : ℚ) * 2 ^ q₂ + 1 / 2)
      (by linarith)
    simpa using (show (⌊(m₁ : ℚ) * 2 ^ q₁ + 1 / 2⌋₊ : ℚ) ≤ ⌊(m₂ : ℚ) * 2 ^ q₂ + 1 / 2⌋₊ by exact_mod_cast floors)
  · rw [top, show FloatFormat.binary32.roundIntegral .nearestAway 0x7F800000 = 0x7F800000 by decide]
    exact roundIntegral_le_top hx

theorem truncate_of_plus {x m : Nat} {q : Int} (dx : FloatFormat.binary32.decode x = .finite false m q) :
    FloatFormat.binary32.truncate x = some (⌊(m : ℚ) * 2 ^ q⌋₊ : Int) := by
  unfold FloatFormat.truncate
  rw [dx]
  dsimp only
  by_cases hq : 0 ≤ q
  · rw [if_pos hq, scaled_of_nonneg m hq, Nat.floor_natCast]
    simp [Nat.pow_eq]
  · rw [if_neg hq, scaled_of_neg m (by omega), Nat.floor_div_eq_div]
    simp [Nat.pow_eq]

theorem toInt32_of_finite {m : Nat} {q : Int} (dx : FloatFormat.binary32.decode x.datum = .finite false m q) :
    x.toInt32 = Min.min 2147483647 (⌊(m : ℚ) * 2 ^ q⌋₊ : Int) := by
  simp only [toInt32, toIntClamped, FloatFormat.toIntClamped, dx, truncate_of_plus dx, Option.getD_some]
  omega

theorem toInt32_inf : inf.toInt32 = 2147483647 := by decide

theorem toInt32_mono (hx : x.Plus) (hy : y.Plus) (h : x.datum ≤ y.datum) : x.toInt32 ≤ y.toInt32 := by
  rcases Nat.lt_or_eq_of_le hy with finite | top
  · obtain ⟨m₂, q₂, dy, -⟩ := decode_finite finite
    obtain ⟨m₁, q₁, dx, -⟩ := decode_finite (lt_of_le_of_lt h finite)
    have values := value_le_of_datum_le (lt_of_le_of_lt h finite) finite dx dy h
    have floors : ⌊(m₁ : ℚ) * 2 ^ q₁⌋₊ ≤ ⌊(m₂ : ℚ) * 2 ^ q₂⌋₊ := Nat.floor_le_floor values
    rw [toInt32_of_finite dx, toInt32_of_finite dy]
    omega
  · rw [eq_of_datum_eq (y := inf) top, toInt32_inf]
    rcases Nat.lt_or_eq_of_le hx with finite | top
    · obtain ⟨m, q, dx, -⟩ := decode_finite finite
      rw [toInt32_of_finite dx]
      omega
    · rw [eq_of_datum_eq (y := inf) top, toInt32_inf]

end Binary32

end GlyphCanvas
