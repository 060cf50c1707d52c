import GlyphCanvas.Proofs.Float.Order
import GlyphCanvas.Proofs.Float.Rounding

namespace GlyphCanvas

namespace Binary32

variable {x y : Binary32}

theorem round_le_top (n d : Nat) (k : Int) : FloatFormat.binary32.round false n d k ≤ 0x7F800000 := by
  by_cases degenerate : n = 0 ∨ d = 0
  · rw [round_zero_of_degenerate false k degenerate]
    decide
  · rw [round_eq k (by omega) (by omega)]
    omega

theorem rounded_datum (n d : Nat) (k : Int) :
    (ofDatum (FloatFormat.binary32.round false n d k)).datum = FloatFormat.binary32.round false n d k :=
  datum_ofDatum (lt_of_le_of_lt (round_le_top n d k) (by norm_num))

theorem rounded_plus (n d : Nat) (k : Int) : (ofDatum (FloatFormat.binary32.round false n d k)).Plus := by
  unfold Plus
  rw [rounded_datum]
  exact round_le_top n d k

theorem ofNat_eq (n : Nat) : ofNat n = ofDatum (FloatFormat.binary32.round false n 1 0) := by
  simp only [ofNat, ofInt, FloatFormat.ofInt, Int.natAbs_natCast]
  congr

theorem round_mono_one {m₁ m₂ : Nat} {k₁ k₂ : Int} (h : (m₁ : ℚ) * 2 ^ k₁ ≤ m₂ * 2 ^ k₂) :
    FloatFormat.binary32.round false m₁ 1 k₁ ≤ FloatFormat.binary32.round false m₂ 1 k₂ :=
  round_mono (by simpa using h)

theorem value_le_of_datum_le {x y M₁ M₂ : Nat} {Q₁ Q₂ : Int} (hx : x < 0x7F800000) (hy : y < 0x7F800000)
    (dx : FloatFormat.binary32.decode x = .finite false M₁ Q₁)
    (dy : FloatFormat.binary32.decode y = .finite false M₂ Q₂) (h : x ≤ y) :
    (M₁ : ℚ) * 2 ^ Q₁ ≤ M₂ * 2 ^ Q₂ := by
  by_contra greater
  have back := round_mono_one (le_of_lt (not_le.1 greater))
  rw [round_datum hy dy, round_datum hx dx] at back
  have same : x = y := le_antisymm h back
  subst same
  rw [dx, FloatValue.finite.injEq] at dy
  obtain ⟨-, rfl, rfl⟩ := dy
  exact greater le_rfl

theorem decode_finite (h : x.datum < 0x7F800000) :
    ∃ M Q, FloatFormat.binary32.decode x.datum = .finite false M Q ∧ (M = 0 ↔ x.datum = 0) := by
  rw [decode_of_lt h]
  split
  · exact ⟨_, _, rfl, Iff.rfl⟩
  · exact ⟨_, _, rfl, by omega⟩

theorem decode_negZero : FloatFormat.binary32.decode negZero.datum = .finite true 0 (-149) := by decide

theorem decode_inf : FloatFormat.binary32.decode inf.datum = .infinite false := by decide

theorem mul_of_finite {M A : Nat} {Q R : Int} {s : Bool}
    (dx : FloatFormat.binary32.decode x.datum = .finite false M Q)
    (dy : FloatFormat.binary32.decode y.datum = .finite s A R) :
    x * y = ofDatum (FloatFormat.binary32.round s (M * A) 1 (Q + R)) := by
  change ofDatum (FloatFormat.binary32.mul x.datum y.datum) = _
  simp only [FloatFormat.mul, dx, dy, Bool.false_bne]

theorem mul_negZero {M : Nat} {Q : Int} (dx : FloatFormat.binary32.decode x.datum = .finite false M Q) :
    x * negZero = negZero := by
  rw [mul_of_finite dx decode_negZero, Nat.mul_zero, round_zero_of_degenerate true _ (Or.inl rfl)]
  rfl

theorem mul_inf {M : Nat} {Q : Int} (dx : FloatFormat.binary32.decode x.datum = .finite false M Q)
    (pos : M ≠ 0) : x * inf = inf := by
  change ofDatum (FloatFormat.binary32.mul x.datum inf.datum) = _
  simp only [FloatFormat.mul, dx, decode_inf, pos, if_false]
  rfl

theorem mul_plus_mono {a : Binary32} (hx : x.datum < 0x7F800000) (hy : y.datum < 0x7F800000)
    (hxy : x.datum ≤ y.datum) (ha : a.datum < 0x7F800000) :
    (x * a).Plus ∧ (y * a).Plus ∧ (x * a).datum ≤ (y * a).datum := by
  obtain ⟨M₁, Q₁, dx, -⟩ := decode_finite hx
  obtain ⟨M₂, Q₂, dy, -⟩ := decode_finite hy
  obtain ⟨A, R, da, -⟩ := decode_finite ha
  have values := value_le_of_datum_le hx hy dx dy hxy
  rw [mul_of_finite dx da, mul_of_finite dy da]
  refine ⟨rounded_plus _ _ _, rounded_plus _ _ _, ?_⟩
  rw [rounded_datum, rounded_datum]
  apply round_mono_one
  push_cast
  rw [zpow_add₀ two_ne_zero, zpow_add₀ two_ne_zero]
  calc (M₁ : ℚ) * A * (2 ^ Q₁ * 2 ^ R) = (M₁ * 2 ^ Q₁) * (A * 2 ^ R) := by ring
    _ ≤ (M₂ * 2 ^ Q₂) * (A * 2 ^ R) := by gcongr
    _ = M₂ * A * (2 ^ Q₂ * 2 ^ R) := by ring

theorem mul_mono_of_nonneg {a : Binary32} (hx : x.datum < 0x7F800000) (hy : y.datum < 0x7F800000)
    (pos : x.datum ≠ 0) (hxy : x.datum ≤ y.datum) (ha : 0 ≤ a) : 0 ≤ x * a ∧ x * a ≤ y * a := by
  obtain ⟨M₁, Q₁, dx, zero₁⟩ := decode_finite hx
  obtain ⟨M₂, Q₂, dy, zero₂⟩ := decode_finite hy
  rcases zero_le_cases ha with rfl | plus
  · rw [mul_negZero dx, mul_negZero dy]
    exact ⟨zero_le_negZero, negZero_le_negZero⟩
  rcases Nat.lt_or_eq_of_le plus with finite | top
  · obtain ⟨px, py, order⟩ := mul_plus_mono hx hy hxy finite
    exact ⟨px.zero_le, le_of_datum_le px py order⟩
  · have isInf : a = inf := eq_of_datum_eq top
    subst isInf
    rw [mul_inf dx (by omega), mul_inf dy (by omega)]
    exact ⟨(show inf.Plus by decide).zero_le, (show inf.Plus by decide).le_refl⟩

theorem ofNat_datum (n : Nat) : (ofNat n).datum = FloatFormat.binary32.round false n 1 0 := by
  rw [ofNat_eq, rounded_datum]

theorem ofNat_datum_mono {m n : Nat} (h : m ≤ n) : (ofNat m).datum ≤ (ofNat n).datum := by
  rw [ofNat_datum, ofNat_datum]
  exact round_mono_one (by simpa using h)

theorem ofNat_datum_pos {n : Nat} (h : 1 ≤ n) : (ofNat n).datum ≠ 0 := by
  have := ofNat_datum_mono h
  rw [show (ofNat 1).datum = 0x3F800000 by decide] at this
  omega

theorem ofNat_datum_lt_top {n : Nat} (h : n < 2 ^ 64) : (ofNat n).datum < 0x7F800000 := by
  have top : FloatFormat.binary32.round false 0x800000 1 41 = 0x5F800000 :=
    round_datum (by norm_num) (by decide)
  have below : FloatFormat.binary32.round false n 1 0 ≤ FloatFormat.binary32.round false 0x800000 1 41 := by
    apply round_mono_one
    have : (n : ℚ) ≤ 2 ^ 64 := by exact_mod_cast h.le
    norm_num
    linarith
  rw [ofNat_datum]
  omega

theorem round_of_sum (S : Nat) (neg : Bool) (e : Int) :
    (if (S : Int) = 0 then FloatFormat.binary32.zero (false && neg)
      else FloatFormat.binary32.round (decide ((S : Int) < 0)) (S : Int).natAbs 1 e) =
      FloatFormat.binary32.round false S 1 e := by
  split_ifs with zero
  · rw [round_zero_of_degenerate false e (Or.inl (by omega)), Bool.false_and]
  · have positive : ¬ (S : Int) < 0 := by omega
    simp only [positive, decide_false, Int.natAbs_natCast]

theorem add_of_finite {m n : Nat} {q r : Int} {t : Bool}
    (dx : FloatFormat.binary32.decode x.datum = .finite false m q)
    (dy : FloatFormat.binary32.decode y.datum = .finite t n r) (sign : t = false ∨ n = 0) :
    x + y = ofDatum (FloatFormat.binary32.round false
      (m * 2 ^ (q - Min.min q r).toNat + n * 2 ^ (r - Min.min q r).toNat) 1 (Min.min q r)) := by
  change ofDatum (FloatFormat.binary32.add x.datum y.datum) = _
  rcases sign with rfl | rfl
  · simp only [FloatFormat.add, dx, dy, Nat.pow_eq, Bool.false_eq_true, if_false, one_mul]
    rw [← Nat.cast_add, round_of_sum]
  · cases t <;>
      simp only [FloatFormat.add, dx, dy, Nat.pow_eq, Bool.false_eq_true, if_false, if_true, one_mul,
        Nat.zero_mul, Nat.cast_zero, mul_zero, add_zero, round_of_sum]

theorem pow_toNat_mul {q e : Int} (h : e ≤ q) : (2 : ℚ) ^ (q - e).toNat * 2 ^ e = 2 ^ q := by
  rw [← zpow_natCast, Int.toNat_of_nonneg (by omega), ← zpow_add₀ two_ne_zero, sub_add_cancel]

theorem sum_value (m n : Nat) (q r : Int) :
    ((m * 2 ^ (q - Min.min q r).toNat + n * 2 ^ (r - Min.min q r).toNat : Nat) : ℚ) * 2 ^ Min.min q r =
      m * 2 ^ q + n * 2 ^ r := by
  push_cast
  rw [add_mul, mul_assoc, mul_assoc, pow_toNat_mul (min_le_left q r), pow_toNat_mul (min_le_right q r)]

theorem inf_add {a : Binary32} {A : Nat} {R : Int} {s : Bool}
    (da : FloatFormat.binary32.decode a.datum = .finite s A R) : inf + a = inf := by
  change ofDatum (FloatFormat.binary32.add inf.datum a.datum) = _
  simp only [FloatFormat.add, decode_inf, da]
  rfl

theorem add_ge_of_finite {p a : Binary32} {m n : Nat} {q r : Int} {t : Bool} (hp : p.datum < 0x7F800000)
    (dp : FloatFormat.binary32.decode p.datum = .finite false m q)
    (da : FloatFormat.binary32.decode a.datum = .finite t n r) (sign : t = false ∨ n = 0) :
    (p + a).Plus ∧ p ≤ p + a := by
  rw [add_of_finite dp da sign]
  refine ⟨rounded_plus _ _ _, le_of_datum_le (le_of_lt hp) (rounded_plus _ _ _) ?_⟩
  rw [rounded_datum, ← round_datum hp dp]
  apply round_mono_one
  rw [sum_value]
  have : (0 : ℚ) ≤ n * 2 ^ r := by positivity
  linarith

theorem add_mono_of_nonneg {p a : Binary32} (hp : p.Plus) (ha : 0 ≤ a) (finite : a.isFinite = true) :
    (p + a).Plus ∧ p ≤ p + a := by
  have addend : ∃ t n r, FloatFormat.binary32.decode a.datum = .finite t n r ∧ (t = false ∨ n = 0) := by
    rcases zero_le_cases ha with rfl | plus
    · exact ⟨true, 0, -149, decode_negZero, Or.inr rfl⟩
    · obtain ⟨A, R, da, -⟩ := decode_finite (isFinite_datum_lt plus finite)
      exact ⟨false, A, R, da, Or.inl rfl⟩
  obtain ⟨t, n, r, da, sign⟩ := addend
  rcases Nat.lt_or_eq_of_le hp with below | top
  · obtain ⟨m, q, dp, -⟩ := decode_finite below
    exact add_ge_of_finite below dp da sign
  · rw [eq_of_datum_eq (y := inf) top, inf_add da]
    exact ⟨by decide, (show inf.Plus by decide).le_refl⟩

theorem add_zero_of_plus {p z : Binary32} {r : Int} {t : Bool} (hp : p.Plus)
    (dz : FloatFormat.binary32.decode z.datum = .finite t 0 r) : p + z = p := by
  rcases Nat.lt_or_eq_of_le hp with below | top
  · obtain ⟨m, q, dp, -⟩ := decode_finite below
    rw [add_of_finite dp dz (Or.inr rfl)]
    apply eq_of_datum_eq
    rw [rounded_datum, ← round_datum below dp]
    apply le_antisymm <;> apply round_mono_one <;> rw [sum_value] <;> simp
  · rw [eq_of_datum_eq (y := inf) top, inf_add dz]

theorem decode_zero : FloatFormat.binary32.decode (0 : Binary32).datum = .finite false 0 (-149) := by decide

theorem mul_zero_of_nonneg {a : Binary32} (ha : 0 ≤ a) (finite : a.isFinite = true) :
    a * 0 = 0 ∨ a * 0 = negZero := by
  rcases zero_le_cases ha with rfl | plus
  · exact Or.inr (by decide)
  · obtain ⟨A, R, da, -⟩ := decode_finite (isFinite_datum_lt plus finite)
    rw [mul_of_finite da decode_zero, Nat.mul_zero, round_zero_of_degenerate false _ (Or.inl rfl)]
    exact Or.inl rfl

theorem zero_mul_of_nonneg {a : Binary32} (ha : 0 ≤ a) (finite : a.isFinite = true) :
    0 * a = 0 ∨ 0 * a = negZero := by
  rcases zero_le_cases ha with rfl | plus
  · exact Or.inr (mul_negZero decode_zero)
  · obtain ⟨A, R, da, -⟩ := decode_finite (isFinite_datum_lt plus finite)
    rw [mul_of_finite decode_zero da, Nat.zero_mul, round_zero_of_degenerate false _ (Or.inl rfl)]
    exact Or.inl rfl

theorem div_of_zero {z y : Binary32} {s t : Bool} {q r : Int} {n : Nat}
    (dz : FloatFormat.binary32.decode z.datum = .finite s 0 q)
    (dy : FloatFormat.binary32.decode y.datum = .finite t n r) (pos : n ≠ 0) :
    FloatFormat.binary32.decode (z / y).datum = .finite (s != t) 0 (-149) := by
  change FloatFormat.binary32.decode (ofDatum (FloatFormat.binary32.div z.datum y.datum)).datum = _
  simp only [FloatFormat.div, dz, dy, pos, if_false, round_zero_of_degenerate _ _ (Or.inl rfl)]
  cases s <;> cases t <;> decide

theorem decode_ofNat {m : Nat} (pos : 1 ≤ m) (small : m < 2 ^ 64) :
    ∃ M Q, FloatFormat.binary32.decode (ofNat m).datum = .finite false M Q ∧ M ≠ 0 := by
  obtain ⟨M, Q, dm, zero⟩ := decode_finite (ofNat_datum_lt_top small)
  exact ⟨M, Q, dm, fun isZero => ofNat_datum_pos pos (zero.1 isZero)⟩

end Binary32

end GlyphCanvas
