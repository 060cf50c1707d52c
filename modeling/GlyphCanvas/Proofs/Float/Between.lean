import Mathlib
import GlyphCanvas.Proofs.Float.Exact

namespace GlyphCanvas

namespace Binary32

theorem exactly_of_lt {D : Nat} (finite : D < 0x7F800000) :
    ∃ M Q, FloatFormat.binary32.decode D = .finite false M Q ∧ Exactly D (M * 2 ^ Q) := by
  have parts : ∃ M Q, FloatFormat.binary32.decode D = .finite false M Q := by
    rw [decode_of_lt finite]
    split <;> exact ⟨_, _, rfl⟩
  obtain ⟨M, Q, decoded⟩ := parts
  exact ⟨M, Q, decoded, by omega, false, M, Q, decoded, by simp [signedValue]⟩

theorem Exactly.plus_of_pos {w : Nat} {v : ℚ} (h : Exactly w v) (pos : 0 < v) :
    ∃ M Q, w < 0x7F800000 ∧ FloatFormat.binary32.decode w = .finite false M Q ∧ v = M * 2 ^ Q := by
  obtain ⟨mag, M, Q, top, decoded, side⟩ := h.sided
  rcases side with ⟨rfl, rfl⟩ | ⟨-, rfl⟩
  · exact ⟨M, Q, top, decoded, rfl⟩
  · have : (0 : ℚ) ≤ M * 2 ^ Q := by positivity
    linarith

theorem round_between_pos {n : Nat} {k : Int} (hn : 0 < n) {a b : Nat} {u v : ℚ}
    (ha : Exactly a u) (hb : Exactly b v) (lo : u ≤ n * 2 ^ k) (hi : n * 2 ^ k ≤ v) :
    ∃ r, Exactly (FloatFormat.binary32.round false n 1 k) r ∧ u ≤ r ∧ r ≤ v := by
  have positive : (0 : ℚ) < n * 2 ^ k := by positivity
  obtain ⟨M₂, Q₂, topB, dB, rfl⟩ := hb.plus_of_pos (positive.trans_le hi)
  have below : FloatFormat.binary32.round false n 1 k ≤ b := by
    rw [← round_datum topB dB]
    exact round_mono_one hi
  obtain ⟨M, Q, decoded, exact⟩ := exactly_of_lt (below.trans_lt topB)
  refine ⟨_, exact, ?_, value_le_of_datum_le (below.trans_lt topB) topB decoded dB below⟩
  rcases le_or_gt u 0 with nonpos | pos
  · -- a bound at or below zero is below every value on the plus side
    have : (0 : ℚ) ≤ M * 2 ^ Q := by positivity
    linarith
  · obtain ⟨M₁, Q₁, topA, dA, rfl⟩ := ha.plus_of_pos pos
    have above : a ≤ FloatFormat.binary32.round false n 1 k := by
      rw [← round_datum topA dA]
      exact round_mono_one lo
    exact value_le_of_datum_le topA (below.trans_lt topB) dA decoded above

theorem round_between {z k : Int} (nonzero : z ≠ 0) {a b : Nat} {u v : ℚ}
    (ha : Exactly a u) (hb : Exactly b v) (lo : u ≤ z * 2 ^ k) (hi : z * 2 ^ k ≤ v) :
    ∃ r, Exactly (FloatFormat.binary32.round (decide (z < 0)) z.natAbs 1 k) r ∧ u ≤ r ∧ r ≤ v := by
  have magnitude : ((z.natAbs : Nat) : ℚ) = |(z : ℚ)| := by rw [Nat.cast_natAbs, Int.cast_abs]
  rcases lt_or_gt_of_ne nonzero with negative | positive
  · -- the magnitude lies between the negated bounds, and the sign bit negates the rounded value
    have flipped : ((z.natAbs : Nat) : ℚ) * 2 ^ k = -(z * 2 ^ k) := by
      rw [magnitude, abs_of_neg (by exact_mod_cast negative)]
      ring
    obtain ⟨r, exact, low, high⟩ := round_between_pos (Int.natAbs_pos.2 nonzero) (exactly_neg hb)
      (exactly_neg ha) (by rw [flipped]; linarith) (by rw [flipped]; linarith)
    have low32 : FloatFormat.binary32.round false z.natAbs 1 k < 0x80000000 := by
      have := round_le_top z.natAbs 1 k
      omega
    refine ⟨-r, ?_, by linarith, by linarith⟩
    rw [decide_eq_true negative, round_true (by omega) one_ne_zero, ← neg_low low32]
    exact exactly_neg exact
  · have same : ((z.natAbs : Nat) : ℚ) * 2 ^ k = z * 2 ^ k := by
      rw [magnitude, abs_of_pos (by exact_mod_cast positive)]
    rw [decide_eq_false (by omega)]
    exact round_between_pos (Int.natAbs_pos.2 nonzero) ha hb (by rw [same]; exact lo) (by rw [same]; exact hi)

theorem exactly_add_between {a b l h : Nat} {u v L H : ℚ} (ha : Exactly a u) (hb : Exactly b v)
    (hl : Exactly l L) (hh : Exactly h H) (lo : L ≤ u + v) (hi : u + v ≤ H) :
    ∃ r, Exactly (FloatFormat.binary32.add a b) r ∧ L ≤ r ∧ r ≤ H := by
  obtain ⟨-, s, m, q, da, rfl⟩ := ha
  obtain ⟨-, t, n, r, db, rfl⟩ := hb
  have scaled : ((signedScaled s m q (Min.min q r) + signedScaled t n r (Min.min q r) : Int) : ℚ) *
      2 ^ Min.min q r = signedValue s m q + signedValue t n r := by
    rw [Int.cast_add, add_mul, signedScaled_value s m (min_le_left q r), signedScaled_value t n (min_le_right q r)]
  rw [add_of_decode da db]
  rw [← scaled] at lo hi
  split_ifs with zero
  · rw [zero, Int.cast_zero, zero_mul] at lo hi
    exact ⟨0, exactly_zero _, lo, hi⟩
  · exact round_between zero hl hh lo hi

theorem Exactly.add_between {x y : Binary32} {u v L H : ℚ} {l h : Nat} (hx : Exactly x.datum u)
    (hy : Exactly y.datum v) (hl : Exactly l L) (hh : Exactly h H) (lo : L ≤ u + v) (hi : u + v ≤ H) :
    ∃ r, Exactly (x + y).datum r ∧ L ≤ r ∧ r ≤ H := by
  obtain ⟨r, exact, low, high⟩ := exactly_add_between hx hy hl hh lo hi
  change ∃ r, Exactly (ofDatum _).datum r ∧ _
  rw [datum_ofDatum exact.lt]
  exact ⟨r, exact, low, high⟩

theorem Exactly.sub_between {x y : Binary32} {u v L H : ℚ} {l h : Nat} (hx : Exactly x.datum u)
    (hy : Exactly y.datum v) (hl : Exactly l L) (hh : Exactly h H) (lo : L ≤ u - v) (hi : u - v ≤ H) :
    ∃ r, Exactly (x - y).datum r ∧ L ≤ r ∧ r ≤ H := by
  obtain ⟨t, n, r, dy, -⟩ := hy.parts
  rw [sub_eq_add_neg] at lo hi
  obtain ⟨d, exact, low, high⟩ := exactly_add_between hx (exactly_neg hy) hl hh lo hi
  change ∃ r, Exactly (ofDatum (FloatFormat.binary32.sub x.datum y.datum)).datum r ∧ _
  simp only [FloatFormat.sub, dy]
  rw [datum_ofDatum exact.lt]
  exact ⟨d, exact, low, high⟩

theorem exactly_ofInt_between {i : Int} {a b : Nat} {L H : ℚ} (hl : Exactly a L) (hh : Exactly b H)
    (lo : L ≤ i) (hi : i ≤ H) : ∃ r, Exactly (ofInt i).datum r ∧ L ≤ r ∧ r ≤ H := by
  have datum : (ofInt i).datum = FloatFormat.binary32.round (decide (i < 0)) i.natAbs 1 0 := by
    unfold ofInt FloatFormat.ofInt
    exact datum_ofDatum (round_lt _ _ _ _)
  rw [datum]
  by_cases zero : i = 0
  · subst zero
    rw [round_zero_of_degenerate _ _ (Or.inl Int.natAbs_zero)]
    exact ⟨0, exactly_zero _, by simpa using lo, by simpa using hi⟩
  · exact round_between zero hl hh (by rwa [zpow_zero, mul_one]) (by rwa [zpow_zero, mul_one])

theorem placed_edges {x : Int} {w : Nat} (corner : -2147483648 ≤ x) (far : x + w ≤ 2147483647) :
    (ofInt x).isFinite = true ∧ (ofInt x + ofNat w).isFinite = true ∧ ofInt x ≤ ofInt x + ofNat w ∧
      ((ofInt x + ofNat w) - ofInt x).isFinite = true := by
  -- the corner lies within `∓2^31`, the extent below `2^32`, the far edge below `2^33` and the
  -- distance between the edges below `2^34`: all of them representable
  have negPow31 : Exactly 0xCF000000 (-2 ^ 31) := ⟨by decide, true, 0x800000, 8, by decide, by norm_num [signedValue]⟩
  have pow31 : Exactly 0x4F000000 (2 ^ 31) := ⟨by decide, false, 0x800000, 8, by decide, by norm_num [signedValue]⟩
  have pow32 : Exactly 0x4F800000 (2 ^ 32) := ⟨by decide, false, 0x800000, 9, by decide, by norm_num [signedValue]⟩
  have pow33 : Exactly 0x50000000 (2 ^ 33) := ⟨by decide, false, 0x800000, 10, by decide, by norm_num [signedValue]⟩
  have pow34 : Exactly 0x50800000 (2 ^ 34) := ⟨by decide, false, 0x800000, 11, by decide, by norm_num [signedValue]⟩
  have cornerLow : (-2 ^ 31 : ℚ) ≤ x := by
    norm_num
    exact_mod_cast corner
  have cornerHigh : (x : ℚ) ≤ 2 ^ 31 := by
    norm_num
    exact_mod_cast (by omega : x ≤ 2147483648)
  have extent : ((w : Int) : ℚ) ≤ 2 ^ 32 := by
    norm_num
    exact_mod_cast (by omega : (w : Int) ≤ 4294967296)
  obtain ⟨u, hu, ulo, uhi⟩ := exactly_ofInt_between negPow31 pow31 cornerLow cornerHigh
  obtain ⟨W, hW, Wlo, Whi⟩ := exactly_ofInt_between (exactly_zero false) pow32 (by positivity) extent
  obtain ⟨r, hr, rlo, rhi⟩ := Exactly.add_between (y := ofNat w) hu hW hu pow33 (by linarith) (by linarith)
  obtain ⟨d, hd, -, -⟩ := hr.sub_between hu (exactly_zero false) pow34 (by linarith) (by linarith)
  exact ⟨hu.isFinite, hr.isFinite, (le_iff_of_exactly hu hr).2 rlo, hd.isFinite⟩

end Binary32

end GlyphCanvas
