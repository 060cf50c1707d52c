import Mathlib
import GlyphCanvas.Float.Binary32

namespace GlyphCanvas

namespace Binary32

variable {x y z : Binary32}

/-- The integer that orders the non-NaN values as the reals they stand for. -/
def key (x : Binary32) : Int := FloatFormat.binary32.orderKey x.datum

theorem le_iff : x ≤ y ↔ x.isNaN = false ∧ y.isNaN = false ∧ x.key ≤ y.key := by
  change FloatFormat.binary32.le x.datum y.datum = true ↔ _
  simp [FloatFormat.le, isNaN, key, and_assoc]

theorem lt_iff : x < y ↔ x.isNaN = false ∧ y.isNaN = false ∧ x.key < y.key := by
  change FloatFormat.binary32.lt x.datum y.datum = true ↔ _
  simp [FloatFormat.lt, isNaN, key, and_assoc]

theorem not_nan_right (h : x ≤ y) : y.isNaN = false := (le_iff.1 h).2.1

theorem le_refl_of_not_nan (h : x.isNaN = false) : x ≤ x := le_iff.2 ⟨h, h, le_rfl⟩

theorem le_trans (hxy : x ≤ y) (hyz : y ≤ z) : x ≤ z := by
  obtain ⟨nx, -, kxy⟩ := le_iff.1 hxy
  obtain ⟨-, nz, kyz⟩ := le_iff.1 hyz
  exact le_iff.2 ⟨nx, nz, kxy.trans kyz⟩

theorem le_of_not_lt (nx : x.isNaN = false) (ny : y.isNaN = false) (h : ¬ x < y) : y ≤ x := by
  rw [lt_iff] at h
  exact le_iff.2 ⟨ny, nx, by simp_all⟩

theorem not_lt_of_le (h : y ≤ x) : ¬ x < y := by
  obtain ⟨-, -, k⟩ := le_iff.1 h
  rw [lt_iff]; omega

theorem max_eq_left (h : y ≤ x) : x.max y = x := by
  simp [max, not_nan_right h, not_lt_of_le h]

theorem le_max_right (h : y.isNaN = false) : y ≤ x.max y := by
  unfold max
  split
  · exact le_refl_of_not_nan h
  · split
    · exact le_refl_of_not_nan h
    · rename_i nx ny
      exact le_of_not_lt (by simpa using nx) h ny

theorem eqv_iff : x.eqv y = true ↔ x.isNaN = false ∧ y.isNaN = false ∧ x.key = y.key := by
  change FloatFormat.binary32.eqv x.datum y.datum = true ↔ _
  simp [FloatFormat.eqv, isNaN, key, and_assoc]

theorem eqv_self (h : x.isNaN = false) : x.eqv x = true := eqv_iff.2 ⟨h, h, rfl⟩

theorem eqv_symm (h : x.eqv y = true) : y.eqv x = true := by
  obtain ⟨nx, ny, k⟩ := eqv_iff.1 h
  exact eqv_iff.2 ⟨ny, nx, k.symm⟩

theorem le_of_eqv_of_le (h : x.eqv y = true) (hyz : y ≤ z) : x ≤ z := by
  obtain ⟨nx, -, k⟩ := eqv_iff.1 h
  obtain ⟨-, nz, kyz⟩ := le_iff.1 hyz
  exact le_iff.2 ⟨nx, nz, k ▸ kyz⟩

theorem datum_lt (x : Binary32) : x.datum < 0x100000000 := x.bits.toNat_lt

theorem datum_ofDatum {n : Nat} (h : n < 0x100000000) : (ofDatum n).datum = n := by
  simp [ofDatum, datum]; omega

/-- `+0`, the positive values and `+∞`: the sign bit clear and no NaN. -/
def Plus (x : Binary32) : Prop := x.datum ≤ 0x7F800000

instance : DecidablePred Plus := fun x => inferInstanceAs (Decidable (x.datum ≤ 0x7F800000))

theorem Plus.not_nan (h : x.Plus) : x.isNaN = false := by
  unfold Plus at h
  simp only [isNaN, FloatFormat.isNaN, FloatFormat.biased, FloatFormat.fraction, FloatFormat.maxBiased,
    FloatFormat.fractionBits, FloatFormat.binary32, Nat.pow_eq]
  norm_num
  omega

theorem Plus.key_eq (h : x.Plus) : x.key = x.datum := by
  unfold Plus at h
  simp only [key, FloatFormat.orderKey, FloatFormat.isNeg, FloatFormat.magnitude, FloatFormat.signBit,
    FloatFormat.fractionBits, FloatFormat.binary32, Nat.pow_eq]
  norm_num
  rw [if_neg (by omega)]
  omega

theorem le_of_datum_le (hx : x.Plus) (hy : y.Plus) (h : x.datum ≤ y.datum) : x ≤ y :=
  le_iff.2 ⟨hx.not_nan, hy.not_nan, by rw [hx.key_eq, hy.key_eq]; exact_mod_cast h⟩

theorem eq_of_datum_eq (h : x.datum = y.datum) : x = y := by
  cases x; cases y
  simp only [datum] at h
  congr
  exact UInt32.toNat_inj.1 h

theorem zero_datum : (0 : Binary32).datum = 0 := by decide

theorem zero_plus : (0 : Binary32).Plus := by decide

theorem zero_le_cases (h : 0 ≤ x) : x = negZero ∨ x.Plus := by
  obtain ⟨-, notNaN, above⟩ := le_iff.1 h
  have bound := x.datum_lt
  rw [(zero_plus).key_eq, zero_datum] at above
  simp only [key, FloatFormat.orderKey, FloatFormat.isNeg, FloatFormat.magnitude, FloatFormat.signBit,
    FloatFormat.fractionBits, FloatFormat.binary32, Nat.pow_eq] at above
  simp only [isNaN, FloatFormat.isNaN, FloatFormat.biased, FloatFormat.fraction, FloatFormat.maxBiased,
    FloatFormat.fractionBits, FloatFormat.binary32, Nat.pow_eq] at notNaN
  norm_num at above notNaN
  split at above
  · left
    exact eq_of_datum_eq (by rw [show negZero.datum = 0x80000000 from rfl]; omega)
  · right
    unfold Plus
    omega

theorem negZero_le_negZero : negZero ≤ negZero := by decide

theorem zero_le_negZero : (0 : Binary32) ≤ negZero := by decide

theorem Plus.zero_le (h : x.Plus) : 0 ≤ x :=
  le_of_datum_le zero_plus h (by rw [zero_datum]; exact Nat.zero_le _)

theorem Plus.le_refl (h : x.Plus) : x ≤ x := le_of_datum_le h h le_rfl

theorem isFinite_datum_lt {a : Binary32} (plus : a.Plus) (finite : a.isFinite = true) : a.datum < 0x7F800000 := by
  rcases Nat.lt_or_eq_of_le plus with below | top
  · exact below
  · rw [eq_of_datum_eq (y := inf) top] at finite
    exact absurd finite (by decide)

end Binary32

end GlyphCanvas
