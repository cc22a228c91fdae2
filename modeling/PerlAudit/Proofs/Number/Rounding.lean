import Mathlib.Tactic.Ring
import PerlAudit.Number.Reading


namespace PerlAudit.Number

theorem div_le_roundQuotient (num den : Nat) : num / den ≤ roundQuotient num den := by
  unfold roundQuotient
  dsimp only
  split
  · exact Nat.le_refl _
  · split
    · exact Nat.le_succ _
    · split
      · exact Nat.le_refl _
      · exact Nat.le_succ _

theorem roundQuotient_scale (num den : Nat) {factor : Nat} (positive : 0 < factor) :
    roundQuotient (num * factor) (den * factor) = roundQuotient num den := by
  have below : 2 * (num % den * factor) < den * factor ↔ 2 * (num % den) < den := by
    rw [← Nat.mul_assoc]
    exact Nat.mul_lt_mul_right positive
  have above : den * factor < 2 * (num % den * factor) ↔ den < 2 * (num % den) := by
    rw [← Nat.mul_assoc]
    exact Nat.mul_lt_mul_right positive
  simp only [roundQuotient, Nat.mul_div_mul_right _ _ positive, Nat.mul_mod_mul_right, below, above]

theorem roundUnits_scale (num den : Nat) {factor : Nat} (positive : 0 < factor) :
    roundUnits (num * factor) (den * factor) = roundUnits num den := by
  unfold roundUnits
  dsimp only
  rw [Nat.mul_div_mul_right _ _ positive, Nat.mul_right_comm, roundQuotient_scale _ _ positive]

/-- Two ways to write one quotient are rounded alike. -/
theorem roundUnits_congr {num den num' den' : Nat} (positive : 0 < den) (positive' : 0 < den')
    (same : num * den' = num' * den) : roundUnits num den = roundUnits num' den' := by
  calc roundUnits num den
    _ = roundUnits (num * den') (den * den') := (roundUnits_scale num den positive').symm
    _ = roundUnits (num' * den) (den' * den) := by rw [same, Nat.mul_comm den den']
    _ = roundUnits num' den' := roundUnits_scale num' den' positive

/-- What is on the grid stays where it is. -/
theorem roundUnits_onGrid {units : Nat} (grid : OnGrid units) : roundUnits units 1 = units := by
  have whole := Nat.mul_div_cancel' (Nat.dvd_of_mod_eq_zero grid.2)
  have step : 0 < Nat.pow 2 (units.log2 - 52) := Nat.two_pow_pos _
  unfold roundUnits roundQuotient
  dsimp only
  rw [Nat.div_one, Nat.one_mul, grid.2, if_pos (by omega), Nat.mul_comm]
  exact whole

/-- Less than half a unit is nothing. -/
theorem roundUnits_small {num den : Nat} (small : 2 * num < den) : roundUnits num den = 0 := by
  have vanishes : num / den = 0 := Nat.div_eq_of_lt (by omega)
  have rest : num % den = num := Nat.mod_eq_of_lt (by omega)
  unfold roundUnits
  dsimp only
  rw [vanishes, Nat.log2_zero, Nat.zero_sub]
  unfold roundQuotient
  dsimp only
  rw [Nat.pow_eq, Nat.pow_zero, Nat.mul_one, Nat.mul_one, vanishes, rest, if_pos small]

/-- Rounding keeps the leading bit. -/
theorem pow_log2_le_roundUnits {num den : Nat} (nonzero : num / den ≠ 0) :
    2 ^ (num / den).log2 ≤ roundUnits num den := by
  unfold roundUnits
  dsimp only
  generalize shifted : (num / den).log2 - 52 = shift
  have split : 2 ^ ((num / den).log2 - shift) * 2 ^ shift = 2 ^ (num / den).log2 := by
    rw [← Nat.pow_add]
    congr 1
    omega
  have quotient : 2 ^ ((num / den).log2 - shift) ≤ num / (den * 2 ^ shift) := by
    rw [← Nat.div_div_eq_div_mul, Nat.le_div_iff_mul_le (Nat.two_pow_pos shift), split]
    exact Nat.log2_self_le nonzero
  calc 2 ^ (num / den).log2
    _ = 2 ^ ((num / den).log2 - shift) * 2 ^ shift := split.symm
    _ ≤ roundQuotient num (den * 2 ^ shift) * 2 ^ shift :=
      Nat.mul_le_mul_right _ (quotient.trans (div_le_roundQuotient _ _))

theorem le_log2_roundUnits {num den bits : Nat} (large : Nat.pow 2 bits ≤ num / den) :
    bits ≤ (roundUnits num den).log2 := by
  have nonzero : num / den ≠ 0 := Nat.ne_of_gt ((Nat.two_pow_pos bits).trans_le large)
  have kept := pow_log2_le_roundUnits nonzero
  have rounded : roundUnits num den ≠ 0 := Nat.ne_of_gt ((Nat.two_pow_pos _).trans_le kept)
  calc bits
    _ ≤ (num / den).log2 := (Nat.le_log2 nonzero).mpr large
    _ ≤ (roundUnits num den).log2 := (Nat.le_log2 rounded).mpr kept

namespace Binary64

theorem ofUnits_congr (negative : Bool) {num den num' den' : Nat} (positive : 0 < den)
    (positive' : 0 < den') (same : num * den' = num' * den) :
    ofUnits negative num den = ofUnits negative num' den' := by
  unfold ofUnits
  rw [roundUnits_congr positive positive' same]

theorem ofUnits_eq_finite {negative : Bool} {num den : Nat} {m : Magnitude}
    (rounded : roundUnits num den = m.units) : ofUnits negative num den = .finite negative m := by
  unfold ofUnits
  simp only [rounded, m.onGrid, dite_true]

theorem ofUnits_small {negative : Bool} {num den : Nat} (small : 2 * num < den) :
    ofUnits negative num den = .finite negative .zero :=
  ofUnits_eq_finite (roundUnits_small small)

theorem ofUnits_of_large {negative : Bool} {num den : Nat} (large : Nat.pow 2 2098 ≤ num / den) :
    ofUnits negative num den = .infinite negative := by
  have high := le_log2_roundUnits large
  unfold ofUnits
  dsimp only
  rw [dif_neg]
  rintro ⟨low, -⟩
  omega

/-- Only the sign of a result tells the sign it was asked for. -/
theorem ofUnits_sign {num den : Nat} {m : Magnitude} (h : ofUnits false num den = .finite false m)
    (negative : Bool) : ofUnits negative num den = .finite negative m := by
  unfold ofUnits at h ⊢
  dsimp only at h ⊢
  split at h
  · rename_i grid
    cases h
    rw [dif_pos grid]
  · cases h

/-- A power of ten that is above the number of units in one, and still is twice over. -/
theorem unitsPerOne_lt : 2 * unitsPerOne < 10 ^ 400 := by decide +kernel

theorem grid_lt : Nat.pow 2 2098 ≤ 10 ^ 400 * unitsPerOne := by decide +kernel

/-- The two ways to write a power of ten, joined: one of the exponents is zero. -/
theorem ofDecimal_eq (negative : Bool) (significand : Nat) (exponent : Int) :
    ofDecimal negative significand exponent =
      ofUnits negative (significand * 10 ^ exponent.toNat * unitsPerOne)
        (10 ^ (-exponent).toNat) := by
  cases exponent with
  | ofNat e =>
    have vanishes : (-Int.ofNat e).toNat = 0 := by simp
    rw [vanishes, Nat.pow_zero]
    rfl
  | negSucc e =>
    have vanishes : (Int.negSucc e).toNat = 0 := rfl
    rw [vanishes, Nat.pow_zero, Nat.mul_one]
    rfl

/-- A zero at the end of the digits is a place of the exponent. -/
theorem ofDecimal_shift (negative : Bool) (significand : Nat) (exponent : Int) (places : Nat) :
    ofDecimal negative (significand * 10 ^ places) exponent =
      ofDecimal negative significand (exponent + places) := by
  rw [ofDecimal_eq, ofDecimal_eq]
  apply ofUnits_congr negative (Nat.pow_pos (by decide)) (Nat.pow_pos (by decide))
  have powers : 10 ^ places * 10 ^ exponent.toNat * 10 ^ (-(exponent + places)).toNat =
      10 ^ (exponent + places).toNat * 10 ^ (-exponent).toNat := by
    rw [← Nat.pow_add, ← Nat.pow_add, ← Nat.pow_add]
    congr 1
    omega
  calc significand * 10 ^ places * 10 ^ exponent.toNat * unitsPerOne *
        10 ^ (-(exponent + places)).toNat
    _ = significand * unitsPerOne *
        (10 ^ places * 10 ^ exponent.toNat * 10 ^ (-(exponent + places)).toNat) := by ring
    _ = significand * unitsPerOne *
        (10 ^ (exponent + places).toNat * 10 ^ (-exponent).toNat) := by rw [powers]
    _ = significand * 10 ^ (exponent + places).toNat * unitsPerOne * 10 ^ (-exponent).toNat := by
      ring

theorem ofDecimal_zero (negative : Bool) (exponent : Int) :
    ofDecimal negative 0 exponent = .finite negative .zero := by
  rw [ofDecimal_eq, Nat.zero_mul, Nat.zero_mul]
  exact ofUnits_small (Nat.pow_pos (by decide))

/-- Below the grid: the first digit stands too far behind the point. -/
theorem ofDecimal_tiny (negative : Bool) {significand digits : Nat} {exponent : Int}
    (size : significand < 10 ^ digits) (tiny : digits + exponent ≤ -400) :
    ofDecimal negative significand exponent = .finite negative .zero := by
  rw [ofDecimal_eq]
  apply ofUnits_small
  have places : digits + exponent.toNat + 400 ≤ (-exponent).toNat := by omega
  have scaled : significand * 10 ^ exponent.toNat ≤ 10 ^ (digits + exponent.toNat) := by
    rw [Nat.pow_add]
    exact Nat.mul_le_mul_right _ size.le
  calc 2 * (significand * 10 ^ exponent.toNat * unitsPerOne)
    _ = significand * 10 ^ exponent.toNat * (2 * unitsPerOne) := by ring
    _ ≤ 10 ^ (digits + exponent.toNat) * (2 * unitsPerOne) := Nat.mul_le_mul_right _ scaled
    _ < 10 ^ (digits + exponent.toNat) * 10 ^ 400 :=
      Nat.mul_lt_mul_of_pos_left unitsPerOne_lt (Nat.pow_pos (by decide))
    _ = 10 ^ (digits + exponent.toNat + 400) := by rw [← Nat.pow_add]
    _ ≤ 10 ^ (-exponent).toNat := Nat.pow_le_pow_right (by decide) places

/-- Above the grid: the first digit stands too far before the point. -/
theorem ofDecimal_huge (negative : Bool) {significand digits : Nat} {exponent : Int}
    (size : 10 ^ digits ≤ significand) (huge : 400 ≤ digits + exponent) :
    ofDecimal negative significand exponent = .infinite negative := by
  rw [ofDecimal_eq]
  apply ofUnits_of_large
  have places : 400 + (-exponent).toNat ≤ digits + exponent.toNat := by omega
  have beyond := grid_lt
  generalize Nat.pow 2 2098 = top at beyond ⊢
  rw [Nat.le_div_iff_mul_le (Nat.pow_pos (by decide))]
  calc top * 10 ^ (-exponent).toNat
    _ ≤ 10 ^ 400 * unitsPerOne * 10 ^ (-exponent).toNat := Nat.mul_le_mul_right _ beyond
    _ = 10 ^ (400 + (-exponent).toNat) * unitsPerOne := by
      rw [Nat.pow_add, Nat.mul_right_comm]
    _ ≤ 10 ^ (digits + exponent.toNat) * unitsPerOne :=
      Nat.mul_le_mul_right _ (Nat.pow_le_pow_right (by decide) places)
    _ ≤ significand * 10 ^ exponent.toNat * unitsPerOne := by
      rw [Nat.pow_add]
      exact Nat.mul_le_mul_right _ (Nat.mul_le_mul_right _ size)

end Binary64

end PerlAudit.Number
