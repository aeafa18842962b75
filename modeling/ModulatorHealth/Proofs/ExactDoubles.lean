import Mathlib
import ModulatorHealth.Proofs.NearestDouble

/-! Which numbers are doubles, and what follows for the double nearest to a number: there is one, it is
the number itself where that is a double, and rounding never passes a double. -/
namespace ModulatorHealth
namespace Finite64

variable {x y : Finite64} {q : ℚ}

section Representable

theorem value_of_positive (positive : x.negative = false) : x.value = x.units / unitsPerOne := by
  rw [value, positive]
  rfl

theorem value_of_negative (negative : x.negative = true) : x.value = -(x.units / unitsPerOne) := by
  rw [value, negative]
  rfl

theorem exists_units_eq (negative : Bool) (significand exponent : Nat) (short : significand < 2 ^ 53)
    (low : exponent ≤ 2045) :
    ∃ x : Finite64, x.negative = negative ∧ x.units = significand * 2 ^ exponent := by
  induction exponent generalizing significand with
  | zero => exact ⟨⟨negative, significand, 0, short, low, .inl rfl⟩, rfl, rfl⟩
  | succ exponent ih =>
    by_cases normal : 2 ^ 52 ≤ significand
    · exact ⟨⟨negative, significand, exponent + 1, short, low, .inr normal⟩, rfl, rfl⟩
    · obtain ⟨x, sign, magnitude⟩ := ih (significand * 2) (by omega) (by omega)
      exact ⟨x, sign, magnitude.trans (by ring)⟩

theorem exists_value_eq_int {n : Int} (significand exponent : Nat) (short : significand < 2 ^ 53)
    (low : exponent ≤ 971) (magnitude : n.natAbs = significand * 2 ^ exponent) :
    ∃ x : Finite64, x.value = n := by
  obtain ⟨x, sign, places⟩ := exists_units_eq (n < 0) significand (exponent + 1074) short (by omega)
  refine ⟨x, ?_⟩
  rw [value, sign, places, pow_add, ← Nat.mul_assoc, ← magnitude, ← unitsPerOne_eq, Nat.cast_mul,
    mul_div_cancel_right₀ _ unitsPerOne_pos.ne']
  exact signed_natAbs n

theorem exists_value_eq_div {m : Int} (short : m.natAbs < 2 ^ 53) {places : Nat} (low : places ≤ 1074) :
    ∃ x : Finite64, x.value = m / 2 ^ places := by
  obtain ⟨x, sign, magnitude⟩ := exists_units_eq (m < 0) m.natAbs (1074 - places) short (by omega)
  have one : (unitsPerOne : ℚ) = 2 ^ (1074 - places) * 2 ^ places := by
    rw [unitsPerOne_eq, Nat.cast_pow, Nat.cast_ofNat, ← pow_add, Nat.sub_add_cancel low]
  refine ⟨x, ?_⟩
  rw [value, sign, magnitude, one, Nat.cast_mul, Nat.cast_pow, Nat.cast_ofNat, mul_comm,
    mul_div_mul_left _ _ (by positivity), signed_div, signed_natAbs]

theorem exists_value_eq_of_small {n : Int} (small : n.natAbs ≤ 2 ^ 53) : ∃ x : Finite64, x.value = n := by
  rcases Nat.lt_or_eq_of_le small with short | power
  · exact exists_value_eq_int n.natAbs 0 short (by decide) (by simp)
  · exact exists_value_eq_int 1 53 (by decide) (by decide) (by simpa)

theorem le_units_of_normal (normal : 2 ^ 52 ≤ x.significand) : 2 ^ x.exponent * 2 ^ 52 ≤ x.units := by
  rw [Nat.mul_comm]
  exact Nat.mul_le_mul_right _ normal

theorem exponent_le_of_units_eq (same : x.units = y.units) : y.exponent ≤ x.exponent := by
  by_contra finer
  have below := units_lt_of_exponent_lt (not_le.mp finer)
  have reached := le_units_of_normal (y.normal.resolve_left (by omega))
  omega

theorem eq_of_value_eq (sign : x.negative = y.negative) (same : x.value = y.value) : x = y := by
  have units : x.units = y.units := by
    have magnitudes := congrArg abs same
    rw [abs_value, abs_value, div_left_inj' unitsPerOne_pos.ne'] at magnitudes
    exact_mod_cast magnitudes
  have exponents : x.exponent = y.exponent :=
    Nat.le_antisymm (exponent_le_of_units_eq units.symm) (exponent_le_of_units_eq units)
  have significands : x.significand = y.significand := by
    rw [Finite64.units, Finite64.units, exponents] at units
    exact Nat.eq_of_mul_eq_mul_right (powerOfTwo_pos _) units
  cases x
  cases y
  cases sign
  cases exponents
  cases significands
  rfl

/-- Two magnitudes with even significands have a double between them: the step after the lower one is
too odd to be the upper one. -/
theorem exists_units_between (negative : Bool) (lt : x.units < y.units) (even_x : x.significand % 2 = 0)
    (even_y : y.significand % 2 = 0) :
    ∃ z : Finite64, z.negative = negative ∧ x.units < z.units ∧ z.units < y.units := by
  have x_lt := x.significand_lt
  obtain ⟨z, sign, next⟩ := exists_units_eq negative (x.significand + 1) x.exponent (by omega) x.exponent_le
  have own : x.units = x.significand * 2 ^ x.exponent := rfl
  have step : (0 : Nat) < 2 ^ x.exponent := Nat.two_pow_pos _
  refine ⟨z, sign, by rw [next, own]; exact Nat.mul_lt_mul_of_pos_right (Nat.lt_succ_self _) step, ?_⟩
  have onGrid : x.exponent ≤ y.exponent := by
    by_contra finer
    have below := units_lt_of_exponent_lt (not_le.mp finer)
    have reached := le_units_of_normal (x.normal.resolve_left (by omega))
    omega
  have other := units_eq_of_le_exponent onGrid
  rw [next, other, Nat.mul_comm]
  rw [own, other, Nat.mul_comm] at lt
  have above := Nat.lt_of_mul_lt_mul_left lt
  have even : y.significand * 2 ^ (y.exponent - x.exponent) % 2 = 0 := by
    rw [Nat.mul_mod, even_y, Nat.zero_mul, Nat.zero_mod]
  exact Nat.mul_lt_mul_of_pos_left (by omega) step

theorem integer?_eq_some_iff {n : Int} : x.integer? = some n ↔ x.value = n := by
  have units_pos : 0 < unitsPerOne := powerOfTwo_pos 1074
  have whole (k : Nat) (same : x.units = k * unitsPerOne) :
      x.value = ((if x.negative then -(k : Int) else k : Int) : ℚ) := by
    rw [value, same, Nat.cast_mul, mul_div_cancel_right₀ _ unitsPerOne_pos.ne', signed]
    split <;> simp
  unfold integer?
  constructor
  · intro read
    split at read
    · rename_i divides
      rw [whole (x.units / unitsPerOne) (Nat.div_mul_cancel (Nat.dvd_of_mod_eq_zero divides)).symm]
      exact congrArg Int.cast (Option.some.inj read)
    · cases read
  · intro same
    have magnitude : x.units = n.natAbs * unitsPerOne := by
      have both := abs_value x
      rw [same, eq_div_iff unitsPerOne_pos.ne', ← Int.cast_abs, Int.abs_eq_natAbs] at both
      exact_mod_cast both.symm
    have signs := (whole _ magnitude).symm.trans same
    rw [magnitude, Nat.mul_mod_left, if_pos rfl, Nat.mul_div_cancel _ units_pos]
    exact congrArg some (Int.cast_injective signs)

end Representable

section Nearest

theorem isNearest_value (x : Finite64) : x.IsNearest x.value := by
  have own : |x.value - x.value| = 0 := by rw [sub_self, abs_zero]
  refine ⟨fun y => own ▸ abs_nonneg _, fun y tie => .inl ?_⟩
  rw [own, eq_comm, abs_eq_zero, sub_eq_zero] at tie
  exact tie.symm

theorem abs_value_lt_limit (x : Finite64) : |x.value| < limit := by
  have units : x.units ≤ (2 ^ 53 - 1) * powerOfTwo 2045 :=
    Nat.mul_le_mul (Nat.le_pred_of_lt x.significand_lt) (powerOfTwo_le x.exponent_le)
  have top : (2 ^ 53 - 1) * powerOfTwo 2045 < (2 ^ 54 - 1) * powerOfTwo 970 * unitsPerOne := by
    decide +kernel
  rw [abs_value, div_lt_iff₀ unitsPerOne_pos, limit_eq, ← Nat.cast_mul, Nat.cast_lt]
  exact units.trans_lt top

theorem IsNearest.value_eq (near : x.IsNearest q) (exact : y.value = q) : x.value = q := by
  have closest := near.nearest y
  rw [exact, sub_self, abs_zero] at closest
  exact (sub_eq_zero.mp (abs_eq_zero.mp (le_antisymm closest (abs_nonneg _)))).symm

theorem IsNearest.le_value (near : x.IsNearest q) (below : y.value ≤ q) : y.value ≤ x.value := by
  by_contra passed
  have closest := near.nearest y
  rw [abs_of_nonneg (by linarith), abs_of_nonneg (by linarith)] at closest
  linarith

theorem IsNearest.value_le (near : x.IsNearest q) (above : q ≤ y.value) : x.value ≤ y.value := by
  by_contra passed
  have closest := near.nearest y
  rw [abs_of_nonpos (by linarith), abs_of_nonpos (by linarith)] at closest
  linarith

theorem IsNearest.abs_value_le (near : x.IsNearest q) : |x.value| ≤ 2 * |q| := by
  -- Zero is a double too, so what is nearest is not farther away than that.
  have fromZero := near.nearest (zero false)
  rw [value_zero, sub_zero, abs_sub_comm] at fromZero
  have sum := abs_sub_abs_le_abs_sub x.value q
  linarith

/-- A nearest integer is off by at most half of the last place that it has room for as a double. -/
theorem IsNearest.two_mul_abs_sub_le {n : Int} (near : x.IsNearest q) (whole : x.value = n) {places : Nat}
    (low : places ≤ 1074) (short : n.natAbs * 2 ^ places + 1 < 2 ^ 53) : 2 * |q - n| ≤ 1 / 2 ^ places := by
  have neighbour (s : Int) (unit : s.natAbs = 1) : |q - n| ≤ |q - n - s / 2 ^ places| := by
    have near_n : (n * 2 ^ places + s).natAbs < 2 ^ 53 := by
      have sum := Int.natAbs_add_le (n * 2 ^ places) s
      have power : ((2 : Int) ^ places).natAbs = 2 ^ places := by simp [Int.natAbs_pow]
      rw [Int.natAbs_mul, power] at sum
      omega
    obtain ⟨y, place⟩ := exists_value_eq_div near_n low
    have value_eq : y.value = n + s / 2 ^ places := by
      rw [place]
      push_cast
      rw [add_div, mul_div_cancel_right₀ _ (by positivity)]
    have closest := near.nearest y
    rwa [whole, value_eq, ← sub_sub] at closest
  have step : (0 : ℚ) < 1 / 2 ^ places := by positivity
  have above := neighbour 1 rfl
  have below := neighbour (-1) rfl
  push_cast at above below
  rw [neg_div, sub_neg_eq_add] at below
  generalize (1 : ℚ) / 2 ^ places = last at *
  rcases le_total 0 (q - n) with right | left
  · rw [abs_of_nonneg right] at above ⊢
    rcases abs_cases (q - n - last) with ⟨size, _⟩ | ⟨size, _⟩ <;> linarith
  · rw [abs_of_nonpos left] at below ⊢
    rcases abs_cases (q - n + last) with ⟨size, _⟩ | ⟨size, _⟩ <;> linarith

theorem IsNearest.not_between (near : x.IsNearest q) (near' : y.IsNearest q) (z : Finite64) :
    ¬(x.value < z.value ∧ z.value < y.value) := by
  rintro ⟨below, above⟩
  have level := le_antisymm (near.nearest y) (near'.nearest x)
  have closest := near.nearest z
  have closest' := near'.nearest z
  rcases abs_cases (q - x.value) with ⟨left, _⟩ | ⟨left, _⟩ <;>
    rcases abs_cases (q - y.value) with ⟨right, _⟩ | ⟨right, _⟩ <;>
    rcases abs_cases (q - z.value) with ⟨middle, _⟩ | ⟨middle, _⟩ <;> linarith

theorem IsNearest.units_le (near : x.IsNearest q) (near' : y.IsNearest q) (apart : x.value ≠ y.value) :
    y.units ≤ x.units := by
  by_contra larger
  have level := le_antisymm (near.nearest y) (near'.nearest x)
  have even_x := (near.even y level).resolve_left apart.symm
  have even_y := (near'.even x level.symm).resolve_left apart
  obtain ⟨z, sign, above, below⟩ := exists_units_between y.negative (not_le.mp larger) even_x even_y
  have outside : |x.value| < z.units / unitsPerOne := by
    rw [abs_value]
    exact div_lt_div_of_pos_right (Nat.cast_lt.mpr above) unitsPerOne_pos
  have inside : (z.units / unitsPerOne : ℚ) < y.units / unitsPerOne :=
    div_lt_div_of_pos_right (Nat.cast_lt.mpr below) unitsPerOne_pos
  obtain ⟨lower, upper⟩ := abs_lt.mp outside
  cases negative : y.negative with
  | false =>
    rw [negative] at sign
    rw [← value_of_positive sign] at upper inside
    rw [← value_of_positive negative] at inside
    exact near.not_between near' z ⟨upper, inside⟩
  | true =>
    rw [negative] at sign
    have beyond := neg_lt_neg inside
    rw [← value_of_negative sign] at lower beyond
    rw [← value_of_negative negative] at beyond
    exact near'.not_between near z ⟨beyond, lower⟩

theorem IsNearest.value_eq_of_opposite (near : x.IsNearest q) (near' : y.IsNearest q)
    (negative : x.negative = true) (positive : y.negative = false) (same : x.units = y.units) :
    x.value = y.value := by
  have nonneg : (0 : ℚ) ≤ y.units / unitsPerOne := div_nonneg (Nat.cast_nonneg _) unitsPerOne_pos.le
  have apart := near.not_between near' (zero false)
  rw [value_zero, value_of_negative negative, value_of_positive positive, same] at *
  by_contra other
  have pos : (0 : ℚ) < y.units / unitsPerOne := lt_of_le_of_ne nonneg fun nothing => other (by linarith)
  exact apart ⟨neg_neg_of_pos pos, pos⟩

/-- There is one nearest double, up to the sign of zero. -/
theorem IsNearest.value_unique (near : x.IsNearest q) (near' : y.IsNearest q) : x.value = y.value := by
  by_contra apart
  have same := Nat.le_antisymm (near'.units_le near (Ne.symm apart)) (near.units_le near' apart)
  cases sign : x.negative <;> cases sign' : y.negative
  · exact apart (by rw [value_of_positive sign, value_of_positive sign', same])
  · exact apart (near'.value_eq_of_opposite near sign' sign same.symm).symm
  · exact apart (near.value_eq_of_opposite near' sign sign' same)
  · exact apart (by rw [value_of_negative sign, value_of_negative sign', same])

end Nearest

end Finite64
end ModulatorHealth
