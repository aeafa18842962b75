import Mathlib
import ModulatorHealth.Number.Decimal

/-! Rounding to doubles. A fraction of units becomes the double nearest to it, of two at the same
distance the one with the even significand; from half a unit past the largest double on it becomes
none. -/
namespace ModulatorHealth

theorem powerOfTwo_eq (n : Nat) : powerOfTwo n = 2 ^ n := rfl

theorem powerOfTwo_pos (n : Nat) : 0 < powerOfTwo n := Nat.two_pow_pos n

theorem powerOfTwo_le {m n : Nat} (le : m ≤ n) : powerOfTwo m ≤ powerOfTwo n :=
  Nat.pow_le_pow_right (by decide) le

theorem powerOfTen_eq (n : Nat) : powerOfTen n = 10 ^ n := rfl

theorem powerOfTen_le {m n : Nat} (le : m ≤ n) : powerOfTen m ≤ powerOfTen n :=
  Nat.pow_le_pow_right (by decide) le

theorem powerOfTen_pos (n : Nat) : 0 < powerOfTen n := Nat.pow_pos (by decide)

section Quotients

variable {num den : Nat}

theorem roundDiv_error (num : Nat) (pos : 0 < den) :
    2 * |(num : Int) - den * roundDiv num den| ≤ den ∧
      (2 * |(num : Int) - den * roundDiv num den| = den → roundDiv num den % 2 = 0) := by
  have parts : den * (num / den) + num % den = num := Nat.div_add_mod num den
  have lt : num % den < den := Nat.mod_lt num pos
  unfold roundDiv
  dsimp only
  split
  · have error : (num : Int) - den * (num / den : Nat) = (num % den : Nat) := by
      rw [← Nat.cast_mul]
      omega
    rw [error, Nat.abs_cast]
    omega
  · have error : (num : Int) - den * (num / den + 1 : Nat) = -(den - num % den : Nat) := by
      rw [← Nat.cast_mul, Nat.mul_succ]
      omega
    rw [error, abs_neg, Nat.abs_cast]
    omega

theorem roundDiv_le {k : Nat} (below : num < den * k) : roundDiv num den ≤ k := by
  have whole : num / den < k := Nat.div_lt_of_lt_mul below
  unfold roundDiv
  dsimp only
  split <;> omega

theorem le_roundDiv (pos : 0 < den) {k : Nat} (above : den * k ≤ num) : k ≤ roundDiv num den := by
  have whole : k ≤ num / den := (Nat.le_div_iff_mul_le pos).mpr (Nat.mul_comm den k ▸ above)
  unfold roundDiv
  dsimp only
  split <;> omega

theorem le_roundDiv_iff_of_even (pos : 0 < den) {k : Nat} (even : k % 2 = 0) (some_step : 0 < k) :
    k ≤ roundDiv num den ↔ den * (2 * k - 1) ≤ 2 * num := by
  have parts : den * (num / den) + num % den = num := Nat.div_add_mod num den
  have lt : num % den < den := Nat.mod_lt num pos
  have half : den * (2 * k - 1) = 2 * (den * k) - den := by
    rw [Nat.mul_sub_one, Nat.mul_left_comm]
  have step : den * (num / den + 1) = den * (num / den) + den := Nat.mul_succ _ _
  have reached := Nat.le_mul_of_pos_right den some_step
  rw [half]
  rcases lt_trichotomy k (num / den + 1) with before | last | beyond
  · have within : den * k ≤ den * (num / den) := Nat.mul_le_mul_left den (by omega)
    exact iff_of_true (le_roundDiv pos (by omega)) (by omega)
  · unfold roundDiv
    dsimp only
    rw [last, step]
    split <;> omega
  · have past : den * (num / den + 2) ≤ den * k := Nat.mul_le_mul_left den beyond
    rw [Nat.mul_add] at past
    have short : roundDiv num den ≤ num / den + 1 := roundDiv_le (by omega)
    exact iff_of_false (by omega) (by omega)

theorem roundDiv_nearest (num : Nat) (pos : 0 < den) (k : Nat) :
    |(num : Int) - den * roundDiv num den| ≤ |(num : Int) - den * k| ∧
      (|(num : Int) - den * roundDiv num den| = |(num : Int) - den * k| →
        k = roundDiv num den ∨ roundDiv num den % 2 = 0) := by
  obtain ⟨error, even⟩ := roundDiv_error num pos
  by_cases same : k = roundDiv num den
  · rw [same]
    exact ⟨le_refl _, fun _ => .inl rfl⟩
  · have apart : (1 : Int) ≤ |(k : Int) - roundDiv num den| :=
      Int.one_le_abs (sub_ne_zero.mpr (by exact_mod_cast same))
    have far : (den : Int) ≤ |(num : Int) - den * roundDiv num den| + |(num : Int) - den * k| := by
      calc (den : Int)
          ≤ den * |(k : Int) - roundDiv num den| := le_mul_of_one_le_right (by omega) apart
        _ = |((num : Int) - den * roundDiv num den) - (num - den * k)| := by
          rw [← Nat.abs_cast den, ← abs_mul, Nat.abs_cast]
          congr 1
          ring
        _ ≤ _ := abs_sub _ _
    exact ⟨by omega, fun tie => .inr (even (by omega))⟩

end Quotients

def signed (negative : Bool) (magnitude : ℚ) : ℚ := if negative then -magnitude else magnitude

@[simp] theorem abs_signed (negative : Bool) (magnitude : ℚ) : |signed negative magnitude| = |magnitude| := by
  cases negative <;> simp [signed]

@[simp] theorem signed_zero (negative : Bool) : signed negative 0 = 0 := by
  cases negative <;> simp [signed]

theorem signed_not (negative : Bool) (a : ℚ) : signed (!negative) a = -signed negative a := by
  cases negative <;> simp [signed]

theorem signed_add (negative : Bool) (a b : ℚ) :
    signed negative a + signed negative b = signed negative (a + b) := by
  cases negative <;> simp [signed, add_comm]

theorem signed_sub (negative : Bool) (a b : ℚ) :
    signed negative a - signed negative b = signed negative (a - b) := by
  cases negative <;> simp [signed, neg_add_eq_sub]

theorem signed_div (negative : Bool) (a b : ℚ) : signed negative (a / b) = signed negative a / b := by
  cases negative <;> simp [signed, neg_div]

theorem signed_natAbs (n : Int) : signed (n < 0) n.natAbs = n := by
  rw [signed, Nat.cast_natAbs]
  split
  · rename_i below
    rw [abs_of_neg (by simpa using below)]
    simp
  · rename_i above
    rw [abs_of_nonneg (by simpa using above)]

namespace Finite64

def value (x : Finite64) : ℚ := signed x.negative (x.units / unitsPerOne)

/-- No double is nearer to the number, and another one is as near only if the significand is even. -/
structure IsNearest (x : Finite64) (q : ℚ) : Prop where
  nearest : ∀ y : Finite64, |q - x.value| ≤ |q - y.value|
  even : ∀ y : Finite64, |q - x.value| = |q - y.value| → y.value = x.value ∨ x.significand % 2 = 0

/-- Half a unit of the last place past the largest double. -/
def limit : ℚ := (2 ^ 54 - 1) * 2 ^ 970

theorem unitsPerOne_eq : unitsPerOne = 2 ^ 1074 := powerOfTwo_eq 1074

theorem unitsPerOne_pos : (0 : ℚ) < unitsPerOne := Nat.cast_pos.mpr (powerOfTwo_pos 1074)

@[simp] theorem units_zero (negative : Bool) : (zero negative).units = 0 := Nat.zero_mul _

@[simp] theorem value_zero (negative : Bool) : (zero negative).value = 0 := by
  rw [value, units_zero, Nat.cast_zero, zero_div, signed_zero]

theorem abs_value (x : Finite64) : |x.value| = x.units / unitsPerOne := by
  rw [value, abs_signed, abs_of_nonneg (div_nonneg (Nat.cast_nonneg _) unitsPerOne_pos.le)]

theorem units_eq_of_le_exponent {x : Finite64} {exponent : Nat} (le : exponent ≤ x.exponent) :
    x.units = 2 ^ exponent * (x.significand * 2 ^ (x.exponent - exponent)) := by
  rw [units, powerOfTwo_eq, Nat.mul_left_comm, ← pow_add, Nat.add_sub_cancel' le]

theorem units_lt_of_exponent_lt {x : Finite64} {exponent : Nat} (lt : x.exponent < exponent) :
    x.units < 2 ^ exponent * 2 ^ 52 := by
  have room : 2 ^ x.exponent * 2 ≤ 2 ^ exponent := by
    rw [← pow_succ]
    exact Nat.pow_le_pow_right (by decide) lt
  calc x.significand * 2 ^ x.exponent
      < 2 ^ 53 * 2 ^ x.exponent := Nat.mul_lt_mul_of_pos_right x.significand_lt (Nat.two_pow_pos _)
    _ = 2 ^ x.exponent * 2 * 2 ^ 52 := by ring
    _ ≤ _ := Nat.mul_le_mul_right _ room

theorem ofParts?_eq_some_iff {negative : Bool} {significand exponent : Nat} {x : Finite64} :
    ofParts? negative significand exponent = some x ↔
      x.negative = negative ∧ x.significand = significand ∧ x.exponent = exponent := by
  unfold ofParts?
  constructor
  · intro made
    split at made
    · cases made
      exact ⟨rfl, rfl, rfl⟩
    · cases made
  · rintro ⟨rfl, rfl, rfl⟩
    rw [dif_pos ⟨x.significand_lt, x.exponent_le, x.normal⟩]

theorem ofParts?_eq_none_iff {negative : Bool} {significand exponent : Nat} (lt : significand < 2 ^ 53)
    (normal : exponent = 0 ∨ 2 ^ 52 ≤ significand) :
    ofParts? negative significand exponent = none ↔ 2045 < exponent := by
  unfold ofParts?
  split
  · rename_i fits
    simp only [reduceCtorEq, false_iff]
    omega
  · rename_i misfit
    simp only [true_iff]
    omega

section Rounding

variable (negative : Bool) (num den : Nat)

def gridExponent : Nat := Nat.log2 (num / den) - 52

def gridSteps : Nat := roundDiv num (den * 2 ^ gridExponent num den)

theorem nearest?_eq : nearest? negative num den =
    if gridSteps num den < 2 ^ 53 then
      ofParts? negative (gridSteps num den) (gridExponent num den)
    else ofParts? negative (2 ^ 52) (gridExponent num den + 1) := rfl

variable {negative den} (pos : 0 < den)
include pos

theorem lt_grid : num < den * 2 ^ gridExponent num den * 2 ^ 53 := by
  have quotient : num / den < 2 ^ (gridExponent num den + 53) := by
    refine Nat.lt_of_lt_of_le Nat.lt_log2_self (Nat.pow_le_pow_right (by decide) ?_)
    unfold gridExponent
    omega
  rw [Nat.div_lt_iff_lt_mul pos] at quotient
  rwa [Nat.mul_assoc, ← pow_add, Nat.mul_comm]

theorem grid_le (coarse : gridExponent num den ≠ 0) : den * 2 ^ gridExponent num den * 2 ^ 52 ≤ num := by
  have exponent : gridExponent num den + 52 = Nat.log2 (num / den) := by
    unfold gridExponent at *
    omega
  have positive : num / den ≠ 0 := by
    intro zero
    rw [zero, Nat.log2_zero] at exponent
    omega
  have quotient := Nat.log2_self_le positive
  rwa [← exponent, Nat.le_div_iff_mul_le pos, Nat.mul_comm, pow_add, ← Nat.mul_assoc] at quotient

theorem grid_pos : 0 < den * 2 ^ gridExponent num den := Nat.mul_pos pos (Nat.two_pow_pos _)

theorem gridSteps_le : gridSteps num den ≤ 2 ^ 53 := roundDiv_le (lt_grid num pos)

theorem gridSteps_normal : gridExponent num den = 0 ∨ 2 ^ 52 ≤ gridSteps num den := by
  by_cases coarse : gridExponent num den = 0
  · exact .inl coarse
  · exact .inr (le_roundDiv (grid_pos num pos) (grid_le num pos coarse))

variable {num}

/-- The double takes all steps, also where it is the first one of the next grid. -/
theorem nearest?_eq_some {x : Finite64} (rounded : nearest? negative num den = some x) :
    x.negative = negative ∧ x.units = gridSteps num den * 2 ^ gridExponent num den ∧
      (gridSteps num den % 2 = 0 → x.significand % 2 = 0) := by
  rw [nearest?_eq] at rounded
  unfold units
  rw [powerOfTwo_eq]
  split at rounded
  · obtain ⟨sign, significand, exponent⟩ := ofParts?_eq_some_iff.mp rounded
    rw [significand, exponent]
    exact ⟨sign, rfl, id⟩
  · rename_i carried
    obtain ⟨sign, significand, exponent⟩ := ofParts?_eq_some_iff.mp rounded
    have full : gridSteps num den = 2 ^ 53 := Nat.le_antisymm (gridSteps_le num pos) (not_lt.mp carried)
    rw [significand, exponent, full]
    exact ⟨sign, by ring, fun _ => rfl⟩

theorem nearest?_eq_none : nearest? negative num den = none ↔
    2045 < gridExponent num den ∨ gridExponent num den = 2045 ∧ gridSteps num den = 2 ^ 53 := by
  have full := gridSteps_le num pos
  rw [nearest?_eq]
  split
  · rename_i kept
    rw [ofParts?_eq_none_iff kept (gridSteps_normal num pos)]
    omega
  · rw [ofParts?_eq_none_iff (by decide) (.inr (Nat.le_refl _))]
    omega

/-- Among the doubles none is nearer, in units. Those on the grid compare as whole steps; those of a
smaller exponent lie below the first step that the fraction reaches. -/
theorem nearest?_units {x : Finite64} (rounded : nearest? negative num den = some x) (y : Finite64) :
    |(num : Int) - den * x.units| ≤ |(num : Int) - den * y.units| ∧
      (|(num : Int) - den * x.units| = |(num : Int) - den * y.units| →
        y.units = x.units ∨ x.significand % 2 = 0) := by
  obtain ⟨-, steps, even⟩ := nearest?_eq_some pos rounded
  have own : (den : Int) * x.units =
      (den * 2 ^ gridExponent num den : Nat) * (gridSteps num den : Int) := by
    rw [steps]
    push_cast
    ring
  rw [own]
  by_cases onGrid : gridExponent num den ≤ y.exponent
  · have other := units_eq_of_le_exponent onGrid
    obtain ⟨nearest, tie⟩ := roundDiv_nearest num (grid_pos num pos)
      (y.significand * 2 ^ (y.exponent - gridExponent num den))
    have other' : (den : Int) * y.units = (den * 2 ^ gridExponent num den : Nat) *
        ((y.significand * 2 ^ (y.exponent - gridExponent num den) : Nat) : Int) := by
      rw [other]
      push_cast
      ring
    rw [other']
    refine ⟨nearest, fun same => (tie same).imp (fun all => ?_) even⟩
    rw [other, all, steps, Nat.mul_comm]
    rfl
  · have small := units_lt_of_exponent_lt (not_le.mp onGrid)
    have reached := grid_le num pos (by omega)
    have below : den * y.units < den * 2 ^ gridExponent num den * 2 ^ 52 := by
      rw [Nat.mul_assoc]
      exact Nat.mul_lt_mul_of_pos_left small pos
    obtain ⟨nearest, -⟩ := roundDiv_nearest num (grid_pos num pos) (2 ^ 52)
    have first : |(num : Int) - (den * 2 ^ gridExponent num den : Nat) * (2 ^ 52 : Nat)| <
        |(num : Int) - den * y.units| := by
      rw [← Nat.cast_mul, ← Nat.cast_mul, abs_of_nonneg (by omega), abs_of_nonneg (by omega)]
      omega
    have closer := nearest.trans_lt first
    exact ⟨closer.le, fun same => absurd same closer.ne⟩

theorem nearest?_eq_none_iff_units :
    nearest? negative num den = none ↔ den * powerOfTwo 2045 * (2 ^ 54 - 1) ≤ 2 * num := by
  rw [nearest?_eq_none pos]
  have upper := lt_grid num pos
  rcases lt_trichotomy (gridExponent num den) 2045 with below | last | beyond
  · have room : 2 ^ gridExponent num den * 2 ≤ powerOfTwo 2045 := by
      rw [powerOfTwo_eq, ← pow_succ]
      exact pow_le_pow_right₀ (by decide) below
    have far := Nat.mul_le_mul_left den room
    generalize powerOfTwo 2045 = top at *
    rw [← Nat.mul_assoc] at far
    omega
  · have full := gridSteps_le num pos
    have carried := @le_roundDiv_iff_of_even num _ (grid_pos num pos) (2 ^ 53) (by decide) (by decide)
    rw [last, ← powerOfTwo_eq 2045] at carried
    rw [gridSteps, last, ← powerOfTwo_eq 2045] at full ⊢
    generalize powerOfTwo 2045 = top at *
    omega
  · have room : powerOfTwo 2045 * 2 ≤ 2 ^ gridExponent num den := by
      rw [powerOfTwo_eq, ← pow_succ]
      exact pow_le_pow_right₀ (by decide) beyond
    have reached := grid_le num pos (by omega)
    have far := Nat.mul_le_mul_left den room
    generalize powerOfTwo 2045 = top at *
    rw [← Nat.mul_assoc] at far
    omega

end Rounding

section Numbers

/-- A double that is nearest in magnitude is nearest with its sign: the other sign only leads away. -/
theorem isNearest_signed {x : Finite64} {q : ℚ} (nonneg : 0 ≤ q)
    (nearest : ∀ y : Finite64, |q - x.units / unitsPerOne| ≤ |q - y.units / unitsPerOne| ∧
      (|q - x.units / unitsPerOne| = |q - y.units / unitsPerOne| →
        y.units = x.units ∨ x.significand % 2 = 0)) :
    x.IsNearest (signed x.negative q) := by
  have own : |signed x.negative q - x.value| = |q - x.units / unitsPerOne| := by
    rw [value, signed_sub, abs_signed]
  have apart (y : Finite64) : |q - y.units / unitsPerOne| ≤ |signed x.negative q - y.value| := by
    have magnitudes := abs_abs_sub_abs_le (signed x.negative q) y.value
    rwa [abs_signed, abs_of_nonneg nonneg, abs_value] at magnitudes
  refine ⟨fun y => ?_, fun y tie => ?_⟩
  · rw [own]
    exact (nearest y).1.trans (apart y)
  · rw [own] at tie
    have level := le_antisymm (nearest y).1 (tie ▸ apart y)
    refine ((nearest y).2 level).imp_left fun same => ?_
    by_cases agree : y.negative = x.negative
    · rw [value, value, agree, same]
    · have opposite := Bool.eq_not_iff.mpr agree
      have magnitude_nonneg : (0 : ℚ) ≤ y.units / unitsPerOne :=
        div_nonneg (Nat.cast_nonneg _) unitsPerOne_pos.le
      have sum : |signed x.negative q - y.value| = q + y.units / unitsPerOne := by
        rw [value, opposite, signed_not, sub_neg_eq_add, signed_add, abs_signed,
          abs_of_nonneg (add_nonneg nonneg magnitude_nonneg)]
      have fromZero := (nearest (zero false)).1
      rw [units_zero, Nat.cast_zero, zero_div, sub_zero, abs_of_nonneg nonneg, tie, sum] at fromZero
      have nothing : (y.units / unitsPerOne : ℚ) = 0 := by linarith
      rw [value, value, ← same, nothing, signed_zero, signed_zero]

variable {negative : Bool} {num den : Nat} (pos : 0 < den)
include pos

theorem abs_fraction_sub (y : Finite64) : |(num / den / unitsPerOne : ℚ) - y.units / unitsPerOne| =
    (|(num : Int) - den * y.units| : Int) / (den * unitsPerOne) := by
  have den_pos : (0 : ℚ) < den := Nat.cast_pos.mpr pos
  have units_pos := unitsPerOne_pos
  have whole : (num / den / unitsPerOne : ℚ) - y.units / unitsPerOne =
      ((num : Int) - den * y.units : Int) / (den * unitsPerOne) := by
    push_cast
    field_simp
  rw [whole, abs_div, abs_of_pos (mul_pos den_pos units_pos), Int.cast_abs]

theorem isNearest_of_nearest? {x : Finite64} (rounded : nearest? negative num den = some x) :
    x.IsNearest (signed negative (num / den / unitsPerOne)) := by
  obtain ⟨rfl, -, -⟩ := nearest?_eq_some pos rounded
  have scale : (0 : ℚ) < den * unitsPerOne := mul_pos (Nat.cast_pos.mpr pos) unitsPerOne_pos
  refine isNearest_signed ?_ fun y => ?_
  · exact div_nonneg (div_nonneg (Nat.cast_nonneg _) (Nat.cast_nonneg _)) unitsPerOne_pos.le
  · obtain ⟨nearest, even⟩ := nearest?_units pos rounded y
    rw [abs_fraction_sub pos, abs_fraction_sub pos, div_le_div_iff_of_pos_right scale,
      div_left_inj' scale.ne']
    exact ⟨by exact_mod_cast nearest, fun tie => even (by exact_mod_cast tie)⟩

theorem nearest?_eq_none_iff :
    nearest? negative num den = none ↔ limit ≤ num / den / unitsPerOne := by
  have top : (powerOfTwo 2045 : ℚ) = 2 ^ 970 * unitsPerOne * 2 := by
    rw [unitsPerOne_eq, powerOfTwo_eq, Nat.cast_pow, Nat.cast_pow, Nat.cast_ofNat, ← pow_add,
      ← pow_succ]
  have odd : ((2 ^ 54 - 1 : Nat) : ℚ) = 2 ^ 54 - 1 := by norm_num
  rw [nearest?_eq_none_iff_units pos, le_div_iff₀ unitsPerOne_pos,
    le_div_iff₀ (Nat.cast_pos.mpr pos), ← Nat.cast_le (α := ℚ), Nat.cast_mul, Nat.cast_mul, Nat.cast_mul,
    odd, top, limit]
  generalize (2 : ℚ) ^ 970 = scale
  constructor <;> intro <;> push_cast at * <;> linarith

theorem nearest?_cases :
    ((num / den / unitsPerOne : ℚ) < limit ∧ ∃ x, nearest? negative num den = some x ∧
        x.IsNearest (signed negative (num / den / unitsPerOne))) ∨
      limit ≤ (num / den / unitsPerOne : ℚ) ∧ nearest? negative num den = none := by
  cases rounded : nearest? negative num den with
  | some x =>
    have inside := (nearest?_eq_none_iff pos).not.mp (rounded ▸ Option.some_ne_none x)
    exact .inl ⟨not_le.mp inside, x, rfl, isNearest_of_nearest? pos rounded⟩
  | none => exact .inr ⟨(nearest?_eq_none_iff pos).mp rounded, rfl⟩

end Numbers

theorem ofInt?_cases (n : Int) :
    (|(n : ℚ)| < limit ∧ ∃ x, ofInt? n = some x ∧ x.IsNearest n) ∨
      limit ≤ |(n : ℚ)| ∧ ofInt? n = none := by
  have magnitude : ((n.natAbs * unitsPerOne : Nat) / (1 : Nat) / unitsPerOne : ℚ) = n.natAbs := by
    rw [Nat.cast_one, div_one, Nat.cast_mul, mul_div_cancel_right₀ _ unitsPerOne_pos.ne']
  have rounded := @nearest?_cases (n < 0) (n.natAbs * unitsPerOne) 1 Nat.one_pos
  rw [magnitude, signed_natAbs, Nat.cast_natAbs, Int.cast_abs] at rounded
  exact rounded

end Finite64

theorem Finite64.limit_eq : limit = ((2 ^ 54 - 1) * powerOfTwo 970 : Nat) := by
  have odd : ((2 ^ 54 - 1 : Nat) : ℚ) = 2 ^ 54 - 1 := by norm_num
  rw [limit, powerOfTwo_eq, Nat.cast_mul, odd, Nat.cast_pow, Nat.cast_ofNat]

theorem Finite64.lt_limit {q : ℚ} (small : q ≤ 2 ^ 64) : q < limit := by
  have scale : 2 ^ 64 < (2 ^ 54 - 1) * powerOfTwo 970 := by decide +kernel
  rw [limit_eq]
  exact small.trans_lt (by exact_mod_cast scale)

section Range

variable {n : Int} (range : -9223372036854775808 ≤ n ∧ n < 18446744073709551616)
include range

theorem Finite64.abs_lt_limit : |(n : ℚ)| < limit := by
  have small : |n| ≤ 2 ^ 64 := abs_le.mpr (by omega)
  exact lt_limit (by exact_mod_cast small)

theorem Finite64.exists_ofInt? : ∃ x, ofInt? n = some x ∧ x.IsNearest n := by
  obtain ⟨-, nearest⟩ | ⟨beyond, -⟩ := ofInt?_cases n
  · exact nearest
  · exact absurd (abs_lt_limit range) (not_lt.mpr beyond)

end Range

theorem Finite64.limit_pos : 0 < limit := lt_limit (by norm_num)

inductive Binary64.Rounds (q : ℚ) : Binary64 → Prop where
  | finite {x : Finite64} : |q| < Finite64.limit → x.IsNearest q → Rounds q (.finite x)
  | infinite : Finite64.limit ≤ |q| → Rounds q (.infinite (q < 0))

namespace Binary64

theorem rounds_infinite (negative : Bool) {magnitude : ℚ} (beyond : Finite64.limit ≤ magnitude) :
    Rounds (signed negative magnitude) (.infinite negative) := by
  have pos := Finite64.limit_pos.trans_le beyond
  have sign : decide (signed negative magnitude < 0) = negative := by
    cases negative
    · simpa [signed] using pos.le
    · simpa [signed] using pos
  have whole := @Rounds.infinite (signed negative magnitude)
    (by rwa [abs_signed, abs_of_pos pos])
  rwa [sign] at whole

theorem rounds_nearest (negative : Bool) {num den : Nat} (pos : 0 < den) :
    Rounds (signed negative (num / den / Finite64.unitsPerOne)) (.nearest negative num den) := by
  have nonneg : (0 : ℚ) ≤ num / den / Finite64.unitsPerOne :=
    div_nonneg (div_nonneg (Nat.cast_nonneg _) (Nat.cast_nonneg _)) Finite64.unitsPerOne_pos.le
  have rounding := @Finite64.nearest?_cases negative num den pos
  unfold nearest
  generalize (num / den / Finite64.unitsPerOne : ℚ) = magnitude at *
  obtain ⟨inside, x, rounded, near⟩ | ⟨beyond, rounded⟩ := rounding
  · rw [rounded]
    exact .finite (by rwa [abs_signed, abs_of_nonneg nonneg]) near
  · rw [rounded]
    exact rounds_infinite negative beyond

theorem rounds_zero (negative : Bool) {q : ℚ} (tiny : 2 * |q| < 1 / Finite64.unitsPerOne) :
    Rounds q (.finite (.zero negative)) := by
  have small : |q| < 1 := by
    have least : (1 : ℚ) / Finite64.unitsPerOne ≤ 1 := by
      rw [div_le_one Finite64.unitsPerOne_pos, Nat.one_le_cast]
      exact powerOfTwo_pos 1074
    linarith [abs_nonneg q]
  refine .finite (Finite64.lt_limit (small.le.trans (by norm_num))) ⟨fun y => ?_, fun _ _ => .inr rfl⟩
  rw [Finite64.value_zero, sub_zero]
  by_cases nothing : y.units = 0
  · rw [Finite64.value, nothing, Nat.cast_zero, zero_div, signed_zero, sub_zero]
  · have unit : 1 / Finite64.unitsPerOne ≤ |y.value| := by
      rw [Finite64.abs_value, div_le_div_iff_of_pos_right Finite64.unitsPerOne_pos, Nat.one_le_cast]
      omega
    have apart := abs_sub_abs_le_abs_sub y.value q
    rw [abs_sub_comm] at apart
    linarith

end Binary64
end ModulatorHealth
