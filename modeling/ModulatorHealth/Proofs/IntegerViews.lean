import Mathlib
import ModulatorHealth.Proofs.DecimalTexts
import ModulatorHealth.Proofs.ExactDoubles
import ModulatorHealth.Proofs.FrameCounter

/-! The integer view of numbers and of numerals. Whatever is not written as an integer is seen through
the double nearest to it, so the view is exact as far as doubles are. -/
namespace ModulatorHealth

open Json (Number)

namespace Finite64

variable {x : Finite64} {q : ℚ}

theorem toInt64?_eq_some_iff {n : Int} :
    (Binary64.finite x).toInt64? = some n ↔ x.value = n ∧ n.natAbs < 9223372036854775808 := by
  simp only [Binary64.toInt64?, Binary64.finite?, Option.bind_some, Option.bind_eq_some_iff,
    Option.ite_none_right_eq_some, Option.some.injEq, integer?_eq_some_iff]
  constructor
  · rintro ⟨m, whole, small, rfl⟩
    exact ⟨whole, small⟩
  · rintro ⟨whole, small⟩
    exact ⟨n, whole, small, rfl⟩

/-- Both ends of the range are doubles, so an integer beyond it rounds to one that is not inside. -/
theorem IsNearest.toInt64?_eq_none {n : Int} (near : x.IsNearest n) (misfit : ¬FitsInt64 n) :
    (Binary64.finite x).toInt64? = none := by
  obtain ⟨upper, upper_eq⟩ : ∃ y : Finite64, y.value = (9223372036854775808 : Int) :=
    exists_value_eq_int 1 63 (by decide) (by decide) (by decide)
  obtain ⟨lower, lower_eq⟩ : ∃ y : Finite64, y.value = (-9223372036854775808 : Int) :=
    exists_value_eq_int 1 63 (by decide) (by decide) (by decide)
  refine Option.eq_none_iff_forall_ne_some.mpr fun m view => ?_
  obtain ⟨whole, small⟩ := toInt64?_eq_some_iff.mp view
  rcases lt_or_ge n (-9223372036854775808) with below | above
  · have rounded := near.value_le (y := lower) (by rw [lower_eq, Int.cast_le]; exact below.le)
    rw [lower_eq, whole, Int.cast_le] at rounded
    omega
  · have rounded := near.le_value (y := upper) (by rw [upper_eq, Int.cast_le]; omega)
    rw [upper_eq, whole, Int.cast_le] at rounded
    omega

end Finite64

namespace Decimal

/-- At most fifteen digits, not too far behind the point, and a number up to which each integer is a
double. -/
structure IsShort (d : Decimal) : Prop where
  digits_lt : d.digits < 10 ^ 15
  places : -323 ≤ d.exponent
  small : |d.value| ≤ 2 ^ 53

/-- A numeral in this text has an exact integer view: it is written as an integer, or it is short. -/
def IsExact (cs : List Char) (d : Decimal) : Prop := (∃ n, SpellsInteger cs n) ∨ d.IsShort

variable {d : Decimal}

theorem exists_scaled (d : Decimal) (places : Nat) (enough : -places ≤ d.exponent) :
    ∃ m : Int, d.value * 10 ^ places = m := by
  have power : (10 : ℚ) ^ d.exponent * 10 ^ places = 10 ^ (d.exponent + places).toNat := by
    rw [← zpow_natCast, ← zpow_natCast, ← zpow_add₀ (by norm_num), Int.toNat_of_nonneg (by omega)]
  refine ⟨(if d.negative then -1 else 1) * (d.digits * 10 ^ (d.exponent + places).toNat), ?_⟩
  push_cast
  rw [value, ← power]
  cases d.negative <;> simp [signed] <;> ring

theorem exists_binary_place {places : Nat} (low : places ≤ 323) :
    ∃ bits ≤ 1074, (2 : ℚ) ^ bits ≤ 10 ^ places ∧ (10 : ℚ) ^ places < 2 * 2 ^ bits := by
  have pos := powerOfTen_pos places
  have fine (k : Nat) (room : powerOfTen 323 < powerOfTwo k) : Nat.log2 (powerOfTen places) < k :=
    (Nat.log2_lt pos.ne').mpr ((powerOfTen_le low).trans_lt room)
  have below : 2 ^ Nat.log2 (powerOfTen places) ≤ 10 ^ places := Nat.log2_self_le pos.ne'
  have above : 10 ^ places < 2 * 2 ^ Nat.log2 (powerOfTen places) := by
    rw [← pow_succ']
    exact Nat.lt_log2_self
  exact ⟨_, (fine 1074 (by decide +kernel)).le, by exact_mod_cast below, by exact_mod_cast above⟩

theorem one_le_abs_sub_mul {q : ℚ} {places : Nat} {m n : Int} (scaled : q * 10 ^ places = m)
    (apart : q ≠ n) : 1 ≤ |q - n| * 10 ^ places := by
  have steps : (q - n) * 10 ^ places = (m - n * 10 ^ places : Int) := by
    rw [sub_mul, scaled]
    push_cast
    rfl
  have some_step : m - n * 10 ^ places ≠ 0 := by
    intro none
    rw [none, Int.cast_zero, mul_eq_zero] at steps
    exact steps.elim (fun same => apart (sub_eq_zero.mp same)) (by positivity)
  rw [← abs_of_pos (show (0 : ℚ) < 10 ^ places by positivity), ← abs_mul, steps, ← Int.cast_abs]
  exact_mod_cast Int.one_le_abs some_step

/-- Fifteen digits have room for a binary place that is less than half of their last one. A nearest
integer is closer than that, so it is the number itself. -/
theorem value_eq_of_isNearest_fraction {places : Nat} (exponent : d.exponent = -places)
    (low : places ≤ 323) (few : d.digits < 10 ^ 15) {x : Finite64} (near : x.IsNearest d.value) {n : Int}
    (whole : x.value = n) : d.value = n := by
  by_contra apart
  obtain ⟨m, scaled⟩ := d.exists_scaled places (by omega)
  have far := one_le_abs_sub_mul scaled apart
  have size : |d.value| * 10 ^ places = d.digits := by
    rw [abs_value, exponent, zpow_neg, zpow_natCast, inv_mul_cancel_right₀ (by positivity)]
  obtain ⟨bits, fine, below, above⟩ := exists_binary_place low
  have room : n.natAbs * 2 ^ bits + 1 < 2 ^ 53 := by
    have product : |(n : ℚ)| * 2 ^ bits ≤ 2 * d.digits := by
      calc |(n : ℚ)| * 2 ^ bits
          ≤ 2 * |d.value| * 10 ^ places :=
            mul_le_mul (whole ▸ near.abs_value_le) below (by positivity) (by positivity)
        _ = 2 * d.digits := by rw [mul_assoc, size]
    rw [← Int.cast_abs, Int.abs_eq_natAbs] at product
    have product : n.natAbs * 2 ^ bits ≤ 2 * d.digits := by exact_mod_cast product
    omega
  have close := near.two_mul_abs_sub_le whole fine room
  rw [le_div_iff₀ (by positivity)] at close
  have : |d.value - n| * 10 ^ places < 1 := by
    calc |d.value - n| * 10 ^ places
        < |d.value - n| * (2 * 2 ^ bits) :=
          mul_lt_mul_of_pos_left above (abs_pos.mpr (sub_ne_zero.mpr apart))
      _ = 2 * |d.value - n| * 2 ^ bits := by ring
      _ ≤ 1 := close
  linarith

theorem IsShort.value_eq_of_isNearest (short : d.IsShort) {x : Finite64} (near : x.IsNearest d.value)
    {n : Int} (whole : x.value = n) : d.value = n := by
  rcases le_or_gt 0 d.exponent with integer | fraction
  · obtain ⟨m, scaled⟩ := d.exists_scaled 0 (by omega)
    rw [pow_zero, mul_one] at scaled
    have small : m.natAbs ≤ 2 ^ 53 := by
      have bound := short.small
      rw [scaled, ← Int.cast_abs, Int.abs_eq_natAbs] at bound
      exact_mod_cast bound
    obtain ⟨y, exact⟩ := Finite64.exists_value_eq_of_small small
    rw [← whole, near.value_eq (exact.trans scaled.symm)]
  · obtain ⟨places, exponent⟩ : ∃ places : Nat, d.exponent = -places := ⟨d.exponent.natAbs, by omega⟩
    have low := short.places
    exact value_eq_of_isNearest_fraction exponent (by omega) short.digits_lt near whole

end Decimal

def Json.Number.value : Number → ℚ
  | .integer n _ => n
  | .double x => x.value

namespace ParamValue

open Check

theorem asInt?_number_eq_some_iff (a : Number) (n : Int) :
    asInt? (.number a) = some n ↔
      a.value = n ∧ FitsInt64 n ∧ ∀ x, a = .double x → n ≠ -9223372036854775808 := by
  cases a with
  | integer m range =>
    have same : (Number.integer m range).value = n ↔ m = n := Int.cast_inj
    rw [same]
    simp only [asInt?, reduceCtorEq, false_implies, implies_true, and_true]
    split
    · rename_i fits
      grind
    · rename_i misfit
      have refused : ((Finite64.ofInt? m).bind fun x => (Binary64.finite x).toInt64?) = none := by
        obtain ⟨-, x, rounded, near⟩ | ⟨-, rounded⟩ := Finite64.ofInt?_cases m
        · rw [rounded, Option.bind_some, near.toInt64?_eq_none misfit]
        · rw [rounded, Option.bind_none]
      rw [refused]
      grind
  | double x =>
    have view : asInt? (.number (.double x)) = (Binary64.finite x).toInt64? := rfl
    rw [view, Finite64.toInt64?_eq_some_iff]
    simp only [Number.double.injEq, Json.Number.value]
    grind

def leastDouble : Finite64 where
  negative := true
  significand := 4503599627370496
  exponent := 1085
  significand_lt := by decide
  exponent_le := by decide
  normal := .inr (by decide)

theorem value_leastDouble : leastDouble.value = (-9223372036854775808 : Int) :=
  Finite64.integer?_eq_some_iff.mp (by decide +kernel)

theorem asInt?_refuses_leastDouble :
    (Json.parse? "-9223372036854775808.0").map ofJson = some (.number (.double leastDouble)) ∧
      (Number.double leastDouble).value = (-9223372036854775808 : Int) ∧
      asInt? (.number (.double leastDouble)) = none ∧
      asInt? (.number (.integer (-9223372036854775808) (by decide))) = some (-9223372036854775808) :=
  ⟨by decide +kernel, value_leastDouble, by decide +kernel, by decide⟩

section Numerals

variable {s : String} {d : Decimal}

theorem asInt?_text_of_spells (spelled : d.Spells (Text.trim s.toList)) :
    asInt? (.text s) = (parseInt64? (Text.trim s.toList)).or d.toBinary64.toInt64? := by
  have read := (Decimal.parse?_of_spells spelled).2
  simp only [asInt?, read, Option.bind_some]
  cases parseInt64? (Text.trim s.toList) <;> rfl

/-- A row of digits that does not fit is not saved by the double nearest to it. -/
theorem asInt?_of_spellsInteger {n : Int} (spelled : Decimal.SpellsInteger (Text.trim s.toList) n) :
    asInt? (.text s) = if FitsInt64 n then some n else none := by
  obtain ⟨d, numeral, value⟩ := spelled.numeral
  rw [asInt?_text_of_spells numeral, spelled.parseInt64?]
  split
  · rfl
  · rename_i misfit
    rw [Option.none_or]
    have rounds := d.rounds_toBinary64
    rw [value] at rounds
    generalize d.toBinary64 = double at rounds ⊢
    cases rounds with
    | finite _ near => exact near.toInt64?_eq_none misfit
    | infinite => rfl

theorem asInt?_of_no_integer (spelled : d.Spells (Text.trim s.toList))
    (no_integer : ∀ n, ¬Decimal.SpellsInteger (Text.trim s.toList) n) :
    (Finite64.limit ≤ |d.value| ∧ asInt? (.text s) = none) ∨
      |d.value| < Finite64.limit ∧ ∃ x : Finite64, x.IsNearest d.value ∧
        ∀ n, asInt? (.text s) = some n ↔ x.value = n ∧ n.natAbs < 9223372036854775808 := by
  have unread : parseInt64? (Text.trim s.toList) = none :=
    Decimal.parseInt64?_eq_none_iff.mpr fun n integer _ => no_integer n integer
  rw [asInt?_text_of_spells spelled, unread, Option.none_or]
  have rounds := d.rounds_toBinary64
  generalize d.toBinary64 = double at rounds ⊢
  cases rounds with
  | finite inside near => exact .inr ⟨inside, _, near, fun _ => Finite64.toInt64?_eq_some_iff⟩
  | infinite beyond => exact .inl ⟨beyond, rfl⟩

theorem asInt?_of_isShort (spelled : d.Spells (Text.trim s.toList))
    (no_integer : ∀ n, ¬Decimal.SpellsInteger (Text.trim s.toList) n) (short : d.IsShort) (n : Int) :
    asInt? (.text s) = some n ↔ d.value = n ∧ FitsInt64 n := by
  obtain ⟨beyond, -⟩ | ⟨-, x, near, view⟩ := asInt?_of_no_integer spelled no_integer
  · exact absurd (Finite64.lt_limit (short.small.trans (by norm_num))) (not_lt.mpr beyond)
  · rw [view]
    constructor
    · rintro ⟨whole, small⟩
      exact ⟨short.value_eq_of_isNearest near whole, by omega⟩
    · rintro ⟨same, -⟩
      have small : n.natAbs ≤ 2 ^ 53 := by
        have bound := short.small
        rw [same, ← Int.cast_abs, Int.abs_eq_natAbs] at bound
        exact_mod_cast bound
      obtain ⟨y, exact⟩ := Finite64.exists_value_eq_of_small small
      exact ⟨(near.value_eq (exact.trans same.symm)).trans same, by omega⟩

theorem asInt?_of_isExact (spelled : d.Spells (Text.trim s.toList))
    (exact : d.IsExact (Text.trim s.toList)) (n : Int) :
    asInt? (.text s) = some n ↔ d.value = n ∧ FitsInt64 n := by
  by_cases integer : ∃ m, Decimal.SpellsInteger (Text.trim s.toList) m
  · obtain ⟨m, integer⟩ := integer
    rw [asInt?_of_spellsInteger integer, spelled.value_eq integer, Int.cast_inj]
    grind
  · exact asInt?_of_isShort spelled (not_exists.mp integer) (exact.resolve_left integer) n

/-- An integer is seen as it is written, and so is a numeral of up to fifteen digits; the verdicts tell
any two of those apart. All others are seen through the double nearest to them. -/
theorem asInt?_of_spells (spelled : d.Spells (Text.trim s.toList)) :
    (d.IsExact (Text.trim s.toList) →
      (∀ n, asInt? (.text s) = some n ↔ d.value = n ∧ FitsInt64 n) ∧
      ∀ (t : String) (e : Decimal), e.Spells (Text.trim t.toList) → e.IsExact (Text.trim t.toList) →
        ∀ first last, asInt? (.text s) = some first → asInt? (.text t) = some last →
          ((framesVerdict first last).isOk = true ↔ d.value ≠ e.value) ∧
          ∀ (label : CounterLabel) (rounds : UInt32) (history : SampleHistory),
            history.isFull = true → history.baseline? = some first → history.last? = some last →
            ((stableVerdict label rounds history).isOk = true ↔ d.value = e.value)) ∧
    ((∀ n, ¬Decimal.SpellsInteger (Text.trim s.toList) n) →
      (Finite64.limit ≤ |d.value| ∧ asInt? (.text s) = none) ∨
        |d.value| < Finite64.limit ∧ ∃ x : Finite64, x.IsNearest d.value ∧
          ∀ n, asInt? (.text s) = some n ↔ x.value = n ∧ n.natAbs < 9223372036854775808) := by
  refine ⟨fun exact => ⟨asInt?_of_isExact spelled exact, ?_⟩, asInt?_of_no_integer spelled⟩
  intro t e spelled' exact' first last seen seen'
  have same : d.value = e.value ↔ first = last := by
    rw [((asInt?_of_isExact spelled exact first).mp seen).1,
      ((asInt?_of_isExact spelled' exact' last).mp seen').1, Int.cast_inj]
  refine ⟨(isOk_framesVerdict first last).trans same.not.symm, ?_⟩
  intro label rounds history full baseline final
  exact (isOk_stableVerdict label rounds full baseline final).trans same.symm

theorem spells_thousands : Decimal.Spells (Text.trim " -1.5e3 ".toList) ⟨true, 15, 2⟩ := by
  have row : Json.Numeral.IsRow (['1'] ++ ['5']) := by decide
  have point : Decimal.SpellsPoint ['1', '.', '5'] ['1'] ['5'] := .point row
  have exponent : Json.Numeral.SpellsExponent ['e', '3'] (some 3) := .plain (.inl rfl) (by decide)
  exact .parts .minus point exponent

theorem asInt?_of_thousands : asInt? (.text " -1.5e3 ") = some (-1500) := by
  have value : (Decimal.mk true 15 2).value = (-1500 : Int) := by norm_num [Decimal.value, signed]
  have short : Decimal.IsShort ⟨true, 15, 2⟩ := ⟨by decide, by decide, by rw [value]; norm_num⟩
  exact (((asInt?_of_spells spells_thousands).1 (.inr short)).1 (-1500)).mpr ⟨value, by decide⟩

/-- A number that is only nearly one is seen as one, and a counter that went from one to it as one that
did not move. -/
theorem asInt?_rounds_fraction :
    Decimal.Spells (Text.trim "0.99999999999999999999".toList) ⟨false, 99999999999999999999, -20⟩ ∧
      (Decimal.mk false 99999999999999999999 (-20)).value ≠ (1 : Int) ∧
      asInt? (.text "0.99999999999999999999") = some 1 ∧
      (numeric frameCount (.text "0.99999999999999999999")).bind (framesVerdict 1) =
        .error (.threshold "1" "Frame counter not incrementing: 1") := by
  have row : Json.Numeral.IsRow ("0".toList ++ "99999999999999999999".toList) := by decide
  have spelled := Decimal.Spells.parts .absent (.point row) .absent
  have view : asInt? (.text "0.99999999999999999999") = some 1 := by decide +kernel
  refine ⟨spelled, by norm_num [Decimal.value, signed], view, ?_⟩
  rw [numeric, view]
  rfl

end Numerals

end ParamValue
end ModulatorHealth
