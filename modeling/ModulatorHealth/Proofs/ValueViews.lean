import Mathlib
import ModulatorHealth.Proofs.DoubleTexts
import ModulatorHealth.Proofs.TypedIntegers

/-! The views of an integer that came as a number and of one that came as the text of its digits. As an
integer and as a double they are the same. As a flag, a number other than zero is true, but of the texts
only `1` is. -/
namespace ModulatorHealth

open Json (Number)

namespace ParamValue

structure SameViews (v w : ParamValue) : Prop where
  integer : v.asInt? = w.asInt?
  double : v.asDouble? = w.asDouble?
  flag : v.asBool? = w.asBool?

section Integer

variable {n : Int} (range : -9223372036854775808 ≤ n ∧ n < 18446744073709551616)

theorem text_integer : Number.text (.integer n range) = toString n := by
  rw [Number.text, Number.chars]
  cases n with
  | ofNat m => rfl
  | negSucc m =>
    rw [if_pos (Int.negSucc_lt_zero m), String.ofList_append]
    rfl

theorem asInt?_integer : asInt? (.number (.integer n range)) = if FitsInt64 n then some n else none := by
  rw [← asInt?_text_integer range]
  exact asInt?_of_spellsInteger (spellsInteger_display range)

theorem spells_chars : Decimal.Spells (Number.chars (.integer n range)) ⟨n < 0, n.natAbs, 0⟩ := by
  have row := Json.Numeral.isRow_decimalDigits n.natAbs
  rw [Number.chars]
  split
  · have numeral := Decimal.Spells.parts .minus (.absent row) .absent
    simpa [natOfDigits_decimalDigits, *] using numeral
  · have numeral := Decimal.Spells.parts .absent (.absent row) .absent
    simpa [natOfDigits_decimalDigits, *] using numeral

theorem asDouble?_text_integer :
    asDouble? (.text (Number.text (.integer n range))) = asDouble? (.number (.integer n range)) := by
  obtain ⟨x, rounded, near⟩ := Finite64.exists_ofInt? range
  have sign : decide (n < 0) = x.negative := (Finite64.nearest?_eq_some Nat.one_pos rounded).1.symm
  have value : (Decimal.mk (n < 0) n.natAbs 0).value = n := by
    rw [Decimal.value, zpow_zero, mul_one, signed_natAbs]
  have read := Decimal.toBinary64_of_isNearest sign (value ▸ Finite64.abs_lt_limit range) (value ▸ near)
  simp only [asDouble?, trim_integer, (Decimal.parse?_of_spells (spells_chars range)).2, read,
    Number.toDouble?, rounded, Option.map_some]

theorem asBool?_integer :
    asBool? (.number (.integer n range)) = if FitsInt64 n then some (n != 0) else none := by
  rw [asBool?, asInt?_integer range]
  split <;> rfl

theorem text_integer_eq_iff (m : Int) : Number.text (.integer n range) = toString m ↔ n = m := by
  rw [text_integer]
  exact Int.repr_inj

theorem text_integer_ne {word : String} (unread : Decimal.parse? word.toList = none) :
    Number.text (.integer n range) ≠ word := by
  rintro rfl
  have read := (Decimal.parse?_of_spells (spells_chars range)).1
  rw [Number.text, String.toList_ofList, read] at unread
  cases unread

theorem asBool?_text_integer : asBool? (.text (Number.text (.integer n range))) =
    if n = 1 then some true else if n = 0 then some false else none := by
  have trimmed : Text.trimmed (Number.text (.integer n range)) = Number.text (.integer n range) := by
    rw [Text.trimmed, trim_integer, Number.text]
  rw [asBool?, trimmed]
  split
  · rename_i one
    rw [if_pos ((text_integer_eq_iff range 1).mp one)]
  · rename_i word
    exact absurd word (text_integer_ne range (by decide))
  · rename_i zero
    rw [(text_integer_eq_iff range 0).mp zero]
    rfl
  · rename_i word
    exact absurd word (text_integer_ne range (by decide))
  · rename_i not_one _ not_zero _
    rw [if_neg fun one => not_one ((text_integer_eq_iff range 1).mpr one),
      if_neg fun zero => not_zero ((text_integer_eq_iff range 0).mpr zero)]

theorem sameViews_text_integer_iff :
    SameViews (.text (Number.text (.integer n range))) (.number (.integer n range)) ↔
      n = 0 ∨ n = 1 ∨ ¬FitsInt64 n := by
  have flags : asBool? (.text (Number.text (.integer n range))) = asBool? (.number (.integer n range)) ↔
      n = 0 ∨ n = 1 ∨ ¬FitsInt64 n := by
    rw [asBool?_integer, asBool?_text_integer]
    by_cases fits : FitsInt64 n
    · rw [if_pos fits]
      by_cases one : n = 1
      · simp [one]
      · by_cases zero : n = 0 <;> simp [one, zero, fits]
    · have not_one : n ≠ 1 := by omega
      have not_zero : n ≠ 0 := by omega
      rw [if_neg fits, if_neg not_one, if_neg not_zero]
      exact iff_of_true rfl (.inr (.inr fits))
  rw [← flags]
  exact ⟨SameViews.flag, fun flag => ⟨asInt?_text_integer range, asDouble?_text_integer range, flag⟩⟩

end Integer

theorem sameViews_flag (flag : Bool) :
    SameViews (ofJson (.bool flag)) (.number (.integer (if flag then 1 else 0) (by split <;> decide))) := by
  cases flag with
  | false => exact (sameViews_text_integer_iff (n := 0) _).mpr (.inl rfl)
  | true => exact (sameViews_text_integer_iff (n := 1) _).mpr (.inr (.inl rfl))

/-- An integer and the text of its digits have the same views as an integer and as a double; as flags
they are the same exactly if it is zero, one or beyond 64 bits with a sign. -/
theorem views_of_integer {n : Int} (range : -9223372036854775808 ≤ n ∧ n < 18446744073709551616) :
    let number : ParamValue := ofJson (.number (.integer n range))
    let text : ParamValue := ofJson (.string (toString n))
    (text.asInt? = number.asInt? ∧ number.asInt? = if FitsInt64 n then some n else none) ∧
    (text.asDouble? = number.asDouble? ∧
      ∃ x : Finite64, x.IsNearest n ∧ number.asDouble? = some (.finite x)) ∧
    (number.asBool? = (if FitsInt64 n then some (n != 0) else none) ∧
      text.asBool? = if n = 1 then some true else if n = 0 then some false else none) ∧
    (text.SameViews number ↔ n = 0 ∨ n = 1 ∨ ¬FitsInt64 n) ∧
    ∀ flag : Bool, (ofJson (.bool flag)).SameViews
      (ofJson (.number (.integer (if flag then 1 else 0) (by split <;> decide)))) := by
  obtain ⟨x, rounded, near⟩ := Finite64.exists_ofInt? range
  have double : asDouble? (.number (.integer n range)) = some (.finite x) := by
    rw [asDouble?, Number.toDouble?, rounded, Option.map_some]
  simp only [ofJson, ← text_integer range]
  exact ⟨⟨asInt?_text_integer range, asInt?_integer range⟩,
    ⟨asDouble?_text_integer range, x, near, double⟩,
    ⟨asBool?_integer range, asBool?_text_integer range⟩, sameViews_text_integer_iff range,
    sameViews_flag⟩

theorem views_of_minus_one :
    (ofJson (.string "-1")).asInt? = some (-1) ∧
      (ofJson (.number (.integer (-1) (by decide)))).asBool? = some true ∧
      (ofJson (.string "-1")).asBool? = none := by
  obtain ⟨⟨same, integer⟩, -, ⟨number, text⟩, -⟩ := views_of_integer (n := -1) (by decide)
  exact ⟨same.trans integer, number, text⟩

/-- Two is true as a number, and no flag as a text. -/
theorem not_sameViews_two :
    (ofJson (.number (.integer 2 (by decide)))).asBool? = some true ∧
      (ofJson (.string (toString (2 : Int)))).asBool? = none ∧
      ¬(ofJson (.string (toString (2 : Int)))).SameViews (ofJson (.number (.integer 2 (by decide)))) := by
  have number : (ofJson (.number (.integer 2 (by decide)))).asBool? = some true := by decide
  have text : (ofJson (.string (toString (2 : Int)))).asBool? = none := by decide
  refine ⟨number, text, fun same => ?_⟩
  rw [same.flag, number] at text
  cases text

end ParamValue
end ModulatorHealth
