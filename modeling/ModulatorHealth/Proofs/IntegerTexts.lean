import ModulatorHealth.Check.Verdict
import ModulatorHealth.Proofs.NumeralGrammar
import ModulatorHealth.Proofs.TimestampText
import ModulatorHealth.Proofs.Trimming

/-! Integers as numbers and as the texts of their digits. Both are the same to every verdict: they have
one integer view, beyond the signed range by way of one double, and where there is none they are shown
alike. -/
namespace ModulatorHealth

open Json (Number)
open Json.Numeral (isRow_decimalDigits)

section Digits

variable (n : Nat)

theorem takeSign_decimalDigits : takeSign (decimalDigits n) = (false, decimalDigits n) := by
  simpa using (isRow_decimalDigits n).takeSign []

theorem parseInt64?_decimalDigits :
    parseInt64? (decimalDigits n) = if FitsInt64 n then some (n : Int) else none := by
  simp [parseInt64?, takeSign_decimalDigits, decimalDigits_ne_nil, natOfDigits_decimalDigits,
    List.all_eq_true.mpr (isRow_decimalDigits n).2]

theorem parseInt64?_minus_decimalDigits :
    parseInt64? ('-' :: decimalDigits n) = if FitsInt64 (-n) then some (-n : Int) else none := by
  simp [parseInt64?, takeSign, decimalDigits_ne_nil, natOfDigits_decimalDigits,
    List.all_eq_true.mpr (isRow_decimalDigits n).2]

theorem toLower_of_isDigit {c : Char} (digit : c.isDigit = true) : c.toLower = c := by
  have bounds : 48 ≤ c.toNat ∧ c.toNat ≤ 57 := by
    simpa [Char.isDigit, UInt32.le_iff_toNat_le] using digit
  have code : c.val.toNat = c.toNat := rfl
  refine dif_neg ?_
  simp [UInt32.le_iff_toNat_le, code]
  omega

theorem map_toLower_decimalDigits : (decimalDigits n).map Char.toLower = decimalDigits n := by
  refine (List.map_congr_left fun c member => ?_).trans (List.map_id _)
  exact toLower_of_isDigit (isDigit_of_mem_decimalDigits member)

theorem decimalDigits_ne_cons {letter : Char} (other : letter.isDigit = false)
    (letters : List Char) : decimalDigits n ≠ letter :: letters := by
  simpa using (isRow_decimalDigits n).append_ne_cons [] other letters

theorem parseMagnitude?_decimalDigits (negative : Bool) :
    Decimal.parseMagnitude? negative (decimalDigits n) = some ⟨negative, n, 0⟩ := by
  have row : (decimalDigits n).takeWhile Char.isDigit = decimalDigits n ∧
      (decimalDigits n).dropWhile Char.isDigit = [] := by
    have stop : ∀ c ∈ [].head?, Char.isDigit c = false := by simp
    simpa using (isRow_decimalDigits n).scan stop
  simp [Decimal.parseMagnitude?, row, decimalDigits_ne_nil, Decimal.parseExponent?]

variable {n}

theorem Decimal.toBinary64_of_whole (pos : 0 < n) (short : digitCount n ≤ 310) (negative : Bool) :
    Decimal.toBinary64 ⟨negative, n, 0⟩ = .nearest negative (n * Finite64.unitsPerOne) 1 := by
  have one : powerOfTen 0 = 1 := rfl
  rw [toBinary64, if_neg (by simp; omega), if_neg (by simp; omega), if_pos (Int.le_refl 0)]
  simp [one]

theorem Binary64.parse?_decimalDigits (pos : 0 < n) (short : digitCount n ≤ 310) :
    Binary64.parse? (decimalDigits n) = some (.nearest false (n * Finite64.unitsPerOne) 1) := by
  have inf : decimalDigits n ≠ "inf".toList := decimalDigits_ne_cons n rfl _
  have infinity : decimalDigits n ≠ "infinity".toList := decimalDigits_ne_cons n rfl _
  have nan : decimalDigits n ≠ "nan".toList := decimalDigits_ne_cons n rfl _
  rw [Binary64.parse?, takeSign_decimalDigits]
  dsimp only
  rw [map_toLower_decimalDigits, if_neg (not_or.mpr ⟨inf, infinity⟩), if_neg nan,
    parseMagnitude?_decimalDigits, Option.map_some, Decimal.toBinary64_of_whole pos short]

theorem Binary64.toInt64?_nearest (negative : Bool) (num den : Nat) :
    (Binary64.nearest negative num den).toInt64? =
      (Finite64.nearest? negative num den).bind fun x => (Binary64.finite x).toInt64? := by
  unfold nearest
  cases Finite64.nearest? negative num den with
  | none => simp [toInt64?, finite?]
  | some x => rw [Option.bind_some]

theorem digitCount_le_of_lt {k : Nat} (pos : 0 < k) (lt : n < 10 ^ k) : digitCount n ≤ k :=
  (Nat.length_toDigits_le_iff (by decide) pos).mpr lt

end Digits

namespace ParamValue

/-- The value with an integer as the text of its digits. A negative zero is no integer but a double. -/
def spelled : ParamValue → ParamValue
  | .number (.integer n fits) => .text (Number.text (.integer n fits))
  | .number (.double x) => if x = .zero true then .text "-0" else .number (.double x)
  | .text s => .text s

section Integer

variable {n : Int} (fits : -9223372036854775808 ≤ n ∧ n < 18446744073709551616)

theorem trim_integer :
    Text.trim (Number.text (.integer n fits)).toList = Number.chars (.integer n fits) := by
  have solid : ∀ c ∈ Number.chars (.integer n fits), Text.isBlank c = false := by
    intro c member
    rcases List.mem_append.mp member with sign | digit
    · split at sign
      · rw [List.mem_singleton.mp sign]
        decide
      · cases sign
    · exact Timestamp.isBlank_of_isDigit (isDigit_of_mem_decimalDigits digit)
  rw [Number.text, String.toList_ofList, Text.trim_of_solid solid]

theorem parseInt64?_integer :
    parseInt64? (Number.chars (.integer n fits)) = if FitsInt64 n then some n else none := by
  rw [Number.chars]
  split
  · have minus : -(n.natAbs : Int) = n := by omega
    rw [List.singleton_append, parseInt64?_minus_decimalDigits, minus]
  · have plus : (n.natAbs : Int) = n := by omega
    rw [List.nil_append, parseInt64?_decimalDigits, plus]

/-- Text and number have one integer view. Beyond the signed range both go by the nearest double. -/
theorem asInt?_text_integer :
    asInt? (.text (Number.text (.integer n fits))) = asInt? (.number (.integer n fits)) := by
  simp only [asInt?]
  rw [trim_integer, parseInt64?_integer]
  by_cases small : FitsInt64 n
  · rw [if_pos small, if_pos small]
  · have positive : ¬ n < 0 := by omega
    have short : digitCount n.natAbs ≤ 310 :=
      (digitCount_le_of_lt (k := 20) (by decide) (by omega)).trans (by decide)
    have digits : Number.chars (.integer n fits) = decimalDigits n.natAbs := by
      simp [Number.chars, positive]
    rw [if_neg small, if_neg small, digits, Binary64.parse?_decimalDigits (by omega) short,
      Option.bind_some, Binary64.toInt64?_nearest, Finite64.ofInt?, decide_eq_false positive]

end Integer

theorem asInt?_minus_zero : asInt? (.number (.double (.zero true))) = some 0 := by
  simp [asInt?, Binary64.toInt64?, Binary64.finite?, Finite64.integer?, Finite64.units, Finite64.zero]

theorem asInt?_spelled (v : ParamValue) : v.spelled.asInt? = v.asInt? := by
  match v with
  | .number (.integer n fits) => exact asInt?_text_integer fits
  | .number (.double x) =>
    rw [spelled]
    split
    · rename_i zero
      rw [zero, asInt?_minus_zero]
      rfl
    · rfl
  | .text s => rfl

/-- Where the spelling shows, in the text of a negative zero, there is an integer view. -/
theorem display_spelled {v : ParamValue} (none_such : v.asInt? = none) :
    v.spelled.display = v.display := by
  match v with
  | .number (.integer n fits) => rfl
  | .number (.double x) =>
    rw [spelled]
    split
    · rename_i zero
      rw [zero, asInt?_minus_zero] at none_such
      cases none_such
    · rfl
  | .text s => rfl

end ParamValue

namespace Check

theorem numeric_spelled (what : String) (v : ParamValue) : numeric what v.spelled = numeric what v := by
  rw [numeric, numeric, ParamValue.asInt?_spelled]
  cases view : v.asInt? with
  | some n => rfl
  | none => rw [ParamValue.display_spelled view]

end Check
end ModulatorHealth
