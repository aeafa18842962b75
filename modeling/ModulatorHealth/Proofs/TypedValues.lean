import Mathlib
import ModulatorHealth.Proofs.DoubleTexts
import ModulatorHealth.Proofs.TypedIntegers

/-! Values that are typed, shown and typed again. What a text is typed as is decided by the number that
it spells, and what can be typed is shown as a text for itself. -/
namespace ModulatorHealth

namespace Decimal

theorem SpellsInteger.numeral_of_fits {cs : List Char} {n : Int} (spelled : SpellsInteger cs n)
    (fits : FitsInt64 n) : ∃ d, Spells cs d ∧ |d.value| < Finite64.limit := by
  obtain ⟨d, numeral, value⟩ := spelled.numeral
  exact ⟨d, numeral, value ▸ Finite64.abs_lt_limit (by omega)⟩

end Decimal

namespace Command

theorem runQuery_set_congr {input other : String} (same : ParamValue.parse input = ParamValue.parse other)
    {σ : Type} (client : Client σ) (device : σ) (controllable param : String) :
    runQuery (.set controllable param input) client device =
      runQuery (.set controllable param other) client device := by
  rw [runQuery, runQuery, Inquiry.ofQuery, Inquiry.ofQuery, Inquiry.set, Inquiry.set, same]

end Command

namespace ParamValue

/-- Either no number is spelled, or one beyond all doubles. -/
def IsPlain (s : String) : Prop :=
  ∀ d : Decimal, d.Spells (Text.trim s.toList) → Finite64.limit ≤ |d.value|

inductive IsTyped : ParamValue → Prop where
  | integer {n : Int} (range : -9223372036854775808 ≤ n ∧ n < 18446744073709551616) :
      FitsInt64 n → IsTyped (.number (.integer n range))
  | double (x : Finite64) : IsTyped (.number (.double x))
  | plain {s : String} : IsPlain s → IsTyped (.text s)

theorem parse_of_numeral {input : String} {d : Decimal} (spelled : d.Spells (Text.trim input.toList))
    (misfit : ∀ n, Decimal.SpellsInteger (Text.trim input.toList) n → ¬FitsInt64 n)
    {x : Finite64} (read : d.toBinary64 = .finite x) : parse input = .number (.double x) := by
  have unread := Decimal.parseInt64?_eq_none_iff.mpr misfit
  have double := Decimal.parse?_finite?_iff.mpr ⟨d, spelled, read⟩
  simp only [parse, unread, double, Option.bind_none]

theorem parse_of_isPlain {s : String} (plain : IsPlain s) : parse s = .text s := by
  have unread : parseInt64? (Text.trim s.toList) = none := by
    refine Decimal.parseInt64?_eq_none_iff.mpr fun n integer fits => ?_
    obtain ⟨d, numeral, inside⟩ := integer.numeral_of_fits fits
    exact absurd inside (not_lt.mpr (plain d numeral))
  have no_double : (Binary64.parse? (Text.trim s.toList)).bind Binary64.finite? = none := by
    refine Option.eq_none_iff_forall_ne_some.mpr fun x read => ?_
    obtain ⟨d, numeral, double⟩ := Decimal.parse?_finite?_iff.mp read
    exact absurd (Decimal.nearest_of_toBinary64 double).1 (not_lt.mpr (plain d numeral))
  simp only [parse, unread, no_double, Option.bind_none]

/-- Every text is typed as one of these: the integer that it spells, the double nearest to the number
that it spells, or itself. -/
theorem parse_cases (input : String) :
    (∃ n, Decimal.SpellsInteger (Text.trim input.toList) n ∧ FitsInt64 n ∧
      ∃ range, parse input = .number (.integer n range)) ∨
    (∃ d : Decimal, d.Spells (Text.trim input.toList) ∧
      (∀ n, Decimal.SpellsInteger (Text.trim input.toList) n → ¬FitsInt64 n) ∧
      ∃ x : Finite64, x.IsNearest d.value ∧ parse input = .number (.double x)) ∨
    IsPlain input ∧ parse input = .text input := by
  by_cases integer : ∃ n, Decimal.SpellsInteger (Text.trim input.toList) n ∧ FitsInt64 n
  · obtain ⟨n, spelled, fits⟩ := integer
    exact .inl ⟨n, spelled, fits, parse_of_fits spelled fits⟩
  · by_cases plain : IsPlain input
    · exact .inr (.inr ⟨plain, parse_of_isPlain plain⟩)
    · obtain ⟨d, spelled, inside⟩ : ∃ d : Decimal, d.Spells (Text.trim input.toList) ∧
          |d.value| < Finite64.limit := by simpa [IsPlain] using plain
      obtain ⟨x, read, near⟩ := Decimal.exists_toBinary64 inside
      have misfit (n) (spelled : Decimal.SpellsInteger (Text.trim input.toList) n) : ¬FitsInt64 n :=
        fun fits => integer ⟨n, spelled, fits⟩
      exact .inr (.inl ⟨d, spelled, misfit, x, near, parse_of_numeral spelled misfit read⟩)

theorem isTyped_parse (input : String) : (parse input).IsTyped := by
  obtain ⟨n, -, fits, range, typed⟩ | ⟨d, -, -, x, -, typed⟩ | ⟨plain, typed⟩ := parse_cases input
  · exact typed ▸ .integer range fits
  · exact typed ▸ .double x
  · exact typed ▸ .plain plain

theorem parse_display_double (x : Finite64) :
    parse (display (.number (.double x))) = .number (.double x) := by
  have shown : (display (.number (.double x))).toList = DoubleLayout.standard.render x :=
    String.toList_ofList
  simp only [parse, shown, DoubleLayout.trim_render, DoubleLayout.parseInt64?_render,
    DoubleLayout.parse?_render, Option.bind_none, Option.bind_some, Binary64.finite?]

theorem parse_display_iff (v : ParamValue) : parse v.display = v ↔ v.IsTyped := by
  constructor
  · intro same
    exact same ▸ isTyped_parse v.display
  · intro typed
    cases typed with
    | integer range fits =>
      obtain ⟨_, same⟩ := parse_of_fits (spellsInteger_display range) fits
      exact same
    | double x => exact parse_display_double x
    | plain plain => exact parse_of_isPlain plain

example : (parse "1e16").display = "1e+16" ∧ parse " inf " = .text " inf " := by decide +kernel

/-- What a text is typed as keeps its value and its kind where it is shown and typed again, so a value
that `set` shows can be set again. Of all values these are the ones that do. -/
theorem parse_display_parse (input : String) :
    (parse (parse input).display = parse input ∧
      ∀ {σ : Type} (client : Client σ) (device : σ) (controllable param : String),
        Command.runQuery (.set controllable param (parse input).display) client device =
          Command.runQuery (.set controllable param input) client device) ∧
    (parse input).IsTyped ∧ ∀ v : ParamValue, parse v.display = v ↔ v.IsTyped := by
  have same := (parse_display_iff (parse input)).mpr (isTyped_parse input)
  exact ⟨⟨same, Command.runQuery_set_congr same⟩, isTyped_parse input, parse_display_iff⟩

end ParamValue
end ModulatorHealth
