import Mathlib
import ModulatorHealth.Command
import ModulatorHealth.Device.Scripted
import ModulatorHealth.Proofs.IntegerViews
import ModulatorHealth.Proofs.QueryExits

/-! Integers that are typed at the command line. One that fits 64 bits with a sign is sent and shown as
it is, and one that no double can hold stays a text; between the two it becomes the double nearest to
it. -/
namespace ModulatorHealth

open Json (Number)

namespace ParamValue

def DenotesInteger : ParamValue → Int → Prop
  | .number a, n => a.value = n
  | .text s, n => Decimal.SpellsInteger (Text.trim s.toList) n

theorem spellsInteger_display {n : Int} (fits : -9223372036854775808 ≤ n ∧ n < 18446744073709551616) :
    Decimal.SpellsInteger (Text.trim (display (.number (.integer n fits))).toList) n := by
  have row := Json.Numeral.isRow_decimalDigits n.natAbs
  rw [display, trim_integer, Number.chars]
  split
  · have spelled := Decimal.SpellsInteger.parts .minus row
    rw [natOfDigits_decimalDigits, if_pos rfl] at spelled
    rwa [show -(n.natAbs : Int) = n by omega] at spelled
  · have spelled := Decimal.SpellsInteger.parts .absent row
    rw [natOfDigits_decimalDigits, if_neg Bool.false_ne_true] at spelled
    rwa [show (n.natAbs : Int) = n by omega] at spelled

section Parse

variable {input : String} {n : Int} (spelled : Decimal.SpellsInteger (Text.trim input.toList) n)
include spelled

theorem parse_of_fits (fits : FitsInt64 n) :
    ∃ range, parse input = .number (.integer n range) := by
  have range : -9223372036854775808 ≤ n ∧ n < 18446744073709551616 := by omega
  have read : (parseInt64? (Text.trim input.toList)).bind Number.ofInt? = some (.integer n range) := by
    rw [spelled.parseInt64?, if_pos fits, Option.bind_some, Number.ofInt?, dif_pos range]
  exact ⟨range, by simp only [parse, read]⟩

theorem parse_of_misfit (misfit : ¬FitsInt64 n) :
    (|(n : ℚ)| < Finite64.limit ∧ ∃ x : Finite64, x.IsNearest n ∧ parse input = .number (.double x)) ∨
      Finite64.limit ≤ |(n : ℚ)| ∧ parse input = .text input := by
  obtain ⟨d, numeral, value⟩ := spelled.numeral
  have unread : (parseInt64? (Text.trim input.toList)).bind Number.ofInt? = none := by
    rw [spelled.parseInt64?, if_neg misfit, Option.bind_none]
  have rounds := d.rounds_toBinary64
  simp only [parse, unread, (Decimal.parse?_of_spells numeral).2, Option.bind_some]
  rw [value] at rounds
  generalize d.toBinary64 = double at rounds ⊢
  cases rounds with
  | finite inside near => exact .inl ⟨inside, _, near, rfl⟩
  | infinite beyond => exact .inr ⟨beyond, rfl⟩

theorem parse_denotes_iff : (parse input).DenotesInteger n ↔
    FitsInt64 n ∨ (∃ x : Finite64, x.value = n) ∨ Finite64.limit ≤ |(n : ℚ)| := by
  by_cases fits : FitsInt64 n
  · obtain ⟨range, typed⟩ := parse_of_fits spelled fits
    rw [typed]
    exact iff_of_true rfl (.inl fits)
  · rw [or_iff_right fits]
    obtain ⟨inside, x, near, typed⟩ | ⟨beyond, typed⟩ := parse_of_misfit spelled fits
    · rw [typed, or_iff_left (not_le.mpr inside)]
      exact ⟨fun same => ⟨x, same⟩, fun ⟨y, exact⟩ => near.value_eq exact⟩
    · rw [typed]
      exact iff_of_true spelled (.inr beyond)

end Parse

end ParamValue

namespace Command

theorem runQuery_set_of_acknowledged {σ : Type} {client : Client σ} {device device' : σ}
    {controllable param input : String}
    (named : ¬(Query.set controllable param input).HasBlankName)
    (acknowledged : client (.write ⟨controllable, param⟩ (ParamValue.parse input)) device =
      (.ok (), device')) :
    runQuery (.set controllable param input) client device =
      (⟨[ParamRef.text ⟨controllable, param⟩ ++ " = " ++ (ParamValue.parse input).display],
        .success, none⟩, device') := by
  have address := Query.address_of_named named
  simp only [runQuery, Inquiry.ofQuery, Inquiry.set, address, Except.map, Inquiry.run, acknowledged,
    Inquiry.conclude, Finished.ofLines]

/-- An integer is kept exactly if it fits 64 bits with a sign, is a double, or is beyond all doubles; any
other becomes the double nearest to it. Integers of the first kind and the last are shown in digits. -/
theorem runQuery_set_integer {input : String} {n : Int}
    (typed : Decimal.SpellsInteger (Text.trim input.toList) n) :
    let value := ParamValue.parse input
    (value.DenotesInteger n ↔
      FitsInt64 n ∨ (∃ x : Finite64, x.value = n) ∨ Finite64.limit ≤ |(n : ℚ)|) ∧
    (FitsInt64 n → ∃ range, value = .number (.integer n range)) ∧
    (¬FitsInt64 n →
      (|(n : ℚ)| < Finite64.limit ∧ ∃ x : Finite64, x.IsNearest n ∧ value = .number (.double x)) ∨
        Finite64.limit ≤ |(n : ℚ)| ∧ value = .text input) ∧
    ∀ {σ : Type} (client : Client σ) (device device' : σ) (controllable param : String),
      ¬(Query.set controllable param input).HasBlankName →
      client (.write ⟨controllable, param⟩ value) device = (.ok (), device') →
      ∃ shown, runQuery (.set controllable param input) client device =
          (⟨[ParamRef.text ⟨controllable, param⟩ ++ " = " ++ shown], .success, none⟩, device') ∧
        (FitsInt64 n ∨ Finite64.limit ≤ |(n : ℚ)| →
          Decimal.SpellsInteger (Text.trim shown.toList) n) := by
  intro value
  have fitting := ParamValue.parse_of_fits typed
  have misfitting := ParamValue.parse_of_misfit typed
  refine ⟨ParamValue.parse_denotes_iff typed, fitting, misfitting, ?_⟩
  intro σ client device device' controllable param named acknowledged
  refine ⟨_, runQuery_set_of_acknowledged named acknowledged, fun kept => ?_⟩
  by_cases fits : FitsInt64 n
  · obtain ⟨range, same⟩ := fitting fits
    rw [same]
    exact ParamValue.spellsInteger_display range
  · obtain ⟨inside, -⟩ | ⟨-, same⟩ := misfitting fits
    · exact absurd (kept.resolve_left fits) (not_le.mpr inside)
    · rw [same]
      exact typed

theorem spellsInteger_padded : Decimal.SpellsInteger (Text.trim " +0042 ".toList) 42 := by
  have row : Json.Numeral.IsRow "0042".toList := by decide
  exact .parts .plus row

theorem runQuery_set_padded :
    ∃ shown, runQuery (.set "sdr" "gain" " +0042 ") ScriptedDevice.answer .empty =
        (⟨["sdr.gain = " ++ shown], .success, none⟩,
          (ScriptedDevice.empty.write ⟨"sdr", "gain"⟩ (ParamValue.parse " +0042 ")).2) ∧
      Decimal.SpellsInteger (Text.trim shown.toList) 42 := by
  obtain ⟨-, -, -, run⟩ := runQuery_set_integer spellsInteger_padded
  obtain ⟨shown, printed, digits⟩ := run ScriptedDevice.answer .empty _ "sdr" "gain"
    (by simp [Query.HasBlankName]; decide) rfl
  exact ⟨shown, printed, digits (.inl (by decide))⟩

end Command

namespace ParamValue

/-- The first integer that does not fit 64 bits without a sign: twice the least one, with the sign
turned. -/
def beyondUnsigned : Finite64 :=
  { leastDouble with
    negative := false
    exponent := 1086
    exponent_le := by decide
    normal := .inr le_rfl }

/-- The integer before it becomes the same double where it is typed, but is kept where it is read. -/
theorem parse_rounds_unsigned :
    Decimal.SpellsInteger (Text.trim "18446744073709551615".toList) 18446744073709551615 ∧
      parse "18446744073709551615" = .number (.double beyondUnsigned) ∧
      beyondUnsigned.value = (18446744073709551616 : Int) ∧
      ¬(parse "18446744073709551615").DenotesInteger 18446744073709551615 ∧
      (Json.parse? "18446744073709551615").map ofJson =
        some (.number (.integer 18446744073709551615 (by decide))) := by
  have row : Json.Numeral.IsRow "18446744073709551615".toList := by decide
  have typed : parse "18446744073709551615" = .number (.double beyondUnsigned) := by decide +kernel
  have rounded : beyondUnsigned.value = (18446744073709551616 : Int) :=
    Finite64.integer?_eq_some_iff.mp (by decide +kernel)
  refine ⟨.parts .absent row, typed, rounded, ?_, by decide +kernel⟩
  rw [typed, DenotesInteger, Json.Number.value, rounded, Int.cast_inj]
  decide

end ParamValue
end ModulatorHealth
