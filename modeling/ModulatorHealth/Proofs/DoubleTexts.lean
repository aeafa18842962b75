import Mathlib
import ModulatorHealth.Proofs.DecimalTexts
import ModulatorHealth.Proofs.ExactDoubles

/-! Doubles as texts. The shortest decimal reads back as its double, and each layout writes a numeral for
that decimal, with a point or an exponent, so that it is read as the same double and never as an
integer. -/
namespace ModulatorHealth

open Json.Numeral (IsRow SpellsExponent isRow_decimalDigits)

namespace Decimal

section Reading

variable {d : Decimal} {x : Finite64}

theorem negative_of_toBinary64 (read : d.toBinary64 = .finite x) : x.negative = d.negative := by
  have rounded {num den : Nat} (pos : 0 < den) (nearest : Binary64.nearest d.negative num den = .finite x) :
      x.negative = d.negative := by
    unfold Binary64.nearest at nearest
    split at nearest
    · rename_i y rounded
      cases nearest
      exact (Finite64.nearest?_eq_some pos rounded).1
    · cases nearest
  unfold toBinary64 at read
  dsimp only at read
  split at read
  · cases read
    rfl
  · split at read
    · cases read
    · split at read
      · exact rounded Nat.one_pos read
      · exact rounded (powerOfTen_pos _) read

theorem toBinary64_of_isNearest (sign : d.negative = x.negative) (inside : |d.value| < Finite64.limit)
    (near : x.IsNearest d.value) : d.toBinary64 = .finite x := by
  obtain ⟨y, read, near'⟩ := exists_toBinary64 inside
  rw [read, Finite64.eq_of_value_eq ((negative_of_toBinary64 read).trans sign) (near'.value_unique near)]

theorem toBinary64_of_value (sign : d.negative = x.negative) (same : d.value = x.value) :
    d.toBinary64 = .finite x :=
  toBinary64_of_isNearest sign (same ▸ x.abs_value_lt_limit) (same ▸ x.isNearest_value)

theorem toBinary64_congr {e : Decimal} (read : d.toBinary64 = .finite x) (sign : e.negative = d.negative)
    (same : e.value = d.value) : e.toBinary64 = .finite x := by
  obtain ⟨inside, near⟩ := nearest_of_toBinary64 read
  rw [← same] at inside near
  exact toBinary64_of_isNearest (sign.trans (negative_of_toBinary64 read).symm) inside near

end Reading

section Rows

open DoubleLayout (zeros)

/-- The number that a row of digits denotes, its first digit counting this power of ten. -/
def rowValue (row : List Char) (leading : Int) : ℚ :=
  natOfDigits row * 10 ^ (leading + 1 - row.length)

variable (row : List Char) (count : Nat) (leading : Int)

theorem rowValue_append_zeros : rowValue (row ++ zeros count) leading = rowValue row leading := by
  have length : (row ++ zeros count).length = row.length + count := by simp [zeros]
  have shift : leading + 1 - row.length = count + (leading + 1 - (row.length + count : Nat)) := by
    omega
  rw [rowValue, rowValue, natOfDigits_append_zeros, length, shift, zpow_add₀ (by norm_num), zpow_natCast]
  push_cast
  ring

theorem rowValue_zeros_append :
    rowValue (zeros count ++ row) (leading + count) = rowValue row leading := by
  have length : (zeros count ++ row).length = count + row.length := by simp [zeros]
  rw [rowValue, rowValue, natOfDigits_zeros_append, length]
  congr 2
  omega

end Rows

inductive SpellsDouble : List Char → ℚ → Prop where
  | parts {digits whole fraction mark : List Char} {exponent : Option Int} :
      SpellsPoint digits whole fraction → SpellsExponent mark exponent → '.' ∈ digits ∨ 'e' ∈ mark →
      SpellsDouble (digits ++ mark)
        (rowValue (whole ++ fraction) (exponent.getD 0 + whole.length - 1))

section Layout

open DoubleLayout (zeros positional scientific)

theorem SpellsDouble.point {whole fraction : List Char} (row : IsRow (whole ++ fraction)) :
    SpellsDouble (whole ++ '.' :: fraction) (rowValue (whole ++ fraction) (whole.length - 1)) := by
  have parts := SpellsDouble.parts (.point row) .absent (.inl (by simp))
  simpa using parts

variable {digits : List Char} (row : IsRow digits)
include row

theorem isRow_zeros_append (count : Nat) : IsRow (zeros count ++ digits) := by
  refine ⟨by simp [row.1], fun c member => ?_⟩
  rcases List.mem_append.mp member with zero | digit
  · rw [(List.mem_replicate.mp zero).2]
    rfl
  · exact row.2 c digit

theorem isRow_append_zeros (count : Nat) : IsRow (digits ++ zeros count) := by
  refine ⟨by simp [row.1], fun c member => (isRow_zeros_append row count).2 c ?_⟩
  exact List.mem_append.mpr (List.mem_append.mp member).symm

theorem spellsDouble_positional (whole : Int) :
    SpellsDouble (positional digits whole) (rowValue digits (whole - 1)) := by
  unfold positional
  split
  · rename_i low
    have start : whole - 1 + ((-whole).toNat + 1 : Nat) = 0 := by omega
    have value := rowValue_zeros_append digits ((-whole).toNat + 1) (whole - 1)
    rw [start] at value
    rw [← value]
    have spelled : IsRow (['0'] ++ (zeros (-whole).toNat ++ digits)) :=
      isRow_zeros_append row ((-whole).toNat + 1)
    exact .point spelled
  · rename_i high
    split
    · rename_i short
      have all : digits ++ zeros (whole.toNat - digits.length + 1) =
          (digits ++ zeros (whole.toNat - digits.length)) ++ ['0'] := by
        simp [zeros, List.replicate_succ']
      have length : ((digits ++ zeros (whole.toNat - digits.length)).length : Int) = whole := by
        simp [zeros]
        omega
      have padded := isRow_append_zeros row (whole.toNat - digits.length + 1)
      have value := rowValue_append_zeros digits (whole.toNat - digits.length + 1) (whole - 1)
      rw [all] at padded value
      have spelled := SpellsDouble.point padded
      rwa [length, value] at spelled
    · rename_i long
      have length : ((digits.take whole.toNat).length : Int) = whole := by
        rw [List.length_take]
        omega
      rw [← List.take_append_drop whole.toNat digits] at row
      have spelled := SpellsDouble.point row
      rwa [length, List.take_append_drop] at spelled

omit row in
theorem spellsExponent_signed (exponent : Int) :
    SpellsExponent ('e' :: (if exponent < 0 then '-' else '+') :: decimalDigits exponent.natAbs)
      (some exponent) := by
  have written := isRow_decimalDigits exponent.natAbs
  split
  · have minus := SpellsExponent.minus (.inl rfl) written
    rwa [natOfDigits_decimalDigits, show -(exponent.natAbs : Int) = exponent by omega] at minus
  · have plus := SpellsExponent.plus (.inl rfl) written
    rwa [natOfDigits_decimalDigits, show (exponent.natAbs : Int) = exponent by omega] at plus

theorem spellsDouble_scientific (exponent : Int) :
    SpellsDouble (scientific digits exponent) (rowValue digits exponent) := by
  have mark := spellsExponent_signed exponent
  have marked : 'e' ∈ 'e' :: (if exponent < 0 then '-' else '+') :: decimalDigits exponent.natAbs :=
    List.mem_cons_self
  obtain ⟨first, rest, rfl⟩ := List.exists_cons_of_ne_nil row.1
  cases rest with
  | nil =>
    have spelled := SpellsDouble.parts (.absent row) mark (.inr marked)
    simpa [scientific] using spelled
  | cons second rest =>
    have point : SpellsPoint ([first] ++ '.' :: second :: rest) [first] (second :: rest) := .point row
    have spelled := SpellsDouble.parts point mark (.inr marked)
    simpa [scientific] using spelled

end Layout

section Characters

variable {cs : List Char} {d : Decimal} {c : Char}

theorem SpellsSign.mem {negative : Bool} (spelled : SpellsSign cs negative) (member : c ∈ cs) :
    c ∈ ['-', '+'] := by
  cases spelled with
  | absent => cases member
  | plus | minus => grind

theorem SpellsInteger.mem {n : Int} (spelled : SpellsInteger cs n) (member : c ∈ cs) :
    c.isDigit = true ∨ c ∈ ['-', '+'] := by
  obtain ⟨sign, row⟩ := spelled
  exact (List.mem_append.mp member).symm.imp (row.2 c) sign.mem

theorem SpellsPoint.mem {whole fraction : List Char} (spelled : SpellsPoint cs whole fraction)
    (member : c ∈ cs) : c.isDigit = true ∨ c = '.' := by
  cases spelled with
  | absent row => exact .inl (row.2 c member)
  | point row =>
    have digit := row.2 c
    grind

theorem mem_of_spellsExponent {exponent : Option Int} (spelled : SpellsExponent cs exponent)
    (member : c ∈ cs) : c.isDigit = true ∨ c ∈ ['-', '+', 'e', 'E'] := by
  cases spelled with
  | absent => cases member
  | plain _ row | plus _ row | minus _ row =>
    have digit := row.2 c
    grind

theorem Spells.solid (spelled : Spells cs d) (member : c ∈ cs) : Text.isBlank c = false := by
  have visible : c.isDigit = true ∨ c ∈ ['-', '+', '.', 'e', 'E'] := by
    obtain ⟨sign, point, mark⟩ := spelled
    have signs := sign.mem (c := c)
    have digits := point.mem (c := c)
    have marks := mem_of_spellsExponent mark (c := c)
    grind
  rcases visible with digit | mark
  · exact Timestamp.isBlank_of_isDigit digit
  · fin_cases mark <;> decide

end Characters

theorem SpellsDouble.spells {cs : List Char} {q : ℚ} (spelled : SpellsDouble cs q) (negative : Bool) :
    ∃ d : Decimal, Spells (if negative then '-' :: cs else cs) d ∧ d.negative = negative ∧
      d.value = signed negative q := by
  obtain ⟨point, mark, -⟩ := spelled
  rename_i whole fraction _ exponent
  refine ⟨⟨negative, natOfDigits (whole ++ fraction), exponent.getD 0 - fraction.length⟩, ?_, rfl, ?_⟩
  · cases negative with
    | false => exact .parts .absent point mark
    | true => exact .parts .minus point mark
  · rw [value, rowValue, List.length_append]
    congr 3
    push_cast
    ring

theorem SpellsDouble.not_spellsInteger {cs : List Char} {q : ℚ} (spelled : SpellsDouble cs q)
    (negative : Bool) (n : Int) : ¬SpellsInteger (if negative then '-' :: cs else cs) n := by
  intro integer
  obtain ⟨point, mark, marked⟩ := spelled
  have points := integer.mem (c := '.')
  have exponents := integer.mem (c := 'e')
  cases negative <;> grind

end Decimal

namespace Finite64

variable {x : Finite64}

theorem eq_zero_of_isZero (nothing : x.isZero = true) : x = zero x.negative := by
  have significand : x.significand = 0 := by simpa [isZero] using nothing
  refine eq_of_value_eq rfl ?_
  rw [value_zero, value, units, significand, Nat.zero_mul, Nat.cast_zero, zero_div, signed_zero]

/-- A binary place is a decimal place for fives. -/
theorem value_of_places {d : Decimal} {places : Nat} (one : unitsPerOne = powerOfTwo places)
    (sign : d.negative = x.negative) (digits : d.digits = x.units * Nat.pow 5 places)
    (exponent : d.exponent = -places) : d.value = x.value := by
  have fives : ((Nat.pow 5 places : Nat) : ℚ) = 5 ^ places := Nat.cast_pow 5 places
  rw [Decimal.value, value, one, sign, digits, exponent, Nat.cast_mul, fives, powerOfTwo_eq, zpow_neg,
    zpow_natCast, show (10 : ℚ) = 5 * 2 by norm_num, mul_pow]
  -- `field_simp` would use it again and again.
  clear one
  congr 1
  push_cast
  field_simp

theorem value_exactDecimal (x : Finite64) : x.exactDecimal.value = x.value := by
  have one : unitsPerOne = powerOfTwo 1074 := by rw [unitsPerOne]
  have exponent : (-1074 : Int) = -(1074 : Nat) := rfl
  rw [exactDecimal, exponent]
  -- The power is kept from being computed: it has hundreds of digits.
  generalize 1074 = places at one ⊢
  exact value_of_places one rfl rfl rfl

theorem toBinary64_of_onGrid? {scale : Int} {d : Decimal}
    (found : x.onGrid? scale = some d) : d.toBinary64 = .finite x := by
  unfold onGrid? at found
  dsimp only at found
  split_ifs at found with nearer below above <;> cases found <;> assumption

/-- The shortest decimal reads back, with its sign. Where no grid has one that does, it is exact. -/
theorem toBinary64_shortest (x : Finite64) : x.shortest.toBinary64 = .finite x := by
  unfold shortest
  split
  · rename_i nothing
    rw [eq_zero_of_isZero nothing]
    exact Decimal.toBinary64_of_value rfl (by simp [Decimal.value])
  · dsimp only
    cases found : (List.range 17).findSome? fun (n : Nat) => x.onGrid? (x.leadingExponent - n) with
    | some d =>
      obtain ⟨n, -, found⟩ := List.exists_of_findSome?_eq_some found
      exact toBinary64_of_onGrid? found
    | none => exact Decimal.toBinary64_of_value rfl x.value_exactDecimal

theorem digits_shortest_pos (some_unit : x.isZero = false) : 0 < x.shortest.digits := by
  rw [Nat.pos_iff_ne_zero]
  intro nothing
  have read := x.toBinary64_shortest
  rw [Decimal.toBinary64, if_pos (.inl nothing), Binary64.finite.injEq] at read
  rw [← read] at some_unit
  cases some_unit

end Finite64

namespace DoubleLayout

open Decimal (SpellsDouble rowValue rowValue_append_zeros spellsDouble_positional
  spellsDouble_scientific)

theorem exists_strip {n : Nat} (pos : 0 < n) :
    ∃ count, IsRow ((decimalDigits n).rdropWhile (· == '0')) ∧
      decimalDigits n = (decimalDigits n).rdropWhile (· == '0') ++ zeros count := by
  obtain ⟨count, split⟩ := exists_rdropWhile_append '0' (decimalDigits n)
  refine ⟨count, ⟨fun none => ?_, fun c member => ?_⟩, split⟩
  · rw [none, List.nil_append] at split
    cases count with
    | zero => exact decimalDigits_ne_nil n split
    | succ count => exact head?_decimalDigits pos (by rw [split]; rfl)
  · exact isDigit_of_mem_decimalDigits ((List.rdropWhile_prefix (· == '0') (decimalDigits n)).subset member)

theorem exists_render_eq (layout : DoubleLayout) (x : Finite64) :
    ∃ magnitude, layout.render x = (if x.negative then '-' :: magnitude else magnitude) ∧
      SpellsDouble magnitude (x.shortest.digits * 10 ^ x.shortest.exponent) := by
  refine ⟨_, rfl, ?_⟩
  cases nothing : x.isZero with
  | true =>
    have shortest : x.shortest = ⟨x.negative, 0, 0⟩ := if_pos nothing
    have row : IsRow (['0'] ++ ['0']) := by decide
    have spelled := SpellsDouble.point row
    have value : rowValue ['0', '0'] 0 = 0 := by simp [rowValue, natOfDigits, digitValue]
    rw [if_pos rfl, shortest, Nat.cast_zero, zero_mul, ← value]
    exact spelled
  | false =>
    rw [if_neg Bool.false_ne_true]
    obtain ⟨count, row, written⟩ := exists_strip (Finite64.digits_shortest_pos nothing)
    -- The zeros that are left out change neither the power of ten of the first digit nor the number.
    generalize start : ((decimalDigits x.shortest.digits).length : Int) - 1 + x.shortest.exponent = leading
    have value : rowValue ((decimalDigits x.shortest.digits).rdropWhile (· == '0')) leading =
        x.shortest.digits * 10 ^ x.shortest.exponent := by
      rw [← rowValue_append_zeros _ count, ← written, rowValue, natOfDigits_decimalDigits, ← start]
      congr 2
      omega
    rw [← value]
    split
    · have spelled := spellsDouble_positional row (leading + 1)
      rwa [add_sub_cancel_right] at spelled
    · exact spellsDouble_scientific row leading

variable (layout : DoubleLayout) (x : Finite64)

theorem exists_spells_render : ∃ d : Decimal, d.Spells (layout.render x) ∧
    d.negative = x.negative ∧ d.value = x.shortest.value := by
  obtain ⟨magnitude, written, spelled⟩ := layout.exists_render_eq x
  obtain ⟨d, numeral, sign, value⟩ := spelled.spells x.negative
  have shortest := Decimal.negative_of_toBinary64 x.toBinary64_shortest
  exact ⟨d, written ▸ numeral, sign, by rw [value, Decimal.value, ← shortest]⟩

theorem parse?_render : Binary64.parse? (layout.render x) = some (.finite x) := by
  obtain ⟨d, numeral, sign, value⟩ := layout.exists_spells_render x
  have shortest := x.toBinary64_shortest
  rw [(Decimal.parse?_of_spells numeral).2,
    Decimal.toBinary64_congr shortest (sign.trans (Decimal.negative_of_toBinary64 shortest)) value]

theorem trim_render : Text.trim (layout.render x) = layout.render x := by
  obtain ⟨d, numeral, -⟩ := layout.exists_spells_render x
  exact Text.trim_of_solid fun _ member => numeral.solid member

theorem parseInt64?_render : parseInt64? (layout.render x) = none := by
  obtain ⟨magnitude, written, spelled⟩ := layout.exists_render_eq x
  rw [written, Decimal.parseInt64?_eq_none_iff]
  exact fun n integer _ => spelled.not_spellsInteger x.negative n integer

end DoubleLayout
end ModulatorHealth
