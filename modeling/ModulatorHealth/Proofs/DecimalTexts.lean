import Mathlib
import ModulatorHealth.Proofs.IntegerTexts
import ModulatorHealth.Proofs.NearestDouble

/-! Decimal numerals: how they are spelled, the number one denotes, and that it is read as the double
nearest to that number, of any length and with any exponent. -/
namespace ModulatorHealth

open Json.Numeral (IsRow SpellsExponent isDigit_mark)

instance (cs : List Char) : Decidable (IsRow cs) :=
  decidable_of_iff ((!cs.isEmpty && cs.all Char.isDigit) = true) (by simp [IsRow])

namespace Decimal

def value (d : Decimal) : ℚ := signed d.negative (d.digits * 10 ^ d.exponent)

inductive SpellsSign : List Char → Bool → Prop where
  | absent : SpellsSign [] false
  | plus : SpellsSign ['+'] false
  | minus : SpellsSign ['-'] true

/-- The digits before a point and after it. On one side there may be none, and then no point either. -/
inductive SpellsPoint : List Char → List Char → List Char → Prop where
  | absent {whole : List Char} : IsRow whole → SpellsPoint whole whole []
  | point {whole fraction : List Char} : IsRow (whole ++ fraction) →
      SpellsPoint (whole ++ '.' :: fraction) whole fraction

inductive Spells : List Char → Decimal → Prop where
  | parts {sign digits whole fraction mark : List Char} {negative : Bool} {exponent : Option Int} :
      SpellsSign sign negative → SpellsPoint digits whole fraction → SpellsExponent mark exponent →
      Spells (sign ++ (digits ++ mark))
        ⟨negative, natOfDigits (whole ++ fraction), exponent.getD 0 - fraction.length⟩

inductive SpellsInteger : List Char → Int → Prop where
  | parts {sign digits : List Char} {negative : Bool} : SpellsSign sign negative → IsRow digits →
      SpellsInteger (sign ++ digits)
        (if negative then -(natOfDigits digits : Int) else natOfDigits digits)

section Reading

theorem SpellsSign.takeSign {sign rest : List Char} {negative : Bool} (spelled : SpellsSign sign negative)
    (first : ∀ c ∈ rest.head?, c ≠ '-' ∧ c ≠ '+') : takeSign (sign ++ rest) = (negative, rest) := by
  cases spelled with
  | absent =>
    refine takeSign.eq_3 _ ?_ ?_
    · rintro more rfl
      exact (first '-' rfl).1 rfl
    · rintro more rfl
      exact (first '+' rfl).2 rfl
  | plus | minus => rfl

theorem SpellsSign.exists_of_takeSign (cs : List Char) :
    ∃ sign, cs = sign ++ (ModulatorHealth.takeSign cs).2 ∧
      SpellsSign sign (ModulatorHealth.takeSign cs).1 := by
  unfold ModulatorHealth.takeSign
  split
  · exact ⟨['-'], rfl, .minus⟩
  · exact ⟨['+'], rfl, .plus⟩
  · exact ⟨[], rfl, .absent⟩

theorem isDigit_ne_sign {c : Char} (digit : c.isDigit = true) : c ≠ '-' ∧ c ≠ '+' := by
  constructor <;> rintro rfl <;> cases digit

theorem parseInt64?_eq_some_iff {cs : List Char} {n : Int} :
    parseInt64? cs = some n ↔ SpellsInteger cs n ∧ FitsInt64 n := by
  constructor
  · intro read
    obtain ⟨sign, written, spelled⟩ := SpellsSign.exists_of_takeSign cs
    unfold parseInt64? at read
    generalize takeSign cs = parts at *
    obtain ⟨negative, digits⟩ := parts
    dsimp only at read written spelled
    by_cases row : IsRow digits
    · rw [if_neg (by simpa [IsRow] using row)] at read
      obtain ⟨fits, same⟩ := Option.ite_none_right_eq_some.mp read
      rw [← Option.some.inj same]
      exact ⟨written ▸ .parts spelled row, fits⟩
    · rw [if_pos (by simpa [IsRow, imp_iff_not_or] using row)] at read
      cases read
  · rintro ⟨⟨sign, row⟩, fits⟩
    have first := sign.takeSign fun c head => isDigit_ne_sign (row.2 c (List.mem_of_mem_head? head))
    unfold parseInt64?
    rw [first]
    dsimp only
    rw [if_neg (by simpa [IsRow] using row), if_pos fits]

theorem parseInt64?_eq_none_iff {cs : List Char} :
    parseInt64? cs = none ↔ ∀ n, SpellsInteger cs n → ¬FitsInt64 n := by
  rw [Option.eq_none_iff_forall_ne_some]
  exact forall_congr' fun n => parseInt64?_eq_some_iff.not.trans not_and

theorem SpellsPoint.exists_cons {digits whole fraction : List Char}
    (spelled : SpellsPoint digits whole fraction) :
    ∃ c cs, digits = c :: cs ∧ (c.isDigit = true ∨ c = '.') := by
  cases spelled with
  | absent row =>
    obtain ⟨c, cs, rfl⟩ := List.exists_cons_of_ne_nil row.1
    exact ⟨c, cs, rfl, .inl (row.2 c List.mem_cons_self)⟩
  | @point whole fraction row =>
    cases whole with
    | nil => exact ⟨'.', fraction, rfl, .inr rfl⟩
    | cons c cs => exact ⟨c, cs ++ '.' :: fraction, rfl, .inl (row.2 c (by simp))⟩

theorem parseExponent?_of_spells {mark : List Char} {exponent : Option Int}
    (spelled : SpellsExponent mark exponent) : parseExponent? mark = some (exponent.getD 0) := by
  cases spelled with
  | absent => rfl
  | plain isMark row =>
    have first := row.takeSign []
    rw [List.append_nil] at first
    simp [parseExponent?, isMark, first, row.1, List.all_eq_true.mpr row.2]
  | plus isMark row | minus isMark row =>
    simp [parseExponent?, isMark, takeSign, row.1, List.all_eq_true.mpr row.2]

theorem head?_exponent {mark : List Char} {exponent : Option Int} (spelled : SpellsExponent mark exponent) :
    ∀ c ∈ mark.head?, c.isDigit = false ∧ c ≠ '.' := by
  intro c first
  cases spelled with
  | absent => cases first
  | plain isMark | plus isMark | minus isMark =>
    obtain rfl : _ = c := by simpa using first
    exact isDigit_mark isMark

theorem parseMagnitude?_of_spells (negative : Bool) {digits whole fraction mark : List Char}
    {exponent : Option Int} (point : SpellsPoint digits whole fraction)
    (spelled : SpellsExponent mark exponent) :
    parseMagnitude? negative (digits ++ mark) =
      some ⟨negative, natOfDigits (whole ++ fraction), exponent.getD 0 - fraction.length⟩ := by
  have stop (c : Char) (first : c ∈ mark.head?) : c.isDigit = false := (head?_exponent spelled c first).1
  have last := parseExponent?_of_spells spelled
  unfold parseMagnitude?
  cases point with
  | absent row =>
    have noPoint : ∀ rest, mark ≠ '.' :: rest := by
      rintro rest rfl
      exact (head?_exponent spelled '.' rfl).2 rfl
    rw [takeWhile_append_of_stop row.2 stop, dropWhile_append_of_stop row.2 stop]
    split
    rename_i parts
    split at parts
    · exact absurd rfl (noPoint _)
    · cases parts
      simp [row.1, last]
  | point row =>
    obtain ⟨inWhole, inFraction⟩ := List.forall_mem_append.mp row.2
    have atPoint : ∀ c ∈ ('.' :: (fraction ++ mark)).head?, c.isDigit = false := by simp
    rw [List.append_assoc, List.cons_append, takeWhile_append_of_stop inWhole atPoint,
      dropWhile_append_of_stop inWhole atPoint]
    simp only [takeWhile_append_of_stop inFraction stop, dropWhile_append_of_stop inFraction stop, last]
    rw [if_neg (by simpa using row.1)]
    rfl

theorem map_toLower_ne_cons {c letter : Char} (start : c.isDigit = true ∨ c = '.')
    (other : letter.isDigit = false ∧ letter ≠ '.') (rest letters : List Char) :
    (c :: rest).map Char.toLower ≠ letter :: letters := by
  have lower : c.toLower = c := by
    rcases start with digit | rfl
    · exact toLower_of_isDigit digit
    · rfl
  intro same
  rw [List.map_cons, lower] at same
  rw [(List.cons.inj same).1, other.1] at start
  exact start.elim (nomatch ·) other.2

theorem parse?_of_spells {cs : List Char} {d : Decimal} (spelled : Spells cs d) :
    Decimal.parse? cs = some d ∧ Binary64.parse? cs = some d.toBinary64 := by
  cases spelled with
  | @parts sign' digits whole fraction mark negative exponent sign point last =>
    have read := parseMagnitude?_of_spells negative point last
    obtain ⟨c, rest, rfl, start⟩ := point.exists_cons
    have signs : takeSign (sign' ++ (c :: rest ++ mark)) = (negative, c :: rest ++ mark) := by
      refine sign.takeSign fun first head => ?_
      obtain rfl : c = first := by simpa using head
      rcases start with digit | rfl
      · exact isDigit_ne_sign digit
      · decide
    have inf : (c :: rest ++ mark).map Char.toLower ≠ "inf".toList :=
      map_toLower_ne_cons start (by decide) _ _
    have infinity : (c :: rest ++ mark).map Char.toLower ≠ "infinity".toList :=
      map_toLower_ne_cons start (by decide) _ _
    have nan : (c :: rest ++ mark).map Char.toLower ≠ "nan".toList :=
      map_toLower_ne_cons start (by decide) _ _
    constructor
    · rw [Decimal.parse?, signs]
      exact read
    · rw [Binary64.parse?, signs]
      dsimp only
      rw [if_neg (not_or.mpr ⟨inf, infinity⟩), if_neg nan, read, Option.map_some]

theorem exists_of_parseExponent? {cs : List Char} {power : Int} (read : parseExponent? cs = some power) :
    ∃ exponent, SpellsExponent cs exponent ∧ exponent.getD 0 = power := by
  cases cs with
  | nil =>
    cases read
    exact ⟨none, .absent, rfl⟩
  | cons c rest =>
    obtain ⟨sign, written, spelled⟩ := SpellsSign.exists_of_takeSign rest
    rw [parseExponent?] at read
    generalize takeSign rest = parts at *
    obtain ⟨negative, digits⟩ := parts
    obtain ⟨⟨isMark, some_digit, all⟩, same⟩ := Option.ite_none_right_eq_some.mp read
    cases same
    have row : IsRow digits := ⟨by simpa using some_digit, by simpa using all⟩
    subst written
    cases spelled with
    | absent => exact ⟨_, .plain isMark row, rfl⟩
    | plus => exact ⟨_, .plus isMark row, rfl⟩
    | minus => exact ⟨_, .minus isMark row, rfl⟩

theorem exists_of_parseMagnitude? {negative : Bool} {cs : List Char} {d : Decimal}
    (read : parseMagnitude? negative cs = some d) :
    ∃ digits whole fraction mark exponent, cs = digits ++ mark ∧ SpellsPoint digits whole fraction ∧
      SpellsExponent mark exponent ∧
      d = ⟨negative, natOfDigits (whole ++ fraction), exponent.getD 0 - fraction.length⟩ := by
  have inside (row : List Char) : ∀ c ∈ row.takeWhile Char.isDigit, c.isDigit = true :=
    fun _ => List.mem_takeWhile_imp
  have start := List.takeWhile_append_dropWhile (p := Char.isDigit) (l := cs)
  unfold parseMagnitude? at read
  split at read
  rename_i fraction mark parts
  obtain ⟨some_digit, kept⟩ := Option.ite_none_left_eq_some.mp read
  obtain ⟨power, last, rfl⟩ := Option.map_eq_some_iff.mp kept
  obtain ⟨exponent, spelled, rfl⟩ := exists_of_parseExponent? last
  split at parts
  · rename_i rest after
    cases parts
    have row : IsRow (cs.takeWhile Char.isDigit ++ rest.takeWhile Char.isDigit) :=
      ⟨by simpa using some_digit, List.forall_mem_append.mpr ⟨inside cs, inside rest⟩⟩
    refine ⟨_, _, _, _, exponent, ?_, .point row, spelled, rfl⟩
    rw [List.append_assoc, List.cons_append, List.takeWhile_append_dropWhile, ← after, start]
  · cases parts
    have row : IsRow (cs.takeWhile Char.isDigit) := ⟨by simpa using some_digit, inside cs⟩
    refine ⟨_, _, _, _, exponent, start.symm, .absent row, spelled, ?_⟩
    rw [List.append_nil]

theorem parse?_eq_some_iff {cs : List Char} {d : Decimal} : Decimal.parse? cs = some d ↔ Spells cs d := by
  refine ⟨fun read => ?_, fun spelled => (parse?_of_spells spelled).1⟩
  obtain ⟨sign, written, spelled⟩ := SpellsSign.exists_of_takeSign cs
  unfold Decimal.parse? at read
  generalize takeSign cs = parts at *
  obtain ⟨negative, rest⟩ := parts
  obtain ⟨digits, whole, fraction, mark, exponent, rfl, point, last, rfl⟩ :=
    exists_of_parseMagnitude? read
  exact written ▸ .parts spelled point last

theorem parse?_finite?_iff {cs : List Char} {x : Finite64} :
    (Binary64.parse? cs).bind Binary64.finite? = some x ↔
      ∃ d, Spells cs d ∧ d.toBinary64 = .finite x := by
  have finite (y : Binary64) : y.finite? = some x ↔ y = .finite x := by
    cases y <;> simp [Binary64.finite?]
  simp only [Option.bind_eq_some_iff, finite, exists_eq_right]
  constructor
  · intro read
    unfold Binary64.parse? at read
    dsimp only at read
    split_ifs at read
    · cases read
    · cases read
    · obtain ⟨d, numeral, double⟩ := Option.map_eq_some_iff.mp read
      exact ⟨d, parse?_eq_some_iff.mp numeral, double⟩
  · rintro ⟨d, spelled, double⟩
    rw [(parse?_of_spells spelled).2, double]

theorem SpellsInteger.numeral {cs : List Char} {n : Int} (spelled : SpellsInteger cs n) :
    ∃ d, Spells cs d ∧ d.value = n := by
  cases spelled with
  | @parts sign digits negative sign row =>
    have numeral := Spells.parts sign (.absent row) .absent
    rw [List.append_nil digits] at numeral
    refine ⟨_, numeral, ?_⟩
    cases negative <;> simp [value, signed]

theorem Spells.value_eq {cs : List Char} {d : Decimal} {n : Int} (spelled : Spells cs d)
    (integer : SpellsInteger cs n) : d.value = n := by
  obtain ⟨e, numeral, same⟩ := integer.numeral
  have read := (parse?_of_spells spelled).1.symm.trans (parse?_of_spells numeral).1
  rw [Option.some.inj read, same]

theorem SpellsInteger.parseInt64? {cs : List Char} {n : Int} (spelled : SpellsInteger cs n) :
    ModulatorHealth.parseInt64? cs = if FitsInt64 n then some n else none := by
  split
  · rename_i fits
    exact parseInt64?_eq_some_iff.mpr ⟨spelled, fits⟩
  · rename_i misfit
    refine parseInt64?_eq_none_iff.mpr fun m other fits => misfit ?_
    obtain ⟨d, numeral, same⟩ := spelled.numeral
    have equal : n = m := Int.cast_injective (same.symm.trans (numeral.value_eq other))
    rwa [equal]

end Reading

section Rounding

theorem cast_powerOfTen (n : Nat) : (powerOfTen n : ℚ) = 10 ^ n := by
  rw [powerOfTen_eq, Nat.cast_pow, Nat.cast_ofNat]

theorem digitCount_pos (n : Nat) : 0 < digitCount n := List.length_pos_iff.mpr (decimalDigits_ne_nil n)

theorem lt_pow_digitCount (n : Nat) : n < 10 ^ digitCount n :=
  (Nat.length_toDigits_le_iff (by decide) (digitCount_pos n)).mp (Nat.le_refl _)

theorem pow_digitCount_le {n : Nat} (pos : 0 < n) : 10 ^ (digitCount n - 1) ≤ n := by
  by_contra below
  have count := digitCount_pos n
  rcases Nat.eq_zero_or_pos (digitCount n - 1) with single | more
  · rw [single] at below
    omega
  · have shorter := digitCount_le_of_lt more (not_le.mp below)
    omega

variable (d : Decimal)

theorem abs_value : |d.value| = d.digits * 10 ^ d.exponent := by
  rw [value, abs_signed, abs_of_nonneg (by positivity)]

theorem abs_value_lt : |d.value| < 10 ^ (digitCount d.digits + d.exponent) := by
  rw [abs_value, zpow_add₀ (by norm_num), zpow_natCast]
  exact mul_lt_mul_of_pos_right (by exact_mod_cast lt_pow_digitCount d.digits) (by positivity)

theorem le_abs_value {d : Decimal} (pos : 0 < d.digits) :
    10 ^ (digitCount d.digits - 1 + d.exponent) ≤ |d.value| := by
  have count := digitCount_pos d.digits
  rw [abs_value, zpow_add₀ (by norm_num), ← Nat.cast_one, ← Nat.cast_sub count, zpow_natCast]
  exact mul_le_mul_of_nonneg_right (by exact_mod_cast pow_digitCount_le pos) (by positivity)

theorem tiny_of_small {d : Decimal} (small : d.digits = 0 ∨ digitCount d.digits + d.exponent < -330) :
    2 * |d.value| < 1 / Finite64.unitsPerOne := by
  rcases small with nothing | below
  · rw [abs_value, nothing, Nat.cast_zero, zero_mul, mul_zero]
    exact one_div_pos.mpr Finite64.unitsPerOne_pos
  · have pos : (0 : ℚ) < powerOfTen 331 := Nat.cast_pos.mpr (powerOfTen_pos 331)
    have upper : |d.value| * powerOfTen 331 < 1 := by
      have exponent : digitCount d.digits + d.exponent ≤ -(331 : Nat) := by omega
      rw [← lt_div_iff₀ pos, one_div, cast_powerOfTen, ← zpow_natCast, ← zpow_neg]
      exact d.abs_value_lt.trans_le (zpow_le_zpow_right₀ (by norm_num) exponent)
    have places : 2 * Finite64.unitsPerOne ≤ powerOfTen 331 := by decide +kernel
    rw [lt_div_iff₀ Finite64.unitsPerOne_pos]
    calc 2 * |d.value| * Finite64.unitsPerOne
        = |d.value| * (2 * Finite64.unitsPerOne : Nat) := by
          push_cast
          ring
      _ ≤ |d.value| * powerOfTen 331 :=
          mul_le_mul_of_nonneg_left (Nat.cast_le.mpr places) (abs_nonneg _)
      _ < 1 := upper

theorem limit_le_of_large {d : Decimal} (large : 310 < digitCount d.digits + d.exponent)
    (pos : 0 < d.digits) : Finite64.limit ≤ d.digits * 10 ^ d.exponent := by
  have power : (2 ^ 54 - 1) * powerOfTwo 970 ≤ powerOfTen 310 := by decide +kernel
  calc Finite64.limit
      ≤ powerOfTen 310 := by
        rw [Finite64.limit_eq, Nat.cast_le]
        exact power
    _ = 10 ^ ((310 : Nat) : Int) := by rw [zpow_natCast, cast_powerOfTen]
    _ ≤ 10 ^ (digitCount d.digits - 1 + d.exponent) := zpow_le_zpow_right₀ (by norm_num) (by omega)
    _ ≤ _ := d.abs_value ▸ le_abs_value pos

/-- A decimal becomes the double nearest to it. Where powers of ten are spared, it is below half a unit
or beyond all doubles. -/
theorem rounds_toBinary64 : d.toBinary64.Rounds d.value := by
  have one := Finite64.unitsPerOne_pos.ne'
  unfold toBinary64
  dsimp only
  split
  · rename_i small
    exact Binary64.rounds_zero _ (tiny_of_small small)
  · rename_i some_digit
    split
    · rename_i large
      exact Binary64.rounds_infinite _ (limit_le_of_large large (by omega))
    · split
      · rename_i whole
        have magnitude : ((d.digits * powerOfTen d.exponent.toNat * Finite64.unitsPerOne : Nat) /
            (1 : Nat) / Finite64.unitsPerOne : ℚ) = d.digits * 10 ^ d.exponent := by
          rw [Nat.cast_one, div_one, Nat.cast_mul, mul_div_cancel_right₀ _ one, Nat.cast_mul,
            cast_powerOfTen, ← zpow_natCast, Int.toNat_of_nonneg whole]
        rw [value, ← magnitude]
        exact Binary64.rounds_nearest d.negative Nat.one_pos
      · have magnitude : ((d.digits * Finite64.unitsPerOne : Nat) /
            (powerOfTen (-d.exponent).toNat : Nat) / Finite64.unitsPerOne : ℚ) =
            d.digits * 10 ^ d.exponent := by
          rw [Nat.cast_mul, div_right_comm, mul_div_cancel_right₀ _ one, cast_powerOfTen,
            ← zpow_natCast, Int.toNat_of_nonneg (by omega), zpow_neg, div_inv_eq_mul]
        rw [value, ← magnitude]
        exact Binary64.rounds_nearest d.negative (powerOfTen_pos _)

variable {d}

theorem exists_toBinary64 (inside : |d.value| < Finite64.limit) :
    ∃ x, d.toBinary64 = .finite x ∧ x.IsNearest d.value := by
  have rounds := d.rounds_toBinary64
  generalize d.toBinary64 = double at rounds ⊢
  cases rounds with
  | finite _ near => exact ⟨_, rfl, near⟩
  | infinite beyond => exact absurd inside (not_lt.mpr beyond)

theorem nearest_of_toBinary64 {x : Finite64} (read : d.toBinary64 = .finite x) :
    |d.value| < Finite64.limit ∧ x.IsNearest d.value := by
  have rounds := d.rounds_toBinary64
  rw [read] at rounds
  cases rounds with
  | finite inside near => exact ⟨inside, near⟩

end Rounding

end Decimal
end ModulatorHealth
