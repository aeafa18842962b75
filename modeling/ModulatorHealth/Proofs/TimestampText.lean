import ModulatorHealth.Proofs.CalendarDays
import ModulatorHealth.Proofs.DigitRows

/-! Instants are read as they are written: from the text of an instant, field by field, comes back
the same instant. -/
namespace ModulatorHealth

theorem bind_of_read {α β : Type} {read : Option α} {next : α → Option β} {a : α} {b : β}
    (here : read = some a) (rest : next a = some b) : read.bind next = some b :=
  Option.bind_eq_some_iff.mpr ⟨a, here, rest⟩

namespace Timestamp

/-- The instants of a clock: no leap second, and a year that a date may have. -/
structure IsClockTime (t : Timestamp) : Prop where
  nanoseconds_lt : t.nanoseconds < 1000000000
  year : isYear (yearOf t.seconds) = true

theorem isBlank_of_isDigit {c : Char} (digit : c.isDigit = true) : Text.isBlank c = false := by
  have bounds : 48 ≤ c.toNat ∧ c.toNat ≤ 57 := by
    simpa [Char.isDigit, UInt32.le_iff_toNat_le] using digit
  simp [Text.isBlank, Text.blankRanges]
  omega

theorem trimStart_cons {c : Char} (rest : List Char) (solid : Text.isBlank c = false) :
    Text.trimStart (c :: rest) = c :: rest := by
  simp [Text.trimStart, solid]

section Fields

variable {width n : Nat} (rest : List Char)

theorem exists_padded_cons (width n : Nat) :
    ∃ c cs, padded width n = c :: cs ∧ c.isDigit = true := by
  cases row : padded width n with
  | nil => exact absurd row padded_ne_nil
  | cons c cs => exact ⟨c, cs, rfl, isDigit_of_mem_padded (row ▸ List.mem_cons_self)⟩

theorem trimStart_padded : Text.trimStart (padded width n ++ rest) = padded width n ++ rest := by
  obtain ⟨c, cs, row, digit⟩ := exists_padded_cons width n
  rw [row]
  exact trimStart_cons _ (isBlank_of_isDigit digit)

theorem takeNumber?_padded (pos : 0 < width) (lt : n < 10 ^ width) :
    takeNumber? width (padded width n ++ rest) = some (n, rest) := by
  have length := length_padded pos lt
  have digits : ((padded width n ++ rest).takeWhile Char.isDigit).take width = padded width n := by
    rw [List.takeWhile_append_of_pos fun c => isDigit_of_mem_padded, List.take_left' length]
  simp only [takeNumber?, trimStart_padded, digits]
  simp [padded_ne_nil, length]

end Fields

theorem takeField?_padded {low high n : Nat} (lt : n < 100) (above : low ≤ n) (below : n ≤ high)
    (rest : List Char) : takeField? low high (padded 2 n ++ rest) = some (n, rest) := by
  simp [takeField?, takeNumber?_padded rest (show 0 < 2 by decide) lt, above, below]

theorem takeSeparator?_cons {separator : Char} (solid : Text.isBlank separator = false)
    (rest : List Char) : takeSeparator? separator (separator :: rest) = some rest := by
  simp [takeSeparator?, trimStart_cons rest solid]

theorem signed?_padded (n : Nat) (rest : List Char) :
    takeYear?.signed? (padded 4 n ++ '-' :: rest) = some ((n : Int), '-' :: rest) := by
  have digits : (padded 4 n ++ '-' :: rest).takeWhile Char.isDigit = padded 4 n :=
    takeWhile_append_of_stop (fun c => isDigit_of_mem_padded) (by simp)
  simp [takeYear?.signed?, digits, padded_ne_nil]

theorem takeYear?_yearText (year : Int) (rest : List Char) :
    takeYear? (yearText year ++ '-' :: rest) = some (year, '-' :: rest) := by
  unfold yearText
  split
  · rename_i short
    have number := takeNumber?_padded ('-' :: rest) (show 0 < 4 by decide)
      (show year.natAbs < 10 ^ 4 by omega)
    have positive : (year.natAbs : Int) = year := by omega
    unfold takeYear?
    rw [trimStart_padded]
    obtain ⟨c, cs, row, digit⟩ := exists_padded_cons 4 year.natAbs
    rw [row] at number ⊢
    split
    · rename_i same
      cases same
      cases digit
    · rename_i same
      cases same
      cases digit
    · rw [number]
      simp [positive]
  · unfold takeYear?
    by_cases negative : year < 0
    · have dash : Text.isBlank '-' = false := by decide
      have value : -(year.natAbs : Int) = year := by omega
      rw [if_pos negative, List.cons_append, trimStart_cons _ dash]
      simp only [signed?_padded, Option.map_some, value]
    · have plus : Text.isBlank '+' = false := by decide
      have value : (year.natAbs : Int) = year := by omega
      rw [if_neg negative, List.cons_append, trimStart_cons _ plus]
      simp only [signed?_padded, value]

theorem takeFraction?_padded {width n : Nat} (pos : 0 < width) (le : width ≤ 9)
    (lt : n < 10 ^ width) :
    takeFraction? ('.' :: padded width n ++ ['Z']) = some (n * powerOfTen (9 - width), ['Z']) := by
  have length := length_padded pos lt
  have digits : (padded width n ++ ['Z']).takeWhile Char.isDigit = padded width n :=
    takeWhile_append_of_stop (fun c => isDigit_of_mem_padded) (by simp)
  have counted : (padded width n).take 9 = padded width n :=
    List.take_of_length_le (by omega)
  simp [takeFraction?, digits, counted, length, padded_ne_nil]

theorem takeFraction?_fractionText {n : Nat} (lt : n < 1000000000) :
    takeFraction? (fractionText n ++ ['Z']) = some (n, ['Z']) := by
  unfold fractionText
  split
  · simp [takeFraction?, *]
  · split
    · rename_i thousands
      rw [takeFraction?_padded (by decide) (by decide) (by omega)]
      have whole : n / 1000000 * powerOfTen 6 = n :=
        Nat.div_mul_cancel (Nat.dvd_of_mod_eq_zero thousands)
      rw [whole]
    · split
      · rename_i thousands
        rw [takeFraction?_padded (by decide) (by decide) (by omega)]
        have whole : n / 1000 * powerOfTen 3 = n :=
          Nat.div_mul_cancel (Nat.dvd_of_mod_eq_zero thousands)
        rw [whole]
      · rw [takeFraction?_padded (by decide) (by decide) (by omega)]
        exact congrArg (fun m => some (m, ['Z'])) (Nat.mul_one n)

theorem daysInMonth_le (year : Int) (month : Nat) : daysInMonth year month ≤ 31 := by
  unfold daysInMonth
  split
  · split <;> decide
  · split <;> decide

theorem parse?_of_row {text : String} {year : Int} {month day second nanoseconds : Nat}
    (row : text.toList = yearText year ++ '-' :: (padded 2 month ++ '-' :: (padded 2 day ++ 'T' ::
      (padded 2 (second / 3600) ++ ':' :: (padded 2 (second / 60 % 60) ++ ':' ::
        (padded 2 (second % 60) ++ (fractionText nanoseconds ++ ['Z'])))))))
    (inYear : 1 ≤ month ∧ month ≤ 12) (inMonth : 1 ≤ day ∧ day ≤ daysInMonth year month)
    (inDay : second < 86400) (inSecond : nanoseconds < 1000000000) (written : isYear year = true)
    (utc : isYear (yearOf (dayNumber year month day * 86400 + second)) = true) :
    parse? text = some ⟨dayNumber year month day * 86400 + second, nanoseconds⟩ := by
  have short := daysInMonth_le year month
  have dash : Text.isBlank '-' = false := by decide
  have colon : Text.isBlank ':' = false := by decide
  have hourRead := takeField?_padded (show second / 3600 < 100 by omega) (Nat.zero_le _)
    (show second / 3600 ≤ 23 by omega)
  have minuteRead := takeField?_padded (show second / 60 % 60 < 100 by omega) (Nat.zero_le _)
    (show second / 60 % 60 ≤ 59 by omega)
  have secondRead := takeField?_padded (show second % 60 < 100 by omega) (Nat.zero_le _)
    (show second % 60 ≤ 60 by omega)
  unfold parse?
  rw [row]
  -- One step a part; the join after `T` is taken by computation.
  refine bind_of_read (takeYear?_yearText _ _) ?_
  refine bind_of_read (takeSeparator?_cons dash _) ?_
  refine bind_of_read (takeField?_padded (by omega) inYear.1 inYear.2 _) ?_
  refine bind_of_read (takeSeparator?_cons dash _) ?_
  refine bind_of_read (takeField?_padded (by omega) inMonth.1 (inMonth.2.trans short) _) ?_
  refine bind_of_read rfl ?_
  refine bind_of_read (hourRead _) ?_
  refine bind_of_read (takeSeparator?_cons colon _) ?_
  refine bind_of_read (minuteRead _) ?_
  refine bind_of_read (takeSeparator?_cons colon _) ?_
  refine bind_of_read (secondRead _) ?_
  refine bind_of_read (takeFraction?_fractionText inSecond) ?_
  refine bind_of_read (show takeZone? (Text.trimStart ['Z']) = some (0, []) by decide) ?_
  have noLeap : second % 60 / 60 = 0 := by omega
  have time : dayNumber year month day * 86400 + (((second / 3600 : Nat) : Int) * 3600 +
      ((second / 60 % 60 : Nat) : Int) * 60 + (((second % 60 : Nat) : Int) - ((0 : Nat) : Int))) - 0
      = dayNumber year month day * 86400 + second := by
    omega
  have within : ¬daysInMonth year month < day := by omega
  dsimp only
  rw [noLeap, time, utc, written]
  simp [Text.trimStart, within]

theorem toList_text {t : Timestamp} {year : Int} {month day second : Nat}
    (date : civil (t.seconds.fdiv 86400) = (year, month, day))
    (time : (t.seconds.fmod 86400).toNat = second) (inSecond : t.nanoseconds < 1000000000) :
    t.text.toList = yearText year ++ '-' :: (padded 2 month ++ '-' :: (padded 2 day ++ 'T' ::
      (padded 2 (second / 3600) ++ ':' :: (padded 2 (second / 60 % 60) ++ ':' ::
        (padded 2 (second % 60) ++ (fractionText t.nanoseconds ++ ['Z'])))))) := by
  have noLeap : t.nanoseconds / 1000000000 = 0 := by omega
  have fraction : t.nanoseconds % 1000000000 = t.nanoseconds := by omega
  simp [text, date, time, noLeap, fraction]

theorem parse?_text {t : Timestamp} (clock : t.IsClockTime) : parse? t.text = some t := by
  obtain ⟨inSecond, inRange⟩ := clock
  have bounds := civil_bounds (t.seconds.fdiv 86400)
  have number := dayNumber_civil (t.seconds.fdiv 86400)
  have days := Int.mul_fdiv_add_fmod t.seconds 86400
  have second := Int.fmod_nonneg_of_pos t.seconds (show (0 : Int) < 86400 by decide)
  have second' := Int.fmod_lt_of_pos t.seconds (show (0 : Int) < 86400 by decide)
  obtain ⟨⟨year, month, day⟩, date⟩ : ∃ date, civil (t.seconds.fdiv 86400) = date := ⟨_, rfl⟩
  rw [date] at bounds number
  have whole : dayNumber year month day * 86400 + ((t.seconds.fmod 86400).toNat : Int)
      = t.seconds := by
    rw [number]
    omega
  have written : isYear year = true := by
    rwa [yearOf, date] at inRange
  have read := parse?_of_row (toList_text date rfl inSecond) ⟨bounds.1, bounds.2.1⟩ bounds.2.2
    (by omega) inSecond written (by rwa [whole])
  rwa [whole] at read

end Timestamp
end ModulatorHealth
