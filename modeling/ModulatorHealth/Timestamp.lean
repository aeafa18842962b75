import ModulatorHealth.Number.Decimal
import ModulatorHealth.Text.Blank

/-! Instants of UTC, read from date-times with any offset and written with `Z`. -/
namespace ModulatorHealth

/-- Seconds since 1970 and nanoseconds in the second; a leap second counts on in the nanoseconds of
the second before it. -/
structure Timestamp where
  seconds : Int
  nanoseconds : Nat
deriving DecidableEq

namespace Timestamp

/-- The number of a day of the proleptic Gregorian calendar, with 1 January 1970 as day 0. Years are
counted from March, so that the leap day is the last one. -/
def dayNumber (year : Int) (month day : Nat) : Int :=
  let year := if month ≤ 2 then year - 1 else year
  let era := year.fdiv 400
  let yearOfEra := year - era * 400
  let monthFromMarch : Int := (month + 9) % 12
  let dayOfYear := (153 * monthFromMarch + 2).fdiv 5 + day - 1
  era * 146097 + yearOfEra * 365 + yearOfEra.fdiv 4 - yearOfEra.fdiv 100 + dayOfYear - 719468

def civil (number : Int) : Int × Nat × Nat :=
  let shifted := number + 719468
  let era := shifted.fdiv 146097
  let dayOfEra := shifted - era * 146097
  let yearOfEra :=
    (dayOfEra - dayOfEra.fdiv 1460 + dayOfEra.fdiv 36524 - dayOfEra.fdiv 146096).fdiv 365
  let dayOfYear := dayOfEra - (365 * yearOfEra + yearOfEra.fdiv 4 - yearOfEra.fdiv 100)
  let monthFromMarch := (5 * dayOfYear + 2).fdiv 153
  let day := dayOfYear - (153 * monthFromMarch + 2).fdiv 5 + 1
  let month := if monthFromMarch < 10 then monthFromMarch + 3 else monthFromMarch - 9
  let year := yearOfEra + era * 400 + (if month ≤ 2 then 1 else 0)
  (year, month.toNat, day.toNat)

def isLeapYear (year : Int) : Bool :=
  year % 4 == 0 && (year % 100 != 0 || year % 400 == 0)

def daysInMonth (year : Int) (month : Nat) : Nat :=
  if month = 2 then (if isLeapYear year then 29 else 28)
  else if month ∈ [4, 6, 9, 11] then 30
  else 31

def padded (width n : Nat) : List Char :=
  let digits := decimalDigits n
  DoubleLayout.zeros (width - digits.length) ++ digits

def yearText (year : Int) : List Char :=
  if 0 ≤ year ∧ year ≤ 9999 then padded 4 year.natAbs
  else (if year < 0 then '-' else '+') :: padded 4 year.natAbs

def fractionText (nanoseconds : Nat) : List Char :=
  if nanoseconds = 0 then []
  else if nanoseconds % 1000000 = 0 then '.' :: padded 3 (nanoseconds / 1000000)
  else if nanoseconds % 1000 = 0 then '.' :: padded 6 (nanoseconds / 1000)
  else '.' :: padded 9 nanoseconds

/-- The milliseconds from one instant to another, towards zero. A leap second that lies between two
seconds of a day counts. -/
def millisecondsUntil (earlier later : Timestamp) : Int :=
  let secondOfDay (t : Timestamp) : Int := t.seconds.fmod 86400
  let leap : Int :=
    if secondOfDay earlier < secondOfDay later ∧ 1000000000 ≤ earlier.nanoseconds then 1
    else if secondOfDay later < secondOfDay earlier ∧ 1000000000 ≤ later.nanoseconds then -1
    else 0
  let nanoseconds : Int := later.nanoseconds - earlier.nanoseconds
  ((later.seconds - earlier.seconds + leap) * 1000000000 + nanoseconds).tdiv 1000000

def text (t : Timestamp) : String :=
  let (year, month, day) := civil (t.seconds.fdiv 86400)
  let second := (t.seconds.fmod 86400).toNat
  let leap := t.nanoseconds / 1000000000
  String.ofList <|
    yearText year ++ '-' :: padded 2 month ++ '-' :: padded 2 day ++ 'T' :: padded 2 (second / 3600)
      ++ ':' :: padded 2 (second / 60 % 60) ++ ':' :: padded 2 (second % 60 + leap)
      ++ fractionText (t.nanoseconds % 1000000000) ++ ['Z']

def takeNumber? (width : Nat) (cs : List Char) : Option (Nat × List Char) :=
  let cs := Text.trimStart cs
  let digits := (cs.takeWhile Char.isDigit).take width
  if digits.isEmpty then none else some (natOfDigits digits, cs.drop digits.length)

def takeField? (low high : Nat) (cs : List Char) : Option (Nat × List Char) :=
  (takeNumber? 2 cs).bind fun (n, rest) => if low ≤ n ∧ n ≤ high then some (n, rest) else none

/-- A year of up to four digits, or of any number of digits after a sign. -/
def takeYear? (cs : List Char) : Option (Int × List Char) :=
  match Text.trimStart cs with
  | '-' :: rest => (signed? rest).map fun (n, rest) => (-n, rest)
  | '+' :: rest => signed? rest
  | rest => (takeNumber? 4 rest).map fun (n, rest) => ((n : Int), rest)
where
  signed? (cs : List Char) : Option (Int × List Char) :=
    let digits := cs.takeWhile Char.isDigit
    if digits.isEmpty then none else some ((natOfDigits digits : Int), cs.drop digits.length)

def takeSeparator? (separator : Char) (cs : List Char) : Option (List Char) :=
  match Text.trimStart cs with
  | c :: rest => if c = separator then some rest else none
  | [] => none

def takeFraction? : List Char → Option (Nat × List Char)
  | '.' :: rest =>
    let digits := rest.takeWhile Char.isDigit
    let counted := digits.take 9
    if digits.isEmpty then none
    else some (natOfDigits counted * powerOfTen (9 - counted.length), rest.drop digits.length)
  | rest => some (0, rest)

def takeOffset? (cs : List Char) : Option (Int × List Char) :=
  match cs with
  | 'Z' :: rest | 'z' :: rest => some (0, rest)
  | sign :: h1 :: h2 :: rest =>
    match rest.dropWhile (fun c => c == ':' || Text.isBlank c) with
    | m1 :: m2 :: rest =>
      if [h1, h2, m1, m2].all Char.isDigit ∧ digitValue m1 < 6 then
        let seconds : Int := natOfDigits [h1, h2] * 3600 + natOfDigits [m1, m2] * 60
        if 86400 ≤ seconds then none
        else if sign = '+' then some (seconds, rest)
        else if sign = '-' ∨ sign = '\u2212' then some (-seconds, rest)
        else none
      else none
    | _ => none
  | _ => none

def takeZone? (cs : List Char) : Option (Int × List Char) :=
  if (cs.take 3).map Char.toUpper = ['U', 'T', 'C'] then some (0, cs.drop 3) else takeOffset? cs

def isYear (year : Int) : Bool := -262143 ≤ year && year ≤ 262142

def yearOf (seconds : Int) : Int := (civil (seconds.fdiv 86400)).1

/-- A date, `T` or a space, a time and an offset. Blanks may precede any number or separator. The
date has to be one both where it was written and in UTC. -/
def parse? (text : String) : Option Timestamp := do
  let (year, rest) ← takeYear? text.toList
  let rest ← takeSeparator? '-' rest
  let (month, rest) ← takeField? 1 12 rest
  let rest ← takeSeparator? '-' rest
  let (day, rest) ← takeField? 1 31 rest
  let rest ← match rest with
    | 't' :: rest | 'T' :: rest | ' ' :: rest => some rest
    | _ => none
  let (hour, rest) ← takeField? 0 23 rest
  let rest ← takeSeparator? ':' rest
  let (minute, rest) ← takeField? 0 59 rest
  let rest ← takeSeparator? ':' rest
  let (second, rest) ← takeField? 0 60 rest
  let (nanoseconds, rest) ← takeFraction? rest
  let (offset, rest) ← takeZone? (Text.trimStart rest)
  let leap := second / 60
  let inDay : Int := hour * 3600 + minute * 60 + (second - leap)
  let seconds := dayNumber year month day * 86400 + inDay - offset
  if !(Text.trimStart rest).isEmpty || daysInMonth year month < day then none
  else if isYear year && isYear (yearOf seconds) then
    some ⟨seconds, nanoseconds + leap * 1000000000⟩
  else none

end Timestamp
end ModulatorHealth
