import ModulatorHealth.Number.Binary64

/-! Decimal numbers between text and doubles: numerals as they are written, the double nearest to a
decimal, and the shortest decimal that reads back as a given double. -/
namespace ModulatorHealth

structure Decimal where
  negative : Bool
  digits : Nat
  exponent : Int
deriving DecidableEq, Repr

def digitValue (c : Char) : Nat := c.toNat - '0'.toNat

def natOfDigits (cs : List Char) : Nat :=
  cs.foldl (fun n c => 10 * n + digitValue c) 0

def decimalDigits (n : Nat) : List Char := Nat.toDigits 10 n

def digitCount (n : Nat) : Nat := (decimalDigits n).length

def takeSign : List Char → Bool × List Char
  | '-' :: rest => (true, rest)
  | '+' :: rest => (false, rest)
  | rest => (false, rest)

abbrev FitsInt64 (n : Int) : Prop := -9223372036854775808 ≤ n ∧ n < 9223372036854775808

def parseInt64? (cs : List Char) : Option Int :=
  let (negative, digits) := takeSign cs
  if digits.isEmpty || !digits.all Char.isDigit then none
  else
    let magnitude : Int := natOfDigits digits
    let value := if negative then -magnitude else magnitude
    if FitsInt64 value then some value else none

namespace Decimal

/-- The double nearest to the decimal. Numbers of more than 310 digits before the point are
infinite and those below `10⁻³³⁰` zero, which spares their powers of ten. -/
def toBinary64 (d : Decimal) : Binary64 :=
  let magnitude := digitCount d.digits + d.exponent
  if d.digits = 0 ∨ magnitude < -330 then .finite (.zero d.negative)
  else if 310 < magnitude then .infinite d.negative
  else if 0 ≤ d.exponent then
    .nearest d.negative (d.digits * powerOfTen d.exponent.toNat * Finite64.unitsPerOne) 1
  else
    .nearest d.negative (d.digits * Finite64.unitsPerOne) (powerOfTen (-d.exponent).toNat)

def parseExponent? : List Char → Option Int
  | [] => some 0
  | c :: rest =>
    let (negative, digits) := takeSign rest
    if (c = 'e' ∨ c = 'E') ∧ !digits.isEmpty ∧ digits.all Char.isDigit then
      let magnitude : Int := natOfDigits digits
      some (if negative then -magnitude else magnitude)
    else none

/-- An unsigned numeral: digits with an optional point, on one side of which digits may be missing,
and an optional exponent. -/
def parseMagnitude? (negative : Bool) (cs : List Char) : Option Decimal :=
  let whole := cs.takeWhile Char.isDigit
  let (fraction, rest) :=
    match cs.dropWhile Char.isDigit with
    | '.' :: rest => (rest.takeWhile Char.isDigit, rest.dropWhile Char.isDigit)
    | rest => ([], rest)
  if whole.isEmpty && fraction.isEmpty then none
  else (parseExponent? rest).map fun exponent =>
    ⟨negative, natOfDigits (whole ++ fraction), exponent - fraction.length⟩

def parse? (cs : List Char) : Option Decimal :=
  let (negative, rest) := takeSign cs
  parseMagnitude? negative rest

end Decimal

def Binary64.parse? (cs : List Char) : Option Binary64 :=
  let (negative, rest) := takeSign cs
  let word := rest.map Char.toLower
  if word = "inf".toList ∨ word = "infinity".toList then some (.infinite negative)
  else if word = "nan".toList then some .nan
  else (Decimal.parseMagnitude? negative rest).map Decimal.toBinary64

namespace Finite64

/-- The exponent of ten of the first digit of a positive magnitude. The least double is above
`10⁻³²⁴`, so the scaled quotient is never zero. -/
def leadingExponent (x : Finite64) : Int :=
  digitCount (x.units * powerOfTen 324 / unitsPerOne) - 325

def scaled (x : Finite64) (scale : Int) : Nat × Nat :=
  if 0 ≤ scale then (x.units, unitsPerOne * powerOfTen scale.toNat)
  else (x.units * powerOfTen (-scale).toNat, unitsPerOne)

/-- Of the two neighbours on the grid of `10 ^ scale`, the one that reads back as the double: the
nearer if both do, and of two at the same distance the even one. -/
def onGrid? (x : Finite64) (scale : Int) : Option Decimal :=
  let (num, den) := x.scaled scale
  let below : Decimal := ⟨x.negative, num / den, scale⟩
  let above : Decimal := ⟨x.negative, num / den + 1, scale⟩
  let nearer : Decimal := ⟨x.negative, roundDiv num den, scale⟩
  if nearer.toBinary64 = .finite x then some nearer
  else if below.toBinary64 = .finite x then some below
  else if above.toBinary64 = .finite x then some above
  else none

def exactDecimal (x : Finite64) : Decimal := ⟨x.negative, x.units * Nat.pow 5 1074, -1074⟩

/-- The decimal with the fewest digits that reads back as the double, of those the nearest. -/
def shortest (x : Finite64) : Decimal :=
  if x.isZero then ⟨x.negative, 0, 0⟩
  else
    let top := x.leadingExponent
    ((List.range 17).findSome? fun (n : Nat) => x.onGrid? (top - n)).getD x.exactDecimal

end Finite64

structure DoubleLayout where
  plainFrom : Int
  plainBelow : Int

namespace DoubleLayout

def standard : DoubleLayout := ⟨-5, 16⟩

def zeros (n : Nat) : List Char := List.replicate n '0'

def positional (digits : List Char) (whole : Int) : List Char :=
  if whole ≤ 0 then '0' :: '.' :: zeros (-whole).toNat ++ digits
  else if digits.length ≤ whole.toNat then
    digits ++ zeros (whole.toNat - digits.length) ++ ['.', '0']
  else digits.take whole.toNat ++ '.' :: digits.drop whole.toNat

def scientific (digits : List Char) (exponent : Int) : List Char :=
  let mantissa := match digits with
    | first :: second :: rest => first :: '.' :: second :: rest
    | short => short
  mantissa ++ 'e' :: (if exponent < 0 then '-' else '+') :: decimalDigits exponent.natAbs

def render (layout : DoubleLayout) (x : Finite64) : List Char :=
  let decimal := x.shortest
  let written := decimalDigits decimal.digits
  let leading := written.length - 1 + decimal.exponent
  let digits := (written.reverse.dropWhile (· == '0')).reverse
  let magnitude :=
    if x.isZero then "0.0".toList
    else if layout.plainFrom ≤ leading ∧ leading < layout.plainBelow then
      positional digits (leading + 1)
    else scientific digits leading
  if x.negative then '-' :: magnitude else magnitude

end DoubleLayout

def Finite64.toFixed (places : Nat) (x : Finite64) : List Char :=
  let scaled := roundDiv (x.units * powerOfTen places) unitsPerOne
  let whole := decimalDigits (scaled / powerOfTen places)
  let fraction := decimalDigits (scaled % powerOfTen places)
  let magnitude :=
    if places = 0 then whole
    else whole ++ '.' :: DoubleLayout.zeros (places - fraction.length) ++ fraction
  if x.negative then '-' :: magnitude else magnitude

end ModulatorHealth
