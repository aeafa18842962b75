/-! IEEE 754 doubles in exact arithmetic. Every finite double is a whole number of units of
`2⁻¹⁰⁷⁴`, so rounding, products and quotients are statements about natural numbers. -/
namespace ModulatorHealth

def powerOfTwo (n : Nat) : Nat := Nat.pow 2 n

def powerOfTen (n : Nat) : Nat := Nat.pow 10 n

/-- `num / den` as a whole number: the nearest one, of two the even one. -/
def roundDiv (num den : Nat) : Nat :=
  let quotient := num / den
  let remainder := num % den
  if 2 * remainder < den ∨ (2 * remainder = den ∧ quotient % 2 = 0) then quotient else quotient + 1

/-- A finite double: `significand · 2 ^ exponent` units of `2⁻¹⁰⁷⁴`, with its sign. A significand
has at most 53 bits. One of fewer bits is subnormal and has the least exponent, so each value has
one form per sign. -/
structure Finite64 where
  negative : Bool
  significand : Nat
  exponent : Nat
  significand_lt : significand < 9007199254740992
  exponent_le : exponent ≤ 2045
  normal : exponent = 0 ∨ 4503599627370496 ≤ significand
deriving DecidableEq

namespace Finite64

def unitsPerOne : Nat := powerOfTwo 1074

def units (x : Finite64) : Nat := x.significand * powerOfTwo x.exponent

def zero (negative : Bool) : Finite64 where
  negative := negative
  significand := 0
  exponent := 0
  significand_lt := by decide
  exponent_le := by decide
  normal := .inl rfl

def isZero (x : Finite64) : Bool := x.significand == 0

def toBits (x : Finite64) : Nat :=
  (if x.negative then powerOfTwo 63 else 0) + x.exponent * powerOfTwo 52 + x.significand

def ofParts? (negative : Bool) (significand exponent : Nat) : Option Finite64 :=
  if h : significand < 9007199254740992 ∧ exponent ≤ 2045
      ∧ (exponent = 0 ∨ 4503599627370496 ≤ significand) then
    some ⟨negative, significand, exponent, h.1, h.2.1, h.2.2⟩
  else none

/-- The double nearest to `num / den` units, a tie to the even significand; none where that lies
beyond the largest double. -/
def nearest? (negative : Bool) (num den : Nat) : Option Finite64 :=
  let exponent := Nat.log2 (num / den) - 52
  let significand := roundDiv num (den * powerOfTwo exponent)
  if significand < 9007199254740992 then ofParts? negative significand exponent
  else ofParts? negative 4503599627370496 (exponent + 1)

def ofInt? (n : Int) : Option Finite64 :=
  nearest? (n < 0) (n.natAbs * unitsPerOne) 1

def mul? (x y : Finite64) : Option Finite64 :=
  nearest? (x.negative != y.negative) (x.units * y.units) unitsPerOne

def div? (x y : Finite64) : Option Finite64 :=
  if y.isZero then none
  else nearest? (x.negative != y.negative) (x.units * unitsPerOne) y.units

def integer? (x : Finite64) : Option Int :=
  if x.units % unitsPerOne = 0 then
    let magnitude : Int := (x.units / unitsPerOne : Nat)
    some (if x.negative then -magnitude else magnitude)
  else none

end Finite64

inductive Binary64 where
  | finite (x : Finite64)
  | infinite (negative : Bool)
  | nan
deriving DecidableEq

namespace Binary64

def nearest (negative : Bool) (num den : Nat) : Binary64 :=
  match Finite64.nearest? negative num den with
  | some x => .finite x
  | none => .infinite negative

def finite? : Binary64 → Option Finite64
  | .finite x => some x
  | .infinite _ | .nan => none

end Binary64
end ModulatorHealth
