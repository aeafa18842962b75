import ModulatorHealth.Json.Basic

/-! JSON numerals: what one looks like, and the number it denotes. A numeral that is not a 64-bit
integer becomes a double in steps that are each rounded: its leading digits, as many as fit 64 bits,
are scaled by powers of ten. -/
namespace ModulatorHealth.Json

structure Numeral where
  negative : Bool
  whole : List Char
  fraction : List Char
  exponent : Int
  isInteger : Bool

namespace Numeral

def scanFraction? : List Char → Option (List Char × List Char)
  | '.' :: rest =>
    let digits := rest.takeWhile Char.isDigit
    if digits.isEmpty then none else some (digits, rest.dropWhile Char.isDigit)
  | rest => some ([], rest)

def scanExponent? : List Char → Option (Option Int × List Char)
  | [] => some (none, [])
  | c :: rest =>
    if c = 'e' ∨ c = 'E' then
      let (negative, after) := takeSign rest
      let digits := after.takeWhile Char.isDigit
      let magnitude : Int := natOfDigits digits
      if digits.isEmpty then none
      else some (some (if negative then -magnitude else magnitude), after.dropWhile Char.isDigit)
    else some (none, c :: rest)

/-- A numeral at the start of a text, and the text after it. Leading zeros are no part of one. -/
def scan? (cs : List Char) : Option (Numeral × List Char) := do
  let (negative, unsigned) := match cs with
    | '-' :: rest => (true, rest)
    | rest => (false, rest)
  let whole := unsigned.takeWhile Char.isDigit
  match whole with
  | [] => none
  | '0' :: _ :: _ => none
  | _ =>
    let (fraction, rest) ← scanFraction? (unsigned.dropWhile Char.isDigit)
    let (exponent, rest) ← scanExponent? rest
    some (⟨negative, whole, fraction, exponent.getD 0, fraction.isEmpty && exponent.isNone⟩, rest)

/-- Appends digits as long as the result fits 64 bits, and counts those left over. -/
def absorb (significand : Nat) : List Char → Nat × Nat
  | [] => (significand, 0)
  | c :: rest =>
    let next := 10 * significand + digitValue c
    if next < UInt64.size then absorb next rest else (significand, rest.length + 1)

def power? (n : Nat) : Option Finite64 := Finite64.ofInt? (powerOfTen n)

/-- `x · 10 ^ exponent`, rounded after each step of at most 308 places. -/
def scale? (x : Finite64) (exponent : Int) : Option Finite64 :=
  if exponent.natAbs ≤ 308 then
    (power? exponent.natAbs).bind fun power =>
      if 0 ≤ exponent then x.mul? power else x.div? power
  else if x.isZero then some x
  else if 0 ≤ exponent then none
  else ((power? 308).bind x.div?).bind fun y => scale? y (exponent + 308)
termination_by exponent.natAbs
decreasing_by omega

def double? (n : Numeral) : Option Finite64 :=
  let (leading, beyond) := absorb 0 n.whole
  let (significand, dropped) := absorb leading n.fraction
  let places : Int := n.fraction.length - dropped
  (Finite64.ofInt? significand).bind fun x =>
    (scale? x (beyond - places + n.exponent)).map fun y => { y with negative := n.negative }

/-- The number denoted, if it is in range. A negative zero is a double. -/
def number? (n : Numeral) : Option Number :=
  let magnitude : Int := natOfDigits n.whole
  let value := if n.negative then -magnitude else magnitude
  if n.isInteger ∧ ¬(n.negative ∧ value = 0) then
    match Number.ofInt? value with
    | some kept => some kept
    | none => n.double?.map .double
  else n.double?.map .double

end Numeral
end ModulatorHealth.Json
