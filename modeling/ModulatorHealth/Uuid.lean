import ModulatorHealth.Number.Decimal
import ModulatorHealth.Number.Hexadecimal

/-! Universally unique identifiers, written as 32 hexadecimal digits in five groups. -/
namespace ModulatorHealth

structure Uuid where
  value : Nat
  value_lt : value < 340282366920938463463374607431768211456
deriving DecidableEq

namespace Uuid

/-- The identifier of version 4 that a random number of 128 bits gives. The version stands in the bits
from 76 to 79, the variant in 62 and 63. -/
def ofRandom (random : Nat) : Uuid :=
  ⟨random / powerOfTwo 80 % powerOfTwo 48 * powerOfTwo 80 + 4 * powerOfTwo 76
    + random / powerOfTwo 64 % powerOfTwo 12 * powerOfTwo 64 + 2 * powerOfTwo 62
    + random % powerOfTwo 62, by simp only [powerOfTwo, Nat.pow_eq]; omega⟩

def groups : List Nat := [8, 4, 4, 4, 12]

def hexDigits (digits : Nat) (n : Nat) : List Char :=
  let written := Nat.toDigits 16 n
  DoubleLayout.zeros (digits - written.length) ++ written

def dashed : List Nat → List Char → List Char
  | [], _ => []
  | [_], cs => cs
  | length :: rest, cs => cs.take length ++ '-' :: dashed rest (cs.drop length)

def text (id : Uuid) : String := String.ofList (dashed groups (hexDigits 32 id.value))

def undashed? : List Nat → List Char → Option (List Char)
  | [], cs => some cs
  | [_], cs => some cs
  | length :: rest, cs =>
    match cs.drop length with
    | '-' :: more => (undashed? rest more).map (cs.take length ++ ·)
    | _ => none

def ofDigits? (cs : List Char) : Option Uuid := do
  let value ← natOfHex? cs
  if h : cs.length = 32 ∧ value < 340282366920938463463374607431768211456 then
    some ⟨value, h.2⟩
  else none

/-- The digits alone, or with dashes, and then perhaps in braces or as a URN, whose scheme is
written in either case. -/
def parse? (text : String) : Option Uuid :=
  let cs := text.toList
  let scheme := "urn:uuid:".toList
  if cs.length = 32 then ofDigits? cs
  else if cs.length = 36 then (undashed? groups cs).bind ofDigits?
  else if cs.length = 38 ∧ cs.head? = some '{' ∧ cs.getLast? = some '}' then
    (undashed? groups (cs.drop 1).dropLast).bind ofDigits?
  else if cs.length = 45 ∧ (cs.take 9).map Char.toLower = scheme then
    (undashed? groups (cs.drop 9)).bind ofDigits?
  else none

end Uuid
end ModulatorHealth
