/-! Hexadecimal numerals. -/
namespace ModulatorHealth

def hexValue? (c : Char) : Option Nat :=
  if c.isDigit then some (c.toNat - '0'.toNat)
  else if 'a' ≤ c ∧ c ≤ 'f' then some (c.toNat - 'a'.toNat + 10)
  else if 'A' ≤ c ∧ c ≤ 'F' then some (c.toNat - 'A'.toNat + 10)
  else none

def isHexDigit (c : Char) : Bool := (hexValue? c).isSome

def natOfDigitsIn? (base : Nat) (cs : List Char) : Option Nat :=
  (cs.mapM hexValue?).map (·.foldl (fun n d => base * n + d) 0)

def natOfHex? (cs : List Char) : Option Nat := natOfDigitsIn? 16 cs

end ModulatorHealth
