import ModulatorHealth.Number.Hexadecimal

/-! Labels of a domain name in ASCII. The ASCII characters of a label stand in front; after a dash
numbers say which other characters stand where. Each number counts the places between two insertions
in a walk over all places and all characters, lower ones first. -/
namespace ModulatorHealth.DomainName.Punycode

def digitValue? (c : Char) : Option Nat :=
  if 'a' ≤ c ∧ c ≤ 'z' then some (c.toNat - 'a'.toNat)
  else if 'A' ≤ c ∧ c ≤ 'Z' then some (c.toNat - 'A'.toNat)
  else if c.isDigit then some (c.toNat - '0'.toNat + 26)
  else none

def digitChar (n : Nat) : Char :=
  if n < 26 then Char.ofNat ('a'.toNat + n) else Char.ofNat ('0'.toNat + (n - 26))

def base : Nat := 36

/-- A digit below this ends its number. The places of digits are counted by `k`, in steps of the
base. -/
def threshold (bias k : Nat) : Nat :=
  if k ≤ bias then 1 else if bias + 26 ≤ k then 26 else k - bias

theorem threshold_pos (bias k : Nat) : 1 ≤ threshold bias k := by
  grind [threshold]

def scaledBias (delta k : Nat) : Nat :=
  if 455 < delta then scaledBias (delta / 35) (k + base) else k + base * delta / (delta + 38)
termination_by delta

def adapted (delta length : Nat) (isFirst : Bool) : Nat :=
  let delta := if isFirst then delta / 700 else delta / 2
  scaledBias (delta + delta / length) 0

def initialBias : Nat := 72

def initialCodePoint : Nat := 0x80

def limit : Nat := 4294967296

structure Reading where
  text : List Char
  codePoint : Nat := initialCodePoint
  bias : Nat := initialBias
  start : Nat := 0
  place : Nat := 0
  weight : Nat := 1
  k : Nat := base

namespace Reading

def insert? (r : Reading) : Option Reading :=
  let length := r.text.length + 1
  let codePoint := r.codePoint + r.place / length
  let place := r.place % length
  if codePoint.isValidChar then
    some {
      text := r.text.insertIdx place (Char.ofNat codePoint)
      codePoint
      bias := adapted (r.place - r.start) length (r.start == 0)
      start := place + 1
      place := place + 1 }
  else none

def step? (r : Reading) (c : Char) : Option Reading := do
  let digit ← digitValue? c
  let place := r.place + digit * r.weight
  let t := threshold r.bias r.k
  if limit ≤ place then none
  else if digit < t then insert? { r with place }
  else if limit ≤ r.weight * (base - t) then none
  else some { r with place, weight := r.weight * (base - t), k := r.k + base }

def isBetween (r : Reading) : Bool := r.k == base

end Reading

/-- The parts before and after the last dash, if there is something before it. -/
def splitAtLastDash (cs : List Char) : List Char × List Char :=
  let digits := (cs.reverse.takeWhile (· != '-')).reverse
  if cs.length ≤ digits.length + 1 then ([], cs)
  else (cs.take (cs.length - digits.length - 1), digits)

def decode? (cs : List Char) : Option (List Char) := do
  let (basic, digits) := splitAtLastDash cs
  let r ← digits.foldlM Reading.step? { text := basic }
  if r.isBetween then some r.text else none

def numeral (bias k n : Nat) : List Char :=
  let t := threshold bias k
  if n < t then [digitChar n]
  else digitChar (t + (n - t) % (base - t)) :: numeral bias (k + base) ((n - t) / (base - t))
termination_by n
decreasing_by
  have := threshold_pos bias k
  have := Nat.div_le_self (n - threshold bias k) (base - threshold bias k)
  omega

structure Writing where
  digits : List Char := []
  bias : Nat := initialBias
  delta : Nat := 0
  written : Nat

def Writing.pass (basicCount codePoint : Nat) (w : Writing) (c : Char) : Writing :=
  if c.toNat < codePoint then { w with delta := w.delta + 1 }
  else if c.toNat = codePoint then {
    digits := w.digits ++ numeral w.bias base w.delta
    bias := adapted w.delta (w.written + 1) (w.written == basicCount)
    delta := 0
    written := w.written + 1 }
  else w

/-- Walks over the text once for each character, given by code points in order. -/
def Writing.walk (cs : List Char) (basicCount : Nat) : Nat → List Nat → Writing → Writing
  | _, [], w => w
  | next, codePoint :: rest, w =>
    let w := { w with delta := w.delta + (codePoint - next) * (w.written + 1) }
    let w := cs.foldl (Writing.pass basicCount codePoint) w
    Writing.walk cs basicCount (codePoint + 1) rest { w with delta := w.delta + 1 }

def insertSorted (n : Nat) : List Nat → List Nat
  | [] => [n]
  | m :: rest =>
    if n < m then n :: m :: rest else if n = m then m :: rest else m :: insertSorted n rest

def isBasic (c : Char) : Bool := c.toNat < 0x80

def encode (cs : List Char) : List Char :=
  let basic := cs.filter isBasic
  let codePoints := ((cs.filter (!isBasic ·)).map Char.toNat).foldr insertSorted []
  let start : Writing := { written := basic.length }
  let w := Writing.walk cs basic.length initialCodePoint codePoints start
  (if basic.isEmpty then [] else basic ++ ['-']) ++ w.digits

end ModulatorHealth.DomainName.Punycode
