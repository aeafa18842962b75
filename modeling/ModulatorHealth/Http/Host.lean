import ModulatorHealth.DomainName.Label
import ModulatorHealth.Number.Decimal

/-! Hosts in the addresses of the web: names in ASCII, and the numeric addresses of two
protocols. -/
namespace ModulatorHealth.Http

inductive Host where
  | name (ascii : String)
  | ipv4 (address : Nat)
  | ipv6 (groups : List Nat)
deriving DecidableEq

namespace Host

/-! IPv4 -/

/-- A number of an IPv4 address: hexadecimal after `0x`, octal after `0`, else decimal. -/
def ipv4Number? (cs : List Char) : Option Nat :=
  match cs with
  | [] => none
  | '0' :: 'x' :: rest | '0' :: 'X' :: rest => natOfHex? rest
  | '0' :: c :: rest => digitsBelow? 8 (c :: rest)
  | cs => digitsBelow? 10 cs
where
  digitsBelow? (base : Nat) (cs : List Char) : Option Nat :=
    if cs.all fun c => (hexValue? c).any (· < base) then natOfDigitsIn? base cs else none

def dottedParts (cs : List Char) : List (List Char) :=
  let parts := Text.splitAtEach (· == '.') cs
  if 1 < parts.length ∧ parts.getLast? = some [] then parts.dropLast else parts

/-- Up to four numbers, of which the last one fills all bytes that remain. -/
def ipv4? (cs : List Char) : Option Nat := do
  let numbers ← (dottedParts cs).mapM ipv4Number?
  let last ← numbers.getLast?
  let bytes := numbers.dropLast
  if numbers.length ≤ 4 ∧ (∀ byte ∈ bytes, byte < 256) ∧ last < Nat.pow 256 (4 - bytes.length) then
    some (bytes.foldl (fun n byte => 256 * n + byte) 0 * Nat.pow 256 (4 - bytes.length) + last)
  else none

/-- A name whose last part is a number must be an IPv4 address. -/
def endsInNumber (cs : List Char) : Bool :=
  match (dottedParts cs).getLast? with
  | some part => (!part.isEmpty && part.all Char.isDigit) || (ipv4Number? part).isSome
  | none => false

def ipv4Text (address : Nat) : String :=
  ".".intercalate ([16777216, 65536, 256, 1].map fun unit => toString (address / unit % 256))

/-! IPv6 -/

def byte? (cs : List Char) : Option Nat :=
  let n := natOfDigits cs
  if !cs.isEmpty && cs.all Char.isDigit && cs.length ≤ 3 && n < 256
      && !(1 < cs.length && cs.head? == some '0') then some n
  else none

def dottedGroups? (cs : List Char) : Option (List Nat) :=
  match (Text.splitAtEach (· == '.') cs).mapM byte? with
  | some [a, b, c, d] => some [256 * a + b, 256 * c + d]
  | _ => none

def group? (cs : List Char) : Option Nat :=
  if cs.isEmpty || 4 < cs.length then none else natOfHex? cs

def groups? (mayEndDotted : Bool) (cs : List Char) : Option (List Nat) :=
  if cs.isEmpty then some []
  else
    let parts := Text.splitAtEach (· == ':') cs
    match parts.mapM group? with
    | some groups => some groups
    | none =>
      if mayEndDotted then do
        let groups ← parts.dropLast.mapM group?
        let last ← parts.getLast?.bind dottedGroups?
        some (groups ++ last)
      else none

def atDoubleColon : List Char → Option (List Char × List Char)
  | ':' :: ':' :: rest => some ([], rest)
  | c :: rest => (atDoubleColon rest).map fun (before, after) => (c :: before, after)
  | [] => none

/-- Eight groups, or fewer with a double colon for missing ones, which are zero. -/
def ipv6? (cs : List Char) : Option (List Nat) :=
  match atDoubleColon cs with
  | none => (groups? true cs).bind fun groups => if groups.length = 8 then some groups else none
  | some (before, after) => do
    let before ← groups? false before
    let after ← groups? true after
    let missing := 8 - (before.length + after.length)
    if missing = 0 then none else some (before ++ List.replicate missing 0 ++ after)

def zerosAtHead (groups : List Nat) : Nat := (groups.takeWhile (· == 0)).length

def longestZeros : List Nat → Nat
  | [] => 0
  | g :: rest => max (zerosAtHead (g :: rest)) (longestZeros rest)

def aroundZeros (count : Nat) : List Nat → List Nat × List Nat
  | [] => ([], [])
  | g :: rest =>
    if zerosAtHead (g :: rest) = count then ([], (g :: rest).drop count)
    else
      let (before, after) := aroundZeros count rest
      (g :: before, after)

def groupsText (groups : List Nat) : String :=
  ":".intercalate (groups.map fun g => String.ofList (Nat.toDigits 16 g))

/-- The first longest row of at least two zeros is left out. -/
def ipv6Text (groups : List Nat) : String :=
  let count := longestZeros groups
  if count < 2 then groupsText groups
  else
    let (before, after) := aroundZeros count groups
    groupsText before ++ "::" ++ groupsText after

/-! Hosts -/

def address : Host → String
  | .name ascii => ascii
  | .ipv4 address => ipv4Text address
  | .ipv6 groups => ipv6Text groups

def text : Host → String
  | .ipv6 groups => "[" ++ ipv6Text groups ++ "]"
  | host => host.address

def unescaped : List Char → List UInt8
  | '%' :: a :: b :: rest =>
    match hexValue? a, hexValue? b with
    | some a, some b => UInt8.ofNat (16 * a + b) :: unescaped rest
    | _, _ => '%'.toUInt8 :: unescaped (a :: b :: rest)
  | c :: rest => (String.singleton c).toUTF8.toList ++ unescaped rest
  | [] => []

def isRequestable (ascii : List Char) : Bool := !ascii.any "\"`\x7b\x7d".toList.contains

def ofName? (ascii : List Char) : Option Host :=
  if ascii.isEmpty || !isRequestable ascii then none
  else if endsInNumber ascii then (ipv4? ascii).map .ipv4
  else some (.name (String.ofList ascii))

def parse? (cs : List Char) : Option Host :=
  match cs with
  | '[' :: rest =>
    if rest.getLast? = some ']' then (ipv6? rest.dropLast).map .ipv6 else none
  | _ => do
    let name ← String.fromUTF8? (ByteArray.mk (unescaped cs).toArray)
    ofName? (← DomainName.toAscii? name.toList)

end Host
end ModulatorHealth.Http
