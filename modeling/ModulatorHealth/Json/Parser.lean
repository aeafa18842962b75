import ModulatorHealth.Json.Numeral
import ModulatorHealth.Json.Tree
import ModulatorHealth.Number.Hexadecimal

/-! Reading JSON text. The whole text is one value between blanks. -/
namespace ModulatorHealth.Json.Parser

def isBlank (c : Char) : Bool := c == ' ' || c == '\t' || c == '\n' || c == '\r'

def skipBlanks (cs : List Char) : List Char := cs.dropWhile isBlank

def hexUnit? (a b c d : Char) : Option Nat := natOfHex? [a, b, c, d]

def simpleEscape? : Char → Option Char
  | '"' => some '"'
  | '\\' => some '\\'
  | '/' => some '/'
  | 'b' => some '\x08'
  | 'f' => some '\x0c'
  | 'n' => some '\n'
  | 'r' => some '\r'
  | 't' => some '\t'
  | _ => none

/-- The code units of a string up to its closing quote, and the text after it. A character written
as itself is one unit, whatever its code point. -/
def scanUnits? : List Char → Option (List Nat × List Char)
  | [] => none
  | '"' :: rest => some ([], rest)
  | '\\' :: 'u' :: a :: b :: c :: d :: rest =>
    (hexUnit? a b c d).bind fun unit =>
      (scanUnits? rest).map fun (units, rest) => (unit :: units, rest)
  | '\\' :: e :: rest =>
    (simpleEscape? e).bind fun c =>
      (scanUnits? rest).map fun (units, rest) => (c.toNat :: units, rest)
  | c :: rest =>
    if c.toNat < 0x20 ∨ c = '\\' then none
    else (scanUnits? rest).map fun (units, rest) => (c.toNat :: units, rest)

def isHighSurrogate (unit : Nat) : Bool := 0xD800 ≤ unit && unit < 0xDC00

def isLowSurrogate (unit : Nat) : Bool := 0xDC00 ≤ unit && unit < 0xE000

/-- Joins surrogate pairs; a surrogate on its own denotes no character. -/
def joinUnits? : List Nat → Option (List Char)
  | [] => some []
  | high :: rest =>
    if isHighSurrogate high then
      match rest with
      | low :: rest =>
        if isLowSurrogate low then
          (joinUnits? rest).map
            (Char.ofNat (0x10000 + (high - 0xD800) * 0x400 + (low - 0xDC00)) :: ·)
        else none
      | [] => none
    else if isLowSurrogate high then none
    else (joinUnits? rest).map (Char.ofNat high :: ·)

def scanString? (cs : List Char) : Option (Option String × List Char) :=
  (scanUnits? cs).map fun (units, rest) => ((joinUnits? units).map String.ofList, rest)

def scanName? (cs : List Char) : Option (Option String × List Char) :=
  match skipBlanks cs with
  | '"' :: rest => scanString? rest
  | _ => none

mutual

/-- A value at the start of a text. Each call spends fuel, and no text needs more than twice its
length. -/
def scanValue? : Nat → List Char → Option (Tree × List Char)
  | 0, _ => none
  | fuel + 1, cs =>
    match skipBlanks cs with
    | 'n' :: 'u' :: 'l' :: 'l' :: rest => some (.null, rest)
    | 't' :: 'r' :: 'u' :: 'e' :: rest => some (.bool true, rest)
    | 'f' :: 'a' :: 'l' :: 's' :: 'e' :: rest => some (.bool false, rest)
    | '"' :: rest => (scanString? rest).map fun (s, rest) => (.string s, rest)
    | '[' :: rest =>
      match skipBlanks rest with
      | ']' :: rest => some (.array [], rest)
      | _ => (scanItems? fuel rest).map fun (items, rest) => (.array items, rest)
    | '{' :: rest =>
      match skipBlanks rest with
      | '}' :: rest => some (.object [], rest)
      | _ => (scanMembers? fuel rest).map fun (members, rest) => (.object members, rest)
    | numeral => (Numeral.scan? numeral).map fun (n, rest) => (.number n.number?, rest)

def scanItems? : Nat → List Char → Option (List Tree × List Char)
  | 0, _ => none
  | fuel + 1, cs =>
    (scanValue? fuel cs).bind fun (item, rest) =>
      match skipBlanks rest with
      | ',' :: rest => (scanItems? fuel rest).map fun (items, rest) => (item :: items, rest)
      | ']' :: rest => some ([item], rest)
      | _ => none

def scanMembers? : Nat → List Char → Option (List (Option String × Tree) × List Char)
  | 0, _ => none
  | fuel + 1, cs =>
    (scanName? cs).bind fun (name, rest) =>
      match skipBlanks rest with
      | ':' :: rest =>
        (scanValue? fuel rest).bind fun (value, rest) =>
          match skipBlanks rest with
          | ',' :: rest =>
            (scanMembers? fuel rest).map fun (members, rest) => ((name, value) :: members, rest)
          | '}' :: rest => some ([(name, value)], rest)
          | _ => none
      | _ => none

end

def parseChars? (cs : List Char) : Option Tree :=
  (scanValue? (2 * cs.length + 2) cs).bind fun (tree, rest) =>
    if (skipBlanks rest).isEmpty then some tree else none

end Parser

def Tree.parse? (text : String) : Option Tree := Parser.parseChars? text.toList

def parse? (text : String) : Option Json := (Tree.parse? text).bind (Tree.value? 0)

end ModulatorHealth.Json
