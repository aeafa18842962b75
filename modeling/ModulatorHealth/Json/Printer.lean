import ModulatorHealth.Json.Basic

/-! JSON text of a value, compact or indented. Members keep their order, and strings escape quotes,
backslashes and control characters alone. -/
namespace ModulatorHealth.Json

def Number.chars : Number → List Char
  | .integer n _ => (if n < 0 then ['-'] else []) ++ decimalDigits n.natAbs
  | .double x => DoubleLayout.standard.render x

def Number.text (n : Number) : String := String.ofList n.chars

def hexDigit (n : Nat) : Char := Nat.digitChar (n % 16)

def escape (c : Char) : List Char :=
  if c = '"' then ['\\', '"']
  else if c = '\\' then ['\\', '\\']
  else if 0x20 ≤ c.toNat then [c]
  else match c.toNat with
    | 0x08 => ['\\', 'b']
    | 0x09 => ['\\', 't']
    | 0x0A => ['\\', 'n']
    | 0x0C => ['\\', 'f']
    | 0x0D => ['\\', 'r']
    | n => ['\\', 'u', '0', '0', hexDigit (n / 16), hexDigit n]

def quoted (s : String) : List Char := '"' :: s.toList.flatMap escape ++ ['"']

mutual

def chars : Json → List Char
  | .null => "null".toList
  | .bool true => "true".toList
  | .bool false => "false".toList
  | .number n => n.chars
  | .string s => quoted s
  | .array [] => ['[', ']']
  | .array (item :: items) => '[' :: chars item ++ moreItems items ++ [']']
  | .object [] => ['{', '}']
  | .object ((name, value) :: members) =>
    '{' :: quoted name ++ ':' :: chars value ++ moreMembers members ++ ['}']

def moreItems : List Json → List Char
  | [] => []
  | item :: items => ',' :: chars item ++ moreItems items

def moreMembers : List (String × Json) → List Char
  | [] => []
  | (name, value) :: members => ',' :: quoted name ++ ':' :: chars value ++ moreMembers members

end

def render (value : Json) : String := String.ofList value.chars

def lineAt (level : Nat) : List Char := '\n' :: List.replicate (2 * level) ' '

mutual

def charsAt (level : Nat) : Json → List Char
  | .null => chars .null
  | .bool b => chars (.bool b)
  | .number n => n.chars
  | .string s => quoted s
  | .array [] => ['[', ']']
  | .array (item :: items) =>
    '[' :: lineAt (level + 1) ++ charsAt (level + 1) item ++ moreItemsAt (level + 1) items
      ++ lineAt level ++ [']']
  | .object [] => ['{', '}']
  | .object ((name, value) :: members) =>
    '{' :: lineAt (level + 1) ++ quoted name ++ ':' :: ' ' :: charsAt (level + 1) value
      ++ moreMembersAt (level + 1) members ++ lineAt level ++ ['}']

def moreItemsAt (level : Nat) : List Json → List Char
  | [] => []
  | item :: items => ',' :: lineAt level ++ charsAt level item ++ moreItemsAt level items

def moreMembersAt (level : Nat) : List (String × Json) → List Char
  | [] => []
  | (name, value) :: members =>
    ',' :: lineAt level ++ quoted name ++ ':' :: ' ' :: charsAt level value
      ++ moreMembersAt level members

end

def pretty (value : Json) : String := String.ofList (value.charsAt 0)

end ModulatorHealth.Json
