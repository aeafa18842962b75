import ModulatorHealth.Json.Basic
import ModulatorHealth.Keyed

/-! A JSON text as it was written: members in order and with their repetitions, nested to any depth.
`none` stands for a spelling that denotes nothing, which only matters where the part is kept: a
string with half of a surrogate pair, or a number beyond the doubles. -/
namespace ModulatorHealth

inductive Json.Tree where
  | null
  | bool (value : Bool)
  | number (value : Option Json.Number)
  | string (value : Option String)
  | array (items : List Json.Tree)
  | object (members : List (Option String × Json.Tree))

namespace Json

/-- Arrays and objects that are kept may be open at once up to this number. -/
def maxDepth : Nat := 127

namespace Tree

mutual

/-- The value of a part that is kept as it is, inside `depth` open arrays and objects. Of the
members under one name the last counts. -/
def value? (depth : Nat) : Tree → Option Json
  | .null => some .null
  | .bool b => some (.bool b)
  | .number n => n.map .number
  | .string s => s.map .string
  | .array items => if depth < maxDepth then (values? (depth + 1) items).map .array else none
  | .object members =>
    if depth < maxDepth then
      (namedValues? (depth + 1) members).map fun named => .object (Keyed.ofList named)
    else none

def values? (depth : Nat) : List Tree → Option (List Json)
  | [] => some []
  | item :: items => (value? depth item).bind fun v => (values? depth items).map (v :: ·)

def namedValues? (depth : Nat) : List (Option String × Tree) → Option (List (String × Json))
  | [] => some []
  | (name, item) :: members =>
    name.bind fun name => (value? depth item).bind fun v =>
      (namedValues? depth members).map ((name, v) :: ·)

end

mutual

def ofJson : Json → Tree
  | .null => .null
  | .bool b => .bool b
  | .number n => .number (some n)
  | .string s => .string (some s)
  | .array items => .array (ofItems items)
  | .object members => .object (ofMembers members)

def ofItems : List Json → List Tree
  | [] => []
  | item :: items => ofJson item :: ofItems items

def ofMembers : List (String × Json) → List (Option String × Tree)
  | [] => []
  | (name, value) :: members => (some name, ofJson value) :: ofMembers members

end

end Tree
end Json
end ModulatorHealth
