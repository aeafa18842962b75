import ModulatorHealth.Json.Tree
import ModulatorHealth.Record

/-! Reading typed data from JSON. A record is an object, whose other members do not matter, or an
array of its fields in order, of which the last may be missing. -/
namespace ModulatorHealth.Json.Tree

def member? (name : String) : List (Option String × Tree) → Option Tree
  | [] => none
  | (key, part) :: members => if key = some name then some part else member? name members

def countOf (name : String) (members : List (Option String × Tree)) : Nat :=
  members.countP fun entry => entry.1 = some name

/-- An object has readable names and repeats none of the fields. -/
def fields? (names : List String) : Tree → Option (List (Option Tree))
  | .object members =>
    if members.all (·.1.isSome) ∧ names.all (fun name => countOf name members ≤ 1) then
      some (names.map fun name => member? name members)
    else none
  | .array items =>
    if items.length ≤ names.length then
      some (items.map some ++ List.replicate (names.length - items.length) none)
    else none
  | _ => none

def text? : Tree → Option String
  | .string text => text
  | _ => none

def number? : Tree → Option Number
  | .number n => n
  | _ => none

def integer? (tree : Tree) : Option Int :=
  match tree.number? with
  | some (.integer n _) => some n
  | _ => none

def isNull : Tree → Bool
  | .null => true
  | _ => false

instance : Document Tree := ⟨fields?, text?, integer?, isNull⟩

def bool? : Tree → Option Bool
  | .bool b => some b
  | _ => none

def double? (tree : Tree) : Option Finite64 := tree.number?.bind Number.toDouble?

def list? {α : Type} (read : Tree → Option α) : Tree → Option (List α)
  | .array items => items.mapM read
  | _ => none

def named? {α : Type} (read : Tree → Option α) (entry : Option String × Tree) :
    Option (String × α) :=
  entry.1.bind fun name => (read entry.2).map ((name, ·))

def map? {α : Type} (read : Tree → Option α) : Tree → Option (List (String × α))
  | .object members => (members.mapM (named? read)).map Keyed.ofList
  | _ => none

/-- A name written as a text, or as an object with that one member, which is null. -/
def word? : Tree → Option String
  | .string text => text
  | .object [(name, .null)] => name
  | _ => none

end ModulatorHealth.Json.Tree
