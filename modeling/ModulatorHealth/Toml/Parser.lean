import ModulatorHealth.Toml.Scalar

/-! TOML documents: lines that open a table, and lines that add an entry to the open one. -/
namespace ModulatorHealth.Toml

mutual

def value? : Nat → Nat → Scanner Value
  | 0, _, _ => none
  | fuel + 1, depth, cs =>
    match cs with
    | '"' :: _ | '\'' :: _ => (string? cs).map fun (text, rest) => (.string text, rest)
    | '[' :: rest =>
      if depthLimit ≤ depth + 1 then none
      else (items? fuel (depth + 1) rest).map fun (items, rest) => (.array items, rest)
    | '{' :: rest =>
      if depthLimit ≤ depth + 1 then none
      else
        match skipSpaces rest with
        | '}' :: rest => some (.inline [], rest)
        | _ => (inlineEntries? fuel (depth + 1) [] rest).map fun (entries, rest) =>
            (.inline entries, rest)
    | 't' :: 'r' :: 'u' :: 'e' :: rest => some (.boolean true, rest)
    | 'f' :: 'a' :: 'l' :: 's' :: 'e' :: rest => some (.boolean false, rest)
    | _ => number? cs

def items? : Nat → Nat → Scanner (List Value)
  | 0, _, _ => none
  | fuel + 1, depth, cs =>
    match skipBlankLines cs with
    | ']' :: rest => some ([], rest)
    | cs =>
      (value? fuel depth cs).bind fun (item, rest) =>
        match skipBlankLines rest with
        | ',' :: rest => (items? fuel depth rest).map fun (items, rest) => (item :: items, rest)
        | ']' :: rest => some ([item], rest)
        | _ => none

def inlineEntries? : Nat → Nat → Entries → Scanner Entries
  | 0, _, _, _ => none
  | fuel + 1, depth, entries, cs => do
    let ((path, key), rest) ← key? cs
    let rest ← exactly? '=' rest
    let (value, rest) ← value? fuel depth (skipSpaces rest)
    let entries ← Value.insert path key value entries
    match skipSpaces rest with
    | ',' :: rest => inlineEntries? fuel depth entries rest
    | '}' :: rest => some (entries, rest)
    | _ => none

end

/-- The tables read so far, and the open one: where it belongs, whether it is a new element of an
array, and its entries. -/
structure Open where
  root : Entries
  path : List String
  isElement : Bool
  entries : Entries

namespace Open

def start : Open := ⟨[], [], false, []⟩

def close (o : Open) : Option Entries :=
  match o.path.getLast? with
  | none => some o.entries
  | some key =>
    Value.changeAt false o.path.dropLast (fun _ parent =>
      match Value.valueAt? key parent, o.isElement with
      | none, false => some (parent ++ [(key, .table false false o.entries)])
      | none, true => some (parent ++ [(key, .tables [o.entries])])
      | some (.tables elements), true =>
        some (Value.assign key (.tables (elements ++ [o.entries])) parent)
      | some _, _ => none) o.root

/-- The entries that a header starts with, and what remains beside its table. Only a table that
nothing has defined so far is taken up, and it leaves its place until it is closed. -/
def takeUp? (key : String) (isElement : Bool) (parent : Entries) : Option (Entries × Entries) :=
  match Value.valueAt? key parent, isElement with
  | none, _ => some ([], parent)
  | some (.table true false entries), false =>
    some (entries, parent.filter fun entry => entry.1 ≠ key)
  | some (.tables _), true => some ([], parent)
  | some _, _ => none

def header (o : Open) (path : List String) (key : String) (isElement : Bool) : Option Open := do
  let root ← o.close
  let (entries, root) ←
    Value.descend false (fun _ parent => takeUp? key isElement parent) path false root
  some ⟨root, path ++ [key], isElement, entries⟩

def add (o : Open) (path : List String) (key : String) (value : Value) : Option Open :=
  (Value.insert path key value o.entries).map fun entries => { o with entries := entries }

end Open

def headerLine? (isElement : Bool) (cs : List Char) :
    Option ((List String × String) × List Char) := do
  let (key, rest) ← key? cs
  let rest ← exactly? ']' rest
  let rest ← if isElement then exactly? ']' rest else some rest
  let rest ← lineEnd? rest
  some (key, rest)

def lines? : Nat → Open → List Char → Option Open
  | 0, _, _ => none
  | fuel + 1, o, cs =>
    match skipSpaces cs with
    | [] => some o
    | '#' :: rest => (lineEnd? ('#' :: rest)).bind fun rest => lines? fuel o rest
    | '\n' :: rest => lines? fuel o rest
    | '\r' :: rest => (newline? ('\r' :: rest)).bind fun rest => lines? fuel o rest
    | '[' :: '[' :: rest => do
      let ((path, key), rest) ← headerLine? true rest
      let o ← o.header path key true
      lines? fuel o rest
    | '[' :: rest => do
      let ((path, key), rest) ← headerLine? false rest
      let o ← o.header path key false
      lines? fuel o rest
    | cs => do
      let ((path, key), rest) ← key? cs
      let rest ← exactly? '=' rest
      let (value, rest) ← value? (2 * rest.length + 2) 0 (skipSpaces rest)
      let rest ← lineEnd? rest
      let o ← o.add path key value
      lines? fuel o rest

/-- A document as a table. A byte order mark at its start does not count. -/
def parse? (text : String) : Option Value :=
  let cs := match text.toList with
    | '\ufeff' :: rest => rest
    | cs => cs
  (lines? (cs.length + 1) .start cs).bind fun o => o.close.map fun root => .table false false root

end ModulatorHealth.Toml
