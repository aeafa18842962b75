import ModulatorHealth.Record

/-! TOML values, and the tables that a document builds up from its headers and dotted keys. -/
namespace ModulatorHealth.Toml

inductive Value where
  | string (text : String)
  | integer (value : Int)
  | float
  | boolean (value : Bool)
  | datetime
  | array (items : List Value)
  | inline (entries : List (String × Value))
  /-- A table of headers and dotted keys. It is implicit as long as only its children were named,
  and dotted if a dotted key created it. -/
  | table (implicit dotted : Bool) (entries : List (String × Value))
  | tables (elements : List (List (String × Value)))

abbrev Entries : Type := List (String × Value)

namespace Value

def valueAt? (key : String) (entries : Entries) : Option Value :=
  (entries.find? fun entry => entry.1 = key).map Prod.snd

def assign (key : String) (value : Value) (entries : Entries) : Entries :=
  entries.map fun entry => if entry.1 = key then (key, value) else entry

/-- Changes the table at the end of a path, and creates the missing ones. A path leads through the
last element of an array of tables, and never through other values. A dotted key must not reach into
a table that a header defined. The change is told whether a dotted key created the table, and gives
a result of its own. -/
def descend {α : Type} (dotted : Bool) (change : Bool → Entries → Option (α × Entries)) :
    List String → Bool → Entries → Option (α × Entries)
  | [], isDotted, entries => change isDotted entries
  | key :: path, _, entries =>
    match valueAt? key entries with
    | none =>
      (descend dotted change path dotted []).map fun (result, inner) =>
        (result, entries ++ [(key, .table true dotted inner)])
    | some (.table implicit isDotted inner) =>
      if dotted && !implicit then none
      else (descend dotted change path isDotted inner).map fun (result, inner) =>
        (result, assign key (.table implicit isDotted inner) entries)
    | some (.tables elements) =>
      match elements.getLast? with
      | none => none
      | some last =>
        (descend dotted change path false last).map fun (result, last) =>
          (result, assign key (.tables (elements.dropLast ++ [last])) entries)
    | some _ => none

def changeAt (dotted : Bool) (path : List String) (change : Bool → Entries → Option Entries)
    (entries : Entries) : Option Entries :=
  (descend dotted (fun isDotted entries => (change isDotted entries).map ((), ·)) path false
    entries).map Prod.snd

def insert (path : List String) (key : String) (value : Value) (entries : Entries) :
    Option Entries :=
  changeAt true path (fun isDotted entries =>
    if isDotted == path.isEmpty || (valueAt? key entries).isSome then none
    else some (entries ++ [(key, value)])) entries

/-- The parts of a record in a table are its entries, and in an array its items in order, where
those beyond the fields do not matter. A date is a table of other entries. -/
def fields? (names : List String) : Value → Option (List (Option Value))
  | .inline entries | .table _ _ entries => some (names.map fun name => valueAt? name entries)
  | .array items =>
    some ((items.take names.length).map some
      ++ List.replicate (names.length - items.length) none)
  | .tables elements =>
    some ((elements.take names.length).map (fun entries => some (.table false false entries))
      ++ List.replicate (names.length - elements.length) none)
  | .datetime => some (names.map fun _ => none)
  | _ => none

def text? : Value → Option String
  | .string text => some text
  | _ => none

def integer? : Value → Option Int
  | .integer n => some n
  | _ => none

instance : Document Value := ⟨fields?, text?, integer?, fun _ => false⟩

end Value
end ModulatorHealth.Toml
