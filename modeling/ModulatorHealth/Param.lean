import ModulatorHealth.Json.Parser
import ModulatorHealth.Json.Printer
import ModulatorHealth.Json.Reader
import ModulatorHealth.Text.Blank

/-! Parameters of the device: how one is addressed, and what its untyped values can be read as. -/
namespace ModulatorHealth

structure ParamRef where
  controllable : String
  param : String
deriving DecidableEq

namespace ParamRef

inductive Invalid where
  | emptyControllable
  | emptyParam
deriving DecidableEq

def Invalid.message : Invalid → String
  | .emptyControllable => "Controllable name must not be empty"
  | .emptyParam => "Parameter name must not be empty"

def new (controllable param : String) : Except Invalid ParamRef :=
  if Text.isBlankText controllable then .error .emptyControllable
  else if Text.isBlankText param then .error .emptyParam
  else .ok ⟨controllable, param⟩

def text (p : ParamRef) : String := p.controllable ++ "." ++ p.param

def precedes (p q : ParamRef) : Bool :=
  p.controllable < q.controllable || (p.controllable == q.controllable && p.param < q.param)

def insertSorted (p : ParamRef) : List ParamRef → List ParamRef
  | [] => [p]
  | q :: rest =>
    if p = q then q :: rest
    else if p.precedes q then p :: q :: rest
    else q :: insertSorted p rest

def sorted (refs : List ParamRef) : List ParamRef := refs.foldr insertSorted []

def toJson (p : ParamRef) : Json :=
  .object [("controllable", .string p.controllable), ("param", .string p.param)]

def read? (tree : Json.Tree) : Option ParamRef := do
  let [controllable, param] ← tree.fields? ["controllable", "param"] | none
  let controllable ← Field.required Json.Tree.text? controllable
  let param ← Field.required Json.Tree.text? param
  some ⟨controllable, param⟩

end ParamRef

inductive ParamValue where
  | number (value : Json.Number)
  | text (value : String)
deriving DecidableEq

/-- The value as a 64-bit integer: whole, and below `2 ^ 63` on either side of zero. -/
def Binary64.toInt64? (x : Binary64) : Option Int :=
  (x.finite?.bind Finite64.integer?).bind fun n =>
    if n.natAbs < 9223372036854775808 then some n else none

namespace ParamValue

/-- Numbers and texts are kept, flags become `1` and `0`, null the empty text, and all else its
compact JSON. -/
def ofJson : Json → ParamValue
  | .number n => .number n
  | .string s => .text s
  | .bool b => .text (if b then "1" else "0")
  | .null => .text ""
  | other => .text other.render

/-- A typed value: an integer, else a finite double, else the text as it was typed. -/
def parse (input : String) : ParamValue :=
  let trimmed := Text.trim input.toList
  match (parseInt64? trimmed).bind Json.Number.ofInt? with
  | some n => .number n
  | none =>
    match (Binary64.parse? trimmed).bind Binary64.finite? with
    | some x => .number (.double x)
    | none => .text input

def toJson : ParamValue → Json
  | .number n => .number n
  | .text s => .string s

def display : ParamValue → String
  | .number n => n.text
  | .text s => s

def read? : Json.Tree → Option ParamValue
  | .number n => n.map .number
  | .string s => s.map .text
  | _ => none

def asDouble? : ParamValue → Option Binary64
  | .number n => n.toDouble?.map .finite
  | .text s => Binary64.parse? (Text.trim s.toList)

def asInt? : ParamValue → Option Int
  | .number (.integer n _) =>
    if FitsInt64 n then some n
    else (Finite64.ofInt? n).bind fun x => (Binary64.finite x).toInt64?
  | .number (.double x) => (Binary64.finite x).toInt64?
  | .text s =>
    let trimmed := Text.trim s.toList
    match parseInt64? trimmed with
    | some n => some n
    | none => (Binary64.parse? trimmed).bind Binary64.toInt64?

/-- The view as a flag: any number, but only four texts. -/
def asBool? : ParamValue → Option Bool
  | .number n => (asInt? (.number n)).map (· != 0)
  | .text s =>
    match Text.trimmed s with
    | "1" | "true" => some true
    | "0" | "false" => some false
    | _ => none

end ParamValue

structure ParamTable.Row where
  value : Json
  help : Option String

abbrev ParamTable := List (String × List (String × ParamTable.Row))

namespace ParamTable

def Row.toJson (row : Row) : Json :=
  .object (("value", row.value) :: (row.help.map fun help => ("help", Json.string help)).toList)

def Row.read? (tree : Json.Tree) : Option Row := do
  let [value, help] ← tree.fields? ["value", "help"] | none
  let value ← Field.required (Json.Tree.value? 3) value
  let help ← Field.optional Json.Tree.text? help
  some ⟨value, help⟩

def toJson (table : ParamTable) : Json :=
  .object (table.map fun (name, rows) =>
    (name, .object (rows.map fun (name, row) => (name, row.toJson))))

def read? (tree : Json.Tree) : Option ParamTable :=
  tree.map? (Json.Tree.map? Row.read?)

end ParamTable
end ModulatorHealth
