import ModulatorHealth.Number.Decimal

/-! JSON values. An object lists its members in the order in which they are written. -/
namespace ModulatorHealth

/-- A JSON number: an integer that fits 64 bits, signed or unsigned, or any finite double. -/
inductive Json.Number where
  | integer (value : Int)
      (in_range : -9223372036854775808 ≤ value ∧ value < 18446744073709551616)
  | double (value : Finite64)
deriving DecidableEq

inductive Json where
  | null
  | bool (value : Bool)
  | number (value : Json.Number)
  | string (value : String)
  | array (items : List Json)
  | object (members : List (String × Json))

namespace Json

instance : Inhabited Json := ⟨.null⟩

def Number.ofInt? (n : Int) : Option Number :=
  if h : -9223372036854775808 ≤ n ∧ n < 18446744073709551616 then some (.integer n h) else none

def Number.ofUInt64 (n : UInt64) : Number :=
  .integer n.toNat (by have := n.toNat_lt; omega)

def Number.ofUInt32 (n : UInt32) : Number :=
  .integer n.toNat (by have := n.toNat_lt; omega)

def Number.ofInt64 (n : Int64) : Number :=
  .integer n.toInt (by have := n.toInt_lt; have := n.le_toInt; omega)

def Number.toDouble? : Number → Option Finite64
  | .integer n _ => Finite64.ofInt? n
  | .double x => some x

def ofText? : Option String → Json
  | some text => .string text
  | none => .null

end Json
end ModulatorHealth
