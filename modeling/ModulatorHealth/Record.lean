import ModulatorHealth.Number.Decimal

/-! Records read from documents. A format says which parts of a record it wrote; the readers of a
record then decide what may be missing, and are shared by all formats. -/
namespace ModulatorHealth

/-- A document format that can write records, texts and integers. -/
class Document (τ : Type) where
  /-- The fields under these names, in this order; none if the part is no record of them. -/
  fields? : List String → τ → Option (List (Option τ))
  text? : τ → Option String
  integer? : τ → Option Int
  isNull : τ → Bool

namespace Field

def required {τ α : Type} (read : τ → Option α) (field : Option τ) : Option α := field.bind read

def orElse {τ α : Type} (absent : α) (read : τ → Option α) : Option τ → Option α
  | none => some absent
  | some part => read part

def optional {τ α : Type} [Document τ] (read : τ → Option α) : Option τ → Option (Option α)
  | none => some none
  | some part => if Document.isNull part then some none else (read part).map some

end Field

namespace Document

variable {τ : Type} [Document τ]

def natBelow? (bound : Nat) (part : τ) : Option Nat :=
  (integer? part).bind fun n => if 0 ≤ n ∧ n < bound then some n.toNat else none

def uint64? (part : τ) : Option UInt64 := (natBelow? UInt64.size part).map UInt64.ofNat

def uint32? (part : τ) : Option UInt32 := (natBelow? UInt32.size part).map UInt32.ofNat

def int64? (part : τ) : Option Int64 :=
  (integer? part).bind fun n => if FitsInt64 n then some (Int64.ofInt n) else none

end Document
end ModulatorHealth
