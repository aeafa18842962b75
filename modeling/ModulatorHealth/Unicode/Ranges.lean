import ModulatorHealth.Number.Hexadecimal
import ModulatorHealth.Text.Blank
import ModulatorHealth.Text.Split

/-! Sets of characters as ranges of code points. Tables are kept as text: words between blanks, with
code points in hexadecimal. -/
namespace ModulatorHealth.Unicode

def words (text : String) : List (List Char) :=
  (Text.splitAtEach Text.isBlank text.toList).filter (!·.isEmpty)

structure Span where
  first : Nat
  last : Nat
deriving DecidableEq

namespace Span

def contains (span : Span) (c : Char) : Bool := span.first ≤ c.toNat && c.toNat ≤ span.last

/-- One code point, or two with a dash between. -/
def ofWord? (word : List Char) : Option Span := do
  let first ← natOfHex? (word.takeWhile (· != '-'))
  match word.dropWhile (· != '-') with
  | [] => some ⟨first, first⟩
  | _ :: rest => (natOfHex? rest).map (⟨first, ·⟩)

end Span

structure Ranges where
  spans : List Span
deriving DecidableEq

namespace Ranges

def ofText (text : String) : Ranges := ⟨(words text).filterMap Span.ofWord?⟩

def contains (ranges : Ranges) (c : Char) : Bool := ranges.spans.any (·.contains c)

end Ranges

def classify? {α : Type} (table : List (α × Ranges)) (c : Char) : Option α :=
  (table.find? fun entry => entry.2.contains c).map (·.1)

def charsOfWord (word : List Char) : List Char :=
  ((Text.splitAtEach (· == '.') word).filterMap natOfHex?).map Char.ofNat

end ModulatorHealth.Unicode
