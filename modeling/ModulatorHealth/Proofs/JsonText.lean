import ModulatorHealth.Json.Printer
import ModulatorHealth.Proofs.JsonReading

/-! JSON text is read as the value for which it was written, whatever characters its strings hold.
Doubles are left out, since the reader rounds them step by step. -/
namespace ModulatorHealth.Json

namespace Numeral

theorem decimalDigits_ne_zero_cons (n : Nat) (c : Char) (more : List Char) :
    decimalDigits n ≠ '0' :: c :: more := by
  intro row
  rcases Nat.eq_zero_or_pos n with rfl | pos
  · cases row
  · exact head?_decimalDigits pos (row ▸ rfl)

theorem spells_decimalDigits (n : Nat) (negative : Bool) :
    Spells ((if negative then ['-'] else []) ++ decimalDigits n)
      ⟨negative, decimalDigits n, [], 0, true⟩ := by
  simpa using Spells.parts negative (isRow_decimalDigits n) (decimalDigits_ne_zero_cons n) .absent .absent

theorem number?_decimalDigits {n : Int}
    (fits : -9223372036854775808 ≤ n ∧ n < 18446744073709551616) :
    number? ⟨n < 0, decimalDigits n.natAbs, [], 0, true⟩ = some (.integer n fits) := by
  have value : (if decide (n < 0) = true then -(n.natAbs : Int) else n.natAbs) = n := by
    simp only [decide_eq_true_eq]
    split <;> omega
  have plain : ¬(decide (n < 0) = true ∧ n = 0) := by
    simp only [decide_eq_true_eq]
    omega
  unfold number?
  dsimp only
  rw [natOfDigits_decimalDigits, value, if_pos ⟨rfl, plain⟩, Number.ofInt?, dif_pos fits]

end Numeral

namespace Parser

section Leaves

theorem hexUnit?_hexDigit :
    ∀ n < 32, hexUnit? '0' '0' (hexDigit (n / 16)) (hexDigit n) = some n := by decide

/-- Quotes and backslashes are escaped by a backslash, control characters by a letter or by their
number, and all else stands for itself. -/
theorem spellsUnits_cons_escape (c : Char) {cs : List Char} {units : List Nat}
    (spelled : SpellsUnits cs units) : SpellsUnits (escape c ++ cs) (c.toNat :: units) := by
  unfold escape
  split_ifs with quote backslash printable
  · subst quote
    exact .escape (by rfl) spelled
  · subst backslash
    exact .escape (by rfl) spelled
  · exact .plain printable quote backslash spelled
  · have same := Char.ofNat_toNat c
    split
    case h_6 => exact .unit (hexUnit?_hexDigit c.toNat (by omega)) spelled
    all_goals
      rename_i code
      rw [code] at same
      subst same
      exact .escape (by rfl) spelled

theorem spellsUnits_escape (cs : List Char) : SpellsUnits (cs.flatMap escape) (cs.map Char.toNat) := by
  induction cs with
  | nil => exact .empty
  | cons c cs ih => exact spellsUnits_cons_escape c ih

theorem isSurrogate_toNat (c : Char) :
    isHighSurrogate c.toNat = false ∧ isLowSurrogate c.toNat = false := by
  have valid : c.toNat < 0xD800 ∨ 0xDFFF < c.toNat ∧ c.toNat < 0x110000 := c.valid
  simp [isHighSurrogate, isLowSurrogate]
  omega

theorem joinUnits?_toNat (cs : List Char) : joinUnits? (cs.map Char.toNat) = some cs := by
  induction cs with
  | nil => rfl
  | cons c cs ih =>
    obtain ⟨high, low⟩ := isSurrogate_toNat c
    rw [List.map_cons, joinUnits?.eq_def]
    simp [high, low, ih]

theorem spellsString_quoted (s : String) : SpellsString (quoted s) (some s) := by
  have spelled := SpellsString.quoted (spellsUnits_escape s.toList)
  simpa [quoted, joinUnits?_toNat] using spelled

theorem spells_integer {n : Int} (fits : -9223372036854775808 ≤ n ∧ n < 18446744073709551616) :
    Spells (Number.chars (.integer n fits)) (.number (some (.integer n fits))) := by
  have spelled := Spells.number (Numeral.spells_decimalDigits n.natAbs (n < 0))
  rw [Numeral.number?_decimalDigits fits] at spelled
  simpa [Number.chars] using spelled

end Leaves

end Parser

mutual

def HasNoDouble : Json → Prop
  | .null | .bool _ | .string _ | .number (.integer _ _) => True
  | .number (.double _) => False
  | .array items => NoItemHasDouble items
  | .object members => NoMemberHasDouble members

def NoItemHasDouble : List Json → Prop
  | [] => True
  | item :: items => HasNoDouble item ∧ NoItemHasDouble items

def NoMemberHasDouble : List (String × Json) → Prop
  | [] => True
  | (_, value) :: members => HasNoDouble value ∧ NoMemberHasDouble members

end

namespace Parser

theorem blanks_lineAt (level : Nat) : Blanks (lineAt level) := by
  intro c member
  rcases List.mem_cons.mp member with rfl | space
  · rfl
  · rw [(List.mem_replicate.mp space).2]
    rfl

theorem blanks_nil : Blanks [] := by simp [Blanks]

theorem blanks_space : Blanks [' '] := by simp [Blanks, isBlank]

section Compact

mutual

theorem spells_chars : (value : Json) → value.HasNoDouble → Spells value.chars (.ofJson value)
  | .null, _ => .null
  | .bool true, _ => .yes
  | .bool false, _ => .no
  | .number (.integer _ fits), _ => spells_integer fits
  | .string s, _ => .string (spellsString_quoted s)
  | .array [], _ => .nothing blanks_nil
  | .array (item :: items), ⟨no, no'⟩ => by
    have all := spellsItems_moreItems items no' (spells_chars item no)
    simpa [chars, Tree.ofJson, Tree.ofItems] using Spells.array all
  | .object [], _ => .empty blanks_nil
  | .object ((name, value) :: members), ⟨no, no'⟩ => by
    have all := spellsMembers_moreMembers members no' name (spells_chars value no)
    simpa [chars, Tree.ofJson, Tree.ofMembers] using Spells.object all

theorem spellsItems_moreItems {cs : List Char} {tree : Tree} : (items : List Json) →
    NoItemHasDouble items → Spells cs tree →
    SpellsItems (cs ++ moreItems items ++ [']']) (tree :: Tree.ofItems items)
  | [], _, first => by
    simpa [moreItems, Tree.ofItems] using SpellsItems.last blanks_nil first blanks_nil
  | item :: items, ⟨no, no'⟩, first => by
    have others := spellsItems_moreItems items no' (spells_chars item no)
    simpa [moreItems, Tree.ofItems] using SpellsItems.cons blanks_nil first blanks_nil others

theorem spellsMembers_moreMembers {cs : List Char} {tree : Tree} :
    (members : List (String × Json)) → NoMemberHasDouble members → (name : String) →
    Spells cs tree → SpellsMembers (quoted name ++ ':' :: cs ++ moreMembers members ++ ['}'])
      ((some name, tree) :: Tree.ofMembers members)
  | [], _, name, first => by
    have last := SpellsMembers.last blanks_nil (spellsString_quoted name) blanks_nil blanks_nil first
      blanks_nil
    simpa [moreMembers, Tree.ofMembers] using last
  | (name', value) :: members, ⟨no, no'⟩, name, first => by
    have others := spellsMembers_moreMembers members no' name' (spells_chars value no)
    have all := SpellsMembers.cons blanks_nil (spellsString_quoted name) blanks_nil blanks_nil first
      blanks_nil others
    simpa [moreMembers, Tree.ofMembers] using all

end

end Compact

section Indented

mutual

theorem spells_charsAt (level : Nat) : (value : Json) → value.HasNoDouble →
    Spells (charsAt level value) (.ofJson value)
  | .null, _ => .null
  | .bool true, _ => .yes
  | .bool false, _ => .no
  | .number (.integer _ fits), _ => spells_integer fits
  | .string s, _ => .string (spellsString_quoted s)
  | .array [], _ => .nothing blanks_nil
  | .array (item :: items), ⟨no, no'⟩ => by
    have first := spells_charsAt (level + 1) item no
    have all := spellsItems_moreItemsAt (level + 1) level items no' first
    simpa [charsAt, Tree.ofJson, Tree.ofItems] using Spells.array all
  | .object [], _ => .empty blanks_nil
  | .object ((name, value) :: members), ⟨no, no'⟩ => by
    have first := spells_charsAt (level + 1) value no
    have all := spellsMembers_moreMembersAt (level + 1) level members no' name first
    simpa [charsAt, Tree.ofJson, Tree.ofMembers] using Spells.object all

theorem spellsItems_moreItemsAt (level outer : Nat) {cs : List Char} {tree : Tree} :
    (items : List Json) → NoItemHasDouble items → Spells cs tree →
    SpellsItems (lineAt level ++ cs ++ moreItemsAt level items ++ lineAt outer ++ [']'])
      (tree :: Tree.ofItems items)
  | [], _, first => by
    have last := SpellsItems.last (blanks_lineAt level) first (blanks_lineAt outer)
    simpa [moreItemsAt, Tree.ofItems] using last
  | item :: items, ⟨no, no'⟩, first => by
    have next := spells_charsAt level item no
    have others := spellsItems_moreItemsAt level outer items no' next
    have all := SpellsItems.cons (blanks_lineAt level) first blanks_nil others
    simpa [moreItemsAt, Tree.ofItems] using all

theorem spellsMembers_moreMembersAt (level outer : Nat) {cs : List Char} {tree : Tree} :
    (members : List (String × Json)) → NoMemberHasDouble members → (name : String) →
    Spells cs tree → SpellsMembers (lineAt level ++ quoted name ++ ':' :: ' ' :: cs
      ++ moreMembersAt level members ++ lineAt outer ++ ['}'])
      ((some name, tree) :: Tree.ofMembers members)
  | [], _, name, first => by
    have last := SpellsMembers.last (blanks_lineAt level) (spellsString_quoted name) blanks_nil
      blanks_space first (blanks_lineAt outer)
    simpa [moreMembersAt, Tree.ofMembers] using last
  | (name', value) :: members, ⟨no, no'⟩, name, first => by
    have next := spells_charsAt level value no
    have others := spellsMembers_moreMembersAt level outer members no' name' next
    have all := SpellsMembers.cons (blanks_lineAt level) (spellsString_quoted name) blanks_nil
      blanks_space first blanks_nil others
    simpa [moreMembersAt, Tree.ofMembers] using all

end

end Indented

end Parser

theorem Tree.parse?_render {value : Json} (no : value.HasNoDouble) :
    Tree.parse? value.render = some (.ofJson value) := by
  refine parse?_eq_some_iff.mpr ⟨[], value.chars, [], ?_, Parser.blanks_nil, ?_, Parser.blanks_nil⟩
  · simp [render]
  · exact Parser.spells_chars value no

theorem Tree.parse?_pretty {value : Json} (no : value.HasNoDouble) {blank : String}
    (blanks : Parser.Blanks blank.toList) :
    Tree.parse? (value.pretty ++ blank) = some (.ofJson value) := by
  refine parse?_eq_some_iff.mpr ⟨[], value.charsAt 0, blank.toList, ?_, Parser.blanks_nil, ?_, blanks⟩
  · simp [pretty]
  · exact Parser.spells_charsAt 0 value no

end ModulatorHealth.Json
