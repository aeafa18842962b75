import ModulatorHealth.Proofs.NumeralGrammar

/-! The grammar of JSON text: the texts that spell a string or a value, with blanks wherever they may
stand. What the reader takes is spelled by the text that it took. -/
namespace ModulatorHealth.Json.Parser

section Strings

/-- The code units of the text between two quotes. A character stands for itself unless it is a quote,
a backslash or a control character; an escape names a character or a code unit. -/
inductive SpellsUnits : List Char → List Nat → Prop where
  | empty : SpellsUnits [] []
  | plain {c : Char} {cs : List Char} {units : List Nat} : 0x20 ≤ c.toNat → c ≠ '"' → c ≠ '\\' →
      SpellsUnits cs units → SpellsUnits (c :: cs) (c.toNat :: units)
  | escape {e c : Char} {cs : List Char} {units : List Nat} : simpleEscape? e = some c →
      SpellsUnits cs units → SpellsUnits ('\\' :: e :: cs) (c.toNat :: units)
  | unit {a b c d : Char} {unit : Nat} {cs : List Char} {units : List Nat} :
      hexUnit? a b c d = some unit → SpellsUnits cs units →
      SpellsUnits ('\\' :: 'u' :: a :: b :: c :: d :: cs) (unit :: units)

/-- A string with its quotes; it has no value if its code units are no text. -/
inductive SpellsString : List Char → Option String → Prop where
  | quoted {cs : List Char} {units : List Nat} : SpellsUnits cs units →
      SpellsString ('"' :: cs ++ ['"']) ((joinUnits? units).map String.ofList)

theorem scanUnits?_sound {cs rest : List Char} {units : List Nat}
    (read : scanUnits? cs = some (units, rest)) :
    ∃ text, cs = text ++ '"' :: rest ∧ SpellsUnits text units := by
  fun_induction scanUnits? cs generalizing units with
  | case1 => cases read
  | case2 after =>
    cases read
    exact ⟨[], rfl, .empty⟩
  | case3 a b c d after ih =>
    obtain ⟨unit, digits, read⟩ := Option.bind_eq_some_iff.mp read
    obtain ⟨⟨units, _⟩, later, read⟩ := Option.map_eq_some_iff.mp read
    cases read
    obtain ⟨text, rfl, spelled⟩ := ih later
    exact ⟨'\\' :: 'u' :: a :: b :: c :: d :: text, rfl, .unit digits spelled⟩
  | case4 e after _ ih =>
    obtain ⟨c, named, read⟩ := Option.bind_eq_some_iff.mp read
    obtain ⟨⟨units, _⟩, later, read⟩ := Option.map_eq_some_iff.mp read
    cases read
    obtain ⟨text, rfl, spelled⟩ := ih later
    exact ⟨'\\' :: e :: text, rfl, .escape named spelled⟩
  | case5 => cases read
  | case6 c after no_quote _ _ printable ih =>
    obtain ⟨⟨units, _⟩, later, read⟩ := Option.map_eq_some_iff.mp read
    cases read
    obtain ⟨text, rfl, spelled⟩ := ih later
    rw [not_or, Nat.not_lt] at printable
    exact ⟨c :: text, rfl, .plain printable.1 no_quote printable.2 spelled⟩

theorem SpellsUnits.scan {text : List Char} {units : List Nat} (spelled : SpellsUnits text units)
    (rest : List Char) : scanUnits? (text ++ '"' :: rest) = some (units, rest) := by
  induction spelled with
  | empty => simp [scanUnits?]
  | plain printable no_quote no_escape _ ih =>
    have shown := Nat.not_lt.mpr printable
    simp [scanUnits?, no_escape, shown, ih]
  | @escape e c cs units named _ ih =>
    have other : e ≠ 'u' := by
      rintro rfl
      cases named
    simp [scanUnits?, other, named, ih]
  | unit digits _ ih => simp [scanUnits?, digits, ih]

theorem scanString?_sound {cs rest : List Char} {s : Option String}
    (read : scanString? cs = some (s, rest)) :
    ∃ text, '"' :: cs = text ++ rest ∧ SpellsString text s := by
  obtain ⟨⟨units, _⟩, scanned, same⟩ := Option.map_eq_some_iff.mp read
  cases same
  obtain ⟨text, rfl, spelled⟩ := scanUnits?_sound scanned
  exact ⟨'"' :: text ++ ['"'], by simp, .quoted spelled⟩

theorem SpellsString.scan {text : List Char} {s : Option String} (spelled : SpellsString text s) :
    ∃ cs, text = '"' :: cs ∧ ∀ rest, scanString? (cs ++ rest) = some (s, rest) := by
  cases spelled with
  | @quoted cs units spelled =>
    refine ⟨cs ++ ['"'], rfl, fun rest => ?_⟩
    simp [scanString?, spelled.scan]

end Strings

section Grammar

def Blanks (cs : List Char) : Prop := ∀ c ∈ cs, isBlank c = true

mutual

inductive Spells : List Char → Tree → Prop where
  | null : Spells ['n', 'u', 'l', 'l'] .null
  | yes : Spells ['t', 'r', 'u', 'e'] (.bool true)
  | no : Spells ['f', 'a', 'l', 's', 'e'] (.bool false)
  | string {text : List Char} {s : Option String} : SpellsString text s → Spells text (.string s)
  | number {text : List Char} {n : Numeral} : Numeral.Spells text n → Spells text (.number n.number?)
  | nothing {blank : List Char} : Blanks blank → Spells ('[' :: blank ++ [']']) (.array [])
  | array {text : List Char} {items : List Tree} : SpellsItems text items →
      Spells ('[' :: text) (.array items)
  | empty {blank : List Char} : Blanks blank → Spells ('{' :: blank ++ ['}']) (.object [])
  | object {text : List Char} {members : List (Option String × Tree)} : SpellsMembers text members →
      Spells ('{' :: text) (.object members)

inductive SpellsItems : List Char → List Tree → Prop where
  | last {before text after : List Char} {item : Tree} : Blanks before → Spells text item →
      Blanks after → SpellsItems (before ++ text ++ after ++ [']']) [item]
  | cons {before text after more : List Char} {item : Tree} {items : List Tree} : Blanks before →
      Spells text item → Blanks after → SpellsItems more items →
      SpellsItems (before ++ text ++ after ++ ',' :: more) (item :: items)

inductive SpellsMembers : List Char → List (Option String × Tree) → Prop where
  | last {before key gap between text after : List Char} {name : Option String} {value : Tree} :
      Blanks before → SpellsString key name → Blanks gap → Blanks between → Spells text value →
      Blanks after →
      SpellsMembers (before ++ key ++ gap ++ ':' :: between ++ text ++ after ++ ['}'])
        [(name, value)]
  | cons {before key gap between text after more : List Char} {name : Option String} {value : Tree}
      {members : List (Option String × Tree)} :
      Blanks before → SpellsString key name → Blanks gap → Blanks between → Spells text value →
      Blanks after → SpellsMembers more members →
      SpellsMembers (before ++ key ++ gap ++ ':' :: between ++ text ++ after ++ ',' :: more)
        ((name, value) :: members)

end

end Grammar

section Sound

theorem skipBlanks_split (cs : List Char) : ∃ before, cs = before ++ skipBlanks cs ∧ Blanks before :=
  exists_append_dropWhile isBlank cs

theorem exists_blanks {cs rest : List Char} (skipped : skipBlanks cs = rest) :
    ∃ before, cs = before ++ rest ∧ Blanks before := by
  obtain ⟨before, split, blanks⟩ := skipBlanks_split cs
  exact ⟨before, skipped ▸ split, blanks⟩

/-- What is read as a value with this fuel is spelled before the rest. -/
def ValueSound (fuel : Nat) (cs : List Char) : Prop :=
  ∀ tree rest, scanValue? fuel cs = some (tree, rest) →
    ∃ before text, cs = before ++ text ++ rest ∧ Blanks before ∧ Spells text tree

def ItemsSound (fuel : Nat) (cs : List Char) : Prop :=
  ∀ items rest, scanItems? fuel cs = some (items, rest) →
    ∃ text, cs = text ++ rest ∧ SpellsItems text items

def MembersSound (fuel : Nat) (cs : List Char) : Prop :=
  ∀ members rest, scanMembers? fuel cs = some (members, rest) →
    ∃ text, cs = text ++ rest ∧ SpellsMembers text members

theorem scanName?_sound {cs rest : List Char} {name : Option String}
    (read : scanName? cs = some (name, rest)) :
    ∃ before key, cs = before ++ key ++ rest ∧ Blanks before ∧ SpellsString key name := by
  unfold scanName? at read
  split at read
  · rename_i skipped
    obtain ⟨before, rfl, blanks⟩ := exists_blanks skipped
    obtain ⟨key, split, spelled⟩ := scanString?_sound read
    exact ⟨before, key, by simp [split], blanks, spelled⟩
  · cases read

theorem itemsSound_succ {fuel : Nat} {cs : List Char} (value : ValueSound fuel cs)
    (items : ∀ rest, ItemsSound fuel rest) : ItemsSound (fuel + 1) cs := by
  intro trees rest read
  rw [scanItems?] at read
  obtain ⟨⟨item, behind⟩, first, more⟩ := Option.bind_eq_some_iff.mp read
  obtain ⟨before, text, rfl, blanks, spelled⟩ := value item behind first
  dsimp only at more
  split at more
  · rename_i next skipped
    obtain ⟨⟨others, _⟩, later, same⟩ := Option.map_eq_some_iff.mp more
    cases same
    obtain ⟨after, rfl, blanks'⟩ := exists_blanks skipped
    obtain ⟨text', rfl, spelled'⟩ := items next others _ later
    exact ⟨before ++ text ++ after ++ ',' :: text', by simp, .cons blanks spelled blanks' spelled'⟩
  · rename_i skipped
    cases more
    obtain ⟨after, rfl, blanks'⟩ := exists_blanks skipped
    exact ⟨before ++ text ++ after ++ [']'], by simp, .last blanks spelled blanks'⟩
  · cases more

theorem membersSound_succ {fuel : Nat} {cs : List Char} (values : ∀ rest, ValueSound fuel rest)
    (members : ∀ rest, MembersSound fuel rest) : MembersSound (fuel + 1) cs := by
  intro trees rest read
  rw [scanMembers?] at read
  obtain ⟨⟨name, colon⟩, named, more⟩ := Option.bind_eq_some_iff.mp read
  obtain ⟨before, key, rfl, blanks, spelledKey⟩ := scanName?_sound named
  simp only at more
  split at more
  · rename_i value skipped
    obtain ⟨gap, rfl, blanksGap⟩ := exists_blanks skipped
    obtain ⟨⟨tree, behind⟩, first, others⟩ := Option.bind_eq_some_iff.mp more
    obtain ⟨between, text, rfl, blanksBetween, spelled⟩ := values value tree behind first
    simp only at others
    split at others
    · rename_i next skipped
      obtain ⟨⟨entries, _⟩, later, same⟩ := Option.map_eq_some_iff.mp others
      cases same
      obtain ⟨after, rfl, blanksAfter⟩ := exists_blanks skipped
      obtain ⟨text', rfl, spelled'⟩ := members next entries _ later
      refine ⟨before ++ key ++ gap ++ ':' :: between ++ text ++ after ++ ',' :: text', by simp, ?_⟩
      exact .cons blanks spelledKey blanksGap blanksBetween spelled blanksAfter spelled'
    · rename_i skipped
      cases others
      obtain ⟨after, rfl, blanksAfter⟩ := exists_blanks skipped
      refine ⟨before ++ key ++ gap ++ ':' :: between ++ text ++ after ++ ['}'], by simp, ?_⟩
      exact .last blanks spelledKey blanksGap blanksBetween spelled blanksAfter
    · cases others
  · cases more

/-- By induction along the reader, one case for each of its branches. -/
theorem scanValue?_sound (fuel : Nat) (cs : List Char) : ValueSound fuel cs := by
  refine scanValue?.induct ValueSound MembersSound ItemsSound ?none ?null ?yes ?no ?string
    ?nothing ?array ?empty ?object ?number ?noMembers ?members ?noItems ?items fuel cs
  case none | noMembers | noItems =>
    intro cs result rest read
    cases read
  case null | yes | no =>
    intro fuel cs after skipped tree rest read
    rw [scanValue?, skipped] at read
    obtain ⟨before, rfl, blanks⟩ := exists_blanks skipped
    cases read
    first
      | exact ⟨before, ['n', 'u', 'l', 'l'], by simp, blanks, .null⟩
      | exact ⟨before, ['t', 'r', 'u', 'e'], by simp, blanks, .yes⟩
      | exact ⟨before, ['f', 'a', 'l', 's', 'e'], by simp, blanks, .no⟩
  case string =>
    intro fuel cs after skipped tree rest read
    rw [scanValue?, skipped] at read
    obtain ⟨before, rfl, blanks⟩ := exists_blanks skipped
    obtain ⟨⟨s, _⟩, scanned, same⟩ := Option.map_eq_some_iff.mp read
    cases same
    obtain ⟨text, split, spelled⟩ := scanString?_sound scanned
    exact ⟨before, text, by simp [split], blanks, .string spelled⟩
  case nothing =>
    intro fuel cs after skipped rest' closed tree rest read
    rw [scanValue?, skipped] at read
    obtain ⟨before, rfl, blanks⟩ := exists_blanks skipped
    obtain ⟨blank, rfl, blanks'⟩ := exists_blanks closed
    simp only [closed] at read
    cases read
    exact ⟨before, '[' :: blank ++ [']'], by simp, blanks, .nothing blanks'⟩
  case array =>
    intro fuel cs after skipped unclosed items tree rest read
    simp only [scanValue?, skipped] at read
    obtain ⟨before, rfl, blanks⟩ := exists_blanks skipped
    obtain ⟨⟨trees, _⟩, scanned, same⟩ := Option.map_eq_some_iff.mp read
    cases same
    obtain ⟨text, rfl, spelled⟩ := items trees _ scanned
    exact ⟨before, '[' :: text, by simp, blanks, .array spelled⟩
  case empty =>
    intro fuel cs after skipped rest' closed tree rest read
    rw [scanValue?, skipped] at read
    obtain ⟨before, rfl, blanks⟩ := exists_blanks skipped
    obtain ⟨blank, rfl, blanks'⟩ := exists_blanks closed
    simp only [closed] at read
    cases read
    exact ⟨before, '{' :: blank ++ ['}'], by simp, blanks, .empty blanks'⟩
  case object =>
    intro fuel cs after skipped unclosed members tree rest read
    simp only [scanValue?, skipped] at read
    obtain ⟨before, rfl, blanks⟩ := exists_blanks skipped
    obtain ⟨⟨trees, _⟩, scanned, same⟩ := Option.map_eq_some_iff.mp read
    cases same
    obtain ⟨text, rfl, spelled⟩ := members trees _ scanned
    exact ⟨before, '{' :: text, by simp, blanks, .object spelled⟩
  case number =>
    intro fuel cs noNull noYes noNo noString noArray noObject tree rest read
    rw [scanValue?] at read
    obtain ⟨before, split, blanks⟩ := skipBlanks_split cs
    generalize skipBlanks cs = solid at *
    subst split
    dsimp only at read
    split at read
    · exact absurd rfl (noNull _)
    · exact absurd rfl (noYes _)
    · exact absurd rfl (noNo _)
    · exact absurd rfl (noString _)
    · exact absurd rfl (noArray _)
    · exact absurd rfl (noObject _)
    · obtain ⟨⟨n, _⟩, scanned, same⟩ := Option.map_eq_some_iff.mp read
      cases same
      obtain ⟨text, rfl, spelled⟩ := Numeral.scan?_sound scanned
      exact ⟨before, text, by simp, blanks, .number spelled⟩
  case members =>
    intro fuel cs values members
    exact membersSound_succ values members
  case items =>
    intro fuel cs value items
    exact itemsSound_succ value items

end Sound

end ModulatorHealth.Json.Parser
