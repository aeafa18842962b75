import ModulatorHealth.Proofs.JsonGrammar

/-! The reader takes every text of the grammar, and so exactly these. It stops where a value ends, since
nothing that may follow a value belongs to it. -/
namespace ModulatorHealth.Json

namespace Parser

section Complete

variable {before key gap between after cs more rest : List Char} {name : Option String} {tree : Tree}
  {items : List Tree} {members : List (Option String × Tree)}

theorem skipBlanks_append (blanks : Blanks before) (rest : List Char) :
    skipBlanks (before ++ rest) = skipBlanks rest :=
  List.dropWhile_append_of_pos blanks

theorem skipBlanks_cons {c : Char} (solid : isBlank c = false) (rest : List Char) :
    skipBlanks (c :: rest) = c :: rest := by
  simp [skipBlanks, solid]

theorem scanValue?_blanks (blanks : Blanks before) (fuel : Nat) (rest : List Char) :
    scanValue? fuel (before ++ rest) = scanValue? fuel rest := by
  cases fuel with
  | zero => rfl
  | succ fuel => simp only [scanValue?, skipBlanks_append blanks]

theorem stops_cons {c : Char} (ends : isBlank c = true ∨ c ∈ [',', ']', '}']) :
    Numeral.Stops (c :: rest) := by
  have solid : [' ', '\t', '\n', '\r', ',', ']', '}'].all
      (fun c => !c.isDigit && c != '.' && c != 'e' && c != 'E') = true := by decide
  have listed : c ∈ [' ', '\t', '\n', '\r', ',', ']', '}'] := by
    rcases ends with blank | closes
    · simp only [isBlank, Bool.or_eq_true, beq_iff_eq] at blank
      rcases blank with ((rfl | rfl) | rfl) | rfl <;> simp
    · exact List.mem_append_right [' ', '\t', '\n', '\r'] closes
  intro d first
  obtain rfl : c = d := by simpa using first
  simpa [and_assoc] using List.all_eq_true.mp solid c listed

theorem stops_of_blanks {c : Char} (blanks : Blanks after) (closes : c ∈ [',', ']', '}']) :
    Numeral.Stops (after ++ c :: rest) := by
  cases after with
  | nil => exact stops_cons (.inr closes)
  | cons d after => exact stops_cons (.inl (blanks d List.mem_cons_self))

/-- The text is a value, and its length is fuel enough to read it before anything that cannot
belong to it. -/
structure Reads (cs : List Char) (tree : Tree) : Prop where
  starts : ∃ c more, cs = c :: more ∧ isBlank c = false ∧ c ≠ ']'
  reads : ∀ fuel rest, cs.length ≤ fuel → Numeral.Stops rest →
    scanValue? fuel (cs ++ rest) = some (tree, rest)

structure ReadsItems (cs : List Char) (items : List Tree) : Prop where
  starts : ∀ rest more, skipBlanks (cs ++ rest) ≠ ']' :: more
  reads : ∀ fuel rest, cs.length ≤ fuel → scanItems? fuel (cs ++ rest) = some (items, rest)

structure ReadsMembers (cs : List Char) (members : List (Option String × Tree)) : Prop where
  starts : ∀ rest more, skipBlanks (cs ++ rest) ≠ '}' :: more
  reads : ∀ fuel rest, cs.length ≤ fuel → scanMembers? fuel (cs ++ rest) = some (members, rest)

theorem Reads.starts_item (item : Reads cs tree) (blanks : Blanks before) (rest more : List Char) :
    skipBlanks (before ++ (cs ++ rest)) ≠ ']' :: more := by
  obtain ⟨c, others, rfl, solid, unclosed⟩ := item.starts
  rw [skipBlanks_append blanks, List.cons_append, skipBlanks_cons solid]
  exact fun same => unclosed (List.cons.inj same).1

theorem ReadsItems.last (blanks : Blanks before) (item : Reads cs tree) (blanks' : Blanks after) :
    ReadsItems (before ++ cs ++ after ++ [']']) [tree] where
  starts rest more := by
    simpa using item.starts_item blanks (after ++ ']' :: rest) more
  reads fuel rest enough := by
    simp only [List.length_append, List.length_singleton] at enough
    obtain ⟨fuel, rfl⟩ := Nat.exists_eq_succ_of_ne_zero (show fuel ≠ 0 by omega)
    have value := item.reads fuel (after ++ ']' :: rest) (by omega)
      (stops_of_blanks blanks' (by decide))
    have close := skipBlanks_cons (show isBlank ']' = false by decide) rest
    simp [scanItems?, scanValue?_blanks blanks, value, skipBlanks_append blanks', close]

theorem ReadsItems.cons (blanks : Blanks before) (item : Reads cs tree) (blanks' : Blanks after)
    (others : ReadsItems more items) :
    ReadsItems (before ++ cs ++ after ++ ',' :: more) (tree :: items) where
  starts rest more' := by
    simpa using item.starts_item blanks (after ++ ',' :: (more ++ rest)) more'
  reads fuel rest enough := by
    simp only [List.length_append, List.length_cons] at enough
    obtain ⟨fuel, rfl⟩ := Nat.exists_eq_succ_of_ne_zero (show fuel ≠ 0 by omega)
    have value := item.reads fuel (after ++ ',' :: (more ++ rest)) (by omega)
      (stops_of_blanks blanks' (by decide))
    have comma := skipBlanks_cons (show isBlank ',' = false by decide) (more ++ rest)
    have later := others.reads fuel rest (by omega)
    simp [scanItems?, scanValue?_blanks blanks, value, skipBlanks_append blanks', comma, later]

theorem skipBlanks_key (blanks : Blanks before) (spelled : SpellsString key name)
    (rest : List Char) : skipBlanks (before ++ (key ++ rest)) = key ++ rest := by
  obtain ⟨cs, rfl, -⟩ := spelled.scan
  rw [skipBlanks_append blanks, List.cons_append, skipBlanks_cons (by decide)]

theorem starts_member (blanks : Blanks before) (spelled : SpellsString key name)
    (rest more : List Char) : skipBlanks (before ++ (key ++ rest)) ≠ '}' :: more := by
  rw [skipBlanks_key blanks spelled]
  obtain ⟨cs, rfl, -⟩ := spelled.scan
  exact fun same => absurd (List.cons.inj same).1 (by decide)

theorem scanName?_key (blanks : Blanks before) (spelled : SpellsString key name)
    (rest : List Char) : scanName? (before ++ (key ++ rest)) = some (name, rest) := by
  rw [scanName?, skipBlanks_key blanks spelled]
  obtain ⟨cs, rfl, read⟩ := spelled.scan
  exact read rest

theorem ReadsMembers.last (blanks : Blanks before) (spelled : SpellsString key name)
    (blanksGap : Blanks gap) (blanks' : Blanks between) (value : Reads cs tree)
    (blanks'' : Blanks after) :
    ReadsMembers (before ++ key ++ gap ++ ':' :: between ++ cs ++ after ++ ['}']) [(name, tree)] where
  starts rest more := by
    simpa using
      starts_member blanks spelled (gap ++ ':' :: (between ++ (cs ++ (after ++ '}' :: rest)))) more
  reads fuel rest enough := by
    simp only [List.length_append, List.length_cons, List.length_nil] at enough
    obtain ⟨fuel, rfl⟩ := Nat.exists_eq_succ_of_ne_zero (show fuel ≠ 0 by omega)
    have read := value.reads fuel (after ++ '}' :: rest) (by omega)
      (stops_of_blanks blanks'' (by decide))
    have colon := skipBlanks_cons (show isBlank ':' = false by decide)
    have close := skipBlanks_cons (show isBlank '}' = false by decide) rest
    simp [scanMembers?, scanName?_key blanks spelled, skipBlanks_append blanksGap, colon,
      scanValue?_blanks blanks', read, skipBlanks_append blanks'', close]

theorem ReadsMembers.cons (blanks : Blanks before) (spelled : SpellsString key name)
    (blanksGap : Blanks gap) (blanks' : Blanks between) (value : Reads cs tree)
    (blanks'' : Blanks after) (others : ReadsMembers more members) :
    ReadsMembers (before ++ key ++ gap ++ ':' :: between ++ cs ++ after ++ ',' :: more)
      ((name, tree) :: members) where
  starts rest more' := by
    simpa using starts_member blanks spelled
      (gap ++ ':' :: (between ++ (cs ++ (after ++ ',' :: (more ++ rest))))) more'
  reads fuel rest enough := by
    simp only [List.length_append, List.length_cons] at enough
    obtain ⟨fuel, rfl⟩ := Nat.exists_eq_succ_of_ne_zero (show fuel ≠ 0 by omega)
    have read := value.reads fuel (after ++ ',' :: (more ++ rest)) (by omega)
      (stops_of_blanks blanks'' (by decide))
    have colon := skipBlanks_cons (show isBlank ':' = false by decide)
    have comma := skipBlanks_cons (show isBlank ',' = false by decide) (more ++ rest)
    have later := others.reads fuel rest (by omega)
    simp [scanMembers?, scanName?_key blanks spelled, skipBlanks_append blanksGap, colon,
      scanValue?_blanks blanks', read, skipBlanks_append blanks'', comma, later]

theorem Reads.of_succ {c : Char} (solid : isBlank c = false ∧ c ≠ ']')
    (step : ∀ fuel rest, cs.length ≤ fuel → Numeral.Stops rest →
      scanValue? (fuel + 1) (c :: (cs ++ rest)) = some (tree, rest)) : Reads (c :: cs) tree where
  starts := ⟨c, cs, rfl, solid⟩
  reads fuel rest enough stops := by
    rw [List.length_cons] at enough
    obtain ⟨fuel, rfl⟩ := Nat.exists_eq_succ_of_ne_zero (show fuel ≠ 0 by omega)
    exact step fuel rest (by omega) stops

theorem reads_null : Reads ['n', 'u', 'l', 'l'] .null :=
  .of_succ (by decide) fun fuel rest _ _ => by
    simp [scanValue?, skipBlanks, isBlank]

theorem reads_true : Reads ['t', 'r', 'u', 'e'] (.bool true) :=
  .of_succ (by decide) fun fuel rest _ _ => by
    simp [scanValue?, skipBlanks, isBlank]

theorem reads_false : Reads ['f', 'a', 'l', 's', 'e'] (.bool false) :=
  .of_succ (by decide) fun fuel rest _ _ => by
    simp [scanValue?, skipBlanks, isBlank]

theorem reads_string {s : Option String} (spelled : SpellsString cs s) : Reads cs (.string s) := by
  obtain ⟨cs, rfl, read⟩ := spelled.scan
  refine .of_succ (by decide) fun fuel rest _ _ => ?_
  simp [scanValue?, skipBlanks, isBlank, read]

theorem ne_of_numeral {c : Char} (first : c = '-' ∨ c.isDigit = true) :
    ∀ d ∈ [' ', '\t', '\n', '\r', 'n', 't', 'f', '"', '[', '{', ']'], c ≠ d := by
  rintro d member rfl
  have none : [' ', '\t', '\n', '\r', 'n', 't', 'f', '"', '[', '{', ']'].all
      (fun d => !(d == '-' || d.isDigit)) = true := by decide
  have other := List.all_eq_true.mp none c member
  simp only [Bool.not_eq_true', Bool.or_eq_false_iff, beq_eq_false_iff_ne] at other
  rcases first with dash | digit
  · exact other.1 dash
  · exact absurd digit (by simp [other.2])

theorem reads_number {n : Numeral} (spelled : Numeral.Spells cs n) : Reads cs (.number n.number?) := by
  obtain ⟨c, cs, rfl, first⟩ := spelled.exists_cons
  have other := ne_of_numeral first
  simp only [List.mem_cons, forall_eq_or_imp] at other
  refine .of_succ (by simp [isBlank, other]) fun fuel rest _ stops => ?_
  have scanned := spelled.scan stops
  simp [scanValue?, skipBlanks, isBlank, other] at scanned ⊢
  simp [scanned]

theorem reads_array_nil (blanks : Blanks before) : Reads ('[' :: before ++ [']']) (.array []) :=
  .of_succ (by decide) fun fuel rest _ _ => by
    have bracket := skipBlanks_cons (show isBlank '[' = false by decide)
    have close := skipBlanks_cons (show isBlank ']' = false by decide) rest
    simp [scanValue?, bracket, skipBlanks_append blanks, close]

theorem reads_object_nil (blanks : Blanks before) : Reads ('{' :: before ++ ['}']) (.object []) :=
  .of_succ (by decide) fun fuel rest _ _ => by
    have brace := skipBlanks_cons (show isBlank '{' = false by decide)
    have close := skipBlanks_cons (show isBlank '}' = false by decide) rest
    simp [scanValue?, brace, skipBlanks_append blanks, close]

theorem ReadsItems.array (read : ReadsItems cs items) : Reads ('[' :: cs) (.array items) :=
  .of_succ (by decide) fun fuel rest enough _ => by
    have bracket := skipBlanks_cons (show isBlank '[' = false by decide)
    have starts := read.starts rest
    simp [scanValue?, bracket, read.reads fuel rest enough]

theorem ReadsMembers.object (read : ReadsMembers cs members) : Reads ('{' :: cs) (.object members) :=
  .of_succ (by decide) fun fuel rest enough _ => by
    have brace := skipBlanks_cons (show isBlank '{' = false by decide)
    have starts := read.starts rest
    simp [scanValue?, brace, read.reads fuel rest enough]

mutual

theorem Spells.reads {text : List Char} {tree : Tree} : Spells text tree → Reads text tree
  | .null => reads_null
  | .yes => reads_true
  | .no => reads_false
  | .string spelled => reads_string spelled
  | .number spelled => reads_number spelled
  | .nothing blanks => reads_array_nil blanks
  | .array items => items.reads.array
  | .empty blanks => reads_object_nil blanks
  | .object members => members.reads.object

theorem SpellsItems.reads {text : List Char} {items : List Tree} :
    SpellsItems text items → ReadsItems text items
  | .last blanks item blanks' => .last blanks item.reads blanks'
  | .cons blanks item blanks' others => .cons blanks item.reads blanks' others.reads

theorem SpellsMembers.reads {text : List Char} {members : List (Option String × Tree)} :
    SpellsMembers text members → ReadsMembers text members
  | .last blanks key gap blanks' value blanks'' => .last blanks key gap blanks' value.reads blanks''
  | .cons blanks key gap blanks' value blanks'' others =>
    .cons blanks key gap blanks' value.reads blanks'' others.reads

end

theorem parseChars?_of_spells {blank : List Char} (blanks : Blanks before) (spelled : Spells cs tree)
    (blanks' : Blanks blank) : parseChars? (before ++ cs ++ blank) = some tree := by
  have stops : Numeral.Stops blank := by
    cases blank with
    | nil => simp [Numeral.Stops]
    | cons c blank => exact stops_cons (.inl (blanks' c List.mem_cons_self))
  have value := spelled.reads.reads (2 * (before ++ cs ++ blank).length + 2) blank
    (by simp only [List.length_append]; omega) stops
  have rest : skipBlanks blank = [] := by
    have dropped := skipBlanks_append blanks' []
    rwa [List.append_nil] at dropped
  rw [parseChars?, List.append_assoc, scanValue?_blanks blanks, ← List.append_assoc, value]
  simp [rest]

end Complete

end Parser

/-- The text is a value between blanks, and the value is this tree. -/
def SpellsText (text : String) (tree : Tree) : Prop :=
  ∃ before spelled after, text.toList = before ++ spelled ++ after ∧ Parser.Blanks before ∧
    Parser.Spells spelled tree ∧ Parser.Blanks after

/-- The reader accepts what the grammar spells, and nothing else. -/
theorem Tree.parse?_eq_some_iff {text : String} {tree : Tree} :
    Tree.parse? text = some tree ↔ SpellsText text tree := by
  constructor
  · intro read
    obtain ⟨⟨found, rest⟩, scanned, read⟩ := Option.bind_eq_some_iff.mp read
    dsimp only at read
    split at read
    · rename_i none_left
      cases read
      obtain ⟨before, spelled, split, blanks, spells⟩ := Parser.scanValue?_sound _ _ _ _ scanned
      obtain ⟨after, rfl, blanks'⟩ := Parser.exists_blanks (List.isEmpty_iff.mp none_left)
      exact ⟨before, spelled, after, by simp [split], blanks, spells, blanks'⟩
    · cases read
  · rintro ⟨before, spelled, after, split, blanks, spells, blanks'⟩
    rw [Tree.parse?, split]
    exact Parser.parseChars?_of_spells blanks spells blanks'

theorem SpellsText.eq {text : String} {tree tree' : Tree} (spelled : SpellsText text tree)
    (other : SpellsText text tree') : tree = tree' :=
  Option.some.inj ((Tree.parse?_eq_some_iff.mpr spelled).symm.trans (Tree.parse?_eq_some_iff.mpr other))

end ModulatorHealth.Json
