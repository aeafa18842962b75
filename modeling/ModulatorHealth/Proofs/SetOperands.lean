import Mathlib
import ModulatorHealth.Proofs.CommandWords
import ModulatorHealth.Proofs.TypedValues

/-! Setting a parameter from the command line. The three operands of `set` are taken as they stand, among
options that may stand at every level; but a word that begins with a dash is an option, and so is every
negative number. Behind the double dash any number can be set. -/
namespace ModulatorHealth

namespace Decimal

theorem Spells.second_of_minus {cs : List Char} {d : Decimal} (spelled : d.Spells ('-' :: cs)) :
    ∃ c rest, cs = c :: rest ∧ (c.isDigit = true ∨ c = '.') := by
  generalize written : '-' :: cs = word at spelled
  obtain ⟨sign, point, -⟩ := spelled
  obtain ⟨c, rest, rfl, solid⟩ := point.exists_cons
  cases sign with
  | absent =>
    obtain ⟨rfl, -⟩ := List.cons.inj written
    exact absurd solid (by decide)
  | plus => cases written
  | minus =>
    obtain ⟨-, rfl⟩ := List.cons.inj written
    exact ⟨c, _, rfl, solid⟩

end Decimal

namespace ParamValue

theorem exists_numeral_of_parse {input : String} {n : Json.Number} (typed : parse input = .number n) :
    ∃ d : Decimal, d.Spells (Text.trim input.toList) := by
  obtain ⟨_, spelled, fits, -⟩ | ⟨d, spelled, -⟩ | ⟨-, same⟩ := parse_cases input
  · obtain ⟨d, numeral, -⟩ := spelled.numeral_of_fits fits
    exact ⟨d, numeral⟩
  · exact ⟨d, spelled⟩
  · rw [typed] at same
    cases same

theorem second_of_dash {input : String} {n : Json.Number} (typed : parse input = .number n)
    (dash : input.toList.head? = some '-') :
    ∃ c rest, input.toList = '-' :: c :: rest ∧ (c.isDigit = true ∨ c = '.') := by
  obtain ⟨d, spelled⟩ := exists_numeral_of_parse typed
  have core := Text.isCore_trim input.toList
  have visible : Text.trim input.toList ≠ [] := fun none =>
    absurd (core.eq_nil_iff.mp none '-' (List.mem_of_mem_head? dash)) (by decide)
  obtain ⟨before, after, split, blank, -⟩ := core.split
  obtain ⟨first, cs, trimmed⟩ := List.exists_cons_of_ne_nil visible
  rw [trimmed] at split spelled
  rw [split] at dash
  cases before with
  | nil =>
    obtain rfl := Option.some.inj dash
    obtain ⟨c, rest, rfl, solid⟩ := spelled.second_of_minus
    exact ⟨c, rest ++ after, split, solid⟩
  | cons first more =>
    obtain rfl := Option.some.inj dash
    cases blank '-' List.mem_cons_self

end ParamValue

namespace CommandLine

/-- The command line of two levels. Of an option that both give, the inner one counts. -/
def ofLevels (outer inner : Given) (command : Command) : CommandLine where
  config := inner.config.or outer.config
  url := inner.url.or outer.url
  verbose := if inner.verbose = 0 then outer.verbose else inner.verbose
  command := command

section Levels

variable {args rest : List String} {g s t : Given} {controllable param value : String}

theorem levels_root (read : Level.root.scan args .nothing = .ok (g, some ("set", rest)))
    (settled : g.settle = .ok s) (depth : Nat) :
    levels (depth + 1) [] args =
      (levels depth ["set"] rest).map fun inner => (s :: inner.1, inner.2) := by
  have level : Level.ofPath [] = .root := rfl
  cases below : levels depth ["set"] rest <;>
    simp [levels, level, read, settled, below, bind, Except.bind, Except.map]

theorem levels_set (read : (Level.last 3 false).scan rest .nothing = .ok (g, none))
    (settled : g.settle = .ok t) (three : t.operands.length = 3) (depth : Nat) :
    levels (depth + 1) ["set"] rest = .ok ([t], ["set"]) := by
  have level : Level.ofPath ["set"] = .last 3 false := rfl
  have innermost : (Level.last 3 false).commands.isEmpty = true := rfl
  have room : (Level.last 3 false).operands = 3 := rfl
  simp [levels, level, read, settled, innermost, room, three, bind, Except.bind]

theorem levels_set_of_error {e : Usage} (read : (Level.last 3 false).scan rest .nothing = .error e)
    (depth : Nat) : levels (depth + 1) ["set"] rest = .error e := by
  have level : Level.ofPath ["set"] = .last 3 false := rfl
  rw [levels, level, read]
  rfl

theorem parse_of_levels (program : String) (read : levels mostLevels [] args = .ok ([s, t], ["set"]))
    (operands : t.operands = [controllable, param, value]) :
    parse (program :: args) = .ok (ofLevels s t (.ask (.set controllable param value))) := by
  have inmost (view : Given → Option String) : [t, s].findSome? view = (view t).or (view s) := by
    cases inner : view t <;> cases outer : view s <;> simp [inner, outer]
  have loudest : ([t.verbose, s.verbose].find? (· != 0)).getD 0 =
      if t.verbose = 0 then s.verbose else t.verbose := by
    by_cases inner : t.verbose = 0 <;> by_cases outer : s.verbose = 0 <;> simp [inner, outer]
  simp [parse, read, operands, command?, bind, Except.bind, ofLevels, inmost, loudest]

end Levels

section Operands

variable {level : Level} {g s : Given}

theorem trailing_operands (settled : g.settle = .ok s) (behind : List String)
    (room : s.operands.length + behind.length ≤ level.operands) :
    ∃ g' : Given, level.trailing g behind = .ok g' ∧
      g'.settle = .ok { s with operands := s.operands ++ behind } := by
  induction behind generalizing g s with
  | nil => exact ⟨g, rfl, by rw [settled, List.append_nil]⟩
  | cons word behind ih =>
    obtain ⟨-, nothing, count⟩ := Given.settle_eq_ok settled
    rw [List.length_cons] at room
    have taken (surplus : Usage) :
        g.operand level surplus word = .ok { s with operands := s.operands ++ [word] } := by
      rw [Given.operand, if_pos (by rw [← count]; omega), settled]
      rfl
    obtain ⟨g', read, settled'⟩ := ih (s := { s with operands := s.operands ++ [word] })
      (Given.settle_of_pending_eq_none nothing) (by simp; omega)
    refine ⟨g', ?_, by rw [settled', List.append_assoc]; rfl⟩
    rw [Level.trailing, List.foldlM_cons, taken]
    exact read

theorem scan_double_dash (options : level.isCommand "--" = false) (behind : List String) :
    level.scan ("--" :: behind) g = (level.trailing g behind).map fun g => (g, none) := by
  rw [Level.scan, if_neg (by simp [options]), if_pos rfl]

/-- A word that begins like a negative number is read as letters of which the first is none. -/
theorem scan_of_dash {word : String} {c : Char} {cs : List Char}
    (shape : word.toList = '-' :: c :: cs) (solid : c.isDigit = true ∨ c = '.') (operands : Nat)
    (rest : List String) :
    (Level.last operands false).scan (word :: rest) g = .error .unknownArgument := by
  have other (letter : Char) (named : letter.isDigit = false ∧ letter ≠ '.') : c ≠ letter := by
    rintro rfl
    simp [named] at solid
  have no_letter : (Level.last operands false).short? c = none := by
    unfold Level.short?
    split
    · exact absurd rfl (other 'v' (by decide))
    · exact absurd rfl (other 'h' (by decide))
    · exact absurd rfl (other 'V' (by decide))
    · rfl
  rw [Level.scan_short rest (Level.namesNoOption_last operands false) shape
    (other '-' (by decide)), Level.short, List.foldlM_cons, no_letter]
  rfl

end Operands

theorem Layout.split_last {items : Layout} {before : List String} {word : String}
    (all : items.operands = before ++ [word]) :
    ∃ front back : Layout, items = front ++ .operand word :: back ∧ front.operands = before := by
  obtain ⟨first, second, rfl, operands, last⟩ := List.filterMap_eq_append_iff.mp all
  obtain ⟨passed, item, back, rfl, none, here, -⟩ := List.filterMap_eq_cons_iff.mp last
  cases item with
  | operand word =>
    cases here
    refine ⟨first ++ passed, back, by rw [List.append_assoc], ?_⟩
    rw [Layout.operands, List.filterMap_append, operands,
      List.filterMap_eq_nil_iff.mpr none, List.append_nil]
  | apart | attached | verbose | letters => cases here

section Set

variable {rest : List String} {controllable param value : String} {outer inner : Layout}

theorem levels_outer (usable : outer.Usable) (alone : outer.operands = []) (rest : List String) :
    levels mostLevels [] (outer.words ++ "set" :: rest) =
      (levels 2 ["set"] rest).map fun inner => (outer.given :: inner.1, inner.2) := by
  obtain ⟨g, settled, read⟩ := scan_words Level.namesNoOption_root usable
    (by simp [alone]) (by simp [alone])
  have free := (Given.settle_eq_ok settled).1
  have command : Level.root.scan (outer.words ++ "set" :: rest) .nothing =
      .ok (g, some ("set", rest)) := by
    rw [read, Level.scan, if_pos (by rw [free]; rfl)]
  exact levels_root command settled 2

theorem parse_set_of_scan {g t : Given} (usable : outer.Usable) (alone : outer.operands = [])
    (program : String) (read : (Level.last 3 false).scan rest .nothing = .ok (g, none))
    (settled : g.settle = .ok t) (operands : t.operands = [controllable, param, value]) :
    parse (program :: (outer.words ++ "set" :: rest)) =
      .ok (ofLevels outer.given t (.ask (.set controllable param value))) := by
  refine parse_of_levels program ?_ operands
  rw [levels_outer usable alone, levels_set read settled (by rw [operands]; rfl)]
  rfl

theorem parse_set_of_error {e : Usage} (usable : outer.Usable) (alone : outer.operands = [])
    (program : String) (read : (Level.last 3 false).scan rest .nothing = .error e) :
    parse (program :: (outer.words ++ "set" :: rest)) = .error e := by
  rw [parse, List.drop_one, List.tail_cons, levels_outer usable alone, levels_set_of_error read]
  rfl

theorem parse_set_operands (usable : outer.Usable) (alone : outer.operands = []) (program : String)
    (innerUsable : inner.Usable) (operands : inner.operands = [controllable, param, value])
    (plain : ∀ word ∈ inner.operands, ¬IsOption word) :
    parse (program :: (outer.words ++ "set" :: inner.words)) =
      .ok (ofLevels outer.given inner.given (.ask (.set controllable param value))) := by
  obtain ⟨g, settled, read⟩ := scan_words (Level.namesNoOption_last 3 false) innerUsable
    (fun word member => ⟨plain word member, Level.isCommand_last 3 false word⟩)
    (by rw [operands]; rfl)
  refine parse_set_of_scan usable alone program ?_ settled operands
  have ended := read []
  rwa [List.append_nil] at ended

theorem parse_set_of_dash (usable : outer.Usable) (alone : outer.operands = []) (program : String)
    (innerUsable : inner.Usable) (operands : inner.operands = [controllable, param] ++ [value])
    (names : ∀ word ∈ [controllable, param], ¬IsOption word) {c : Char} {cs : List Char}
    (shape : value.toList = '-' :: c :: cs) (solid : c.isDigit = true ∨ c = '.') :
    parse (program :: (outer.words ++ "set" :: inner.words)) = .error .unknownArgument := by
  -- What stands behind the value is not read any more.
  obtain ⟨front, back, rfl, first⟩ := Layout.split_last operands
  obtain ⟨g, -, read⟩ := scan_words (Level.namesNoOption_last 3 false) innerUsable.of_append
    (fun word member => ⟨names word (first ▸ member), Level.isCommand_last 3 false word⟩)
    (by rw [first]; exact Nat.le_succ 2)
  have words : (front ++ .operand value :: back).words = front.words ++ value :: Layout.words back := by
    simp [Layout.words, Item.words]
  refine parse_set_of_error usable alone program ?_
  rw [words, read, scan_of_dash shape solid]

theorem parse_set_behind (usable : outer.Usable) (alone : outer.operands = []) (program : String)
    {front : Layout} {behind : List String} (frontUsable : front.Usable)
    (plain : ∀ word ∈ front.operands, ¬IsOption word)
    (operands : front.operands ++ behind = [controllable, param, value]) :
    parse (program :: (outer.words ++ "set" :: (front.words ++ "--" :: behind))) =
      .ok (ofLevels outer.given front.given (.ask (.set controllable param value))) := by
  have three : front.operands.length + behind.length = 3 := by
    rw [← List.length_append, operands]
    rfl
  obtain ⟨g, settled, read⟩ := scan_words (Level.namesNoOption_last 3 false) frontUsable
    (fun word member => ⟨plain word member, Level.isCommand_last 3 false word⟩)
    (Nat.le_trans (Nat.le_add_right _ _) three.le)
  have room : front.operands.length + behind.length ≤ (Level.last 3 false).operands := three.le
  obtain ⟨g', trailing, settled'⟩ := trailing_operands settled behind room
  have ended : (Level.last 3 false).scan (front.words ++ "--" :: behind) .nothing = .ok (g', none) := by
    rw [read, scan_double_dash (Level.isCommand_last 3 false "--"), trailing]
    rfl
  -- What is given with the operands behind the dashes differs from `front.given` in the operands only.
  have accepted := parse_set_of_scan usable alone program ended settled' operands
  exact accepted

/-- The operands of `set` in the places that options leave free, or some of them behind the double dash. A
number is set unless it begins with a dash; behind the double dash every number is. -/
theorem parse_set_number {n : Json.Number} (number : ParamValue.parse value = .number n)
    (names : ∀ word ∈ [controllable, param], ¬IsOption word) (usable : outer.Usable)
    (alone : outer.operands = []) (program : String) :
    (∀ inner : Layout, inner.Usable → inner.operands = [controllable, param, value] →
      parse (program :: (outer.words ++ "set" :: inner.words)) =
        if value.toList.head? = some '-' then .error .unknownArgument
        else .ok (ofLevels outer.given inner.given (.ask (.set controllable param value)))) ∧
    ∀ (front : Layout) (behind : List String), front.Usable →
      (∀ word ∈ front.operands, ¬IsOption word) →
      front.operands ++ behind = [controllable, param, value] →
      parse (program :: (outer.words ++ "set" :: (front.words ++ "--" :: behind))) =
        .ok (ofLevels outer.given front.given (.ask (.set controllable param value))) := by
  refine ⟨fun inner innerUsable operands => ?_, fun front behind frontUsable plain operands =>
    parse_set_behind usable alone program frontUsable plain operands⟩
  split_ifs with dash
  · obtain ⟨c, cs, shape, solid⟩ := ParamValue.second_of_dash number dash
    exact parse_set_of_dash usable alone program innerUsable operands names shape solid
  · have plain : ¬IsOption value := by
      rintro ⟨c, cs, shape⟩
      exact dash (by rw [shape]; rfl)
    refine parse_set_operands usable alone program innerUsable operands ?_
    rw [operands]
    exact List.forall_mem_cons.mpr ⟨names _ (by simp), by simpa [plain] using names param (by simp)⟩

theorem parse_set_sixty_five :
    parse ["odrctl", "-v", "--url", "http://a", "set", "sdr", "--config=c", "txgain", "-vv", "65"] =
        .ok ⟨some "c", some "http://a", 2, .ask (.set "sdr" "txgain" "65")⟩ ∧
      parse ["odrctl", "-v", "--url", "http://a", "set", "sdr", "--", "txgain", "65"] =
        .ok ⟨none, some "http://a", 1, .ask (.set "sdr" "txgain" "65")⟩ := by
  have typed : ParamValue.parse "65" = .number (.integer 65 (by decide)) := by decide
  have names : ∀ word ∈ ["sdr", "txgain"], ¬IsOption word := by simp [IsOption]
  have usable : Layout.Usable [.letters 0, .apart .url "http://a"] :=
    ⟨by rintro (_ | _) <;> decide, by decide, by simp [IsOption]⟩
  obtain ⟨free, behind⟩ := parse_set_number typed names usable rfl "odrctl"
  exact ⟨free [.operand "sdr", .attached .config "c", .operand "txgain", .letters 1, .operand "65"]
      ⟨by rintro (_ | _) <;> decide, by decide, by simp⟩ rfl,
    behind [.operand "sdr"] ["txgain", "65"] ⟨by rintro (_ | _) <;> decide, by decide, by simp⟩
      (by simp [Layout.operands, Item.operand?, IsOption]) rfl⟩

/-- What is typed as a number is taken for an option. -/
theorem parse_set_refuses_minus_five :
    ParamValue.parse "-5" = .number (.integer (-5) (by decide)) ∧
      parse ["odrctl", "set", "sdr", "txgain", "-5"] = .error .unknownArgument := by
  decide

end Set

end CommandLine

end ModulatorHealth
