import ModulatorHealth.CommandLine
import Mathlib.Data.List.Induction

/-! The words of a level of the command line. Options that may stand at every level are given there in any
spelling and in any place among the operands, each of those that take a value once; and what is read of the
level is what was given, whatever the order. -/
namespace ModulatorHealth.CommandLine

/-- A word that is taken for an option. A dash alone is none. -/
def IsOption (word : String) : Prop := ∃ c cs, word.toList = '-' :: c :: cs

def Setting.name : Setting → String
  | .config => "config"
  | .url => "url"

/-- What may stand at a level: an operand, or an option with its value apart from it, an option with its
value attached, or a flag by its name or by its letter, repeated. -/
inductive Item where
  | operand (word : String)
  | apart (setting : Setting) (value : String)
  | attached (setting : Setting) (value : String)
  | verbose
  | letters (repetitions : Nat)

namespace Item

def words : Item → List String
  | .operand word => [word]
  | .apart setting value => ["--" ++ setting.name, value]
  | .attached setting value => ["--" ++ setting.name ++ "=" ++ value]
  | .verbose => ["--verbose"]
  | .letters repetitions => [String.ofList ('-' :: 'v' :: List.replicate repetitions 'v')]

def operand? : Item → Option String
  | .operand word => some word
  | .apart _ _ | .attached _ _ | .verbose | .letters _ => none

def value? (setting : Setting) : Item → Option String
  | .apart other value | .attached other value => if other = setting then some value else none
  | .operand _ | .verbose | .letters _ => none

def volume : Item → Nat
  | .operand _ | .apart _ _ | .attached _ _ => 0
  | .verbose => 1
  | .letters repetitions => repetitions + 1

end Item

abbrev Layout : Type := List Item

namespace Layout

variable (items : Layout)

def words : List String := items.flatMap Item.words

def operands : List String := items.filterMap Item.operand?

def values (setting : Setting) : List String := items.filterMap (Item.value? setting)

def volume : Nat := items.foldl (fun volume item => volume + item.volume) 0

def given : Given where
  config := (items.values .config).getLast?
  url := (items.values .url).getLast?
  verbose := min items.volume Given.mostVerbose
  json := false
  operands := items.operands
  pending := none

/-- No option twice, no empty path, and no value that is taken for an option itself. -/
structure Usable : Prop where
  once : ∀ setting, (items.values setting).length ≤ 1
  path : "" ∉ items.values .config
  apart : ∀ setting value, .apart setting value ∈ items → ¬IsOption value

variable {items} {item : Item}

theorem Usable.of_append {more : Layout} (usable : Usable (items ++ more)) : Usable items where
  once setting := by
    have all := usable.once setting
    rw [values, List.filterMap_append, List.length_append] at all
    exact Nat.le_trans (Nat.le_add_right _ _) all
  path member := by
    apply usable.path
    rw [values, List.filterMap_append]
    exact List.mem_append_left _ member
  apart setting value member := usable.apart setting value (List.mem_append_left _ member)

theorem Usable.values_eq_nil {setting : Setting} {value : String} (usable : Usable (items ++ [item]))
    (gives : item.value? setting = some value) : items.values setting = [] := by
  have all := usable.once setting
  simp only [values, List.filterMap_append, List.filterMap_cons, gives, List.filterMap_nil,
    List.length_append, List.length_singleton] at all
  exact List.length_eq_zero_iff.mp (by rw [values]; omega)

theorem values_concat (setting : Setting) :
    Layout.values (items ++ [item]) setting = items.values setting ++ (item.value? setting).toList := by
  cases h : item.value? setting <;> simp [values, h]

theorem operands_concat :
    Layout.operands (items ++ [item]) = items.operands ++ item.operand?.toList := by
  cases h : item.operand? <;> simp [operands, h]

theorem volume_concat : Layout.volume (items ++ [item]) = items.volume + item.volume := by
  simp [volume]

theorem given_concat_flag (flag : item.operand? = none ∧ ∀ setting, item.value? setting = none) :
    given (items ++ [item]) =
      { items.given with verbose := min (items.given.verbose + item.volume) Given.mostVerbose } := by
  have capped : min (items.volume + item.volume) Given.mostVerbose =
      min (min items.volume Given.mostVerbose + item.volume) Given.mostVerbose := by omega
  simp [given, values_concat, operands_concat, volume_concat, flag, capped]

theorem words_concat : Layout.words (items ++ [item]) = items.words ++ item.words := by
  simp [words]

end Layout

namespace Given

variable {g s : Given}

theorem settle_eq_ok (settled : g.settle = .ok s) :
    g.isAwaiting = false ∧ s.pending = none ∧ s.operands = g.operands := by
  unfold settle at settled
  split at settled
  · rename_i nothing
    cases settled
    simp [isAwaiting, nothing]
  · cases settled
  · rename_i path pending
    split_ifs at settled
    cases settled
    simp [isAwaiting, pending]
  · rename_i url pending
    split_ifs at settled
    cases settled
    simp [isAwaiting, pending]

theorem settle_of_pending_eq_none (nothing : g.pending = none) : g.settle = .ok g := by
  rw [settle, nothing]

theorem name_of_settle (settled : g.settle = .ok s) (setting : Setting) (value : Option String) :
    g.name setting value = .ok { s with pending := some (setting, value) } := by
  rw [name, settled]
  rfl

theorem raise_verbose_of_settle (settled : g.settle = .ok s) :
    g.raise .verbose = .ok { s with verbose := min (s.verbose + 1) mostVerbose } := by
  rw [raise, settled]
  rfl

end Given

namespace Level

def NamesNoOption (level : Level) : Prop := ∀ word, IsOption word → level.isCommand word = false

theorem namesNoOption_root : root.NamesNoOption := by
  rintro word ⟨c, cs, shape⟩
  have other (name : String) (letter : name.toList.head? ≠ some '-') : word ≠ name := by
    rintro rfl
    exact letter (by rw [shape]; rfl)
  simp [isCommand, root, other "check" (by decide), other "get" (by decide), other "set" (by decide),
    other "params" (by decide), other "dpd" (by decide), other "help" (by decide)]

theorem isCommand_last (operands : Nat) (json : Bool) (word : String) :
    (last operands json).isCommand word = false := by
  simp [isCommand, last]

theorem namesNoOption_last (operands : Nat) (json : Bool) : (last operands json).NamesNoOption :=
  fun word _ => isCommand_last operands json word

section Scanning

variable {level : Level} {g : Given} {word : String} (rest : List String)

theorem scan_long (options : level.NamesNoOption) {text : List Char}
    (shape : word.toList = '-' :: '-' :: text) (named : text ≠ []) :
    level.scan (word :: rest) g = (level.long g text).bind (level.scan rest) := by
  have no_command := options word ⟨_, _, shape⟩
  have other : word ≠ "--" := by
    rintro rfl
    exact named (by simpa using shape.symm)
  rw [scan]
  simp [no_command, other, shape]

theorem scan_short (options : level.NamesNoOption) {letter : Char} {letters : List Char}
    (shape : word.toList = '-' :: letter :: letters) (single : letter ≠ '-') :
    level.scan (word :: rest) g = (level.short g (letter :: letters)).bind (level.scan rest) := by
  have no_command := options word ⟨_, _, shape⟩
  have other : word ≠ "--" := by
    rintro rfl
    cases (shape : ['-', '-'] = '-' :: letter :: letters)
    exact single rfl
  rw [scan]
  simp [no_command, other, shape]

theorem ne_dashes (plain : ¬IsOption word) : word ≠ "--" := by
  rintro rfl
  exact plain ⟨_, _, rfl⟩

theorem scan_operand (plain : ¬IsOption word) (free : g.isAwaiting = false)
    (no_command : level.isCommand word = false) :
    level.scan (word :: rest) g = (g.operand level level.surplus word).bind (level.scan rest) := by
  rw [scan, if_neg (by simp [no_command]), if_neg (ne_dashes plain)]
  split
  · rename_i text shape
    exact absurd ⟨_, _, shape⟩ plain
  · rename_i letter letters _ shape
    exact absurd ⟨_, _, shape⟩ plain
  · rw [if_neg (by simp [free])]

theorem scan_value (plain : ¬IsOption word) (awaiting : g.isAwaiting = true) :
    level.scan (word :: rest) g = level.scan rest (g.supply word) := by
  rw [scan, if_neg (by simp [awaiting]), if_neg (ne_dashes plain)]
  split
  · rename_i text shape
    exact absurd ⟨_, _, shape⟩ plain
  · rename_i letter letters _ shape
    exact absurd ⟨_, _, shape⟩ plain
  · rw [if_pos awaiting]

end Scanning

end Level

section Items

variable {items : Layout} {item : Item} {g : Given} {setting : Setting} {value : String}

theorem settle_given : items.given.settle = .ok items.given := rfl

theorem settle_pending (usable : Layout.Usable (items ++ [item]))
    (gives : ∀ other, item.value? other = if setting = other then some value else none)
    (alone : item.operand? = none ∧ item.volume = 0) :
    ({ items.given with pending := some (setting, some value) } : Given).settle =
      .ok (Layout.given (items ++ [item])) := by
  have fresh : items.values setting = [] := usable.values_eq_nil (by rw [gives, if_pos rfl])
  have path : value = "" → setting ≠ .config := by
    rintro rfl rfl
    refine usable.path ?_
    rw [Layout.values_concat, gives]
    simp
  cases setting with
  | config =>
    have some_path : value ≠ "" := fun empty => path empty rfl
    simp [Given.settle, Layout.given, fresh, some_path, Layout.values_concat, gives, alone,
      Layout.operands_concat, Layout.volume_concat]
  | url =>
    simp [Given.settle, Layout.given, fresh, Layout.values_concat, gives, alone,
      Layout.operands_concat, Layout.volume_concat]

theorem toList_dashes (text : String) : ("--" ++ text).toList = '-' :: '-' :: text.toList := by
  rw [String.toList_append]
  rfl

namespace Level

variable (level : Level) {s : Given}

theorem long_apart (setting : Setting) : level.long g setting.name.toList = g.name setting none := by
  cases setting <;> rfl

theorem long_attached (setting : Setting) (value : String) :
    level.long g (setting.name.toList ++ '=' :: value.toList) =
      (g.name setting (some value)).bind Given.settle := by
  have same : (g.name setting (some (String.ofList value.toList))).bind Given.settle =
      (g.name setting (some value)).bind Given.settle := by rw [String.ofList_toList]
  cases setting <;> exact same

theorem long_verbose : level.long g "verbose".toList = g.raise .verbose := rfl

theorem short_letters (settled : g.settle = .ok s) (repetitions : Nat) :
    level.short g ('v' :: List.replicate repetitions 'v') =
      .ok { s with verbose := min (s.verbose + (repetitions + 1)) Given.mostVerbose } := by
  have first : ∀ g letters, level.short g ('v' :: letters) =
      (g.raise .verbose).bind fun g => level.short g letters := fun _ _ => rfl
  induction repetitions generalizing g s with
  | zero =>
    rw [List.replicate_zero, first, Given.raise_verbose_of_settle settled]
    rfl
  | succ repetitions ih =>
    obtain ⟨-, nothing, -⟩ := Given.settle_eq_ok settled
    have again : ({ s with verbose := min (s.verbose + 1) Given.mostVerbose } : Given).settle = .ok _ :=
      Given.settle_of_pending_eq_none nothing
    rw [List.replicate_succ, first, Given.raise_verbose_of_settle settled]
    have capped : min (min (s.verbose + 1) Given.mostVerbose + (repetitions + 1)) Given.mostVerbose =
        min (s.verbose + (repetitions + 1 + 1)) Given.mostVerbose := by omega
    exact (ih again).trans (by rw [capped])

end Level

theorem scan_item {level : Level} (options : level.NamesNoOption)
    (usable : Layout.Usable (items ++ [item]))
    (room : ∀ word, item.operand? = some word → ¬IsOption word ∧ level.isCommand word = false ∧
      items.operands.length < level.operands)
    (settled : g.settle = .ok items.given) :
    ∃ g' : Given, g'.settle = .ok (Layout.given (items ++ [item])) ∧
      ∀ rest, level.scan (item.words ++ rest) g = level.scan rest g' := by
  obtain ⟨free, -, count⟩ := Given.settle_eq_ok settled
  cases item with
  | operand word =>
    obtain ⟨plain, other, fits⟩ := room word rfl
    have taken : g.operand level level.surplus word = .ok (Layout.given (items ++ [.operand word])) := by
      rw [Given.operand, if_pos (by rwa [← count]), settled]
      simp [Except.map, Layout.given, Layout.values_concat, Layout.operands_concat,
        Layout.volume_concat, Item.value?, Item.operand?, Item.volume]
    refine ⟨_, settle_given, fun rest => (Level.scan_operand rest plain free other).trans ?_⟩
    rw [taken]
    rfl
  | apart setting value =>
    have plain := usable.apart setting value (List.mem_append_right _ (List.mem_singleton_self _))
    have named : setting.name.toList ≠ [] := by cases setting <;> decide
    -- The option stays pending with its value, so what is given shows once that is settled.
    refine ⟨_, settle_pending usable (fun _ => rfl) ⟨rfl, rfl⟩, fun rest => ?_⟩
    refine (Level.scan_long (value :: rest) options (toList_dashes setting.name) named).trans ?_
    rw [level.long_apart, Given.name_of_settle settled]
    exact Level.scan_value rest plain rfl
  | attached setting value =>
    have shape : ("--" ++ setting.name ++ "=" ++ value).toList =
        '-' :: '-' :: (setting.name.toList ++ '=' :: value.toList) := by
      rw [String.append_assoc, String.append_assoc, toList_dashes, String.toList_append,
        String.toList_append]
      rfl
    refine ⟨_, settle_given, fun rest => (Level.scan_long rest options shape (by simp)).trans ?_⟩
    rw [level.long_attached, Given.name_of_settle settled]
    exact congrArg (Except.bind · _) (settle_pending usable (fun _ => rfl) ⟨rfl, rfl⟩)
  | verbose =>
    have shape : "--verbose".toList = '-' :: '-' :: "verbose".toList := rfl
    refine ⟨_, settle_given, fun rest => (Level.scan_long rest options shape (by decide)).trans ?_⟩
    rw [level.long_verbose, Given.raise_verbose_of_settle settled,
      Layout.given_concat_flag ⟨rfl, fun _ => rfl⟩]
    rfl
  | letters repetitions =>
    refine ⟨_, settle_given, fun rest =>
      (Level.scan_short rest options String.toList_ofList (by decide)).trans ?_⟩
    rw [level.short_letters settled, Layout.given_concat_flag ⟨rfl, fun _ => rfl⟩]
    rfl

theorem scan_words {level : Level} (options : level.NamesNoOption) (usable : items.Usable)
    (plain : ∀ word ∈ items.operands, ¬IsOption word ∧ level.isCommand word = false)
    (room : items.operands.length ≤ level.operands) :
    ∃ g : Given, g.settle = .ok items.given ∧
      ∀ rest, level.scan (items.words ++ rest) .nothing = level.scan rest g := by
  -- From the end: what was given before decides whether one more option is a repetition.
  induction items using List.reverseRecOn with
  | nil => exact ⟨.nothing, rfl, fun _ => rfl⟩
  | append_singleton items item ih =>
    rw [Layout.operands_concat] at plain room
    rw [List.length_append] at room
    obtain ⟨g, settled, read⟩ := ih usable.of_append
      (fun word member => plain word (List.mem_append_left _ member)) (by omega)
    obtain ⟨g', settled', read'⟩ := scan_item options usable (fun word same => by
      have here := plain word (List.mem_append_right _ (by simp [same]))
      refine ⟨here.1, here.2, ?_⟩
      rw [same] at room
      exact room) settled
    refine ⟨g', settled', fun rest => ?_⟩
    rw [Layout.words_concat, List.append_assoc, read, read']

end Items

end ModulatorHealth.CommandLine
