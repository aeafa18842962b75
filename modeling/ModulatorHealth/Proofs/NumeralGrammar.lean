import ModulatorHealth.Json.Parser
import ModulatorHealth.Proofs.DigitRows

/-! How JSON numerals are spelled. The reader takes a numeral as a whole, and takes nothing that is
not one. -/
namespace ModulatorHealth.Json.Numeral

def IsRow (cs : List Char) : Prop := cs ≠ [] ∧ ∀ c ∈ cs, c.isDigit = true

inductive SpellsFraction : List Char → List Char → Prop where
  | absent : SpellsFraction [] []
  | point {digits : List Char} : IsRow digits → SpellsFraction ('.' :: digits) digits

inductive SpellsExponent : List Char → Option Int → Prop where
  | absent : SpellsExponent [] none
  | plain {mark : Char} {digits : List Char} : mark = 'e' ∨ mark = 'E' → IsRow digits →
      SpellsExponent (mark :: digits) (some (natOfDigits digits))
  | plus {mark : Char} {digits : List Char} : mark = 'e' ∨ mark = 'E' → IsRow digits →
      SpellsExponent (mark :: '+' :: digits) (some (natOfDigits digits))
  | minus {mark : Char} {digits : List Char} : mark = 'e' ∨ mark = 'E' → IsRow digits →
      SpellsExponent (mark :: '-' :: digits) (some (-natOfDigits digits))

/-- The parts of a numeral. A zero begins no longer row. -/
inductive Spells : List Char → Numeral → Prop where
  | parts {whole fraction digits mark : List Char} {exponent : Option Int} (negative : Bool) :
      IsRow whole → (∀ c rest, whole ≠ '0' :: c :: rest) → SpellsFraction fraction digits →
      SpellsExponent mark exponent →
      Spells ((if negative then ['-'] else []) ++ whole ++ fraction ++ mark)
        ⟨negative, whole, digits, exponent.getD 0, digits.isEmpty && exponent.isNone⟩

/-- A numeral that was written before this text does not go on in it. -/
def Stops (rest : List Char) : Prop :=
  ∀ c ∈ rest.head?, c.isDigit = false ∧ c ≠ '.' ∧ c ≠ 'e' ∧ c ≠ 'E'

theorem isRow_decimalDigits (n : Nat) : IsRow (decimalDigits n) :=
  ⟨decimalDigits_ne_nil n, fun _ => isDigit_of_mem_decimalDigits⟩

section Sound

theorem IsRow.takeWhile {cs : List Char} (some_digit : (cs.takeWhile Char.isDigit).isEmpty = false) :
    IsRow (cs.takeWhile Char.isDigit) :=
  ⟨by simpa using some_digit, fun _ member => List.mem_takeWhile_imp member⟩

variable {cs rest : List Char}

theorem scanFraction?_sound {digits : List Char} (read : scanFraction? cs = some (digits, rest)) :
    ∃ text, cs = text ++ rest ∧ SpellsFraction text digits := by
  unfold scanFraction? at read
  split at read
  · rename_i after
    dsimp only at read
    split at read
    · cases read
    · rename_i row
      cases read
      refine ⟨'.' :: after.takeWhile Char.isDigit, ?_, .point (.takeWhile (by simpa using row))⟩
      simp [List.takeWhile_append_dropWhile]
  · cases read
    exact ⟨[], rfl, .absent⟩

theorem scanExponent?_sound {exponent : Option Int} (read : scanExponent? cs = some (exponent, rest)) :
    ∃ text, cs = text ++ rest ∧ SpellsExponent text exponent := by
  unfold scanExponent? at read
  split at read
  · cases read
    exact ⟨[], rfl, .absent⟩
  · rename_i c after
    split at read
    · rename_i mark
      dsimp only at read
      split at read
      · cases read
      · rename_i row
        cases read
        unfold takeSign at row ⊢
        split at row
        · rename_i digits
          refine ⟨c :: '-' :: digits.takeWhile Char.isDigit, by simp, ?_⟩
          exact .minus mark (.takeWhile (by simpa using row))
        · rename_i digits
          refine ⟨c :: '+' :: digits.takeWhile Char.isDigit, by simp, ?_⟩
          exact .plus mark (.takeWhile (by simpa using row))
        · refine ⟨c :: after.takeWhile Char.isDigit, by simp, ?_⟩
          exact .plain mark (.takeWhile (by simpa using row))
    · cases read
      exact ⟨[], rfl, .absent⟩

def scanUnsigned? (negative : Bool) (unsigned : List Char) : Option (Numeral × List Char) :=
  match unsigned.takeWhile Char.isDigit with
  | [] => none
  | '0' :: _ :: _ => none
  | _ => do
    let (fraction, rest) ← scanFraction? (unsigned.dropWhile Char.isDigit)
    let (exponent, rest) ← scanExponent? rest
    some (⟨negative, unsigned.takeWhile Char.isDigit, fraction, exponent.getD 0,
      fraction.isEmpty && exponent.isNone⟩, rest)

theorem scan?_minus (unsigned : List Char) : scan? ('-' :: unsigned) = scanUnsigned? true unsigned := rfl

theorem scan?_unsigned (unsigned : ∀ rest, cs ≠ '-' :: rest) : scan? cs = scanUnsigned? false cs := by
  unfold scan?
  split
  rename_i parts
  split at parts
  · exact absurd rfl (unsigned _)
  · cases parts
    rfl

theorem scanUnsigned?_sound {negative : Bool} {n : Numeral}
    (read : scanUnsigned? negative cs = some (n, rest)) :
    ∃ text, cs = text ++ rest ∧ Spells ((if negative then ['-'] else []) ++ text) n := by
  unfold scanUnsigned? at read
  split at read
  · cases read
  · cases read
  · rename_i some_digit no_zero
    obtain ⟨⟨digits, after⟩, pointed, read⟩ := Option.bind_eq_some_iff.mp read
    obtain ⟨⟨exponent, _⟩, marked, read⟩ := Option.bind_eq_some_iff.mp read
    cases read
    obtain ⟨fraction, before, point⟩ := scanFraction?_sound pointed
    obtain ⟨mark, rfl, exponent⟩ := scanExponent?_sound marked
    have spelled := Spells.parts negative (.takeWhile (by simpa using some_digit)) no_zero point exponent
    refine ⟨cs.takeWhile Char.isDigit ++ fraction ++ mark, ?_, by simpa using spelled⟩
    rw [List.append_assoc, List.append_assoc, ← before, List.takeWhile_append_dropWhile]

theorem scan?_sound {n : Numeral} (read : scan? cs = some (n, rest)) :
    ∃ text, cs = text ++ rest ∧ Spells text n := by
  by_cases minus : ∃ unsigned, cs = '-' :: unsigned
  · obtain ⟨unsigned, rfl⟩ := minus
    obtain ⟨text, rfl, spelled⟩ := scanUnsigned?_sound (scan?_minus unsigned ▸ read)
    exact ⟨'-' :: text, rfl, spelled⟩
  · rw [scan?_unsigned (not_exists.mp minus)] at read
    exact scanUnsigned?_sound read

end Sound

section Complete

variable {digits rest : List Char}

theorem IsRow.scan (row : IsRow digits) (stop : ∀ c ∈ rest.head?, c.isDigit = false) :
    (digits ++ rest).takeWhile Char.isDigit = digits ∧
      (digits ++ rest).dropWhile Char.isDigit = rest :=
  ⟨takeWhile_append_of_stop row.2 stop, dropWhile_append_of_stop row.2 stop⟩

theorem IsRow.append_ne_cons (row : IsRow digits) (rest : List Char) {c : Char}
    (other : c.isDigit = false) (more : List Char) : digits ++ rest ≠ c :: more := by
  intro same
  obtain ⟨d, ds, rfl⟩ := List.exists_cons_of_ne_nil row.1
  rw [← (List.cons.inj same).1, row.2 d List.mem_cons_self] at other
  cases other

theorem IsRow.takeSign (row : IsRow digits) (rest : List Char) :
    takeSign (digits ++ rest) = (false, digits ++ rest) :=
  takeSign.eq_3 _ (row.append_ne_cons rest (by decide)) (row.append_ne_cons rest (by decide))

theorem SpellsExponent.scan {text : List Char} {exponent : Option Int}
    (spelled : SpellsExponent text exponent) (stops : Stops rest) :
    scanExponent? (text ++ rest) = some (exponent, rest) := by
  have stop : ∀ c ∈ rest.head?, c.isDigit = false := fun c first => (stops c first).1
  cases spelled with
  | absent =>
    cases rest with
    | nil => rfl
    | cons c rest =>
      obtain ⟨-, -, small, large⟩ := stops c rfl
      simp [scanExponent?, small, large]
  | plain mark row =>
    obtain ⟨taken, left⟩ := row.scan stop
    simp [scanExponent?, mark, row.takeSign, taken, left, row.1]
  | plus mark row | minus mark row =>
    obtain ⟨taken, left⟩ := row.scan stop
    simp [scanExponent?, mark, ModulatorHealth.takeSign, taken, left, row.1]

theorem SpellsFraction.scan {text : List Char} (spelled : SpellsFraction text digits)
    (stop : ∀ c ∈ rest.head?, c.isDigit = false ∧ c ≠ '.') :
    scanFraction? (text ++ rest) = some (digits, rest) := by
  cases spelled with
  | absent =>
    cases rest with
    | nil => rfl
    | cons c rest => simp [scanFraction?, (stop c rfl).2]
  | point row =>
    obtain ⟨taken, left⟩ := row.scan fun c first => (stop c first).1
    simp [scanFraction?, taken, left, row.1]

theorem isDigit_mark {mark : Char} (exponent : mark = 'e' ∨ mark = 'E') :
    mark.isDigit = false ∧ mark ≠ '.' := by
  rcases exponent with rfl | rfl <;> decide

theorem SpellsExponent.stop {text : List Char} {exponent : Option Int}
    (spelled : SpellsExponent text exponent) (stops : Stops rest) :
    ∀ c ∈ (text ++ rest).head?, c.isDigit = false ∧ c ≠ '.' := by
  intro c first
  cases spelled with
  | absent => exact ⟨(stops c first).1, (stops c first).2.1⟩
  | plain mark | plus mark | minus mark =>
    obtain rfl : _ = c := by simpa using first
    exact isDigit_mark mark

theorem SpellsFraction.stop {text after : List Char} (spelled : SpellsFraction text digits)
    (stop : ∀ c ∈ after.head?, c.isDigit = false ∧ c ≠ '.') :
    ∀ c ∈ (text ++ after).head?, c.isDigit = false := by
  intro c first
  cases spelled with
  | absent => exact (stop c first).1
  | point =>
    obtain rfl : '.' = c := by simpa using first
    decide

theorem Spells.scan {text : List Char} {n : Numeral} (spelled : Spells text n) (stops : Stops rest) :
    scan? (text ++ rest) = some (n, rest) := by
  cases spelled with
  | @parts whole fraction digits mark exponent negative row no_zero spelledFraction spelledExponent =>
    have later := spelledExponent.stop stops
    obtain ⟨taken, left⟩ := row.scan (spelledFraction.stop later)
    have unsigned : scanUnsigned? negative (whole ++ (fraction ++ (mark ++ rest))) =
        some (⟨negative, whole, digits, exponent.getD 0, digits.isEmpty && exponent.isNone⟩, rest) := by
      unfold scanUnsigned?
      rw [taken, left]
      split
      · exact absurd rfl row.1
      · exact absurd rfl (no_zero _ _)
      · simp [spelledFraction.scan later, spelledExponent.scan stops]
    cases negative with
    | true => simpa [scan?_minus] using unsigned
    | false =>
      have plain := scan?_unsigned
        (row.append_ne_cons (fraction ++ (mark ++ rest)) (show '-'.isDigit = false by decide))
      simpa [plain] using unsigned

theorem Spells.exists_cons {text : List Char} {n : Numeral} (spelled : Spells text n) :
    ∃ c cs, text = c :: cs ∧ (c = '-' ∨ c.isDigit = true) := by
  cases spelled with
  | parts negative row =>
    obtain ⟨c, digits, rfl⟩ := List.exists_cons_of_ne_nil row.1
    cases negative with
    | true => exact ⟨'-', _, rfl, .inl rfl⟩
    | false => exact ⟨c, _, rfl, .inr (row.2 c List.mem_cons_self)⟩

end Complete
end ModulatorHealth.Json.Numeral
