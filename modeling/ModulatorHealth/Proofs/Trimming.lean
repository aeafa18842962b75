import ModulatorHealth.Proofs.DigitRows
import ModulatorHealth.Text.Blank

/-! What trimming leaves of a text: all of it but blanks at its ends, where what is left has none. -/
namespace ModulatorHealth.Text

/-- The text without the white space after it. -/
structure IsFront (front cs : List Char) : Prop where
  split : ∃ after, cs = front ++ after ∧ ∀ c ∈ after, isBlank c = true
  ends : ∀ c ∈ front.getLast?, isBlank c = false

/-- The text without the white space around it. -/
structure IsCore (core cs : List Char) : Prop where
  split : ∃ before after, cs = before ++ core ++ after ∧
    (∀ c ∈ before, isBlank c = true) ∧ ∀ c ∈ after, isBlank c = true
  starts : ∀ c ∈ core.head?, isBlank c = false
  ends : ∀ c ∈ core.getLast?, isBlank c = false

theorem trimStart_starts (cs : List Char) : ∀ c ∈ (trimStart cs).head?, isBlank c = false := by
  intro c first
  have solid := List.head?_dropWhile_not isBlank cs
  rw [trimStart] at first
  simp_all

theorem trimStart_split (cs : List Char) :
    ∃ before, cs = before ++ trimStart cs ∧ ∀ c ∈ before, isBlank c = true :=
  exists_append_dropWhile isBlank cs

theorem trimEnd_eq_reverse (cs : List Char) : trimEnd cs = (trimStart cs.reverse).reverse := rfl

theorem isFront_trimEnd (cs : List Char) : IsFront (trimEnd cs) cs := by
  constructor
  · obtain ⟨after, split, blanks⟩ := trimStart_split cs.reverse
    refine ⟨after.reverse, ?_, fun c member => blanks c (List.mem_reverse.mp member)⟩
    rw [trimEnd_eq_reverse, ← List.reverse_append, ← split, List.reverse_reverse]
  · rw [trimEnd_eq_reverse, List.getLast?_reverse]
    exact trimStart_starts cs.reverse

theorem isCore_trim (cs : List Char) : IsCore (trim cs) cs := by
  obtain ⟨before, split, blanks⟩ := trimStart_split cs
  obtain ⟨⟨after, split', blanks'⟩, ends⟩ := isFront_trimEnd (trimStart cs)
  refine ⟨⟨before, after, ?_, blanks, blanks'⟩, ?_, ends⟩
  · rw [trim, List.append_assoc, ← split', ← split]
  · intro c first
    refine trimStart_starts cs c ?_
    rw [split', List.head?_append, show (trimEnd (trimStart cs)).head? = some c from first]
    rfl

theorem IsCore.eq_nil_iff {core cs : List Char} (is : IsCore core cs) :
    core = [] ↔ ∀ c ∈ cs, isBlank c = true := by
  obtain ⟨before, after, rfl, blanks, blanks'⟩ := is.split
  constructor
  · rintro rfl c member
    rw [List.append_nil] at member
    exact (List.mem_append.mp member).elim (blanks c) (blanks' c)
  · intro all
    cases core with
    | nil => rfl
    | cons c core =>
      have solid := is.starts c rfl
      have blank := all c (by simp)
      simp [solid] at blank

theorem trim_of_solid {cs : List Char} (solid : ∀ c ∈ cs, isBlank c = false) : trim cs = cs := by
  have start (row : List Char) (solid : ∀ c ∈ row, isBlank c = false) :
      row.dropWhile isBlank = row := by
    cases row with
    | nil => rfl
    | cons c rest => simp [solid c List.mem_cons_self]
  rw [trim, trimEnd, trimStart, start cs solid, start cs.reverse (by simpa using solid),
    List.reverse_reverse]

theorem trimEnd_append {solid : List Char} (rest : List Char)
    (ends : ∀ c ∈ solid.getLast?, isBlank c = false) :
    trimEnd (solid ++ rest) = solid ++ trimEnd rest := by
  unfold trimEnd
  rw [List.reverse_append, List.dropWhile_append]
  split
  · rename_i blank
    have kept : solid.reverse.dropWhile isBlank = solid.reverse := by
      cases back : solid.reverse with
      | nil => rfl
      | cons c front =>
        have last : solid.getLast? = some c := by rw [← List.head?_reverse, back]; rfl
        simp [ends c last]
    rw [kept, List.isEmpty_iff.mp blank]
    simp
  · simp

end ModulatorHealth.Text
