import ModulatorHealth.Timestamp
import ModulatorHealth.Uuid
import Mathlib.Algebra.Order.Ring.Nat
import Mathlib.Data.List.Basic
import Mathlib.Data.List.DropRight
import Mathlib.Data.List.TakeWhile

/-! Rows of digits, decimal and hexadecimal, denote the number for which they are written, also with
zeros before it. -/
namespace ModulatorHealth

theorem takeWhile_append_of_stop {α : Type} {p : α → Bool} {row rest : List α}
    (inside : ∀ x ∈ row, p x = true) (stop : ∀ x ∈ rest.head?, p x = false) :
    (row ++ rest).takeWhile p = row := by
  rw [List.takeWhile_append_of_pos inside]
  cases rest with
  | nil => simp
  | cons x rest => simp [stop x rfl]

theorem dropWhile_append_of_stop {α : Type} {p : α → Bool} {row rest : List α}
    (inside : ∀ x ∈ row, p x = true) (stop : ∀ x ∈ rest.head?, p x = false) :
    (row ++ rest).dropWhile p = rest := by
  rw [List.dropWhile_append_of_pos inside]
  cases rest with
  | nil => rfl
  | cons x rest => simp [stop x rfl]

theorem exists_append_dropWhile {α : Type} (p : α → Bool) (xs : List α) :
    ∃ front, xs = front ++ xs.dropWhile p ∧ ∀ x ∈ front, p x = true :=
  ⟨xs.takeWhile p, List.takeWhile_append_dropWhile.symm, fun _ => List.mem_takeWhile_imp⟩

theorem exists_rdropWhile_append {α : Type} [DecidableEq α] (last : α) (xs : List α) :
    ∃ count, xs = xs.rdropWhile (· == last) ++ List.replicate count last := by
  have run : xs.rtakeWhile (· == last) = List.replicate (xs.rtakeWhile (· == last)).length last :=
    List.eq_replicate_of_mem fun x member => by simpa using List.mem_rtakeWhile_imp member
  exact ⟨_, by rw [← run, List.rdropWhile_append_rtakeWhile]⟩

section Decimal

theorem natOfDigits_eq (cs : List Char) : natOfDigits cs = Nat.ofDigitChars 10 cs 0 :=
  Nat.ofDigitChars_eq_foldl.symm

@[simp] theorem natOfDigits_decimalDigits (n : Nat) : natOfDigits (decimalDigits n) = n := by
  rw [natOfDigits_eq]
  exact Nat.ofDigitChars_ten_toDigits

theorem natOfDigits_append_zeros (cs : List Char) (count : Nat) :
    natOfDigits (cs ++ DoubleLayout.zeros count) = natOfDigits cs * 10 ^ count := by
  rw [natOfDigits_eq, Nat.ofDigitChars_append, ← natOfDigits_eq, DoubleLayout.zeros,
    Nat.ofDigitChars_replicate_zero, Nat.mul_comm]

theorem natOfDigits_zeros_append (count : Nat) (cs : List Char) :
    natOfDigits (DoubleLayout.zeros count ++ cs) = natOfDigits cs := by
  rw [natOfDigits_eq, Nat.ofDigitChars_append, DoubleLayout.zeros, Nat.ofDigitChars_replicate_zero,
    Nat.mul_zero, ← natOfDigits_eq]

theorem isDigit_of_mem_decimalDigits {n : Nat} {c : Char} (member : c ∈ decimalDigits n) :
    c.isDigit = true :=
  Nat.isDigit_of_mem_toDigits (by decide) (by decide) member

theorem decimalDigits_ne_nil (n : Nat) : decimalDigits n ≠ [] := Nat.toDigits_ne_nil

theorem head?_decimalDigits {n : Nat} (pos : 0 < n) : (decimalDigits n).head? ≠ some '0' := by
  induction n using Nat.strongRecOn with
  | ind n ih =>
    rw [decimalDigits, Nat.toDigits_eq_if (by decide)]
    split
    · have single : ∀ d < 10, 0 < d → Nat.digitChar d ≠ '0' := by decide
      simpa using single n (by assumption) pos
    · have front := ih (n / 10) (by omega) (by omega)
      rwa [List.head?_append_of_ne_nil _ Nat.toDigits_ne_nil]

end Decimal

namespace Timestamp

variable (width n : Nat)

@[simp] theorem natOfDigits_padded : natOfDigits (padded width n) = n := by
  rw [padded, natOfDigits_zeros_append, natOfDigits_decimalDigits]

variable {width n}

theorem isDigit_of_mem_padded {c : Char} (member : c ∈ padded width n) : c.isDigit = true := by
  rcases List.mem_append.mp member with zero | digit
  · rw [(List.mem_replicate.mp zero).2]
    decide
  · exact isDigit_of_mem_decimalDigits digit

theorem length_padded (pos : 0 < width) (lt : n < 10 ^ width) : (padded width n).length = width := by
  have short : (decimalDigits n).length ≤ width :=
    (Nat.length_toDigits_le_iff (by decide) pos).mpr lt
  simp only [padded, DoubleLayout.zeros, List.length_append, List.length_replicate]
  omega

theorem padded_ne_nil : padded width n ≠ [] := by
  simp [padded, decimalDigits_ne_nil]

end Timestamp

section Hexadecimal

theorem hexValue?_digitChar : ∀ d < 16, hexValue? (Nat.digitChar d) = some d := by decide

/-- A row denotes a number if its digits do, the last one counting once. -/
theorem natOfHex?_concat {cs : List Char} {n d : Nat} (row : natOfHex? cs = some n) (small : d < 16) :
    natOfHex? (cs ++ [Nat.digitChar d]) = some (16 * n + d) := by
  unfold natOfHex? natOfDigitsIn? at *
  obtain ⟨values, read, rfl⟩ := Option.map_eq_some_iff.mp row
  simp [List.mapM_append, read, hexValue?_digitChar d small]

theorem natOfHex?_toDigits (n : Nat) : natOfHex? (Nat.toDigits 16 n) = some n := by
  induction n using Nat.strongRecOn with
  | ind n ih =>
    rw [Nat.toDigits_eq_if (by decide)]
    split
    · rename_i small
      have empty : natOfHex? [] = some 0 := rfl
      simpa using natOfHex?_concat empty small
    · have front := natOfHex?_concat (ih (n / 16) (by omega)) (Nat.mod_lt n (by decide))
      rwa [Nat.div_add_mod] at front

theorem natOfHex?_zeros (count : Nat) {cs : List Char} {n : Nat} (row : natOfHex? cs = some n) :
    natOfHex? (DoubleLayout.zeros count ++ cs) = some n := by
  have zero : hexValue? '0' = some 0 := by decide
  induction count with
  | zero => exact row
  | succ count ih =>
    unfold natOfHex? natOfDigitsIn? at *
    obtain ⟨values, read, sum⟩ := Option.map_eq_some_iff.mp ih
    rw [DoubleLayout.zeros] at read
    simp [DoubleLayout.zeros, List.replicate_succ, zero, read, sum]

namespace Uuid

theorem natOfHex?_hexDigits (digits n : Nat) : natOfHex? (hexDigits digits n) = some n :=
  natOfHex?_zeros _ (natOfHex?_toDigits n)

theorem length_hexDigits {digits n : Nat} (pos : 0 < digits) (lt : n < 16 ^ digits) :
    (hexDigits digits n).length = digits := by
  have short : (Nat.toDigits 16 n).length ≤ digits :=
    (Nat.length_toDigits_le_iff (by decide) pos).mpr lt
  simp only [hexDigits, DoubleLayout.zeros, List.length_append, List.length_replicate]
  omega

theorem undashed?_dashed {groups : List Nat} (some_group : groups ≠ []) {cs : List Char}
    (enough : groups.sum ≤ cs.length) : undashed? groups (dashed groups cs) = some cs := by
  fun_induction dashed groups cs with
  | case1 cs => exact absurd rfl some_group
  | case2 length cs => rfl
  | case3 length rest cs nonempty ih =>
    rw [List.sum_cons] at enough
    have front : (cs.take length).length = length := by
      rw [List.length_take]
      omega
    have later := ih nonempty (by rw [List.length_drop]; omega)
    rw [undashed?.eq_3 _ _ _ nonempty, List.drop_left' front, List.take_left' front]
    simp [later]

theorem length_dashed {groups : List Nat} (some_group : groups ≠ []) (cs : List Char) :
    (dashed groups cs).length = cs.length + (groups.length - 1) := by
  fun_induction dashed groups cs with
  | case1 cs => exact absurd rfl some_group
  | case2 length cs => rfl
  | case3 length rest cs nonempty ih =>
    have later := ih nonempty
    obtain ⟨next, others, rfl⟩ := List.exists_cons_of_ne_nil nonempty
    simp only [List.length_append, List.length_cons, List.length_take, List.length_drop, later]
    omega

theorem parse?_text (id : Uuid) : parse? id.text = some id := by
  have digits : (hexDigits 32 id.value).length = 32 :=
    length_hexDigits (by decide) (by simpa using id.value_lt)
  have long : (dashed groups (hexDigits 32 id.value)).length = 36 := by
    rw [length_dashed (by decide), digits]
    rfl
  have joined : undashed? groups (dashed groups (hexDigits 32 id.value)) = _ :=
    undashed?_dashed (by decide) (by rw [digits]; decide)
  have read : ofDigits? (hexDigits 32 id.value) = some id := by
    simp [ofDigits?, natOfHex?_hexDigits, digits, id.value_lt]
  simp [parse?, text, long, joined, read]

end Uuid
end Hexadecimal
end ModulatorHealth
