import Mathlib
import ModulatorHealth.Proofs.NearestDouble
import ModulatorHealth.Proofs.ReportText

/-! Objects that are kept, as records. Their names are in order and occur once, so a field is what the
object has under its name, and whether the field can be read depends on the kind of that alone. -/
namespace ModulatorHealth

namespace Keyed

variable {α : Type} {entries : List (String × α)}

def IsSorted (entries : List (String × α)) : Prop := entries.Pairwise fun a b => a.1 < b.1

theorem IsSorted.nodup (sorted : IsSorted entries) : (entries.map Prod.fst).Nodup :=
  List.pairwise_map.mpr (sorted.imp ne_of_lt)

theorem IsSorted.put (sorted : IsSorted entries) (key : String) (value : α) :
    IsSorted (put key value entries) := by
  induction entries with
  | nil => exact List.pairwise_singleton _ _
  | cons first others ih =>
    obtain ⟨above, later⟩ := List.pairwise_cons.mp sorted
    unfold Keyed.put
    split
    · rename_i before
      refine List.pairwise_cons.mpr ⟨List.forall_mem_cons.mpr ⟨before, ?_⟩, sorted⟩
      exact fun entry member => before.trans (above entry member)
    · split
      · rename_i same
        exact List.pairwise_cons.mpr ⟨fun entry member => same ▸ above entry member, later⟩
      · rename_i not_before other
        have after : first.1 < key := lt_of_le_of_ne (not_lt.mp not_before) (Ne.symm other)
        refine List.pairwise_cons.mpr ⟨fun entry member => ?_, ih later⟩
        rcases mem_put member with rfl | member
        · exact after
        · exact above entry member

theorem isSorted_ofList (entries : List (String × α)) : IsSorted (ofList entries) := by
  have kept : ∀ given sorted : List (String × α), IsSorted sorted →
      IsSorted (given.foldl (fun sorted entry => put entry.1 entry.2 sorted) sorted) := by
    intro given
    induction given with
    | nil => exact fun _ => id
    | cons first others ih => exact fun sorted holds => ih _ (holds.put first.1 first.2)
  exact kept entries [] .nil

end Keyed

namespace Json.Tree

variable {members : List (String × Json)}

theorem Denotes.isSorted {tree : Tree} (denotes : tree.Denotes (.object members)) :
    Keyed.IsSorted members := by
  cases denotes with
  | object named => exact Keyed.isSorted_ofList _

theorem member?_ofMembers (name : String) (members : List (String × Json)) :
    member? name (ofMembers members) = (members.lookup name).map ofJson := by
  induction members with
  | nil => rfl
  | cons member members ih =>
    rw [ofMembers, member?, ih, List.lookup_cons]
    by_cases here : member.1 = name
    · simp [here]
    · have miss : (name == member.1) = false := beq_eq_false_iff_ne.mpr (Ne.symm here)
      simp [here, miss]

theorem fields?_of_isSorted (sorted : Keyed.IsSorted members) (names : List String) :
    fields? names (ofJson (.object members)) =
      some (names.map fun name => (members.lookup name).map ofJson) := by
  have fresh := nodup_names_ofMembers sorted.nodup
  refine fields?_eq_some_iff.mpr (hasFields_object_iff.mpr ⟨?_, ?_, ?_⟩)
  · rw [ofMembers_eq_map, List.forall_mem_map]
    exact fun _ _ => rfl
  · exact fun name _ => countOf_of_nodup fresh name
  · exact List.map_congr_left fun name _ => (member?_ofMembers name members).symm

mutual

theorem exists_denotes : (value : Json) → ∃ kept, (ofJson value).Denotes kept
  | .null => ⟨_, .null⟩
  | .bool b => ⟨_, .bool b⟩
  | .number n => ⟨_, .number n⟩
  | .string s => ⟨_, .string s⟩
  | .array items =>
    have ⟨_, denotes⟩ := exists_denotesItems items
    ⟨_, .array denotes⟩
  | .object members =>
    have ⟨_, denotes⟩ := exists_denotesMembers members
    ⟨_, .object denotes⟩

theorem exists_denotesItems : (items : List Json) → ∃ kept, DenotesItems (ofItems items) kept
  | [] => ⟨_, .nil⟩
  | item :: items =>
    have ⟨_, first⟩ := exists_denotes item
    have ⟨_, others⟩ := exists_denotesItems items
    ⟨_, .cons first others⟩

theorem exists_denotesMembers : (members : List (String × Json)) →
    ∃ kept, DenotesMembers (ofMembers members) kept
  | [] => ⟨_, .nil⟩
  | (_, item) :: members =>
    have ⟨_, first⟩ := exists_denotes item
    have ⟨_, others⟩ := exists_denotesMembers members
    ⟨_, .cons first others⟩

end

theorem depth_lt_of_lookup {name : String} {value : Json} (found : members.lookup name = some value) :
    (ofJson value).depth < (ofJson (.object members)).depth := by
  have written : member? name (ofMembers members) = some (ofJson value) := by
    rw [member?_ofMembers, found, Option.map_some]
  exact depth_lt_of_member (mem_of_member?_eq_some written)

end Json.Tree

/-! Which values a typed field takes, apart from what it makes of them. -/

namespace Json

def IsText (value : Json) : Prop := ∃ s, value = .string s

def IsNumber (value : Json) : Prop := ∃ n, value = .number n

def IsArray (kind : Json → Prop) (value : Json) : Prop :=
  ∃ items, value = .array items ∧ ∀ item ∈ items, kind item

end Json

namespace Field

open Json (Tree IsText IsNumber IsArray)

/-- A member is missing or null, or of this kind. -/
def MayBe (kind : Json → Prop) (member : Option Json) : Prop :=
  ∀ value ∈ member, value = .null ∨ kind value

/-- A member is missing, or of this kind. -/
def IfAny (kind : Json → Prop) (member : Option Json) : Prop := ∀ value ∈ member, kind value

variable {α : Type} {read : Tree → Option α} {kind : Json → Prop}

theorem MayBe.of_kind {value : Json} (of : kind value) : MayBe kind (some value) :=
  fun _ here => .inr (Option.some.inj here ▸ of)

theorem MayBe.of_silent {member : Option Json} (silent : member = none ∨ member = some .null) :
    MayBe kind member := by
  rcases silent with rfl | rfl
  · exact nofun
  · exact fun _ here => .inl (Option.some.inj here).symm

theorem exists_optional_iff (member : Option Json)
    (reads : ∀ value ∈ member, value ≠ .null → ((∃ x, read (.ofJson value) = some x) ↔ kind value)) :
    (∃ x, optional read (member.map Tree.ofJson) = some x) ↔ MayBe kind member := by
  cases member with
  | none => exact iff_of_true ⟨_, rfl⟩ nofun
  | some value =>
    by_cases null : value = .null
    · subst null
      exact iff_of_true ⟨none, rfl⟩ fun other here => .inl (Option.some.inj here).symm
    · have solid : ¬Document.isNull (Tree.ofJson value) = true := by
        cases value <;> first | exact absurd rfl null | exact Bool.false_ne_true
      simp only [Option.map_some, optional, if_neg solid, Option.map_eq_some_iff, MayBe,
        Option.mem_def, Option.some.injEq, forall_eq', null, false_or]
      rw [← reads value rfl null]
      constructor
      · rintro ⟨_, x, found, -⟩
        exact ⟨x, found⟩
      · rintro ⟨x, found⟩
        exact ⟨_, x, found, rfl⟩

theorem exists_orElse_iff (absent : α) (member : Option Json)
    (reads : ∀ value ∈ member, (∃ x, read (.ofJson value) = some x) ↔ kind value) :
    (∃ x, orElse absent read (member.map Tree.ofJson) = some x) ↔ IfAny kind member := by
  cases member with
  | none => exact iff_of_true ⟨_, rfl⟩ nofun
  | some value =>
    have own := reads value rfl
    simpa [orElse, IfAny] using own

theorem exists_text_iff (value : Json) : (∃ s, Tree.text? (.ofJson value) = some s) ↔ IsText value := by
  cases value <;> simp [Tree.ofJson, Tree.text?, IsText]

theorem exists_toDouble? (n : Json.Number) : ∃ x, n.toDouble? = some x := by
  cases n with
  | double x => exact ⟨x, rfl⟩
  | integer n range =>
    obtain ⟨x, rounded, -⟩ := Finite64.exists_ofInt? range
    exact ⟨x, rounded⟩

theorem exists_double_iff (value : Json) :
    (∃ x, Tree.double? (.ofJson value) = some x) ↔ IsNumber value := by
  cases value with
  | number n => exact iff_of_true (exists_toDouble? n) ⟨n, rfl⟩
  | _ => simp [Tree.ofJson, Tree.double?, Tree.number?, IsNumber]

theorem exists_mapM_iff {β : Type} {f : β → Option α} {xs : List β} :
    (∃ ys, xs.mapM f = some ys) ↔ ∀ x ∈ xs, ∃ y, f x = some y := by
  induction xs with
  | nil => simp
  | cons x xs ih =>
    rw [List.forall_mem_cons, ← ih, List.mapM_cons]
    constructor
    · rintro ⟨_, mapped⟩
      obtain ⟨y, first, mapped⟩ := Option.bind_eq_some_iff.mp mapped
      obtain ⟨ys, others, -⟩ := Option.bind_eq_some_iff.mp mapped
      exact ⟨⟨y, first⟩, ys, others⟩
    · rintro ⟨⟨y, first⟩, ys, others⟩
      exact ⟨y :: ys, by simp [first, others]⟩

theorem exists_list_iff {value : Json}
    (reads : ∀ item, (Tree.ofJson item).depth < (Tree.ofJson value).depth →
      ((∃ x, read (.ofJson item) = some x) ↔ kind item)) :
    (∃ xs, Tree.list? read (.ofJson value) = some xs) ↔ IsArray kind value := by
  cases value with
  | array items =>
    have inside (item : Json) (listed : item ∈ items) :
        (Tree.ofJson item).depth < (Tree.ofJson (.array items)).depth := by
      rw [Tree.ofJson, Tree.ofItems_eq_map]
      exact Tree.depth_lt_of_item (List.mem_map_of_mem listed)
    rw [Tree.ofJson, Tree.ofItems_eq_map]
    simp only [Tree.list?, exists_mapM_iff, List.forall_mem_map, IsArray, Json.array.injEq,
      exists_eq_left']
    exact forall₂_congr fun item listed => reads item (inside item listed)
  | _ => simp [Tree.ofJson, Tree.list?, IsArray]

theorem exists_value {level : Nat} (low : level ≤ 127) {value : Json}
    (shallow : level + (Tree.ofJson value).depth ≤ 127) :
    ∃ kept, Tree.value? level (.ofJson value) = some kept := by
  obtain ⟨kept, denotes⟩ := Tree.exists_denotes value
  exact ⟨kept, (Tree.value?_eq_some_iff low _ _).mpr ⟨denotes, shallow⟩⟩

end Field
end ModulatorHealth
