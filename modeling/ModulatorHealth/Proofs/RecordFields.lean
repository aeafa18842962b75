import ModulatorHealth.Json.Reader
import ModulatorHealth.Proofs.JsonValue
import Mathlib.Data.List.Forall2
import Mathlib.Data.List.Nodup

/-! What a record is in JSON: an object whose names can all be read and which has no field twice, or an
array with the fields in order, of which the last ones may be missing. Lists, maps and the fields of a
record take what their parts mean from a relation, and their readers agree with it as theirs do. -/
namespace ModulatorHealth

namespace Json.Tree

/-- The parts under a name, in the order in which they are written. -/
def partsNamed (name : String) (members : List (Option String × Tree)) : List Tree :=
  members.filterMap fun member => if member.1 = some name then some member.2 else none

/-- The parts that a record has for its fields, in the order of their names. Members of an object that
are no field do not matter. -/
inductive HasFields (names : List String) : Tree → List (Option Tree) → Prop where
  | object {members : List (Option String × Tree)} {fields : List (Option Tree)} :
      (∀ member ∈ members, member.1.isSome = true) →
      names.map (fun name => partsNamed name members) = fields.map Option.toList →
      HasFields names (.object members) fields
  | array {items : List Tree} (missing : Nat) : items.length + missing = names.length →
      HasFields names (.array items) (items.map some ++ List.replicate missing none)

variable {name : String} {names : List String} {members : List (Option String × Tree)}
  {fields : List (Option Tree)}

theorem partsNamed_cons (name : String) (member : Option String × Tree)
    (members : List (Option String × Tree)) :
    partsNamed name (member :: members) =
      if member.1 = some name then member.2 :: partsNamed name members
      else partsNamed name members := by
  by_cases same : member.1 = some name <;> simp [partsNamed, same]

theorem countOf_eq_length (name : String) (members : List (Option String × Tree)) :
    countOf name members = (partsNamed name members).length := by
  induction members with
  | nil => rfl
  | cons member members ih =>
    rw [partsNamed_cons, countOf, List.countP_cons, ← countOf, ih]
    by_cases same : member.1 = some name <;> simp [same]

theorem member?_eq_head? (name : String) (members : List (Option String × Tree)) :
    member? name members = (partsNamed name members).head? := by
  induction members with
  | nil => rfl
  | cons member members ih =>
    rw [partsNamed_cons, member?, ih]
    split <;> rfl

theorem countOf_le_one_iff :
    countOf name members ≤ 1 ↔ partsNamed name members = (member? name members).toList := by
  rw [countOf_eq_length, member?_eq_head?]
  cases parts : partsNamed name members with
  | nil => simp
  | cons part others => simp

theorem partsNamed_eq_toList {part : Option Tree} (same : partsNamed name members = part.toList) :
    member? name members = part := by
  rw [member?_eq_head?, same]
  cases part <;> rfl

theorem map_partsNamed_iff :
    names.map (fun name => partsNamed name members) = fields.map Option.toList ↔
      (∀ name ∈ names, countOf name members ≤ 1) ∧
        fields = names.map fun name => member? name members := by
  induction names generalizing fields with
  | nil => simp
  | cons name names ih =>
    cases fields with
    | nil => simp
    | cons part fields =>
      rw [List.map_cons, List.map_cons, List.cons.injEq, ih, List.forall_mem_cons, List.map_cons,
        List.cons.injEq, countOf_le_one_iff]
      constructor
      · rintro ⟨first, once, rest⟩
        have found := partsNamed_eq_toList first
        exact ⟨⟨found ▸ first, once⟩, found.symm, rest⟩
      · rintro ⟨⟨first, once⟩, found, rest⟩
        exact ⟨found ▸ first, once, rest⟩

theorem fields?_eq_some_iff {tree : Tree} :
    fields? names tree = some fields ↔ HasFields names tree fields := by
  constructor
  · intro read
    unfold fields? at read
    split at read
    · split at read
      · rename_i members written
        cases read
        refine .object (List.all_eq_true.mp written.1) (map_partsNamed_iff.mpr ⟨?_, rfl⟩)
        simpa using written.2
      · cases read
    · split at read
      · rename_i short
        cases read
        exact .array _ (Nat.add_sub_cancel' short)
      · cases read
    · cases read
  · intro written
    cases written with
    | object readable parts =>
      obtain ⟨once, rfl⟩ := map_partsNamed_iff.mp parts
      rw [fields?, if_pos ⟨List.all_eq_true.mpr readable, by simpa using once⟩]
    | @array items missing total =>
      have short : items.length ≤ names.length := by omega
      have left : names.length - items.length = missing := by omega
      rw [fields?, if_pos short, left]

theorem hasFields_object_iff : HasFields names (.object members) fields ↔
    (∀ member ∈ members, member.1.isSome = true) ∧ (∀ name ∈ names, countOf name members ≤ 1) ∧
      fields = names.map fun name => member? name members := by
  constructor
  · rintro ⟨readable, parts⟩
    exact ⟨readable, map_partsNamed_iff.mp parts⟩
  · rintro ⟨readable, once⟩
    exact .object readable (map_partsNamed_iff.mpr once)

theorem hasFields_array_iff {items : List Tree} : HasFields names (.array items) fields ↔
    items.length ≤ names.length ∧ fields = (List.range names.length).map fun i => items[i]? := by
  have padded (short : items.length ≤ names.length) :
      items.map some ++ List.replicate (names.length - items.length) none =
        (List.range names.length).map fun i => items[i]? := by
    refine List.ext_getElem (by simp [short]) fun i _ _ => ?_
    rw [List.getElem_append]
    split
    · rename_i inside
      rw [List.length_map] at inside
      simp [inside]
    · rename_i beyond
      rw [List.length_map, Nat.not_lt] at beyond
      simp [beyond]
  rw [← fields?_eq_some_iff, fields?]
  by_cases short : items.length ≤ names.length
  · rw [if_pos short, padded short, Option.some.injEq, and_iff_right short, eq_comm]
  · simp [short]

theorem countOf_eq_count (name : String) (members : List (Option String × Tree)) :
    countOf name members = (members.map Prod.fst).count (some name) := by
  rw [countOf, List.count, List.countP_map]
  congr 1
  funext member
  exact (beq_eq_decide _ _).symm

section Distinct

theorem mem_of_member?_eq_some {part : Tree} (found : member? name members = some part) :
    (some name, part) ∈ members := by
  induction members with
  | nil => cases found
  | cons member members ih =>
    unfold member? at found
    split at found
    · rename_i here
      cases found
      exact here ▸ List.mem_cons_self
    · exact List.mem_cons_of_mem _ (ih found)

variable (distinct : (members.map Prod.fst).Nodup)
include distinct

theorem countOf_of_nodup (name : String) : countOf name members ≤ 1 := by
  rw [countOf_eq_count]
  exact List.nodup_iff_count_le_one.mp distinct (some name)

theorem member?_of_mem {part : Tree} (written : (some name, part) ∈ members) :
    member? name members = some part := by
  induction members with
  | nil => cases written
  | cons member members ih =>
    obtain ⟨fresh, distinct⟩ := List.nodup_cons.mp distinct
    rcases List.mem_cons.mp written with rfl | later
    · exact if_pos rfl
    · have other : member.1 ≠ some name := by
        intro same
        exact fresh (same ▸ List.mem_map_of_mem later)
      exact (if_neg other).trans (ih distinct later)

end Distinct

theorem exists_member_of_partsNamed {part : Tree} (named : part ∈ partsNamed name members) :
    ∃ member ∈ members, member.2 = part := by
  obtain ⟨member, written, same⟩ := List.mem_filterMap.mp named
  split at same
  · exact ⟨member, written, Option.some.inj same⟩
  · cases same

theorem HasFields.depth_lt {tree part : Tree} (written : HasFields names tree fields)
    (field : some part ∈ fields) : part.depth < tree.depth := by
  cases written with
  | object _ parts =>
    have listed : [part] ∈ fields.map Option.toList := List.mem_map.mpr ⟨_, field, rfl⟩
    rw [← parts] at listed
    obtain ⟨name, -, named⟩ := List.mem_map.mp listed
    obtain ⟨member, kept, rfl⟩ := exists_member_of_partsNamed (named ▸ List.mem_singleton_self part)
    exact depth_lt_of_member kept
  | array missing _ => exact depth_lt_of_item (by simpa using field)

section Containers

variable {α : Type} {read : Tree → Option α} {means : Tree → α → Prop} {limit : Nat} {tree : Tree}

def IsList (means : Tree → α → Prop) (tree : Tree) (values : List α) : Prop :=
  ∃ items, tree = .array items ∧ List.Forall₂ means items values

/-- An object of which every member has a name and means something; the last member under a name
counts. -/
def IsMap (means : Tree → α → Prop) (tree : Tree) (entries : List (String × α)) : Prop :=
  ∃ members named, tree = .object members ∧
    List.Forall₂ (fun member entry => member.1 = some entry.1 ∧ means member.2 entry.2) members named ∧
    entries = Keyed.ofList named

theorem mapM_eq_some_iff {β γ : Type} {f : β → Option γ} {relation : β → γ → Prop} {xs : List β}
    (each : ∀ x ∈ xs, ∀ y, f x = some y ↔ relation x y) {ys : List γ} :
    xs.mapM f = some ys ↔ List.Forall₂ relation xs ys := by
  induction xs generalizing ys with
  | nil => simp [eq_comm]
  | cons x xs ih =>
    rw [List.forall_mem_cons] at each
    rw [List.mapM_cons]
    constructor
    · intro mapped
      obtain ⟨y, first, mapped⟩ := Option.bind_eq_some_iff.mp mapped
      obtain ⟨others, more, same⟩ := Option.bind_eq_some_iff.mp mapped
      cases same
      exact .cons ((each.1 y).mp first) ((ih each.2).mp more)
    · rintro (_ | ⟨first, others⟩)
      rw [(each.1 _).mpr first, (ih each.2).mpr others]
      rfl

theorem list?_eq_some_iff
    (reads : ∀ part : Tree, part.depth ≤ limit → ∀ value, read part = some value ↔ means part value)
    (shallow : tree.depth ≤ limit + 1) {values : List α} :
    list? read tree = some values ↔ IsList means tree values := by
  constructor
  · intro found
    unfold list? at found
    split at found
    · rename_i items
      refine ⟨items, rfl, (mapM_eq_some_iff fun item listed => reads item ?_).mp found⟩
      have := depth_lt_of_item listed
      omega
    · cases found
  · rintro ⟨items, rfl, meant⟩
    refine (mapM_eq_some_iff fun item listed => reads item ?_).mpr meant
    have := depth_lt_of_item listed
    omega

theorem named?_eq_some_iff {member : Option String × Tree} {entry : String × α}
    (reads : ∀ value, read member.2 = some value ↔ means member.2 value) :
    named? read member = some entry ↔ member.1 = some entry.1 ∧ means member.2 entry.2 := by
  rw [named?, Option.bind_eq_some_iff]
  constructor
  · rintro ⟨name, named, found⟩
    obtain ⟨value, one, rfl⟩ := Option.map_eq_some_iff.mp found
    exact ⟨named, (reads value).mp one⟩
  · rintro ⟨named, meant⟩
    exact ⟨entry.1, named, Option.map_eq_some_iff.mpr ⟨_, (reads _).mpr meant, rfl⟩⟩

theorem map?_eq_some_iff
    (reads : ∀ part : Tree, part.depth ≤ limit → ∀ value, read part = some value ↔ means part value)
    (shallow : tree.depth ≤ limit + 1) {entries : List (String × α)} :
    map? read tree = some entries ↔ IsMap means tree entries := by
  have within : ∀ members, tree = .object members → ∀ member ∈ members, ∀ entry,
      named? read member = some entry ↔ member.1 = some entry.1 ∧ means member.2 entry.2 := by
    rintro members rfl member written entry
    refine named?_eq_some_iff (reads member.2 ?_)
    have := depth_lt_of_member written
    omega
  constructor
  · intro found
    unfold map? at found
    split at found
    · rename_i members
      obtain ⟨named, each, rfl⟩ := Option.map_eq_some_iff.mp found
      exact ⟨members, named, rfl, (mapM_eq_some_iff (within members rfl)).mp each, rfl⟩
    · cases found
  · rintro ⟨members, named, rfl, meant, rfl⟩
    rw [map?, (mapM_eq_some_iff (within members rfl)).mpr meant]
    rfl

end Containers

def IsText (tree : Tree) (text : String) : Prop := tree = .string (some text)

theorem text?_eq_some_iff {tree : Tree} {text : String} :
    text? tree = some text ↔ IsText tree text := by
  constructor
  · intro read
    unfold text? at read
    split at read
    · rw [read]
      rfl
    · cases read
  · rintro rfl
    rfl

@[simp] theorem isNull_iff {tree : Tree} : Document.isNull tree = true ↔ tree = .null := by
  cases tree <;> simp [Document.isNull, isNull]

end Json.Tree

namespace Field

open Json (Tree)

/-- What an optional field holds: nothing if it is missing or null, and else what its part means. -/
inductive Holds {α : Type} (means : Tree → α → Prop) : Option Tree → Option α → Prop where
  | missing : Holds means none none
  | null : Holds means (some .null) none
  | written {part : Tree} {value : α} : part ≠ .null → means part value →
      Holds means (some part) (some value)

/-- What a field with a default holds: null is no default. -/
inductive Defaults {α : Type} (absent : α) (means : Tree → α → Prop) : Option Tree → α → Prop where
  | missing : Defaults absent means none absent
  | written {part : Tree} {value : α} : means part value → Defaults absent means (some part) value

variable {α : Type} {read : Tree → Option α} {means : Tree → α → Prop} {field : Option Tree}

theorem required_eq_some_iff {value : α} :
    required read field = some value ↔ ∃ part, field = some part ∧ read part = some value :=
  Option.bind_eq_some_iff

theorem optional_eq_some_iff
    (reads : ∀ part ∈ field, ∀ value, read part = some value ↔ means part value)
    {value : Option α} : optional read field = some value ↔ Holds means field value := by
  constructor
  · intro found
    cases field with
    | none =>
      cases found
      exact .missing
    | some part =>
      by_cases null : part = .null
      · subst null
        cases found
        exact .null
      · rw [optional, if_neg (by simpa using null)] at found
        obtain ⟨value, one, rfl⟩ := Option.map_eq_some_iff.mp found
        exact .written null ((reads part rfl value).mp one)
  · intro holds
    cases holds with
    | missing => rfl
    | null => rfl
    | written other meant => simp [optional, other, (reads _ rfl _).mpr meant]

theorem optional_iff (reads : ∀ part value, read part = some value ↔ means part value)
    {value : Option α} : optional read field = some value ↔ Holds means field value :=
  optional_eq_some_iff fun part _ => reads part

theorem optional_text_iff {value : Option String} :
    optional Tree.text? field = some value ↔ Holds Tree.IsText field value :=
  optional_iff fun _ _ => Tree.text?_eq_some_iff

theorem orElse_eq_some_iff {absent : α}
    (reads : ∀ part ∈ field, ∀ value, read part = some value ↔ means part value) {value : α} :
    orElse absent read field = some value ↔ Defaults absent means field value := by
  constructor
  · intro found
    cases field with
    | none =>
      cases found
      exact .missing
    | some part => exact .written ((reads part rfl value).mp found)
  · intro holds
    cases holds with
    | missing => rfl
    | written meant => exact (reads _ rfl _).mpr meant

theorem orElse_iff {absent : α} (reads : ∀ part value, read part = some value ↔ means part value)
    {value : α} : orElse absent read field = some value ↔ Defaults absent means field value :=
  orElse_eq_some_iff fun part _ => reads part

end Field
end ModulatorHealth
