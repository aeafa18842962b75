import ModulatorHealth.Json.Tree

/-! The values of parts that are kept: what they are does not depend on where the part stands, but
only a part that is not nested too deeply has one. -/
namespace ModulatorHealth

section Entries

variable {α : Type} {entry : String × α}

theorem Keyed.mem_put {key : String} {value : α} {sorted : List (String × α)}
    (member : entry ∈ put key value sorted) : entry = (key, value) ∨ entry ∈ sorted := by
  induction sorted with
  | nil => exact .inl (by simpa [put] using member)
  | cons first others ih =>
    unfold put at member
    split at member
    · exact List.mem_cons.mp member
    · split at member
      · exact (List.mem_cons.mp member).imp_right (List.mem_cons_of_mem _)
      · rcases List.mem_cons.mp member with rfl | later
        · exact .inr List.mem_cons_self
        · exact (ih later).imp_right (List.mem_cons_of_mem _)

theorem Keyed.mem_of_mem_ofList {entries : List (String × α)} (member : entry ∈ ofList entries) :
    entry ∈ entries := by
  have kept : ∀ given sorted : List (String × α),
      entry ∈ given.foldl (fun sorted entry => put entry.1 entry.2 sorted) sorted →
      entry ∈ given ∨ entry ∈ sorted := by
    intro given
    induction given with
    | nil => exact fun _ => .inr
    | cons first others ih =>
      intro sorted member
      rcases ih _ member with later | before
      · exact .inl (List.mem_cons_of_mem _ later)
      · rcases Keyed.mem_put before with rfl | before
        · exact .inl List.mem_cons_self
        · exact .inr before
  simpa using kept entries [] member

end Entries

namespace Json.Tree

mutual

/-- The value that a tree denotes. A spelling that denotes nothing, anywhere in it, leaves it without
one; of the members under one name the last counts. -/
inductive Denotes : Tree → Json → Prop where
  | null : Denotes .null .null
  | bool (b : Bool) : Denotes (.bool b) (.bool b)
  | number (n : Number) : Denotes (.number (some n)) (.number n)
  | string (s : String) : Denotes (.string (some s)) (.string s)
  | array {items : List Tree} {values : List Json} : DenotesItems items values →
      Denotes (.array items) (.array values)
  | object {members : List (Option String × Tree)} {named : List (String × Json)} :
      DenotesMembers members named → Denotes (.object members) (.object (Keyed.ofList named))

inductive DenotesItems : List Tree → List Json → Prop where
  | nil : DenotesItems [] []
  | cons {item : Tree} {value : Json} {items : List Tree} {values : List Json} : Denotes item value →
      DenotesItems items values → DenotesItems (item :: items) (value :: values)

inductive DenotesMembers : List (Option String × Tree) → List (String × Json) → Prop where
  | nil : DenotesMembers [] []
  | cons {name : String} {item : Tree} {value : Json} {members : List (Option String × Tree)}
      {named : List (String × Json)} : Denotes item value → DenotesMembers members named →
      DenotesMembers ((some name, item) :: members) ((name, value) :: named)

end

mutual

def depth : Tree → Nat
  | .null | .bool _ | .number _ | .string _ => 0
  | .array items => depthOfItems items + 1
  | .object members => depthOfMembers members + 1

def depthOfItems : List Tree → Nat
  | [] => 0
  | item :: items => max item.depth (depthOfItems items)

def depthOfMembers : List (Option String × Tree) → Nat
  | [] => 0
  | (_, item) :: members => max item.depth (depthOfMembers members)

end

/-! Each reader against the relation, one case for each constructor. A level more is open inside. -/

mutual

theorem value?_eq_some_iff {level : Nat} (shallow : level ≤ maxDepth) : (tree : Tree) → (value : Json) →
    (value? level tree = some value ↔ Denotes tree value ∧ level + tree.depth ≤ maxDepth)
  | .null, value => by
    constructor
    · rintro ⟨⟩
      exact ⟨.null, shallow⟩
    · rintro ⟨⟨⟩, -⟩
      rfl
  | .bool b, value => by
    constructor
    · rintro ⟨⟩
      exact ⟨.bool b, shallow⟩
    · rintro ⟨⟨⟩, -⟩
      rfl
  | .number n, value => by
    constructor
    · intro kept
      obtain ⟨n, rfl, rfl⟩ := Option.map_eq_some_iff.mp kept
      exact ⟨.number n, shallow⟩
    · rintro ⟨⟨⟩, -⟩
      rfl
  | .string s, value => by
    constructor
    · intro kept
      obtain ⟨s, rfl, rfl⟩ := Option.map_eq_some_iff.mp kept
      exact ⟨.string s, shallow⟩
    · rintro ⟨⟨⟩, -⟩
      rfl
  | .array items, value => by
    rw [value?, depth]
    split
    · rename_i room
      have inside := values?_eq_some_iff room items
      constructor
      · intro kept
        obtain ⟨values, found, rfl⟩ := Option.map_eq_some_iff.mp kept
        obtain ⟨denotes, fits⟩ := (inside _).mp found
        exact ⟨.array denotes, by omega⟩
      · rintro ⟨denotes, fits⟩
        cases denotes with
        | array denotes =>
          rw [(inside _).mpr ⟨denotes, by omega⟩]
          rfl
    · rename_i full
      simp only [reduceCtorEq, false_iff, not_and]
      omega
  | .object members, value => by
    rw [value?, depth]
    split
    · rename_i room
      have inside := namedValues?_eq_some_iff room members
      constructor
      · intro kept
        obtain ⟨named, found, rfl⟩ := Option.map_eq_some_iff.mp kept
        obtain ⟨denotes, fits⟩ := (inside _).mp found
        exact ⟨.object denotes, by omega⟩
      · rintro ⟨denotes, fits⟩
        cases denotes with
        | object denotes =>
          rw [(inside _).mpr ⟨denotes, by omega⟩]
          rfl
    · rename_i full
      simp only [reduceCtorEq, false_iff, not_and]
      omega

theorem values?_eq_some_iff {level : Nat} (shallow : level ≤ maxDepth) : (items : List Tree) →
    (values : List Json) → (values? level items = some values ↔
      DenotesItems items values ∧ level + depthOfItems items ≤ maxDepth)
  | [], values => by
    constructor
    · rintro ⟨⟩
      exact ⟨.nil, shallow⟩
    · rintro ⟨⟨⟩, -⟩
      rfl
  | item :: items, values => by
    have first := value?_eq_some_iff shallow item
    have others := values?_eq_some_iff shallow items
    rw [values?, depthOfItems]
    constructor
    · intro kept
      obtain ⟨value, one, rest⟩ := Option.bind_eq_some_iff.mp kept
      obtain ⟨values, more, rfl⟩ := Option.map_eq_some_iff.mp rest
      obtain ⟨denotes, fits⟩ := (first _).mp one
      obtain ⟨denotes', fits'⟩ := (others _).mp more
      exact ⟨.cons denotes denotes', by omega⟩
    · rintro ⟨denotes, fits⟩
      cases denotes with
      | cons one more =>
        rw [(first _).mpr ⟨one, by omega⟩, Option.bind_some, (others _).mpr ⟨more, by omega⟩]
        rfl

theorem namedValues?_eq_some_iff {level : Nat} (shallow : level ≤ maxDepth) :
    (members : List (Option String × Tree)) → (named : List (String × Json)) →
    (namedValues? level members = some named ↔
      DenotesMembers members named ∧ level + depthOfMembers members ≤ maxDepth)
  | [], named => by
    constructor
    · rintro ⟨⟩
      exact ⟨.nil, shallow⟩
    · rintro ⟨⟨⟩, -⟩
      rfl
  | (name, item) :: members, named => by
    have first := value?_eq_some_iff shallow item
    have others := namedValues?_eq_some_iff shallow members
    rw [namedValues?, depthOfMembers]
    constructor
    · intro kept
      obtain ⟨name, rfl, rest⟩ := Option.bind_eq_some_iff.mp kept
      obtain ⟨value, one, rest'⟩ := Option.bind_eq_some_iff.mp rest
      obtain ⟨named, more, rfl⟩ := Option.map_eq_some_iff.mp rest'
      obtain ⟨denotes, fits⟩ := (first _).mp one
      obtain ⟨denotes', fits'⟩ := (others _).mp more
      exact ⟨.cons denotes denotes', by omega⟩
    · rintro ⟨denotes, fits⟩
      cases denotes with
      | cons one more =>
        rw [Option.bind_some, (first _).mpr ⟨one, by omega⟩, Option.bind_some,
          (others _).mpr ⟨more, by omega⟩]
        rfl

end

section Depth

theorem depthOfItems_le_iff {items : List Tree} {limit : Nat} :
    depthOfItems items ≤ limit ↔ ∀ item ∈ items, item.depth ≤ limit := by
  induction items with
  | nil => simp [depthOfItems]
  | cons item items ih => rw [depthOfItems, Nat.max_le, ih, List.forall_mem_cons]

theorem depthOfMembers_le_iff {members : List (Option String × Tree)} {limit : Nat} :
    depthOfMembers members ≤ limit ↔ ∀ member ∈ members, member.2.depth ≤ limit := by
  induction members with
  | nil => simp [depthOfMembers]
  | cons member members ih => rw [depthOfMembers, Nat.max_le, ih, List.forall_mem_cons]

theorem depth_lt_of_item {items : List Tree} {item : Tree} (listed : item ∈ items) :
    item.depth < (Tree.array items).depth :=
  Nat.lt_succ_of_le (depthOfItems_le_iff.mp (Nat.le_refl _) item listed)

theorem depth_lt_of_member {members : List (Option String × Tree)} {member : Option String × Tree}
    (written : member ∈ members) : member.2.depth < (Tree.object members).depth :=
  Nat.lt_succ_of_le (depthOfMembers_le_iff.mp (Nat.le_refl _) member written)

theorem depthOfMembers_ofMembers_le {members : List (String × Json)} {limit : Nat}
    (shallow : ∀ member ∈ members, (ofJson member.2).depth ≤ limit) :
    depthOfMembers (ofMembers members) ≤ limit := by
  induction members with
  | nil => exact Nat.zero_le limit
  | cons member members ih =>
    rw [List.forall_mem_cons] at shallow
    exact Nat.max_le.mpr ⟨shallow.1, ih shallow.2⟩

mutual

theorem Denotes.depth_le {tree : Tree} {value : Json} :
    Denotes tree value → (ofJson value).depth ≤ tree.depth
  | .null | .bool _ | .number _ | .string _ => Nat.le_refl _
  | .array items => by
    have inside := items.depth_le
    rw [ofJson, depth, depth]
    omega
  | .object members => by
    have inside := members.depth_le
    rw [ofJson, depth, depth]
    refine Nat.succ_le_succ (depthOfMembers_ofMembers_le fun member kept => ?_)
    exact inside member (Keyed.mem_of_mem_ofList kept)

theorem DenotesItems.depth_le {items : List Tree} {values : List Json} :
    DenotesItems items values → depthOfItems (ofItems values) ≤ depthOfItems items
  | .nil => Nat.le_refl _
  | .cons item items => by
    have first := item.depth_le
    have others := items.depth_le
    rw [ofItems, depthOfItems, depthOfItems]
    omega

theorem DenotesMembers.depth_le {members : List (Option String × Tree)}
    {named : List (String × Json)} :
    DenotesMembers members named → ∀ entry ∈ named, (ofJson entry.2).depth ≤ depthOfMembers members
  | .nil => fun _ none => absurd none List.not_mem_nil
  | .cons item members => by
    have first := item.depth_le
    have others := members.depth_le
    rw [depthOfMembers, List.forall_mem_cons]
    exact ⟨Nat.le_trans first (Nat.le_max_left _ _),
      fun entry later => Nat.le_trans (others entry later) (Nat.le_max_right _ _)⟩

end

end Depth

end Json.Tree
end ModulatorHealth
