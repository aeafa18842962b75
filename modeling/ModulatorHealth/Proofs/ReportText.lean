import ModulatorHealth.Report
import ModulatorHealth.Proofs.JsonText
import ModulatorHealth.Proofs.RecordFields
import ModulatorHealth.Proofs.TimestampText

/-! What is written of outcomes, aggregates and reports reads as what was written. -/
namespace ModulatorHealth

namespace Json.Tree

variable {members : List (String × Json)}

theorem ofItems_eq_map (items : List Json) : ofItems items = items.map ofJson := by
  induction items with
  | nil => rfl
  | cons item items ih => rw [ofItems, ih, List.map_cons]

theorem ofMembers_eq_map (members : List (String × Json)) :
    ofMembers members = members.map fun member => (some member.1, ofJson member.2) := by
  induction members with
  | nil => rfl
  | cons member members ih => rw [ofMembers, ih, List.map_cons]

theorem nodup_names_ofMembers (distinct : (members.map Prod.fst).Nodup) :
    ((ofMembers members).map Prod.fst).Nodup := by
  have names : (ofMembers members).map Prod.fst = (members.map Prod.fst).map some := by
    rw [ofMembers_eq_map, List.map_map, List.map_map]
    rfl
  exact names ▸ distinct.map (Option.some_injective String)

theorem fields?_object (distinct : (members.map Prod.fst).Nodup) :
    fields? (members.map Prod.fst) (ofJson (.object members)) =
      some (members.map fun member => some (ofJson member.2)) := by
  have fresh := nodup_names_ofMembers distinct
  refine fields?_eq_some_iff.mpr (hasFields_object_iff.mpr ⟨?_, ?_, ?_⟩)
  · rw [ofMembers_eq_map, List.forall_mem_map]
    exact fun _ _ => rfl
  · exact fun name _ => countOf_of_nodup fresh name
  · rw [List.map_map]
    refine List.map_congr_left fun member written => (member?_of_mem fresh ?_).symm
    rw [ofMembers_eq_map]
    exact List.mem_map_of_mem written

theorem list?_array {α : Type} {read : Tree → Option α} {write : α → Json}
    (reads : ∀ x, read (ofJson (write x)) = some x) (xs : List α) :
    list? read (ofJson (.array (xs.map write))) = some xs := by
  rw [ofJson, list?, ofItems_eq_map, List.map_map]
  induction xs with
  | nil => rfl
  | cons x xs ih => simp [reads, ih]

@[simp] theorem bool?_bool (b : Bool) : bool? (ofJson (.bool b)) = some b := rfl

theorem uint64?_ofUInt64 (n : UInt64) :
    Document.uint64? (ofJson (.number (.ofUInt64 n))) = some n := by
  have integer : Document.integer? (ofJson (.number (.ofUInt64 n))) = some (n.toNat : Int) := rfl
  have below : (n.toNat : Int) < UInt64.size := Int.ofNat_lt.mpr n.toNat_lt_size
  rw [Document.uint64?, Document.natBelow?, integer, Option.bind_some,
    if_pos ⟨Int.natCast_nonneg _, below⟩]
  simp

end Json.Tree

@[simp] theorem Field.required_some {τ α : Type} (read : τ → Option α) (part : τ) :
    Field.required read (some part) = read part := rfl

open Json (Tree)

theorem Field.bind_text {α : Type} (parse : String → Option α) (text : String) :
    (Field.required Tree.text? (some (.ofJson (.string text)))).bind parse = parse text := rfl

theorem ProbeId.read?_toJson (id : ProbeId) : read? (.ofJson id.toJson) = some id := by
  cases id <;> decide

theorem Overall.read?_toJson (status : Overall) : read? (.ofJson status.toJson) = some status := by
  cases status <;> decide

theorem Outcome.ofParts?_state (o : Outcome) :
    ofParts? o.state (some (.ofJson (.ofText? o.comment))) = some o := by
  rcases o with (_ | _) | (_ | _) | _ <;> rfl

theorem Outcome.read?_toJson (o : Outcome) : read? (.ofJson o.toJson) = some o := by
  have fields : Tree.fields? ["state", "comment"] (.ofJson o.toJson) = _ :=
    Tree.fields?_object (by simp)
  have object : Tree.ofJson o.toJson = .object (Tree.ofMembers _) := rfl
  unfold read?
  rw [object] at fields ⊢
  dsimp only
  rw [fields]
  exact o.ofParts?_state

theorem Aggregate.Entry.read?_toJson (entry : Entry) :
    read? (.ofJson entry.toJson) = some entry := by
  have fields : Tree.fields? ["id", "outcome"] (.ofJson entry.toJson) = _ :=
    Tree.fields?_object (by simp)
  unfold read?
  rw [fields]
  simp [entry.id.read?_toJson, entry.outcome.read?_toJson]

theorem Aggregate.read?_toJson (a : Aggregate) : read? (.ofJson a.toJson) = some a := by
  have fields : Tree.fields? ["probes", "failure_seen"] (.ofJson a.toJson) = _ :=
    Tree.fields?_object (by simp)
  have entries := Tree.list?_array Entry.read?_toJson a.entries
  unfold read?
  rw [fields]
  simp [entries]

theorem Report.read?_toJson {r : Report} (started : r.startedAt.IsClockTime)
    (ended : r.finishedAt.IsClockTime) : read? (.ofJson r.toJson) = some r := by
  have fields : Tree.fields? fieldNames (.ofJson r.toJson) = _ :=
    Tree.fields?_object (by simp)
  unfold read?
  rw [fields]
  -- A field at a time, each by its own lemma: computing the readers on unknown texts would not end.
  refine bind_of_read rfl ?_
  refine bind_of_read (by rw [Field.bind_text, r.runId.parse?_text]) ?_
  refine bind_of_read (a := r.device) rfl ?_
  refine bind_of_read (by rw [Field.bind_text, Timestamp.parse?_text started]) ?_
  refine bind_of_read (by rw [Field.bind_text, Timestamp.parse?_text ended]) ?_
  refine bind_of_read (by rw [Field.required_some, Tree.uint64?_ofUInt64]) ?_
  refine bind_of_read r.overall.read?_toJson ?_
  exact bind_of_read r.aggregate.read?_toJson rfl

section Numbers

theorem Json.noItemHasDouble_map {α : Type} {write : α → Json} (xs : List α)
    (each : ∀ x, (write x).HasNoDouble) : NoItemHasDouble (xs.map write) := by
  induction xs with
  | nil => trivial
  | cons x xs ih => exact ⟨each x, ih⟩

theorem Outcome.hasNoDouble (o : Outcome) : o.toJson.HasNoDouble := by
  rcases o with (_ | _) | (_ | _) | _ <;> exact ⟨trivial, trivial, trivial⟩

theorem Aggregate.hasNoDouble (a : Aggregate) : a.toJson.HasNoDouble := by
  have entries := Json.noItemHasDouble_map a.entries fun entry =>
    show entry.toJson.HasNoDouble from ⟨trivial, entry.outcome.hasNoDouble, trivial⟩
  exact ⟨entries, trivial, trivial⟩

theorem Report.hasNoDouble (r : Report) : r.toJson.HasNoDouble :=
  ⟨trivial, trivial, trivial, trivial, trivial, trivial, r.aggregate.hasNoDouble, trivial⟩

end Numbers

end ModulatorHealth
