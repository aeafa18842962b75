import ModulatorHealth.Aggregate
import ModulatorHealth.Config
import ModulatorHealth.Param
import ModulatorHealth.Proofs.RecordFields

/-! What the data model is in JSON: outcomes, aggregates, references to parameters and the settings, in all
the spellings that are read. Their readers accept these and nothing else. -/
namespace ModulatorHealth

open Json (Tree)

namespace Json.Tree

section Scalars

variable {tree : Tree}

/-- A name written as a text, or as the only member of an object, with nothing in it. -/
def IsWord (tree : Tree) (name : String) : Prop :=
  tree = .string (some name) ∨ tree = .object [(some name, .null)]

def IsInteger (tree : Tree) (n : Int) : Prop := ∃ fits, tree = .number (some (.integer n fits))

theorem word?_eq_some_iff {name : String} : word? tree = some name ↔ IsWord tree name := by
  constructor
  · intro read
    unfold word? at read
    split at read
    · exact .inl (by rw [read])
    · exact .inr (by rw [read])
    · cases read
  · rintro (rfl | rfl) <;> rfl

theorem bool?_eq_some_iff {b : Bool} : bool? tree = some b ↔ tree = .bool b := by
  constructor
  · intro read
    unfold bool? at read
    split at read
    · rw [Option.some.inj read]
    · cases read
  · rintro rfl
    rfl

theorem integer?_eq_some_iff {n : Int} : integer? tree = some n ↔ IsInteger tree n := by
  constructor
  · intro read
    unfold integer? number? at read
    split at read
    · rename_i m fits found
      split at found
      · cases read
        exact ⟨fits, by rw [found]⟩
      · cases found
    · cases read
  · rintro ⟨fits, rfl⟩
    rfl

theorem natBelow?_eq_some_iff {bound n : Nat} :
    Document.natBelow? bound tree = some n ↔ IsInteger tree n ∧ n < bound := by
  constructor
  · intro read
    obtain ⟨m, integer, read⟩ := Option.bind_eq_some_iff.mp read
    split at read
    · rename_i within
      cases read
      have value : ((m.toNat : Nat) : Int) = m := Int.toNat_of_nonneg within.1
      exact ⟨value.symm ▸ integer?_eq_some_iff.mp integer, by omega⟩
    · cases read
  · rintro ⟨integer, small⟩
    have found : Document.integer? tree = some (n : Int) := integer?_eq_some_iff.mpr integer
    rw [Document.natBelow?, found, Option.bind_some, if_pos ⟨by omega, by omega⟩, Int.toNat_natCast]

theorem uint64?_eq_some_iff {n : UInt64} :
    Document.uint64? tree = some n ↔ IsInteger tree n.toNat := by
  rw [Document.uint64?, Option.map_eq_some_iff]
  constructor
  · rintro ⟨m, read, rfl⟩
    obtain ⟨integer, small⟩ := natBelow?_eq_some_iff.mp read
    rwa [UInt64.toNat_ofNat_of_lt' small]
  · intro integer
    exact ⟨n.toNat, natBelow?_eq_some_iff.mpr ⟨integer, n.toNat_lt_size⟩, UInt64.ofNat_toNat⟩

theorem uint32?_eq_some_iff {n : UInt32} :
    Document.uint32? tree = some n ↔ IsInteger tree n.toNat := by
  rw [Document.uint32?, Option.map_eq_some_iff]
  constructor
  · rintro ⟨m, read, rfl⟩
    obtain ⟨integer, small⟩ := natBelow?_eq_some_iff.mp read
    rwa [UInt32.toNat_ofNat_of_lt' small]
  · intro integer
    exact ⟨n.toNat, natBelow?_eq_some_iff.mpr ⟨integer, n.toNat_lt_size⟩, UInt32.ofNat_toNat⟩

theorem int64?_eq_some_iff {n : Int64} : Document.int64? tree = some n ↔ IsInteger tree n.toInt := by
  rw [Document.int64?, Option.bind_eq_some_iff]
  constructor
  · rintro ⟨m, read, fits⟩
    split at fits
    · rename_i within
      cases fits
      have value : (Int64.ofInt m).toInt = m := Int64.toInt_ofInt_of_le within.1 within.2
      exact value.symm ▸ integer?_eq_some_iff.mp read
    · cases fits
  · intro integer
    refine ⟨n.toInt, integer?_eq_some_iff.mpr integer, ?_⟩
    rw [if_pos ⟨n.le_toInt, n.toInt_lt⟩, Int64.ofInt_toInt]

end Scalars

end Json.Tree

section Aggregates

variable {tree : Tree}

/-- The two parts of an outcome: members in any order, or two items. -/
def Outcome.HasParts (tree : Tree) (state : Tree) (comment : Option Tree) : Prop :=
  (∃ members, tree = .object members) ∧ tree.HasFields ["state", "comment"] [some state, comment] ∨
    ∃ item, tree = .array [state, item] ∧ comment = some item

/-- What is written of the comment. A failure has its reason, and the other comments may be missing or
null. -/
def Outcome.HoldsComment (comment : Option Tree) : Outcome → Prop
  | .pending text | .ok text => Field.Holds Tree.IsText comment text
  | .fail reason => comment = some (.string (some reason))

def Outcome.IsWritten (tree : Tree) (o : Outcome) : Prop :=
  ∃ state comment, HasParts tree state comment ∧ state.IsWord o.state ∧ o.HoldsComment comment

def Aggregate.Entry.IsWritten (tree : Tree) (entry : Entry) : Prop :=
  ∃ id outcome, tree.HasFields ["id", "outcome"] [some id, some outcome] ∧
    id.IsWord entry.id.name ∧ Outcome.IsWritten outcome entry.outcome

def Aggregate.IsWritten (tree : Tree) (a : Aggregate) : Prop :=
  ∃ probes, tree.HasFields ["probes", "failure_seen"] [some probes, some (.bool a.failureSeen)] ∧
    probes.IsList Entry.IsWritten a.entries

theorem ProbeId.ofName?_eq_some_iff {name : String} {id : ProbeId} :
    ofName? name = some id ↔ name = id.name := by
  constructor
  · intro found
    simpa [eq_comm] using List.find?_some found
  · rintro rfl
    cases id <;> decide

theorem ProbeId.read?_eq_some_iff {id : ProbeId} : read? tree = some id ↔ tree.IsWord id.name := by
  rw [read?, Option.bind_eq_some_iff]
  simp only [Tree.word?_eq_some_iff, ofName?_eq_some_iff, exists_eq_right]

theorem Outcome.ofParts?_eq_some_iff {name : String} {comment : Option Tree} {o : Outcome} :
    ofParts? name comment = some o ↔ name = o.state ∧ o.HoldsComment comment := by
  constructor
  · intro read
    unfold ofParts? at read
    split at read
    · obtain ⟨text, held, rfl⟩ := Option.map_eq_some_iff.mp read
      exact ⟨rfl, Field.optional_text_iff.mp held⟩
    · obtain ⟨text, held, rfl⟩ := Option.map_eq_some_iff.mp read
      exact ⟨rfl, Field.optional_text_iff.mp held⟩
    · obtain ⟨reason, held, rfl⟩ := Option.map_eq_some_iff.mp read
      obtain ⟨part, rfl, text⟩ := Field.required_eq_some_iff.mp held
      exact ⟨rfl, congrArg some (Tree.text?_eq_some_iff.mp text)⟩
    · cases read
  · rintro ⟨rfl, held⟩
    cases o with
    | pending text | ok text => simp [ofParts?, state, Field.optional_text_iff.mpr held]
    | fail reason =>
      rw [show comment = _ from held]
      rfl

theorem Outcome.read?_array (state comment : Tree) :
    read? (.array [state, comment]) = state.word?.bind (ofParts? · (some comment)) := rfl

theorem Outcome.exists_of_read?_array {items : List Tree} {o : Outcome}
    (read : read? (.array items) = some o) : ∃ state comment, items = [state, comment] := by
  unfold read? at read
  dsimp only at read
  split at read
  · rename_i two
    exact List.length_eq_two.mp two
  · cases read

theorem Outcome.read?_object_eq_some_iff {members : List (Option String × Tree)} {o : Outcome} :
    read? (.object members) = some o ↔
      ∃ state comment, Tree.HasFields ["state", "comment"] (.object members) [some state, comment] ∧
        state.word?.bind (ofParts? · comment) = some o := by
  constructor
  · intro read
    change (Tree.fields? ["state", "comment"] (.object members)).bind _ = some o at read
    obtain ⟨parts, found, read⟩ := Option.bind_eq_some_iff.mp read
    dsimp only at read
    split at read
    · obtain ⟨name, named, told⟩ := Option.bind_eq_some_iff.mp read
      obtain ⟨state, rfl, word⟩ := Field.required_eq_some_iff.mp named
      exact ⟨state, _, Tree.fields?_eq_some_iff.mp found, by rw [word]; exact told⟩
    · cases read
  · rintro ⟨state, comment, written, read⟩
    change (Tree.fields? ["state", "comment"] (.object members)).bind _ = some o
    rw [Tree.fields?_eq_some_iff.mpr written]
    exact read

theorem Outcome.read?_eq_some_iff {o : Outcome} : read? tree = some o ↔ IsWritten tree o := by
  have parts : ∀ (state : Tree) comment, state.word?.bind (ofParts? · comment) = some o ↔
      state.IsWord o.state ∧ o.HoldsComment comment := by
    intro state comment
    simp only [Option.bind_eq_some_iff, Tree.word?_eq_some_iff, ofParts?_eq_some_iff]
    constructor
    · rintro ⟨_, word, rfl, held⟩
      exact ⟨word, held⟩
    · rintro ⟨word, held⟩
      exact ⟨_, word, rfl, held⟩
  constructor
  · intro read
    -- An object may leave the comment out, an array may not, so the two are read in different ways.
    cases tree with
    | object members =>
      obtain ⟨state, comment, written, read⟩ := read?_object_eq_some_iff.mp read
      exact ⟨state, comment, .inl ⟨⟨members, rfl⟩, written⟩, (parts _ _).mp read⟩
    | array items =>
      obtain ⟨state, comment, rfl⟩ := exists_of_read?_array read
      exact ⟨state, some comment, .inr ⟨comment, rfl, rfl⟩, (parts _ _).mp read⟩
    | null | bool | number | string => cases read
  · rintro ⟨state, comment, ⟨⟨members, rfl⟩, written⟩ | ⟨item, rfl, rfl⟩, held⟩
    · exact read?_object_eq_some_iff.mpr ⟨state, comment, written, (parts _ _).mpr held⟩
    · exact (read?_array state item).trans ((parts _ _).mpr held)

theorem Aggregate.Entry.read?_eq_some_iff {entry : Entry} :
    read? tree = some entry ↔ IsWritten tree entry := by
  constructor
  · intro read
    obtain ⟨fields, found, read⟩ := Option.bind_eq_some_iff.mp read
    split at read
    · obtain ⟨_, named, read⟩ := Option.bind_eq_some_iff.mp read
      obtain ⟨_, told, read⟩ := Option.bind_eq_some_iff.mp read
      cases read
      obtain ⟨id, rfl, word⟩ := Field.required_eq_some_iff.mp named
      obtain ⟨outcome, rfl, written⟩ := Field.required_eq_some_iff.mp told
      exact ⟨id, outcome, Tree.fields?_eq_some_iff.mp found, ProbeId.read?_eq_some_iff.mp word,
        Outcome.read?_eq_some_iff.mp written⟩
    · cases read
  · rintro ⟨id, outcome, fields, word, written⟩
    have named := ProbeId.read?_eq_some_iff.mpr word
    have told := Outcome.read?_eq_some_iff.mpr written
    simp [read?, Tree.fields?_eq_some_iff.mpr fields, Field.required, named, told]

theorem Aggregate.read?_eq_some_iff {a : Aggregate} : read? tree = some a ↔ IsWritten tree a := by
  have entries : ∀ part entries, Tree.list? Entry.read? part = some entries ↔
      part.IsList Entry.IsWritten entries := fun part entries =>
    Tree.list?_eq_some_iff (fun _ _ _ => Entry.read?_eq_some_iff) (Nat.le_succ part.depth)
  constructor
  · intro read
    obtain ⟨fields, found, read⟩ := Option.bind_eq_some_iff.mp read
    split at read
    · obtain ⟨_, listed, read⟩ := Option.bind_eq_some_iff.mp read
      obtain ⟨_, latch, read⟩ := Option.bind_eq_some_iff.mp read
      cases read
      obtain ⟨probes, rfl, each⟩ := Field.required_eq_some_iff.mp listed
      obtain ⟨part, rfl, seen⟩ := Field.required_eq_some_iff.mp latch
      obtain rfl := Tree.bool?_eq_some_iff.mp seen
      exact ⟨probes, Tree.fields?_eq_some_iff.mp found, (entries _ _).mp each⟩
    · cases read
  · rintro ⟨probes, fields, each⟩
    have listed := (entries _ _).mpr each
    simp [read?, Tree.fields?_eq_some_iff.mpr fields, Field.required, listed, Tree.bool?]

end Aggregates

section Settings

variable {tree : Tree}

/-- The tree is the record of this reference. Neither name is checked here. -/
def ParamRef.IsWritten (tree : Tree) (p : ParamRef) : Prop :=
  tree.HasFields ["controllable", "param"]
    [some (.string (some p.controllable)), some (.string (some p.param))]

def DeviceConfig.IsWritten (tree : Tree) (c : DeviceConfig) : Prop :=
  ∃ baseUrl timeout, tree.HasFields ["base_url", "request_timeout_secs"] [baseUrl, timeout] ∧
    Field.Defaults standard.baseUrl Tree.IsText baseUrl c.baseUrl ∧
    Field.Holds (fun part (secs : UInt64) => part.IsInteger secs.toNat) timeout c.requestTimeoutSecs

def CheckConfig.IsWritten (tree : Tree) (c : CheckConfig) : Prop :=
  ∃ delay rounds interval satellites rate,
    tree.HasFields fieldNames [delay, rounds, interval, satellites, rate] ∧
    Field.Defaults standard.frameRecheckDelayMs (fun part ms => part.IsInteger ms.toNat) delay
      c.frameRecheckDelayMs ∧
    Field.Defaults standard.counterRounds (fun part n => part.IsInteger n.toNat) rounds
      c.counterRounds ∧
    Field.Defaults standard.counterIntervalMs (fun part ms => part.IsInteger ms.toNat) interval
      c.counterIntervalMs ∧
    Field.Defaults standard.minGpsdoSatellites (fun part n => part.IsInteger n.toInt) satellites
      c.minGpsdoSatellites ∧
    Field.Defaults standard.expectedSampleRate (fun part n => part.IsInteger n.toInt) rate
      c.expectedSampleRate

/-- The tree is the record of these settings. What is missing has its default, down to single fields. -/
def HealthConfig.IsWritten (tree : Tree) (c : HealthConfig) : Prop :=
  ∃ device checks, tree.HasFields ["device", "checks"] [device, checks] ∧
    Field.Defaults .standard DeviceConfig.IsWritten device c.device ∧
    Field.Defaults .standard CheckConfig.IsWritten checks c.checks

theorem ParamRef.read?_eq_some_iff {p : ParamRef} : read? tree = some p ↔ IsWritten tree p := by
  constructor
  · intro read
    obtain ⟨fields, found, read⟩ := Option.bind_eq_some_iff.mp read
    split at read
    · obtain ⟨_, owner, read⟩ := Option.bind_eq_some_iff.mp read
      obtain ⟨_, named, read⟩ := Option.bind_eq_some_iff.mp read
      cases read
      obtain ⟨part, rfl, text⟩ := Field.required_eq_some_iff.mp owner
      obtain ⟨part', rfl, text'⟩ := Field.required_eq_some_iff.mp named
      obtain rfl : part = _ := Tree.text?_eq_some_iff.mp text
      obtain rfl : part' = _ := Tree.text?_eq_some_iff.mp text'
      exact Tree.fields?_eq_some_iff.mp found
    · cases read
  · intro fields
    simp [read?, Tree.fields?_eq_some_iff.mpr fields, Field.required, Tree.text?]

theorem DeviceConfig.read?_eq_some_iff_fields {c : DeviceConfig} :
    read? tree = some c ↔ ∃ baseUrl timeout,
      Document.fields? ["base_url", "request_timeout_secs"] tree = some [baseUrl, timeout] ∧
      Field.orElse standard.baseUrl Document.text? baseUrl = some c.baseUrl ∧
      Field.optional Document.uint64? timeout = some c.requestTimeoutSecs := by
  constructor
  · intro read
    obtain ⟨fields, found, read⟩ := Option.bind_eq_some_iff.mp read
    split at read
    · obtain ⟨_, baseUrl, read⟩ := Option.bind_eq_some_iff.mp read
      obtain ⟨_, timeout, read⟩ := Option.bind_eq_some_iff.mp read
      cases read
      exact ⟨_, _, found, baseUrl, timeout⟩
    · cases read
  · rintro ⟨_, _, found, baseUrl, timeout⟩
    simp [read?, found, baseUrl, timeout]

theorem DeviceConfig.read?_eq_some_iff {c : DeviceConfig} :
    read? tree = some c ↔ IsWritten tree c := by
  rw [read?_eq_some_iff_fields]
  exact exists_congr fun _ => exists_congr fun _ => and_congr Tree.fields?_eq_some_iff <|
    and_congr (Field.orElse_iff fun _ _ => Tree.text?_eq_some_iff)
      (Field.optional_iff fun _ _ => Tree.uint64?_eq_some_iff)

theorem CheckConfig.read?_eq_some_iff_fields {c : CheckConfig} :
    read? tree = some c ↔ ∃ delay rounds interval satellites rate,
      Document.fields? fieldNames tree = some [delay, rounds, interval, satellites, rate] ∧
      Field.orElse standard.frameRecheckDelayMs Document.uint64? delay = some c.frameRecheckDelayMs ∧
      Field.orElse standard.counterRounds Document.uint32? rounds = some c.counterRounds ∧
      Field.orElse standard.counterIntervalMs Document.uint64? interval = some c.counterIntervalMs ∧
      Field.orElse standard.minGpsdoSatellites Document.int64? satellites =
        some c.minGpsdoSatellites ∧
      Field.orElse standard.expectedSampleRate Document.int64? rate = some c.expectedSampleRate := by
  constructor
  · intro read
    obtain ⟨fields, found, read⟩ := Option.bind_eq_some_iff.mp read
    split at read
    · obtain ⟨_, delay, read⟩ := Option.bind_eq_some_iff.mp read
      obtain ⟨_, rounds, read⟩ := Option.bind_eq_some_iff.mp read
      obtain ⟨_, interval, read⟩ := Option.bind_eq_some_iff.mp read
      obtain ⟨_, satellites, read⟩ := Option.bind_eq_some_iff.mp read
      obtain ⟨_, rate, read⟩ := Option.bind_eq_some_iff.mp read
      cases read
      exact ⟨_, _, _, _, _, found, delay, rounds, interval, satellites, rate⟩
    · cases read
  · rintro ⟨_, _, _, _, _, found, delay, rounds, interval, satellites, rate⟩
    simp [read?, found, delay, rounds, interval, satellites, rate]

theorem CheckConfig.read?_eq_some_iff {c : CheckConfig} :
    read? tree = some c ↔ IsWritten tree c := by
  rw [read?_eq_some_iff_fields]
  refine exists_congr fun delay => exists_congr fun rounds => exists_congr fun interval =>
    exists_congr fun satellites => exists_congr fun rate => and_congr Tree.fields?_eq_some_iff <|
    and_congr ?_ <| and_congr ?_ <| and_congr ?_ <| and_congr ?_ ?_
  · exact Field.orElse_iff fun _ _ => Tree.uint64?_eq_some_iff
  · exact Field.orElse_iff fun _ _ => Tree.uint32?_eq_some_iff
  · exact Field.orElse_iff fun _ _ => Tree.uint64?_eq_some_iff
  · exact Field.orElse_iff fun _ _ => Tree.int64?_eq_some_iff
  · exact Field.orElse_iff fun _ _ => Tree.int64?_eq_some_iff

theorem HealthConfig.read?_eq_some_iff_fields {c : HealthConfig} :
    read? tree = some c ↔ ∃ device checks,
      Document.fields? ["device", "checks"] tree = some [device, checks] ∧
      Field.orElse .standard DeviceConfig.read? device = some c.device ∧
      Field.orElse .standard CheckConfig.read? checks = some c.checks := by
  constructor
  · intro read
    obtain ⟨fields, found, read⟩ := Option.bind_eq_some_iff.mp read
    split at read
    · obtain ⟨_, device, read⟩ := Option.bind_eq_some_iff.mp read
      obtain ⟨_, checks, read⟩ := Option.bind_eq_some_iff.mp read
      cases read
      exact ⟨_, _, found, device, checks⟩
    · cases read
  · rintro ⟨_, _, found, device, checks⟩
    simp [read?, found, device, checks]

theorem HealthConfig.read?_eq_some_iff {c : HealthConfig} :
    read? tree = some c ↔ IsWritten tree c := by
  rw [read?_eq_some_iff_fields]
  exact exists_congr fun _ => exists_congr fun _ => and_congr Tree.fields?_eq_some_iff <|
    and_congr (Field.orElse_iff fun _ _ => DeviceConfig.read?_eq_some_iff)
      (Field.orElse_iff fun _ _ => CheckConfig.read?_eq_some_iff)

end Settings
end ModulatorHealth
