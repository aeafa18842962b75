import ModulatorHealth.Proofs.DataReading
import ModulatorHealth.Proofs.ReportText

/-! The data model through JSON text. A value is read back from the text that is written for it, and what is
read from any other spelling is written in that one form. -/
namespace ModulatorHealth

open Json (Tree)

section Written

theorem Json.Tree.hasFields_object {names : List String} {fields : List (Option Tree)}
    (members : List (String × Json)) (named : members.map Prod.fst = names) (distinct : names.Nodup)
    (parts : members.map (fun member => some (ofJson member.2)) = fields) :
    HasFields names (ofJson (.object members)) fields := by
  subst named parts
  exact fields?_eq_some_iff.mp (fields?_object distinct)

theorem ParamRef.isWritten_toJson (p : ParamRef) : IsWritten (.ofJson p.toJson) p :=
  Tree.hasFields_object _ rfl (by decide) rfl

theorem DeviceConfig.isWritten_toJson (c : DeviceConfig) : IsWritten (.ofJson c.toJson) c := by
  refine ⟨_, _, Tree.hasFields_object _ rfl (by decide) rfl, .written rfl, ?_⟩
  cases c.requestTimeoutSecs with
  | none => exact .null
  | some secs => exact .written (by simp [Tree.ofJson]) ⟨_, rfl⟩

theorem CheckConfig.isWritten_toJson (c : CheckConfig) : IsWritten (.ofJson c.toJson) c :=
  ⟨_, _, _, _, _, Tree.hasFields_object _ rfl (by decide) rfl, .written ⟨_, rfl⟩, .written ⟨_, rfl⟩,
    .written ⟨_, rfl⟩, .written ⟨_, rfl⟩, .written ⟨_, rfl⟩⟩

theorem HealthConfig.isWritten_toJson (c : HealthConfig) : IsWritten (.ofJson c.toJson) c :=
  ⟨_, _, Tree.hasFields_object _ rfl (by decide) rfl, .written c.device.isWritten_toJson,
    .written c.checks.isWritten_toJson⟩

theorem ParamRef.hasNoDouble (p : ParamRef) : p.toJson.HasNoDouble := ⟨trivial, trivial, trivial⟩

theorem DeviceConfig.hasNoDouble (c : DeviceConfig) : c.toJson.HasNoDouble := by
  refine ⟨trivial, ?_, trivial⟩
  cases c.requestTimeoutSecs <;> trivial

theorem CheckConfig.hasNoDouble (c : CheckConfig) : c.toJson.HasNoDouble :=
  ⟨trivial, trivial, trivial, trivial, trivial, trivial⟩

theorem HealthConfig.hasNoDouble (c : HealthConfig) : c.toJson.HasNoDouble :=
  ⟨c.device.hasNoDouble, c.checks.hasNoDouble, trivial⟩

end Written

def Json.readText? {α : Type} (read? : Tree → Option α) (text : String) : Option α :=
  (Tree.parse? text).bind read?

/-- A type that goes through JSON text unchanged. Its texts are those that spell one of its forms; the text
that is written for a value reads as the value; and the value of any text can be written, read and
written again with no further change. -/
structure Json.RoundTrips {α : Type} (toJson : α → Json) (read? : Tree → Option α)
    (IsWritten : Tree → α → Prop) : Prop where
  reads_spellings : ∀ text value, readText? read? text = some value ↔
    ∃ tree, SpellsText text tree ∧ IsWritten tree value
  restores : ∀ value, readText? read? (toJson value).render = some value
  settles : ∀ text value, readText? read? text = some value →
    ∃ again, readText? read? (toJson value).render = some again ∧ again = value ∧
      (toJson again).render = (toJson value).render

theorem Json.roundTrips_of_exact {α : Type} {toJson : α → Json} {read? : Tree → Option α}
    {IsWritten : Tree → α → Prop} (exact : ∀ tree value, read? tree = some value ↔ IsWritten tree value)
    (written : ∀ value, IsWritten (.ofJson (toJson value)) value)
    (no_double : ∀ value, (toJson value).HasNoDouble) : RoundTrips toJson read? IsWritten := by
  have restores : ∀ value, readText? read? (toJson value).render = some value := by
    intro value
    rw [readText?, Tree.parse?_render (no_double value)]
    exact (exact _ value).mpr (written value)
  refine ⟨fun text value => ?_, restores, fun _ value _ => ⟨value, restores value, rfl, rfl⟩⟩
  rw [readText?, Option.bind_eq_some_iff]
  exact exists_congr fun tree => and_congr Tree.parse?_eq_some_iff (exact tree value)

/-- Outcomes, aggregates, references to parameters and the settings all go through JSON text unchanged,
whatever texts, numbers and entries they hold. -/
theorem data_model_round_trips :
    Json.RoundTrips Outcome.toJson Outcome.read? Outcome.IsWritten ∧
      Json.RoundTrips Aggregate.toJson Aggregate.read? Aggregate.IsWritten ∧
      Json.RoundTrips ParamRef.toJson ParamRef.read? ParamRef.IsWritten ∧
      Json.RoundTrips HealthConfig.toJson HealthConfig.read? HealthConfig.IsWritten := by
  refine ⟨?_, ?_, ?_, ?_⟩
  · refine Json.roundTrips_of_exact (fun _ _ => Outcome.read?_eq_some_iff) (fun o => ?_)
      Outcome.hasNoDouble
    exact Outcome.read?_eq_some_iff.mp o.read?_toJson
  · refine Json.roundTrips_of_exact (fun _ _ => Aggregate.read?_eq_some_iff) (fun a => ?_)
      Aggregate.hasNoDouble
    exact Aggregate.read?_eq_some_iff.mp a.read?_toJson
  · exact Json.roundTrips_of_exact (fun _ _ => ParamRef.read?_eq_some_iff) ParamRef.isWritten_toJson
      ParamRef.hasNoDouble
  · exact Json.roundTrips_of_exact (fun _ _ => HealthConfig.read?_eq_some_iff)
      HealthConfig.isWritten_toJson HealthConfig.hasNoDouble

end ModulatorHealth
