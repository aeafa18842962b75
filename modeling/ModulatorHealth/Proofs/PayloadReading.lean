import ModulatorHealth.Param
import ModulatorHealth.Predistortion
import ModulatorHealth.Proofs.RecordFields

/-! What the typed payloads are in JSON: the parameter table, and the results of the predistortion engine.
Their readers accept exactly that, as far as the data of an answer can be nested. -/
namespace ModulatorHealth

open Json (Tree)

namespace ParamTable

/-- A row has a value of any kind, null included, and perhaps a help text. -/
def Row.IsWritten (tree : Tree) (row : Row) : Prop :=
  ∃ value help, tree.HasFields ["value", "help"] [some value, help] ∧ value.Denotes row.value ∧
    Field.Holds Tree.IsText help row.help

def IsWritten (tree : Tree) (table : ParamTable) : Prop :=
  Tree.IsMap (Tree.IsMap Row.IsWritten) tree table

theorem Row.read?_eq_some_iff {tree : Tree} (shallow : tree.depth ≤ 124) {row : Row} :
    read? tree = some row ↔ IsWritten tree row := by
  have kept : ∀ part : Tree, part.depth < tree.depth → ∀ value,
      part.value? 3 = some value ↔ part.Denotes value := by
    intro part inside value
    rw [Tree.value?_eq_some_iff (by decide)]
    exact and_iff_left (by simp only [Json.maxDepth]; omega)
  constructor
  · intro read
    obtain ⟨fields, found, read⟩ := Option.bind_eq_some_iff.mp read
    split at read
    · rename_i value help
      obtain ⟨_, valueKept, read⟩ := Option.bind_eq_some_iff.mp read
      obtain ⟨_, helpText, read⟩ := Option.bind_eq_some_iff.mp read
      cases read
      have written := Tree.fields?_eq_some_iff.mp found
      obtain ⟨part, rfl, denotes⟩ := Field.required_eq_some_iff.mp valueKept
      have inside := written.depth_lt List.mem_cons_self
      exact ⟨part, help, written, (kept part inside _).mp denotes,
        Field.optional_text_iff.mp helpText⟩
    · cases read
  · rintro ⟨value, help, fields, denotes, holds⟩
    have inside := fields.depth_lt List.mem_cons_self
    have valueKept : Field.required (Tree.value? 3) (some value) = some row.value :=
      (kept value inside _).mpr denotes
    have helpText := Field.optional_text_iff.mpr holds
    simp [read?, Tree.fields?_eq_some_iff.mpr fields, valueKept, helpText]

theorem read?_eq_some_iff {tree : Tree} (shallow : tree.depth ≤ 126) {table : ParamTable} :
    read? tree = some table ↔ IsWritten tree table := by
  have rows : ∀ part : Tree, part.depth ≤ 125 → ∀ rows,
      part.map? Row.read? = some rows ↔ Tree.IsMap Row.IsWritten part rows := fun part inside rows =>
    Tree.map?_eq_some_iff (fun part deeper row => Row.read?_eq_some_iff deeper) inside
  exact Tree.map?_eq_some_iff rows shallow

end ParamTable

namespace Predistortion.Results

/-- The tree is the record of these results. A field that is missing or null has no result, but the lists
are empty if they are missing and may not be null. -/
def IsWritten (tree : Tree) (r : Results) : Prop :=
  ∃ state progress summary statisticsPlot modelPlot modelData adaptDumps,
    tree.HasFields fieldNames
      [state, progress, summary, statisticsPlot, modelPlot, modelData, adaptDumps] ∧
    Field.Holds Tree.IsText state r.state ∧
    Field.Holds (fun part x => ∃ n, part = .number (some n) ∧ n.toDouble? = some x) progress
      r.progress ∧
    Field.Defaults [] (Tree.IsList Tree.IsText) summary r.summary ∧
    Field.Holds Tree.IsText statisticsPlot r.statisticsPlot ∧
    Field.Holds Tree.IsText modelPlot r.modelPlot ∧
    Field.Holds Tree.Denotes modelData r.modelData ∧
    Field.Defaults [] (Tree.IsList Tree.Denotes) adaptDumps r.adaptDumps

theorem double?_eq_some_iff {tree : Tree} {x : Finite64} :
    tree.double? = some x ↔ ∃ n, tree = .number (some n) ∧ n.toDouble? = some x := by
  constructor
  · intro read
    obtain ⟨n, number, rounded⟩ := Option.bind_eq_some_iff.mp read
    unfold Tree.number? at number
    split at number
    · exact ⟨n, by rw [number], rounded⟩
    · cases number
  · rintro ⟨n, rfl, rounded⟩
    exact rounded

theorem read?_eq_some_iff_fields {tree : Tree} {r : Results} :
    read? tree = some r ↔ ∃ state progress summary statisticsPlot modelPlot modelData adaptDumps,
      tree.fields? fieldNames =
        some [state, progress, summary, statisticsPlot, modelPlot, modelData, adaptDumps] ∧
      Field.optional Tree.text? state = some r.state ∧
      Field.optional Tree.double? progress = some r.progress ∧
      Field.orElse [] (Tree.list? Tree.text?) summary = some r.summary ∧
      Field.optional Tree.text? statisticsPlot = some r.statisticsPlot ∧
      Field.optional Tree.text? modelPlot = some r.modelPlot ∧
      Field.optional (Tree.value? 1) modelData = some r.modelData ∧
      Field.orElse [] (Tree.list? (Tree.value? 2)) adaptDumps = some r.adaptDumps := by
  constructor
  · intro read
    obtain ⟨fields, found, read⟩ := Option.bind_eq_some_iff.mp read
    split at read
    · obtain ⟨_, state, read⟩ := Option.bind_eq_some_iff.mp read
      obtain ⟨_, progress, read⟩ := Option.bind_eq_some_iff.mp read
      obtain ⟨_, summary, read⟩ := Option.bind_eq_some_iff.mp read
      obtain ⟨_, statisticsPlot, read⟩ := Option.bind_eq_some_iff.mp read
      obtain ⟨_, modelPlot, read⟩ := Option.bind_eq_some_iff.mp read
      obtain ⟨_, modelData, read⟩ := Option.bind_eq_some_iff.mp read
      obtain ⟨_, adaptDumps, read⟩ := Option.bind_eq_some_iff.mp read
      cases read
      exact ⟨_, _, _, _, _, _, _, found, state, progress, summary, statisticsPlot, modelPlot,
        modelData, adaptDumps⟩
    · cases read
  · rintro ⟨_, _, _, _, _, _, _, found, state, progress, summary, statisticsPlot, modelPlot,
      modelData, adaptDumps⟩
    simp [read?, found, state, progress, summary, statisticsPlot, modelPlot, modelData, adaptDumps]

theorem read?_eq_some_iff {tree : Tree} (shallow : tree.depth ≤ 126) {r : Results} :
    read? tree = some r ↔ IsWritten tree r := by
  have kept : ∀ level, level ≤ 2 → ∀ part : Tree, level + part.depth ≤ 127 → ∀ value,
      part.value? level = some value ↔ part.Denotes value := by
    intro level low part inside value
    rw [Tree.value?_eq_some_iff (by simp only [Json.maxDepth]; omega)]
    exact and_iff_left inside
  rw [read?_eq_some_iff_fields]
  refine exists_congr fun state => exists_congr fun progress => exists_congr fun summary =>
    exists_congr fun statisticsPlot => exists_congr fun modelPlot => exists_congr fun modelData =>
    exists_congr fun adaptDumps => ?_
  rw [Tree.fields?_eq_some_iff]
  refine and_congr_right fun written => ?_
  -- The record takes one level of the depth, and its lists take another.
  have inside : ∀ {part : Tree}, some part ∈
      [state, progress, summary, statisticsPlot, modelPlot, modelData, adaptDumps] →
      part.depth ≤ 125 := fun field => by
    have := written.depth_lt field
    omega
  refine and_congr Field.optional_text_iff (and_congr ?_ (and_congr ?_ (and_congr
    Field.optional_text_iff (and_congr Field.optional_text_iff (and_congr ?_ ?_)))))
  · exact Field.optional_iff fun _ _ => double?_eq_some_iff
  · refine Field.orElse_eq_some_iff fun part here texts => ?_
    obtain rfl : summary = some part := here
    exact Tree.list?_eq_some_iff (fun _ _ _ => Tree.text?_eq_some_iff)
      (inside (by simp) : part.depth ≤ 124 + 1)
  · refine Field.optional_eq_some_iff fun part here => ?_
    obtain rfl : modelData = some part := here
    have shallow := @inside part (by simp)
    exact kept 1 (by decide) part (by omega)
  · refine Field.orElse_eq_some_iff fun part here dumps => ?_
    obtain rfl : adaptDumps = some part := here
    exact Tree.list?_eq_some_iff (fun part deeper => kept 2 (by decide) part (by omega))
      (inside (by simp) : part.depth ≤ 124 + 1)

end Predistortion.Results
end ModulatorHealth
