import Mathlib
import ModulatorHealth.Check.Run
import ModulatorHealth.Proofs.ObjectMembers
import ModulatorHealth.Proofs.QueryExits

/-! The state of the predistortion engine, and what stands beside it. The probe judges the state alone,
but it comes by way of the whole record: a neighbour of another type than the record has makes the engine
unreachable. -/
namespace ModulatorHealth

open Json (Tree IsText IsNumber IsArray)

namespace Predistortion.Results

/-- The members beside the state are of the types that the record has for them. The lists may be missing
but not null, and the model data may be anything. -/
structure NeighboursFit (members : List (String × Json)) : Prop where
  progress : Field.MayBe IsNumber (members.lookup "stateprogress")
  summary : Field.IfAny (IsArray IsText) (members.lookup "summary")
  statisticsPlot : Field.MayBe IsText (members.lookup "statplot")
  modelPlot : Field.MayBe IsText (members.lookup "modelplot")
  adaptDumps : Field.IfAny (IsArray fun _ => True) (members.lookup "adapt_dumps")

section Object

variable {members : List (String × Json)} (sorted : Keyed.IsSorted members)
include sorted

theorem read?_object_iff {r : Results} : read? (.ofJson (.object members)) = some r ↔
    let field (name : String) := (members.lookup name).map Tree.ofJson
    Field.optional Tree.text? (field "state") = some r.state ∧
      Field.optional Tree.double? (field "stateprogress") = some r.progress ∧
      Field.orElse [] (Tree.list? Tree.text?) (field "summary") = some r.summary ∧
      Field.optional Tree.text? (field "statplot") = some r.statisticsPlot ∧
      Field.optional Tree.text? (field "modelplot") = some r.modelPlot ∧
      Field.optional (Tree.value? 1) (field "modeldata") = some r.modelData ∧
      Field.orElse [] (Tree.list? (Tree.value? 2)) (field "adapt_dumps") = some r.adaptDumps := by
  rw [read?_eq_some_iff_fields, Tree.fields?_of_isSorted sorted]
  simp only [fieldNames, List.map_cons, List.map_nil, Option.some.injEq, List.cons.injEq, and_true]
  constructor
  · rintro ⟨_, _, _, _, _, _, _, ⟨rfl, rfl, rfl, rfl, rfl, rfl, rfl⟩, read⟩
    exact read
  · exact fun read => ⟨_, _, _, _, _, _, _, ⟨rfl, rfl, rfl, rfl, rfl, rfl, rfl⟩, read⟩

theorem exists_read?_iff (shallow : (Tree.ofJson (.object members)).depth ≤ 126) :
    (∃ r, read? (.ofJson (.object members)) = some r) ↔
      Field.MayBe IsText (members.lookup "state") ∧ NeighboursFit members := by
  have text (name : String) := Field.exists_optional_iff (members.lookup name) fun value _ _ =>
    Field.exists_text_iff value
  have progress := Field.exists_optional_iff (members.lookup "stateprogress") fun value _ _ =>
    Field.exists_double_iff value
  have summary := Field.exists_orElse_iff [] (members.lookup "summary") fun value _ =>
    Field.exists_list_iff fun item _ => Field.exists_text_iff item
  -- Parts that are kept stand at most two levels inside the record.
  have keeps {name : String} {value part : Json} (here : value ∈ members.lookup name)
      (inside : (Tree.ofJson part).depth ≤ (Tree.ofJson value).depth) {level : Nat} (low : level ≤ 2) :
      ∃ kept, Tree.value? level (.ofJson part) = some kept := by
    have deeper := Tree.depth_lt_of_lookup here
    exact Field.exists_value (by omega) (by omega)
  have modelData : (∃ kept, Field.optional (Tree.value? 1)
      ((members.lookup "modeldata").map Tree.ofJson) = some kept) ↔
        Field.MayBe (fun _ => True) (members.lookup "modeldata") :=
    Field.exists_optional_iff _ fun value here _ =>
      iff_of_true (keeps here (Nat.le_refl _) (by decide)) trivial
  have dumps : (∃ kept, Field.orElse [] (Tree.list? (Tree.value? 2))
      ((members.lookup "adapt_dumps").map Tree.ofJson) = some kept) ↔
        Field.IfAny (IsArray fun _ => True) (members.lookup "adapt_dumps") :=
    Field.exists_orElse_iff [] _ fun value here => Field.exists_list_iff fun item deeper =>
      iff_of_true (keeps here deeper.le (Nat.le_refl _)) trivial
  constructor
  · rintro ⟨r, read⟩
    obtain ⟨state, x, texts, plot, plot', -, kept⟩ := (read?_object_iff sorted).mp read
    exact ⟨(text _).mp ⟨_, state⟩, progress.mp ⟨_, x⟩, summary.mp ⟨_, texts⟩, (text _).mp ⟨_, plot⟩,
      (text _).mp ⟨_, plot'⟩, dumps.mp ⟨_, kept⟩⟩
  · rintro ⟨state, fit⟩
    obtain ⟨_, state⟩ := (text _).mpr state
    obtain ⟨_, x⟩ := progress.mpr fit.progress
    obtain ⟨_, texts⟩ := summary.mpr fit.summary
    obtain ⟨_, plot⟩ := (text _).mpr fit.statisticsPlot
    obtain ⟨_, plot'⟩ := (text _).mpr fit.modelPlot
    obtain ⟨_, data⟩ := modelData.mpr fun _ _ => .inr trivial
    obtain ⟨_, kept⟩ := dumps.mpr fit.adaptDumps
    exact ⟨⟨_, _, _, _, _, _, _⟩,
      (read?_object_iff sorted).mpr ⟨state, x, texts, plot, plot', data, kept⟩⟩

variable {r : Results} (read : read? (.ofJson (.object members)) = some r)
include read

theorem optional_state :
    Field.optional Tree.text? ((members.lookup "state").map Tree.ofJson) = some r.state :=
  ((read?_object_iff sorted).mp read).1

theorem state_of_text {state : String} (told : members.lookup "state" = some (.string state)) :
    r.state = some state := by
  have field := optional_state sorted read
  rw [told] at field
  exact (Option.some.inj field).symm

theorem state_of_none (silent : members.lookup "state" = none ∨ members.lookup "state" = some .null) :
    r.state = none := by
  have field := optional_state sorted read
  rcases silent with missing | null
  · rw [missing] at field
    exact (Option.some.inj field).symm
  · rw [null] at field
    exact (Option.some.inj field).symm

end Object

end Predistortion.Results

theorem Envelope.Spells.data {body : String} {e : Envelope} (spelled : Spells body e) {value : Json}
    (kept : e.data = some value) : ∃ part : Tree, part.Denotes value ∧ 1 + part.depth ≤ 127 := by
  obtain ⟨tree, -, data, reason, -, holds, -⟩ := spelled
  rw [kept] at holds
  cases holds with
  | written _ denotes => exact ⟨_, denotes⟩

namespace Check

open Predistortion.Results Http

variable {σ : Type}

theorem run_dpdEngine (client : Client σ) (id : ProbeId) (w : World σ) :
    (dpdEngine.run (answering client) id w).1 =
      some (((client .dpdResults w.device).1.mapError Failure.ofCallError).bind dpdVerdict) := rfl

section Answer

variable {transport : Transport σ} {base : String} {request : Request}
  (made : Call.dpdResults.request? base = some request) {w : World σ} {httpStatus : Nat} {body : String}
  (answered : (transport request w.device).1.answer? = some (httpStatus, body))
  (success : 200 ≤ httpStatus ∧ httpStatus < 300) {e : Envelope} (spelled : Envelope.Spells body e)
  (ok : e.status = "ok")
include made answered success spelled ok

theorem dpdResults_of_answer {data : Json} (kept : e.data = some data) :
    (client transport base .dpdResults w.device).1 =
      typed "dpd_results" Predistortion.Results.read? data := by
  have decoded : Envelope.decode httpStatus body = .ok data :=
    (Envelope.decode_eq_ok_iff httpStatus body _).mpr ⟨success, e, spelled, ok, by rw [kept]; rfl⟩
  have interpreted : interpret .dpdResults (transport request w.device).1 =
      typed "dpd_results" Predistortion.Results.read? data := by
    rw [interpret, payload_of_answer answered, decoded]
    rfl
  rw [client, made]
  exact interpreted

/-- The probe tells the state, or that there is none, if every other member is of the type that the
record has for it. Otherwise the engine is unreachable, whatever its state. -/
theorem run_dpdEngine_of_answer {members : List (String × Json)} (kept : e.data = some (.object members))
    (config : CheckConfig) (id : ProbeId) :
    let verdict := ((planOf config .dpdEngine).run (answering (client transport base)) id w).1
    (NeighboursFit members →
      (∀ state, members.lookup "state" = some (.string state) →
        verdict = some (.ok (some ("State: " ++ state)))) ∧
      (members.lookup "state" = none ∨ members.lookup "state" = some .null →
        verdict = some (.error (.threshold "none" "Predistortion engine reported no state")))) ∧
    (¬(Field.MayBe IsText (members.lookup "state") ∧ NeighboursFit members) → ∃ detail,
      verdict = some (.error (.unreachable ("malformed dpd_results payload: " ++ detail)))) := by
  intro verdict
  obtain ⟨part, denotes, deep⟩ := spelled.data kept
  have shallow := denotes.depth_le
  have readable := exists_read?_iff denotes.isSorted (by omega)
  have reply := dpdResults_of_answer made answered success spelled ok kept
  have judged : verdict = some (((typed "dpd_results" Predistortion.Results.read?
      (.object members)).mapError Failure.ofCallError).bind dpdVerdict) := by
    rw [← reply]
    exact run_dpdEngine _ id w
  refine ⟨fun fit => ⟨fun state told => ?_, fun silent => ?_⟩, fun misfit => ?_⟩
  · obtain ⟨r, read⟩ := readable.mpr ⟨told ▸ .of_kind ⟨state, rfl⟩, fit⟩
    rw [judged, typed, read]
    simp only [Except.mapError, Except.bind, dpdVerdict, state_of_text denotes.isSorted read told]
  · obtain ⟨r, read⟩ := readable.mpr ⟨.of_silent silent, fit⟩
    rw [judged, typed, read]
    simp only [Except.mapError, Except.bind, dpdVerdict, state_of_none denotes.isSorted read silent]
  · have unread : Predistortion.Results.read? (.ofJson (.object members)) = none :=
      Option.eq_none_iff_forall_ne_some.mpr fun r read => misfit (readable.mp ⟨r, read⟩)
    rw [judged, typed, unread]
    exact ⟨"unexpected shape", rfl⟩

end Answer

def successAround (members : List (String × Json)) : String :=
  Json.render (.object [("status", .string "ok"), ("data", .object members)])

theorem spells_successAround {members : List (String × Json)} (no : Json.HasNoDouble (.object members))
    (kept : Tree.value? 1 (.ofJson (.object members)) = some (.object members)) :
    Envelope.Spells (successAround members) ⟨"ok", some (.object members), none⟩ := by
  have whole : Json.HasNoDouble (.object [("status", .string "ok"), ("data", .object members)]) :=
    ⟨trivial, no, trivial⟩
  have data := (Tree.value?_eq_some_iff (by decide) _ _).mp kept
  refine ⟨_, Tree.parse?_eq_some_iff.mp (Tree.parse?_render whole),
    some (.ofJson (.object members)), none, .object ?_ rfl, .written nofun data, .missing⟩
  simp [Tree.ofMembers]

def replying (body : String) : Transport Unit := fun _ device =>
  (.answered ⟨200, none, some body.toUTF8.data.toList⟩, device)

def runAgainst (body : String) : Option Verdict :=
  ((planOf .standard .dpdEngine).run (answering (client (replying body) "http://[::1]:8099")) .dpdEngine
    (.start () .new)).1

def idleBody : String :=
  "\x7b\"status\":\"ok\",\"data\":\x7b\"state\":\"Idle\",\"stateprogress\":40,\"unit\":null\x7d\x7d"

def idleMembers : List (String × Json) :=
  [("state", .string "Idle"), ("stateprogress", .number (.integer 40 (by decide))), ("unit", .null)]

theorem neighboursFit_idleMembers : NeighboursFit idleMembers where
  progress := .of_kind ⟨_, rfl⟩
  summary := nofun
  statisticsPlot := nofun
  modelPlot := nofun
  adaptDumps := nofun

theorem run_dpdEngine_idle : runAgainst idleBody = some (.ok (some "State: Idle")) := by
  have asked : (Call.dpdResults.request? "http://[::1]:8099").isSome = true := by decide +kernel
  obtain ⟨request, made⟩ := Option.isSome_iff_exists.mp asked
  have answered : (replying idleBody request ()).1.answer? = some (200, idleBody) := by
    have text : (Http.Charset.ofContentType none).text idleBody.toUTF8.data.toList = idleBody := by
      decide +kernel
    exact congrArg (fun body => some (200, body)) text
  have spelled : Envelope.Spells idleBody ⟨"ok", some (.object idleMembers), none⟩ := by
    have written : idleBody = successAround idleMembers := by decide +kernel
    exact written ▸ spells_successAround ⟨trivial, trivial, trivial, trivial⟩ rfl
  have told := run_dpdEngine_of_answer made (w := .start () .new) answered (by decide) spelled rfl rfl
    .standard .dpdEngine
  exact (told.1 neighboursFit_idleMembers).1 "Idle" rfl

def silentBody : String :=
  "\x7b\"status\":\"ok\",\"data\":\x7b\"state\":\"Idle\",\"summary\":null\x7d\x7d"

/-- The state is there, and the engine is called unreachable for what stands beside it. -/
theorem run_dpdEngine_hides_state :
    Envelope.Spells silentBody
        ⟨"ok", some (.object [("state", .string "Idle"), ("summary", .null)]), none⟩ ∧
      ∃ detail, runAgainst silentBody =
        some (.error (.unreachable ("malformed dpd_results payload: " ++ detail))) := by
  have written : silentBody = successAround [("state", .string "Idle"), ("summary", .null)] := by
    decide +kernel
  exact ⟨written ▸ spells_successAround ⟨trivial, trivial, trivial⟩ rfl, "unexpected shape",
    by decide +kernel⟩

end Check
end ModulatorHealth
