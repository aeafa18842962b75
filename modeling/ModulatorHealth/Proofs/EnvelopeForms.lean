import Mathlib
import ModulatorHealth.Proofs.EnvelopeReading
import ModulatorHealth.Proofs.TimestampText

/-! The two forms of an envelope, which are those of every record: an object by its members, and an array
by its items. An object with a status is one unless its data or its reason are not what they should be; of
all other JSON only an array that lists a status, data and a reason is. -/
namespace ModulatorHealth

open Json (Tree SpellsText)

namespace Json

theorem Parser.Spells.exists_solid {cs : List Char} {tree : Tree} (spelled : Spells cs tree) :
    ∃ c ∈ cs, Text.isBlank c = false := by
  cases spelled with
  | null => exact ⟨'n', by decide, by decide⟩
  | yes => exact ⟨'t', by decide, by decide⟩
  | no => exact ⟨'f', by decide, by decide⟩
  | string quoted =>
    obtain ⟨cs, rfl, -⟩ := quoted.scan
    exact ⟨'"', List.mem_cons_self, by decide⟩
  | number numeral =>
    obtain ⟨c, cs, rfl, rfl | digit⟩ := numeral.exists_cons
    · exact ⟨'-', List.mem_cons_self, by decide⟩
    · exact ⟨c, List.mem_cons_self, Timestamp.isBlank_of_isDigit digit⟩
  | nothing | array => exact ⟨'[', List.mem_cons_self, by decide⟩
  | empty | object => exact ⟨'{', List.mem_cons_self, by decide⟩

theorem SpellsText.trim_ne_nil {text : String} {tree : Tree} (spelled : SpellsText text tree) :
    Text.trim text.toList ≠ [] := by
  obtain ⟨before, cs, after, split, -, spells, -⟩ := spelled
  obtain ⟨c, member, solid⟩ := spells.exists_solid
  intro none
  have blank := (Text.isCore_trim text.toList).eq_nil_iff.mp none c (by simp [split, member])
  rw [solid] at blank
  cases blank

theorem Tree.DenotesMembers.of_mem {members : List (Option String × Tree)}
    {named : List (String × Json)} (denotes : DenotesMembers members named)
    {member : Option String × Tree} (written : member ∈ members) :
    member.1.isSome = true ∧ ∃ value, member.2.Denotes value := by
  induction members generalizing named with
  | nil => cases written
  | cons first others ih =>
    cases denotes with
    | cons part denotes =>
      rcases List.mem_cons.mp written with rfl | later
      · exact ⟨rfl, _, part⟩
      · exact ih denotes later

end Json

theorem Field.Holds.eq_some_text {text : String} {value : Option String}
    (holds : Holds Tree.IsText (some (.string (some text))) value) : value = some text := by
  cases holds with
  | written _ same =>
    cases same
    rfl

namespace Envelope

variable {body : String} {tree : Tree} {members : List (Option String × Tree)} {items : List Tree}
  {e : Envelope}

theorem spells_iff (text : SpellsText body tree) : Spells body e ↔ IsWritten tree e := by
  constructor
  · rintro ⟨other, text', written⟩
    exact text'.eq text ▸ written
  · exact fun written => ⟨tree, text, written⟩

/-- What the data of an envelope is: a value that is not nested too deeply inside it. -/
def IsData (part : Tree) (value : Json) : Prop := part.Denotes value ∧ 1 + part.depth ≤ Json.maxDepth

/-- The items of an array that is read as this envelope: its status, data and reason, of which the last
may be missing. -/
def IsListed (items : List Tree) (e : Envelope) : Prop :=
  items.length ≤ 3 ∧ items[0]? = some (.string (some e.status)) ∧
    Field.Holds IsData items[1]? e.data ∧ Field.Holds Tree.IsText items[2]? e.reason

theorem isWritten_array_iff : IsWritten (.array items) e ↔ IsListed items e := by
  constructor
  · rintro ⟨data, reason, fields, dataHolds, reasonHolds⟩
    obtain ⟨short, same⟩ := Tree.hasFields_array_iff.mp fields
    obtain ⟨status, rfl, rfl⟩ : some (.string (some e.status)) = items[0]? ∧ data = items[1]? ∧
        reason = items[2]? := by simpa [List.range_succ] using same
    exact ⟨short, status.symm, dataHolds, reasonHolds⟩
  · rintro ⟨short, status, dataHolds, reasonHolds⟩
    refine ⟨_, _, Tree.hasFields_array_iff.mpr ⟨short, ?_⟩, dataHolds, reasonHolds⟩
    simp [List.range_succ, status]

theorem isWritten_object_iff : IsWritten (.object members) e ↔
    (∀ member ∈ members, member.1.isSome = true) ∧
      (∀ name ∈ ["status", "data", "reason"], Tree.countOf name members ≤ 1) ∧
      Tree.member? "status" members = some (.string (some e.status)) ∧
      Field.Holds IsData (Tree.member? "data" members) e.data ∧
      Field.Holds Tree.IsText (Tree.member? "reason" members) e.reason := by
  constructor
  · rintro ⟨data, reason, fields, dataHolds, reasonHolds⟩
    obtain ⟨readable, once, same⟩ := Tree.hasFields_object_iff.mp fields
    simp only [List.map_cons, List.map_nil, List.cons.injEq, and_true] at same
    obtain ⟨status, rfl, rfl⟩ := same
    exact ⟨readable, once, status.symm, dataHolds, reasonHolds⟩
  · rintro ⟨readable, once, status, dataHolds, reasonHolds⟩
    refine ⟨_, _, Tree.hasFields_object_iff.mpr ⟨readable, once, ?_⟩, dataHolds, reasonHolds⟩
    rw [← status]
    rfl

section Reports

/-- An object with a value, without a name twice, whose status is a text and is not the one of
success. -/
structure IsFailureReport (members : List (Option String × Tree)) : Prop where
  value : ∃ value, (Tree.object members).Denotes value
  shallow : (Tree.object members).depth ≤ 127
  distinct : (members.map Prod.fst).Nodup
  status : ∃ text, text ≠ "ok" ∧ (some "status", .string (some text)) ∈ members

def HasOddReason (members : List (Option String × Tree)) : Prop :=
  ∃ part, (some "reason", part) ∈ members ∧ part ≠ .null ∧ ∀ text, part ≠ .string text

variable (report : IsFailureReport members)
include report

theorem IsFailureReport.of_mem {member : Option String × Tree} (written : member ∈ members) :
    member.1.isSome = true ∧ ∃ value, member.2.Denotes value := by
  obtain ⟨value, denotes⟩ := report.value
  cases denotes with
  | object denotes => exact denotes.of_mem written

theorem IsFailureReport.exists_data :
    ∃ data, Field.Holds IsData (Tree.member? "data" members) data := by
  cases found : Tree.member? "data" members with
  | none => exact ⟨none, .missing⟩
  | some part =>
    by_cases null : part = .null
    · exact ⟨none, null ▸ .null⟩
    · have written := Tree.mem_of_member?_eq_some found
      obtain ⟨-, value, denotes⟩ := report.of_mem written
      -- A member is less deep than its object: this is the level that data are inside of.
      have inside : part.depth < _ := Json.Tree.depth_lt_of_member written
      have outside := report.shallow
      exact ⟨some value, .written null ⟨denotes, by rw [Json.maxDepth]; omega⟩⟩

theorem IsFailureReport.exists_reason_iff :
    (∃ reason, Field.Holds Tree.IsText (Tree.member? "reason" members) reason) ↔
      ¬HasOddReason members := by
  constructor
  · rintro ⟨reason, holds⟩ ⟨part, written, noNull, noText⟩
    rw [Tree.member?_of_mem report.distinct written] at holds
    cases holds with
    | null => exact noNull rfl
    | written _ text => exact noText _ text
  · intro plain
    cases found : Tree.member? "reason" members with
    | none => exact ⟨none, .missing⟩
    | some part =>
      have written := Tree.mem_of_member?_eq_some found
      by_cases null : part = .null
      · exact ⟨none, null ▸ .null⟩
      · obtain ⟨text, rfl⟩ : ∃ text, part = .string text := by
          by_contra noText
          exact plain ⟨part, written, null, not_exists.mp noText⟩
        obtain ⟨-, value, denotes⟩ := report.of_mem written
        cases denotes with
        | string text => exact ⟨some text, .written null rfl⟩

theorem IsFailureReport.status_ne (text : SpellsText body (.object members))
    (spelled : Spells body e) : e.status ≠ "ok" := by
  obtain ⟨status, other, written⟩ := report.status
  obtain ⟨-, -, found, -⟩ := isWritten_object_iff.mp ((spells_iff text).mp spelled)
  rw [Tree.member?_of_mem report.distinct written] at found
  cases found
  exact other

theorem IsFailureReport.exists_spells_iff (text : SpellsText body (.object members)) :
    (∃ e, Spells body e) ↔ ¬HasOddReason members := by
  rw [← report.exists_reason_iff]
  constructor
  · rintro ⟨e, spelled⟩
    obtain ⟨-, -, -, -, holds⟩ := isWritten_object_iff.mp ((spells_iff text).mp spelled)
    exact ⟨_, holds⟩
  · rintro ⟨reason, reasonHolds⟩
    obtain ⟨data, dataHolds⟩ := report.exists_data
    obtain ⟨status, -, written⟩ := report.status
    refine ⟨⟨status, data, reason⟩, (spells_iff text).mpr (isWritten_object_iff.mpr ⟨?_, ?_, ?_⟩)⟩
    · exact fun member written => (report.of_mem written).1
    · exact fun name _ => Tree.countOf_of_nodup report.distinct name
    · exact ⟨Tree.member?_of_mem report.distinct written, dataHolds, reasonHolds⟩

/-- A device that reports a failure is called unreachable only for a reason that is no text, and only
where the HTTP status is one of success. Otherwise the failure is its own, with something to say
about it: the text of the reason, if there is one. -/
theorem decode_of_failure_report (httpStatus : Nat) (text : SpellsText body (.object members)) :
    ((∃ detail, decode httpStatus body = .error (.unreachable detail)) ↔
        (200 ≤ httpStatus ∧ httpStatus < 300) ∧ HasOddReason members) ∧
      ((∃ message, message ≠ "" ∧ decode httpStatus body = .error (.device message)) ↔
        ¬((200 ≤ httpStatus ∧ httpStatus < 300) ∧ HasOddReason members)) ∧
      ∀ reason, reason ≠ "" → (some "reason", .string (some reason)) ∈ members →
        decode httpStatus body = .error (.device reason) := by
  have envelope := report.exists_spells_iff text
  refine ⟨?_, ?_, fun reason some_text written => ?_⟩
  · rw [decode_eq_unreachable_iff, envelope, not_not]
  · -- The words of a device are never empty, and a report is never a success, so neither has a say.
    have told : (∃ message, message ≠ "" ∧ decode httpStatus body = .error (.device message)) ↔
        ∃ message, decode httpStatus body = .error (.device message) :=
      exists_congr fun _ => and_iff_right_of_imp (message_ne_empty_of_decode httpStatus)
    have failing : (∃ e, Spells body e ∧ e.status ≠ "ok") ↔ ∃ e, Spells body e :=
      exists_congr fun _ => and_iff_left_of_imp (report.status_ne text)
    rw [told, decode_eq_device_iff, failing, envelope]
    exact not_and_or.symm
  · have plain : ¬HasOddReason members := by
      rintro ⟨part, other, -, noText⟩
      have found := Tree.member?_of_mem report.distinct other
      rw [Tree.member?_of_mem report.distinct written] at found
      exact noText _ (Option.some.inj found).symm
    obtain ⟨e, spelled⟩ := envelope.mpr plain
    obtain ⟨-, -, -, -, holds⟩ := isWritten_object_iff.mp ((spells_iff text).mp spelled)
    rw [Tree.member?_of_mem report.distinct written] at holds
    have reported : e.reason = some reason := holds.eq_some_text
    rw [decode_of_spells httpStatus spelled, if_neg fun good => report.status_ne text spelled good.1]
    simp [failureReason, reported, some_text]

end Reports

def numberedFailure : String := "\x7b\"status\":\"error\",\"reason\":5\x7d"

def numberedMembers : List (Option String × Tree) :=
  [(some "status", .string (some "error")),
    (some "reason", .number (some (.integer 5 (by decide))))]

theorem spellsText_numberedFailure : SpellsText numberedFailure (.object numberedMembers) :=
  Tree.parse?_eq_some_iff.mp (by cbv)

theorem isFailureReport_numberedMembers : IsFailureReport numberedMembers where
  value := ⟨_, .object (.cons (.string _) (.cons (.number _) .nil))⟩
  shallow := by decide
  distinct := by decide
  status := ⟨"error", by decide, List.mem_cons_self⟩

theorem decode_of_numbered_failure :
    IsFailureReport numberedMembers ∧ SpellsText numberedFailure (.object numberedMembers) ∧
      ∃ message, message ≠ "" ∧ decode 500 numberedFailure = .error (.device message) := by
  obtain ⟨-, told, -⟩ :=
    decode_of_failure_report isFailureReport_numberedMembers 500 spellsText_numberedFailure
  exact ⟨isFailureReport_numberedMembers, spellsText_numberedFailure,
    told.mpr fun both => absurd both.1.2 (by decide)⟩

theorem decode_hides_numbered_failure :
    IsFailureReport numberedMembers ∧ SpellsText numberedFailure (.object numberedMembers) ∧
      decode 200 numberedFailure = .error (.unreachable "malformed response: no envelope") :=
  ⟨isFailureReport_numberedMembers, spellsText_numberedFailure, by cbv⟩

section Lists

theorem exists_listed_of_spells (text : SpellsText body tree)
    (other : ∀ members, tree ≠ .object members) (spelled : Spells body e) :
    ∃ items, tree = .array items ∧ IsListed items e := by
  have written := (spells_iff text).mp spelled
  cases tree with
  | object members => exact absurd rfl (other members)
  | array items => exact ⟨items, rfl, isWritten_array_iff.mp written⟩
  | null | bool | number | string =>
    obtain ⟨_, _, fields, -⟩ := written
    cases fields

/-- JSON that is no object is quoted, or the fault of the transport where the HTTP status is one of
success, unless it is an array that lists what an envelope holds: this is read as that envelope. -/
theorem decode_of_no_object (httpStatus : Nat) (text : SpellsText body tree)
    (other : ∀ members, tree ≠ .object members) :
    ((¬∃ items e, tree = .array items ∧ IsListed items e) →
        (200 ≤ httpStatus ∧ httpStatus < 300 →
          ∃ detail, decode httpStatus body = .error (.unreachable detail)) ∧
        (¬(200 ≤ httpStatus ∧ httpStatus < 300) →
          decode httpStatus body = .error (.device (excerpt (Text.trim body.toList))))) ∧
      ∀ items e, tree = .array items → IsListed items e →
        decode httpStatus body =
          if e.status = "ok" ∧ 200 ≤ httpStatus ∧ httpStatus < 300 then .ok (e.data.getD .null)
          else .error (.device (e.failureReason httpStatus)) := by
  refine ⟨fun unlisted => ?_, ?_⟩
  · have none : ¬∃ e, Spells body e := by
      rintro ⟨e, spelled⟩
      obtain ⟨items, same, listed⟩ := exists_listed_of_spells text other spelled
      exact unlisted ⟨items, e, same, listed⟩
    refine ⟨fun success => ⟨_, decode_of_success httpStatus none ((isSuccess_iff _).mpr success)⟩,
      fun failure => ?_⟩
    rw [decode_of_failure httpStatus none (by rwa [← isSuccess_iff, Bool.not_eq_true] at failure),
      if_neg text.trim_ne_nil]
  · rintro items e rfl listed
    rw [decode_of_spells httpStatus ((spells_iff text).mpr (isWritten_array_iff.mpr listed))]
    simp only [isSuccess_iff]

theorem decode_of_no_status :
    let items : List Tree := [.null, .number (some (.integer 1 (by decide)))]
    SpellsText " [null,1]" (.array items) ∧ (∀ members, Tree.array items ≠ .object members) ∧
      (∃ detail, decode 204 " [null,1]" = .error (.unreachable detail)) ∧
      decode 502 " [null,1]" = .error (.device "[null,1]") := by
  intro items
  have text : SpellsText " [null,1]" (.array items) := Tree.parse?_eq_some_iff.mp (by cbv)
  have other : ∀ members, Tree.array items ≠ .object members := by simp
  have unlisted : ¬∃ others e, Tree.array items = .array others ∧ IsListed others e := by
    rintro ⟨_, e, ⟨⟩, -, status, -⟩
    cases status
  obtain ⟨quiet, -⟩ := (decode_of_no_object 204 text other).1 unlisted
  obtain ⟨-, quoted⟩ := (decode_of_no_object 502 text other).1 unlisted
  have shown : excerpt (Text.trim " [null,1]".toList) = "[null,1]" := by cbv
  exact ⟨text, other, quiet (by decide), (quoted (by decide)).trans (by rw [shown])⟩

theorem decode_reads_listed_success :
    let items : List Tree := [.string (some "ok"), .number (some (.integer 5 (by decide)))]
    SpellsText "[\"ok\",5]" (.array items) ∧ (∀ members, Tree.array items ≠ .object members) ∧
      decode 200 "[\"ok\",5]" = .ok (.number (.integer 5 (by decide))) ∧
      decode 500 "[\"ok\",5]" = .error (.device "5") :=
  ⟨Tree.parse?_eq_some_iff.mp (by cbv), by simp, by cbv, by cbv⟩

end Lists

end Envelope
end ModulatorHealth
