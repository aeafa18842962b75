import ModulatorHealth.Device.Envelope
import ModulatorHealth.Proofs.DigitRows
import ModulatorHealth.Proofs.JsonReading
import ModulatorHealth.Proofs.JsonValue
import ModulatorHealth.Proofs.RecordFields
import ModulatorHealth.Proofs.Trimming

/-! The answers of the device by their text. A body spells an envelope or it does not, and with the HTTP
status this decides what an answer gives and, where it is a failure, whose it is and what it says. -/
namespace ModulatorHealth

section Messages

theorem DoubleLayout.positional_ne_nil (digits : List Char) (whole : Int) :
    positional digits whole ≠ [] := by
  unfold positional
  split
  · exact List.cons_ne_nil _ _
  · split <;> simp

theorem DoubleLayout.render_ne_nil (layout : DoubleLayout) (x : Finite64) : layout.render x ≠ [] := by
  unfold render
  dsimp only
  split
  · exact List.cons_ne_nil _ _
  · split
    · decide
    · split
      · exact positional_ne_nil _ _
      · simp [scientific]

theorem Json.Number.chars_ne_nil (n : Number) : n.chars ≠ [] := by
  cases n with
  | integer n fits => simp [chars, decimalDigits_ne_nil]
  | double x => exact DoubleLayout.standard.render_ne_nil x

theorem Json.chars_ne_nil (value : Json) : value.chars ≠ [] := by
  unfold chars
  split
  case h_4 n => exact n.chars_ne_nil
  all_goals simp [quoted]

theorem Json.render_ne_empty (value : Json) : value.render ≠ "" := by
  simpa [render] using value.chars_ne_nil

end Messages

theorem Reply.exists_device_iff {α : Type} (reply : Reply α) :
    (∃ message, reply = .error (.device message)) ↔
      (¬∃ value, reply = .ok value) ∧ ¬∃ detail, reply = .error (.unreachable detail) := by
  rcases reply with (detail | reason) | value <;> simp

namespace Envelope

open Json (Tree SpellsText)

/-- The tree is the record of this envelope: a status that is a text, and data and a reason that may be
missing or null. The record itself is open around the data. -/
def IsWritten (tree : Tree) (e : Envelope) : Prop :=
  ∃ data reason,
    tree.HasFields ["status", "data", "reason"] [some (.string (some e.status)), data, reason] ∧
    Field.Holds (fun part value => part.Denotes value ∧ 1 + part.depth ≤ Json.maxDepth) data e.data ∧
    Field.Holds Tree.IsText reason e.reason

def Spells (body : String) (e : Envelope) : Prop := ∃ tree, SpellsText body tree ∧ IsWritten tree e

theorem read?_eq_some_iff {tree : Tree} {e : Envelope} :
    read? tree = some e ↔ IsWritten tree e := by
  have kept := fun part value => Tree.value?_eq_some_iff (by decide : 1 ≤ Json.maxDepth) part value
  constructor
  · intro read
    obtain ⟨fields, found, read⟩ := Option.bind_eq_some_iff.mp read
    split at read
    · rename_i status data reason
      obtain ⟨_, statusText, read⟩ := Option.bind_eq_some_iff.mp read
      obtain ⟨_, dataValue, read⟩ := Option.bind_eq_some_iff.mp read
      obtain ⟨_, reasonText, read⟩ := Option.bind_eq_some_iff.mp read
      cases read
      obtain ⟨part, rfl, named⟩ := Field.required_eq_some_iff.mp statusText
      obtain rfl : part = _ := Tree.text?_eq_some_iff.mp named
      exact ⟨data, reason, Tree.fields?_eq_some_iff.mp found,
        (Field.optional_iff kept).mp dataValue,
        Field.optional_text_iff.mp reasonText⟩
    · cases read
  · rintro ⟨data, reason, fields, dataHolds, reasonHolds⟩
    have status : Field.required Tree.text? (some (.string (some e.status))) = some e.status := rfl
    have dataValue := (Field.optional_iff kept).mpr dataHolds
    have reasonText := Field.optional_text_iff.mpr reasonHolds
    simp [read?, Tree.fields?_eq_some_iff.mpr fields, status, dataValue, reasonText]

theorem parse?_eq_some_iff {body : String} {e : Envelope} :
    parse? body = some e ↔ Spells body e := by
  simp only [parse?, Option.bind_eq_some_iff, Tree.parse?_eq_some_iff, read?_eq_some_iff, Spells]

theorem Spells.eq {body : String} {e e' : Envelope} (spelled : Spells body e) (other : Spells body e') :
    e = e' :=
  Option.some.inj ((parse?_eq_some_iff.mpr spelled).symm.trans (parse?_eq_some_iff.mpr other))

theorem Spells.exists_iff {body : String} {e : Envelope} (spelled : Spells body e)
    {P : Envelope → Prop} : (∃ e', Spells body e' ∧ P e') ↔ P e :=
  ⟨fun ⟨_, other, holds⟩ => other.eq spelled ▸ holds, fun holds => ⟨e, spelled, holds⟩⟩

theorem parse?_eq_none_iff {body : String} : parse? body = none ↔ ¬∃ e, Spells body e := by
  simp only [Option.eq_none_iff_forall_ne_some, ne_eq, parse?_eq_some_iff, not_exists]

theorem dataReason_ne_empty (e : Envelope) (httpStatus : Nat) : e.dataReason httpStatus ≠ "" := by
  unfold dataReason
  split
  · simp
  · simp
  · split
    · exact Json.render_ne_empty _
    · assumption
  · exact Json.render_ne_empty _

theorem failureReason_ne_empty (e : Envelope) (httpStatus : Nat) :
    e.failureReason httpStatus ≠ "" := by
  unfold failureReason
  split
  · split
    · exact e.dataReason_ne_empty httpStatus
    · assumption
  · exact e.dataReason_ne_empty httpStatus

section Excerpts

variable {text : List Char} {httpStatus : Nat}

theorem excerpt_of_le (short : text.length ≤ 200) : excerpt text = String.ofList text := if_pos short

theorem excerpt_of_lt (long : 200 < text.length) :
    excerpt text = String.ofList (text.take 200) ++ "..." := by
  rw [excerpt, excerptLength, if_neg (Nat.not_le.mpr long), String.ofList_append]
  rfl

theorem excerpt_ne_empty (some_text : text ≠ []) : excerpt text ≠ "" := by
  rcases Nat.lt_or_ge 200 text.length with long | short
  · simp [excerpt_of_lt long]
  · simpa [excerpt_of_le short] using some_text

/-- An excerpt that was cut ends in a point, which no number does. -/
theorem excerpt_eq_httpStatus_iff : excerpt text = "HTTP " ++ toString httpStatus ↔
    text.length ≤ 200 ∧ String.ofList text = "HTTP " ++ toString httpStatus := by
  rcases Nat.lt_or_ge 200 text.length with long | short
  · refine iff_of_false (fun same => ?_) fun whole => absurd whole.1 (Nat.not_le.mpr long)
    have row : text.take 200 ++ ['.', '.', '.'] = "HTTP ".toList ++ decimalDigits httpStatus := by
      rw [excerpt_of_lt long] at same
      simpa [decimalDigits] using congrArg String.toList same
    -- The two sides end differently: one in a point, the other in a digit.
    obtain ⟨d, last⟩ : ∃ d, (decimalDigits httpStatus).getLast? = some d :=
      Option.isSome_iff_exists.mp (by simp [decimalDigits_ne_nil])
    have ends := congrArg List.getLast? row
    rw [List.getLast?_append, List.getLast?_append, last] at ends
    obtain rfl : '.' = d := by simpa using ends
    have digit := isDigit_of_mem_decimalDigits (List.mem_of_getLast? last)
    exact absurd digit (by decide)
  · rw [excerpt_of_le short, and_iff_right short]

end Excerpts

section Decoding

variable {body : String} {e : Envelope} (httpStatus : Nat)

theorem decode_of_spells (spelled : Spells body e) :
    decode httpStatus body =
      if e.status = "ok" ∧ isSuccess httpStatus then .ok (e.data.getD .null)
      else .error (.device (e.failureReason httpStatus)) := by
  rw [decode, parse?_eq_some_iff.mpr spelled]

theorem decode_of_success (other : ¬∃ e, Spells body e) (success : isSuccess httpStatus = true) :
    decode httpStatus body = .error (.unreachable "malformed response: no envelope") := by
  rw [decode, parse?_eq_none_iff.mpr other]
  exact if_pos success

theorem decode_of_failure (other : ¬∃ e, Spells body e) (failure : isSuccess httpStatus = false) :
    decode httpStatus body = .error (.device
      (if Text.trim body.toList = [] then "HTTP " ++ toString httpStatus
        else excerpt (Text.trim body.toList))) := by
  rw [decode, parse?_eq_none_iff.mpr other]
  simp only [failure, Bool.false_eq_true, if_false, List.isEmpty_iff]
  split <;> rfl

theorem isSuccess_iff : isSuccess httpStatus = true ↔ 200 ≤ httpStatus ∧ httpStatus < 300 := by
  simp [isSuccess]

theorem decode_eq_ok_iff (body : String) (value : Json) :
    decode httpStatus body = .ok value ↔ (200 ≤ httpStatus ∧ httpStatus < 300) ∧
      ∃ e, Spells body e ∧ e.status = "ok" ∧ value = e.data.getD .null := by
  rw [← isSuccess_iff]
  by_cases envelope : ∃ e, Spells body e
  · obtain ⟨e, spelled⟩ := envelope
    rw [decode_of_spells httpStatus spelled, spelled.exists_iff]
    split_ifs with good
    · rw [and_iff_right good.2, and_iff_right good.1, Except.ok.injEq, eq_comm]
    · exact iff_of_false nofun fun reads => good ⟨reads.2.1, reads.1⟩
  · refine iff_of_false (fun decoded => ?_) fun ⟨_, e, spelled, _⟩ => envelope ⟨e, spelled⟩
    cases success : isSuccess httpStatus with
    | true =>
      rw [decode_of_success httpStatus envelope success] at decoded
      cases decoded
    | false =>
      rw [decode_of_failure httpStatus envelope success] at decoded
      cases decoded

theorem decode_eq_unreachable_iff (body : String) :
    (∃ detail, decode httpStatus body = .error (.unreachable detail)) ↔
      (200 ≤ httpStatus ∧ httpStatus < 300) ∧ ¬∃ e, Spells body e := by
  rw [← isSuccess_iff]
  constructor
  · rintro ⟨detail, decoded⟩
    by_cases envelope : ∃ e, Spells body e
    · obtain ⟨e, spelled⟩ := envelope
      rw [decode_of_spells httpStatus spelled] at decoded
      split at decoded <;> cases decoded
    · refine ⟨?_, envelope⟩
      by_contra failure
      rw [decode_of_failure httpStatus envelope (by simpa using failure)] at decoded
      cases decoded
  · rintro ⟨success, other⟩
    exact ⟨_, decode_of_success httpStatus other success⟩

theorem decode_eq_device_iff (body : String) :
    (∃ message, decode httpStatus body = .error (.device message)) ↔
      ¬(200 ≤ httpStatus ∧ httpStatus < 300) ∨ ∃ e, Spells body e ∧ e.status ≠ "ok" := by
  have answered : (∃ value, decode httpStatus body = .ok value) ↔
      (200 ≤ httpStatus ∧ httpStatus < 300) ∧ ∃ e, Spells body e ∧ e.status = "ok" := by
    simp only [decode_eq_ok_iff]
    exact ⟨fun ⟨_, success, e, spelled, ok, _⟩ => ⟨success, e, spelled, ok⟩,
      fun ⟨success, e, spelled, ok⟩ => ⟨_, success, e, spelled, ok, rfl⟩⟩
  rw [Reply.exists_device_iff, answered, decode_eq_unreachable_iff]
  by_cases envelope : ∃ e, Spells body e
  · obtain ⟨e, spelled⟩ := envelope
    rw [spelled.exists_iff, spelled.exists_iff]
    have some_envelope : ¬¬∃ e, Spells body e := not_not.mpr ⟨e, spelled⟩
    rw [and_iff_left fun both => some_envelope both.2, not_and_or]
  · have none_other : ¬∃ e, Spells body e ∧ e.status ≠ "ok" := fun ⟨e, spelled, _⟩ =>
      envelope ⟨e, spelled⟩
    rw [or_iff_left none_other, and_iff_right fun ⟨_, e, spelled, _⟩ => envelope ⟨e, spelled⟩]
    exact not_congr (and_iff_left envelope)

theorem message_of_decode {body message : String}
    (decoded : decode httpStatus body = .error (.device message)) (other : ¬∃ e, Spells body e) :
    message = if Text.trim body.toList = [] then "HTTP " ++ toString httpStatus
      else excerpt (Text.trim body.toList) := by
  cases success : isSuccess httpStatus with
  | true =>
    rw [decode_of_success httpStatus other success] at decoded
    cases decoded
  | false =>
    rw [decode_of_failure httpStatus other success] at decoded
    cases decoded
    rfl

theorem message_ne_empty_of_decode {body message : String}
    (decoded : decode httpStatus body = .error (.device message)) : message ≠ "" := by
  by_cases envelope : ∃ e, Spells body e
  · obtain ⟨e, spelled⟩ := envelope
    rw [decode_of_spells httpStatus spelled] at decoded
    split at decoded
    · cases decoded
    · cases decoded
      exact e.failureReason_ne_empty httpStatus
  · rw [message_of_decode httpStatus decoded envelope]
    split
    · simp
    · exact excerpt_ne_empty ‹_›

end Decoding

/-- What the answer to a request gives, for any HTTP status and any body. A body that is no envelope is
quoted, its first 200 characters at most, and a blank one is told by the HTTP status. So the message is
the HTTP status for a blank body, and for one that is quoted and reads like that. -/
theorem decode_classifies (httpStatus : Nat) (body : String) :
    (∀ value, decode httpStatus body = .ok value ↔
      (200 ≤ httpStatus ∧ httpStatus < 300) ∧
        ∃ e, Spells body e ∧ e.status = "ok" ∧ value = e.data.getD .null) ∧
    ((∃ detail, decode httpStatus body = .error (.unreachable detail)) ↔
      (200 ≤ httpStatus ∧ httpStatus < 300) ∧ ¬∃ e, Spells body e) ∧
    ((∃ message, message ≠ "" ∧ decode httpStatus body = .error (.device message)) ↔
      ¬(200 ≤ httpStatus ∧ httpStatus < 300) ∨ ∃ e, Spells body e ∧ e.status ≠ "ok") ∧
    ∀ message, decode httpStatus body = .error (.device message) → (¬∃ e, Spells body e) →
      ∃ text, Text.IsCore text body.toList ∧
        ((∀ c ∈ body.toList, Text.isBlank c = true) → message = "HTTP " ++ toString httpStatus) ∧
        (message = "HTTP " ++ toString httpStatus ↔ (∀ c ∈ body.toList, Text.isBlank c = true) ∨
          text.length ≤ 200 ∧ String.ofList text = "HTTP " ++ toString httpStatus) ∧
        (text ≠ [] → text.length ≤ 200 → message = String.ofList text) ∧
        (200 < text.length → message = String.ofList (text.take 200) ++ "...") := by
  have told : (∃ message, message ≠ "" ∧ decode httpStatus body = .error (.device message)) ↔
      ∃ message, decode httpStatus body = .error (.device message) :=
    exists_congr fun _ => and_iff_right_of_imp (message_ne_empty_of_decode httpStatus)
  refine ⟨decode_eq_ok_iff httpStatus body, decode_eq_unreachable_iff httpStatus body,
    told.trans (decode_eq_device_iff httpStatus body), fun message decoded other => ?_⟩
  have core := Text.isCore_trim body.toList
  have quoted := message_of_decode httpStatus decoded other
  refine ⟨_, core, fun blank => ?_, ?_, fun some_text short => ?_, fun long => ?_⟩
  · rw [quoted, if_pos (core.eq_nil_iff.mpr blank)]
  · by_cases blank : Text.trim body.toList = []
    · exact iff_of_true (by rw [quoted, if_pos blank]) (.inl (core.eq_nil_iff.mp blank))
    · rw [quoted, if_neg blank, excerpt_eq_httpStatus_iff, or_iff_right fun all =>
        blank (core.eq_nil_iff.mpr all)]
  · rw [quoted, if_neg some_text, excerpt_of_le short]
  · have some_text : Text.trim body.toList ≠ [] := by
      intro none
      simp [none] at long
    rw [quoted, if_neg some_text, excerpt_of_lt long]

/-- A body with something in it, which is told by the HTTP status as if it were blank. -/
theorem decode_quotes_http_status :
    decode 500 "HTTP 500" = .error (.device ("HTTP " ++ toString 500)) ∧
      (¬∃ e, Spells "HTTP 500" e) ∧ ∃ c ∈ "HTTP 500".toList, Text.isBlank c = false :=
  ⟨rfl, parse?_eq_none_iff.mp rfl, 'H', by simp, by decide⟩

end Envelope
end ModulatorHealth
