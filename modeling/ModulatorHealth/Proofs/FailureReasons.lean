import Mathlib
import ModulatorHealth.Proofs.EnvelopeReading

/-! What is told of a failure that the device reported: its reason, else its data, else a sentence about its
status. An empty reason counts as none. Empty data do not: they are told as the two quotes that write
them. -/
namespace ModulatorHealth.Envelope

variable {body : String} {e : Envelope} {httpStatus : Nat}

/-- The reason says nothing: it is missing or empty. -/
def IsSilent (e : Envelope) : Prop := e.reason.getD "" = ""

theorem failureReason_of_text {reason : String} (told : e.reason = some reason)
    (some_text : reason ≠ "") : e.failureReason httpStatus = reason := by
  simp [failureReason, told, some_text]

theorem failureReason_of_silent (silent : e.IsSilent) :
    e.failureReason httpStatus = e.dataReason httpStatus := by
  unfold failureReason
  cases told : e.reason with
  | none => rfl
  | some reason =>
    obtain rfl : reason = "" := by simpa [IsSilent, told] using silent
    exact if_pos rfl

section Data

variable {value : Json} {text : String}

theorem dataReason_of_none (missing : e.data = none) : e.dataReason httpStatus =
    "Device reported status '" ++ e.status ++ "' (HTTP " ++ toString httpStatus ++ ")" := by
  rw [dataReason, missing]

theorem dataReason_of_text (told : e.data = some (.string text)) (some_text : text ≠ "") :
    e.dataReason httpStatus = text := by
  simp [dataReason, told, some_text]

theorem dataReason_of_empty (told : e.data = some (.string "")) :
    e.dataReason httpStatus = "\"\"" := by
  rw [dataReason, told]
  rfl

theorem dataReason_of_other (told : e.data = some value) (noNull : value ≠ .null)
    (noText : ∀ text, value ≠ .string text) : e.dataReason httpStatus = value.render := by
  rw [dataReason, told]
  cases value with
  | null => exact absurd rfl noNull
  | string text => exact absurd rfl (noText text)
  | bool | number | array | object => rfl

end Data

/-- A sentence is longer than two quotes. -/
theorem dataReason_ne_quotes (missing : e.data = none) : e.dataReason httpStatus ≠ "\"\"" := by
  have long : "Device reported status '".length = 24 := by decide
  have short : "\"\"".length = 2 := by decide
  intro same
  have lengths := congrArg String.length same
  rw [dataReason_of_none missing, short, String.length_append, String.length_append,
    String.length_append, String.length_append, long] at lengths
  omega

theorem decode_of_failing (spelled : Spells body e)
    (failing : ¬(e.status = "ok" ∧ isSuccess httpStatus = true)) :
    decode httpStatus body = .error (.device (e.failureReason httpStatus)) := by
  rw [decode_of_spells httpStatus spelled, if_neg failing]

/-- What the failure of an envelope is told as. To leave out an empty reason changes nothing; to leave out
empty data changes what is told unless a reason is. -/
theorem decode_tells_reason_or_data (httpStatus : Nat) (spelled : Spells body e)
    (failed : ∃ message, decode httpStatus body = .error (.device message)) :
    (∀ reason, e.reason = some reason → reason ≠ "" →
        decode httpStatus body = .error (.device reason)) ∧
      (e.IsSilent →
        (∀ text, e.data = some (.string text) → text ≠ "" →
          decode httpStatus body = .error (.device text)) ∧
        (e.data = some (.string "") → decode httpStatus body = .error (.device "\"\"")) ∧
        (∀ value, e.data = some value → value ≠ .null → (∀ text, value ≠ .string text) →
          decode httpStatus body = .error (.device value.render)) ∧
        (e.data = none → decode httpStatus body = .error (.device
          ("Device reported status '" ++ e.status ++ "' (HTTP " ++ toString httpStatus ++ ")")))) ∧
      (e.reason = some "" → ∀ other, Spells other { e with reason := none } →
        decode httpStatus other = decode httpStatus body) ∧
      (e.data = some (.string "") → ∀ other, Spells other { e with data := none } →
        (decode httpStatus other = decode httpStatus body ↔ ¬e.IsSilent)) := by
  have failing : ¬(e.status = "ok" ∧ isSuccess httpStatus = true) := by
    obtain ⟨message, failed⟩ := failed
    intro good
    rw [decode_of_spells httpStatus spelled, if_pos good] at failed
    cases failed
  have here := decode_of_failing spelled failing
  refine ⟨fun reason told some_text => ?_, fun silent => ?_, fun told other spelled' => ?_,
    fun told other spelled' => ?_⟩
  · rw [here, failureReason_of_text told some_text]
  · rw [here, failureReason_of_silent silent]
    refine ⟨fun text told some_text => ?_, fun told => ?_, fun value told noNull noText => ?_,
      fun missing => ?_⟩
    · rw [dataReason_of_text told some_text]
    · rw [dataReason_of_empty told]
    · rw [dataReason_of_other told noNull noText]
    · rw [dataReason_of_none missing]
  · have silent : e.IsSilent := by simp [IsSilent, told]
    have silent' : IsSilent { e with reason := none } := rfl
    rw [here, decode_of_failing spelled' failing, failureReason_of_silent silent,
      failureReason_of_silent silent']
    rfl
  · rw [here, decode_of_failing spelled' failing]
    -- Data are looked at only where no reason is told.
    by_cases silent : e.IsSilent
    · have silent' : IsSilent { e with data := none } := silent
      have sentence : dataReason { e with data := none } httpStatus ≠ "\"\"" := dataReason_ne_quotes rfl
      rw [failureReason_of_silent silent, failureReason_of_silent silent', dataReason_of_empty told]
      simp [silent, sentence]
    · obtain ⟨reason, given⟩ : ∃ reason, e.reason = some reason :=
        Option.ne_none_iff_exists'.mp fun missing => silent (by simp [IsSilent, missing])
      have some_text : reason ≠ "" := fun empty => silent (by simp [IsSilent, given, empty])
      have given' : Envelope.reason { e with data := none } = some reason := given
      rw [failureReason_of_text given some_text, failureReason_of_text given' some_text]
      simp [silent]

theorem decode_of_empty_texts :
    let e : Envelope := ⟨"ok", some (.string ""), some ""⟩
    Spells "\x7b\"status\":\"ok\",\"reason\":\"\",\"data\":\"\"\x7d" e ∧ e.IsSilent ∧
      decode 500 "\x7b\"status\":\"ok\",\"reason\":\"\",\"data\":\"\"\x7d" =
        .error (.device "\"\"") := by
  intro e
  have spelled : Spells "\x7b\"status\":\"ok\",\"reason\":\"\",\"data\":\"\"\x7d" e :=
    parse?_eq_some_iff.mp (by cbv)
  obtain ⟨-, silent, -⟩ := decode_tells_reason_or_data 500 spelled ⟨_, by cbv⟩
  obtain ⟨-, empty, -⟩ := silent rfl
  exact ⟨spelled, rfl, empty rfl⟩

/-- Empty data are told, and hide the sentence that is told of the same failure without them. -/
theorem decode_quotes_empty_data :
    Spells "\x7b\"status\":\"error\",\"data\":\"\"\x7d" ⟨"error", some (.string ""), none⟩ ∧
      Spells "\x7b\"status\":\"error\"\x7d" ⟨"error", none, none⟩ ∧
      decode 200 "\x7b\"status\":\"error\",\"data\":\"\"\x7d" = .error (.device "\"\"") ∧
      decode 200 "\x7b\"status\":\"error\"\x7d" =
        .error (.device "Device reported status 'error' (HTTP 200)") :=
  ⟨parse?_eq_some_iff.mp (by cbv), parse?_eq_some_iff.mp (by cbv), by cbv, by cbv⟩

end ModulatorHealth.Envelope
