import ModulatorHealth.Command
import ModulatorHealth.Http.Client
import ModulatorHealth.Proofs.EnvelopeReading
import ModulatorHealth.Proofs.PayloadReading

/-! Queries on the device behind its web API: what they send, and how they end by what comes back. -/
namespace ModulatorHealth

namespace Http

def Exchange.answer? : Exchange → Option (Nat × String)
  | .failed _ => none
  | .answered response =>
    response.body.map fun bytes =>
      (response.status, (Charset.ofContentType response.contentType).text bytes)

/-- Carries requests like another transport, and keeps them in order. -/
def recording {σ : Type} (transport : Transport σ) : Transport (σ × List Request) :=
  fun request (device, sent) =>
    let (exchange, device) := transport request device
    (exchange, device, sent ++ [request])

section Replies

variable {exchange : Exchange} {httpStatus : Nat} {body : String} {data : Json}

theorem payload_of_answer (answered : exchange.answer? = some (httpStatus, body)) :
    payload exchange = Envelope.decode httpStatus body := by
  cases exchange with
  | failed detail => cases answered
  | answered response =>
    obtain ⟨bytes, whole, same⟩ := Option.map_eq_some_iff.mp answered
    cases same
    simp [payload, whole]

end Replies
end Http

namespace Query

def call : Query → Call
  | .get controllable param => .read ⟨controllable, param⟩
  | .set controllable param value => .write ⟨controllable, param⟩ (ParamValue.parse value)
  | .params _ => .paramTable
  | .dpd (.status _) => .dpdResults
  | .dpd .calibrate => .dpdCommand .calibrate
  | .dpd .triggerRun => .dpdCommand .triggerRun
  | .dpd .adapt => .dpdCommand .adapt
  | .dpd .reset => .dpdCommand .reset
  | .dpd (.restoreDump id) => .dpdCommand (.restoreDump id)

/-- The query names a parameter, and one of the two names is white space throughout. -/
def HasBlankName : Query → Prop
  | .get controllable param | .set controllable param _ =>
    (∀ c ∈ controllable.toList, Text.isBlank c = true) ∨ ∀ c ∈ param.toList, Text.isBlank c = true
  | .params _ | .dpd _ => False

theorem address_of_blank {controllable param : String}
    (blank : (∀ c ∈ controllable.toList, Text.isBlank c = true) ∨
      ∀ c ∈ param.toList, Text.isBlank c = true) :
    ∃ invalid, Inquiry.address controllable param = .error (.of (.param invalid)) := by
  simp only [← List.all_eq_true] at blank
  unfold Inquiry.address ParamRef.new Text.isBlankText
  split
  · exact ⟨_, rfl⟩
  · rename_i named
    rw [if_pos (blank.resolve_left named)]
    exact ⟨_, rfl⟩

theorem address_of_named {controllable param : String}
    (named : ¬ ((∀ c ∈ controllable.toList, Text.isBlank c = true) ∨
      ∀ c ∈ param.toList, Text.isBlank c = true)) :
    Inquiry.address controllable param = .ok ⟨controllable, param⟩ := by
  simp only [← List.all_eq_true, not_or] at named
  unfold Inquiry.address ParamRef.new Text.isBlankText
  rw [if_neg named.1, if_neg named.2]
  rfl

theorem inquiry_of_blank {query : Query} (blank : query.HasBlankName) :
    ∃ invalid, Inquiry.ofQuery query = .error (.of (.param invalid)) := by
  cases query with
  | get controllable param =>
    obtain ⟨invalid, refused⟩ := address_of_blank blank
    exact ⟨invalid, by rw [Inquiry.ofQuery, Inquiry.get, refused]; rfl⟩
  | set controllable param value =>
    obtain ⟨invalid, refused⟩ := address_of_blank blank
    exact ⟨invalid, by rw [Inquiry.ofQuery, Inquiry.set, refused]; rfl⟩
  | params json => exact blank.elim
  | dpd action => exact blank.elim

theorem inquiry_of_named {query : Query} (named : ¬ query.HasBlankName) :
    ∃ inquiry, Inquiry.ofQuery query = .ok inquiry ∧ inquiry.call = query.call := by
  cases query with
  | get controllable param =>
    exact ⟨_, by rw [Inquiry.ofQuery, Inquiry.get, address_of_named named]; rfl, rfl⟩
  | set controllable param value =>
    exact ⟨_, by rw [Inquiry.ofQuery, Inquiry.set, address_of_named named]; rfl, rfl⟩
  | params json => exact ⟨_, rfl, rfl⟩
  | dpd action => cases action <;> exact ⟨_, rfl, rfl⟩

end Query

def Reply.exit {α : Type} (reply : Reply α) : ExitStatus :=
  match reply with
  | .ok _ => .success
  | .error e => Cause.status (.call e)

section Exits

open Http

variable {exchange : Exchange} {httpStatus : Nat} {body : String}

theorem conclude_exit (i : Inquiry) (reply : Reply i.call.Result) :
    (Finished.ofLines (i.conclude reply)).status = reply.exit := by
  cases reply <;> rfl

theorem code_eq_iff (status : ExitStatus) :
    (status.code = 0 ↔ status = .success) ∧ (status.code = 70 ↔ status = .deviceUnavailable) ∧
      (status.code = 65 ↔ status = .badResponse) := by
  cases status <;> decide

end Exits

namespace Command

open Http

example : ((Query.params true).call.request? "http://[::1]:8099").isSome = true := by decide +kernel

end Command
end ModulatorHealth
