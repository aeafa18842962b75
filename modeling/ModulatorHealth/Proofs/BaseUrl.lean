import ModulatorHealth.Proofs.DigitRows
import ModulatorHealth.Proofs.WireValues
import ModulatorHealth.Session

/-! The base URL of a session. It is the URL in force without the slashes at its end. The URL is checked
for being blank before they are taken off, so one of blanks and slashes alone is let through, and then no
call can be made. -/
namespace ModulatorHealth

namespace HealthConfig

structure IsValid (c : HealthConfig) : Prop where
  url : Text.isBlankText c.device.baseUrl = false
  rounds : c.checks.counterRounds ≠ 0
  timeout : c.device.requestTimeoutSecs ≠ some 0

theorem validate_eq_ok_iff (c : HealthConfig) : c.validate = .ok () ↔ c.IsValid := by
  unfold validate
  constructor
  · intro valid
    split_ifs at valid with blank rounds timeout
    exact ⟨Bool.not_eq_true _ ▸ blank, rounds, timeout⟩
  · intro valid
    rw [if_neg (by simp [valid.url]), if_neg valid.rounds, if_neg valid.timeout]

end HealthConfig

namespace ConfigFile

variable {c : HealthConfig}

theorem isValid_of_ofText {path text : String} (read : ofText path text = .ok c) : c.IsValid := by
  unfold ofText at read
  split at read
  · cases read
  · rename_i config _
    cases checked : config.validate with
    | error setting =>
      rw [checked] at read
      cases read
    | ok _ =>
      rw [checked] at read
      cases read
      exact c.validate_eq_ok_iff.mp checked

theorem isValid_of_load {files : Files} {explicit environment : Option String}
    (loaded : (load files explicit environment).1 = .ok c) : c.IsValid := by
  unfold load at loaded
  dsimp only at loaded
  split at loaded
  · split at loaded
    · cases loaded
    · cases loaded
      exact ⟨by decide, by decide, nofun⟩
  · cases loaded
  · split at loaded
    · rename_i config read
      cases loaded
      unfold ofBytes at read
      split at read
      · exact isValid_of_ofText read
      · cases read
    · cases loaded

end ConfigFile

namespace Session

def withUrl (c : HealthConfig) (url : String) : HealthConfig :=
  { c with device := { c.device with baseUrl := url } }

def blankUrl : Failure :=
  (Failure.of (.config (.invalid "device.base_url must not be empty"))).wrap "Invalid --url"

section Slashes

variable (url : String)

theorem toList_withoutTrailingSlashes :
    (withoutTrailingSlashes url).toList = url.toList.rdropWhile (· == '/') :=
  String.toList_ofList

theorem getLast?_withoutTrailingSlashes : (withoutTrailingSlashes url).toList.getLast? ≠ some '/' := by
  rw [toList_withoutTrailingSlashes, List.rdropWhile, List.getLast?_reverse]
  intro last
  have other := List.head?_dropWhile_not (· == '/') url.toList.reverse
  rw [last] at other
  cases other

theorem withoutTrailingSlashes_idem :
    withoutTrailingSlashes (withoutTrailingSlashes url) = withoutTrailingSlashes url := by
  rw [← String.toList_inj]
  simp only [toList_withoutTrailingSlashes, List.rdropWhile_idempotent]

/-- Blanks are all that is left of a URL that is not blank only if slashes follow them. -/
theorem isBlankText_withoutTrailingSlashes {url : String} (some_char : Text.isBlankText url = false) :
    Text.isBlankText (withoutTrailingSlashes url) = true ↔
      ∃ blanks count, (∀ c ∈ blanks, Text.isBlank c = true) ∧
        url.toList = blanks ++ List.replicate (count + 1) '/' := by
  rw [Text.isBlankText, toList_withoutTrailingSlashes, List.all_eq_true]
  constructor
  · intro blank
    obtain ⟨count, written⟩ := exists_rdropWhile_append '/' url.toList
    cases count with
    | zero =>
      rw [List.replicate_zero, List.append_nil] at written
      rw [← written] at blank
      rw [Text.isBlankText, List.all_eq_true.mpr blank] at some_char
      cases some_char
    | succ count => exact ⟨_, count, blank, written⟩
  · rintro ⟨blanks, count, blank, written⟩ c member
    have slashes : ∀ c ∈ (List.replicate (count + 1) '/').reverse, (c == '/') = true := by simp
    rw [written, List.rdropWhile, List.reverse_append, List.dropWhile_append_of_pos slashes,
      List.mem_reverse] at member
    exact blank c (List.mem_reverse.mp ((List.dropWhile_suffix _).subset member))

end Slashes

section Valid

variable {c : HealthConfig} (valid : c.IsValid)
include valid

theorem validate_withUrl (url : String) :
    (withUrl c url).validate = if Text.isBlankText url then .error .emptyBaseUrl else .ok () := by
  simp only [HealthConfig.validate, withUrl, valid.rounds, valid.timeout, if_false]

theorem start_of_isValid (url : Option String) :
    start (.ok c) url =
      if Text.isBlankText (url.getD c.device.baseUrl) then .error blankUrl
      else .ok (ofConfig (withUrl c (url.getD c.device.baseUrl))) := by
  cases url with
  | none =>
    rw [Option.getD_none, valid.url, if_neg Bool.false_ne_true]
    rfl
  | some url =>
    have checked := validate_withUrl valid url
    rw [withUrl] at checked
    simp only [Option.getD_some, start, override, checked]
    cases Text.isBlankText url <;> rfl

theorem start_eq_ok_iff {url : Option String} {s : Session} :
    start (.ok c) url = .ok s ↔ Text.isBlankText (url.getD c.device.baseUrl) = false ∧
      ofConfig (withUrl c (url.getD c.device.baseUrl)) = s := by
  rw [start_of_isValid valid]
  cases Text.isBlankText (url.getD c.device.baseUrl) <;> simp

theorem start_again {url : Option String} {s : Session} (opened : start (.ok c) url = .ok s) :
    start (.ok c) (some s.device) = if Text.isBlankText s.device then .error blankUrl else .ok s := by
  obtain ⟨-, rfl⟩ := (start_eq_ok_iff valid).mp opened
  have same (given : String) :
      ofConfig (withUrl c (ofConfig (withUrl c given)).device) = ofConfig (withUrl c given) := by
    simp only [ofConfig, withUrl, withoutTrailingSlashes_idem]
  rw [start_of_isValid valid, Option.getD_some, same]

end Valid

end Session

theorem Call.no_colon_path (call : Call) : ':' ∉ call.path.toList := by
  cases call with
  | dpdCommand command =>
    cases command <;> simp only [path, Predistortion.Command.path] <;> decide
  | read | write | paramTable | dpdResults =>
    simp only [path]
    decide

namespace Http

theorem Url.mem_of_mem_cleaned {text : String} {c : Char} (member : c ∈ cleaned text) : c ∈ text.toList := by
  have inner := List.mem_reverse.mp (List.mem_of_mem_filter member)
  have outer := List.mem_reverse.mp ((List.dropWhile_suffix _).subset inner)
  exact (List.dropWhile_suffix _).subset outer

/-- An address that is blank before its path has no scheme. -/
theorem request?_of_isBlankText {base : String} (blank : Text.isBlankText base = true) (call : Call) :
    call.request? base = none := by
  have no_colon : ∀ c ∈ Url.cleaned (call.address base), (c != ':') = true := by
    intro c member
    rw [bne_iff_ne]
    rintro rfl
    have written := Url.mem_of_mem_cleaned member
    rw [Call.address, String.toList_append, List.mem_append] at written
    rcases written with before | inside
    · have other := List.all_eq_true.mp blank ':' before
      revert other
      decide
    · exact call.no_colon_path inside
  have no_scheme : Url.scheme? (Url.cleaned (call.address base)) = none := by
    rw [Url.scheme?, List.dropWhile_eq_nil_iff.mpr no_colon]
  simp [Call.request?, Url.parse?, no_scheme]

end Http

namespace Session

/-- A session talks to the URL in force without the slashes at its end. That this is more than blanks is not
seen to: a URL of blanks and then slashes opens a session that can make no call, and whose base URL would
itself be refused. Any other base URL opens the same session again. -/
theorem device_of_start {files : ConfigFile.Files} {explicit environment url : Option String} {s : Session}
    (opened : start (ConfigFile.load files explicit environment).1 url = .ok s) :
    let loaded := (ConfigFile.load files explicit environment).1
    ∃ c, loaded = .ok c ∧ ∃ given, given = url.getD c.device.baseUrl ∧
      Text.isBlankText given = false ∧
      ((∃ count, given.toList = s.device.toList ++ List.replicate count '/') ∧
        s.device.toList.getLast? ≠ some '/') ∧
      (∀ {σ : Type} (transport : Http.Transport σ) (call : Call) (device : σ) (sent : List Http.Request),
        (Http.client (Http.recording transport) s.device call (device, sent)).2.2 =
          sent ++ (call.request? s.device).toList) ∧
      (∀ (call : Call) (request : Http.Request), call.request? s.device = some request →
        ∃ address, Http.Url.parse? (s.device ++ call.path) = some address ∧
          request.url = address.withQuery call.query) ∧
      (Text.isBlankText s.device = false → start loaded (some s.device) = .ok s) ∧
      (Text.isBlankText s.device = true ↔ ∃ blanks count, (∀ c ∈ blanks, Text.isBlank c = true) ∧
        given.toList = blanks ++ List.replicate (count + 1) '/') ∧
      (Text.isBlankText s.device = true → start loaded (some s.device) = .error blankUrl ∧
        ∀ call : Call, call.request? s.device = none) := by
  intro loaded
  change start loaded url = .ok s at opened
  have makes_sense : ∀ c, loaded = .ok c → c.IsValid := fun c => ConfigFile.isValid_of_load
  clear_value loaded
  cases loaded with
  | error e => cases opened
  | ok c =>
    have valid := makes_sense c rfl
    have again := start_again valid opened
    obtain ⟨some_char, rfl⟩ := (start_eq_ok_iff valid).mp opened
    refine ⟨c, rfl, _, rfl, some_char, ⟨?_, getLast?_withoutTrailingSlashes _⟩,
      fun transport call device sent => Http.recorded_client transport _ call device sent,
      fun call request made => ?_, ?_, isBlankText_withoutTrailingSlashes some_char, ?_⟩
    · rw [ofConfig, toList_withoutTrailingSlashes]
      exact exists_rdropWhile_append '/' _
    · obtain ⟨address, read, rfl⟩ := Http.exists_of_request? made
      exact ⟨address, read, rfl⟩
    · intro visible
      rw [again, visible, if_neg Bool.false_ne_true]
    · intro blank
      rw [again, if_pos blank]
      exact ⟨rfl, Http.request?_of_isBlankText blank⟩

theorem device_of_start_with_slashes :
    let loaded := (ConfigFile.load (fun _ => .absent) none none).1
    start loaded (some "http://10.0.0.5:8099//") = .ok ⟨"http://10.0.0.5:8099", none, .standard⟩ ∧
      start loaded (some "http://10.0.0.5:8099") = .ok ⟨"http://10.0.0.5:8099", none, .standard⟩ := by
  intro loaded
  have opened : start loaded (some "http://10.0.0.5:8099//") =
      .ok ⟨"http://10.0.0.5:8099", none, .standard⟩ := by decide
  obtain ⟨c, -, given, -, -, -, -, -, again, -⟩ := device_of_start opened
  exact ⟨opened, again (by decide)⟩

/-- A single slash is a base URL for the check, and none once it is taken off. -/
theorem start_takes_slash :
    let loaded := (ConfigFile.load (fun _ => .absent) none none).1
    start loaded (some "/") = .ok ⟨"", none, .standard⟩ ∧
      Text.isBlankText "" = true ∧
      start loaded (some "") = .error blankUrl ∧
      (Call.read Check.frames).request? "" = none :=
  ⟨by decide, by decide, by decide, by decide⟩

end Session
end ModulatorHealth
