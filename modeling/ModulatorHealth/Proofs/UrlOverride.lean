import ModulatorHealth.Proofs.BaseUrl

/-! A URL given on the command line against the configured one. The file is checked by itself before the
URL takes the place of its own, so of the configured URL one thing shows: whether it is blank. -/
namespace ModulatorHealth

structure HealthConfig.AgreesButUrl (c e : HealthConfig) : Prop where
  timeout : c.device.requestTimeoutSecs = e.device.requestTimeoutSecs
  checks : c.checks = e.checks

namespace HealthConfig

theorem validate_eq_emptyBaseUrl_iff (c : HealthConfig) :
    c.validate = .error .emptyBaseUrl ↔ Text.isBlankText c.device.baseUrl = true := by
  unfold validate
  split_ifs <;> simp_all

theorem AgreesButUrl.validate_eq {c e : HealthConfig} (agrees : c.AgreesButUrl e)
    (visible : Text.isBlankText c.device.baseUrl = false)
    (visible' : Text.isBlankText e.device.baseUrl = false) : c.validate = e.validate := by
  simp only [validate, visible, visible', agrees.timeout, agrees.checks, Bool.false_eq_true, if_false]

theorem Invalid.reason_injective : Function.Injective Invalid.reason := by
  intro a b same
  cases a <;> cases b <;> revert same <;> decide

end HealthConfig

namespace ConfigFile

/-- The file is a text that says these settings, whether or not they make sense. -/
def Holds (content : Content) (c : HealthConfig) : Prop :=
  ∃ bytes text, content = .bytes bytes ∧ String.fromUTF8? bytes = some text ∧
    (Toml.parse? text).bind HealthConfig.read? = some c

theorem holds_toUTF8 {text : String} {c : HealthConfig}
    (read : (Toml.parse? text).bind HealthConfig.read? = some c) : Holds (.bytes text.toUTF8) c :=
  ⟨_, text, rfl, dif_pos text.isValidUTF8, read⟩

theorem load_of_holds {files : Files} {explicit environment : Option String} {c : HealthConfig}
    (holds : Holds (files (path explicit environment)) c) :
    (load files explicit environment).1 =
      match c.validate with
      | .ok _ => .ok c
      | .error setting => .error (.invalid setting.reason) := by
  obtain ⟨bytes, text, found, decoded, read⟩ := holds
  simp only [load, found, ofBytes, decoded, ofText, read]
  cases c.validate <;> rfl

end ConfigFile

namespace Session

def refusedFile (setting : HealthConfig.Invalid) : Failure :=
  (Failure.of (.config (.invalid setting.reason))).wrap "Failed to load configuration"

theorem refusedFile_injective : Function.Injective refusedFile := by
  intro a b same
  apply HealthConfig.Invalid.reason_injective
  simpa [refusedFile, Failure.of, Failure.wrap] using same

theorem blankUrl_ne_refusedFile (setting : HealthConfig.Invalid) : blankUrl ≠ refusedFile setting := by
  intro same
  have contexts : ["Invalid --url"] = ["Failed to load configuration"] := congrArg Failure.contexts same
  revert contexts
  decide

section Files

variable {files files' : ConfigFile.Files} {explicit environment : Option String} {c e : HealthConfig}
  (url : String)

theorem start_of_holds (holds : ConfigFile.Holds (files (ConfigFile.path explicit environment)) c) :
    start (ConfigFile.load files explicit environment).1 (some url) =
      match c.validate with
      | .ok _ => if Text.isBlankText url then .error blankUrl else .ok (ofConfig (withUrl c url))
      | .error setting => .error (refusedFile setting) := by
  rw [ConfigFile.load_of_holds holds]
  cases checked : c.validate with
  | error setting => rfl
  | ok _ => exact start_of_isValid (c.validate_eq_ok_iff.mp checked) (some url)

theorem start_eq_refusedFile_iff
    (holds : ConfigFile.Holds (files (ConfigFile.path explicit environment)) c)
    (setting : HealthConfig.Invalid) :
    start (ConfigFile.load files explicit environment).1 (some url) = .error (refusedFile setting) ↔
      c.validate = .error setting := by
  rw [start_of_holds url holds]
  cases c.validate with
  | error other => simp [refusedFile_injective.eq_iff]
  | ok _ =>
    have other := blankUrl_ne_refusedFile setting
    cases Text.isBlankText url <;> simp [other]

theorem start_eq_refused_blank_iff
    (holds : ConfigFile.Holds (files (ConfigFile.path explicit environment)) c) :
    start (ConfigFile.load files explicit environment).1 (some url) = .error (refusedFile .emptyBaseUrl) ↔
      Text.isBlankText c.device.baseUrl = true :=
  (start_eq_refusedFile_iff url holds .emptyBaseUrl).trans c.validate_eq_emptyBaseUrl_iff

/-- Two files that say the same but for the base URL open the same with a URL in its place, whatever they
say there, as long as both URLs are blank or neither is. A file with a blank one is refused, and then no
URL helps; a file that makes sense opens with all its other settings. -/
theorem start_eq_iff_of_agreesButUrl (agrees : c.AgreesButUrl e)
    (holds : ConfigFile.Holds (files (ConfigFile.path explicit environment)) c)
    (holds' : ConfigFile.Holds (files' (ConfigFile.path explicit environment)) e) :
    let opened (files : ConfigFile.Files) :=
      start (ConfigFile.load files explicit environment).1 (some url)
    (opened files = opened files' ↔
        Text.isBlankText c.device.baseUrl = Text.isBlankText e.device.baseUrl) ∧
      (opened files = .error (refusedFile .emptyBaseUrl) ↔ Text.isBlankText c.device.baseUrl = true) ∧
      (c.IsValid → Text.isBlankText url = false →
        opened files = .ok ⟨withoutTrailingSlashes url, c.device.requestTimeoutSecs, c.checks⟩) := by
  intro opened
  have refused : opened files = .error (refusedFile .emptyBaseUrl) ↔ _ :=
    start_eq_refused_blank_iff url holds
  have refused' : opened files' = .error (refusedFile .emptyBaseUrl) ↔ _ :=
    start_eq_refused_blank_iff url holds'
  refine ⟨⟨fun same => ?_, fun alike => ?_⟩, refused, fun valid visible => ?_⟩
  · rw [Bool.eq_iff_iff, ← refused, ← refused', same]
  · cases blank : Text.isBlankText c.device.baseUrl with
    | true => rw [refused.mpr blank, refused'.mpr (alike.symm.trans blank)]
    | false =>
      have checked := agrees.validate_eq blank (alike.symm.trans blank)
      have same : ofConfig (withUrl c url) = ofConfig (withUrl e url) := by
        simp only [ofConfig, withUrl, agrees.timeout, agrees.checks]
      simp only [opened, start_of_holds url holds, start_of_holds url holds', checked, same]
  · have checked := c.validate_eq_ok_iff.mpr valid
    simp only [opened, start_of_holds url holds, checked, visible]
    rfl

theorem start_eq_with_and_without_url :
    start (ConfigFile.load (fun _ => .bytes "[device]\nbase_url = \"http://a\"\n".toUTF8) none none).1
          (some "http://10.0.0.5:8099") =
        start (ConfigFile.load (fun _ => .bytes "".toUTF8) none none).1 (some "http://10.0.0.5:8099") ∧
      start (ConfigFile.load (fun _ => .bytes "[device]\nbase_url = \"http://a\"\n".toUTF8) none none).1
          (some "http://10.0.0.5:8099") = .ok ⟨"http://10.0.0.5:8099", none, .standard⟩ := by
  have agrees : (withUrl .standard "http://a").AgreesButUrl .standard := ⟨rfl, rfl⟩
  have holds : ConfigFile.Holds (.bytes "[device]\nbase_url = \"http://a\"\n".toUTF8)
      (withUrl .standard "http://a") := ConfigFile.holds_toUTF8 (by decide +kernel)
  have holds' : ConfigFile.Holds (.bytes "".toUTF8) .standard :=
    ConfigFile.holds_toUTF8 (by decide +kernel)
  have both := @start_eq_iff_of_agreesButUrl (fun _ => .bytes "[device]\nbase_url = \"http://a\"\n".toUTF8)
    (fun _ => .bytes "".toUTF8) none none _ _ "http://10.0.0.5:8099" agrees holds holds'
  exact ⟨both.1.mpr (by decide), both.2.2 ⟨by decide, by decide, nofun⟩ (by decide)⟩

/-- A blank URL in the file is not made good by a URL in its place. -/
theorem start_refuses_blank_file :
    let opened (text : String) :=
      start (ConfigFile.load (fun _ => .bytes text.toUTF8) none none).1 (some "http://10.0.0.5:8099")
    (Toml.parse? "[device]\nbase_url = \"\"\n").bind HealthConfig.read? =
        some (withUrl .standard "") ∧
      (Toml.parse? "").bind HealthConfig.read? = some .standard ∧
      opened "[device]\nbase_url = \"\"\n" = .error (refusedFile .emptyBaseUrl) ∧
      opened "" = .ok ⟨"http://10.0.0.5:8099", none, .standard⟩ :=
  ⟨by decide +kernel, by decide +kernel, by decide +kernel, by decide +kernel⟩

end Files

end Session
end ModulatorHealth
