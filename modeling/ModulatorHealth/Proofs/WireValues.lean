import ModulatorHealth.Proofs.JsonText
import ModulatorHealth.Proofs.QueryExits

/-! Values on the wire, in both directions. A write posts one record with the names and the value, and
data that spell this value are read as the same value, a text of digits as a text and a number as a
number. -/
namespace ModulatorHealth

open Json (Number Tree)
open Json.Parser (SpellsMembers SpellsString SpellsUnits blanks_nil spellsString_quoted)

theorem Json.Parser.Spells.eq {cs : List Char} {tree tree' : Tree} (spelled : Spells cs tree)
    (other : Spells cs tree') : tree = tree' := by
  have text {tree : Tree} (spelled : Spells cs tree) : Json.SpellsText (String.ofList cs) tree :=
    ⟨[], cs, [], by simp, blanks_nil, spelled, blanks_nil⟩
  exact (text spelled).eq (text other)

namespace ParamValue

/-- How a value may come back: an integer in its digits, a text with any escapes. -/
inductive IsSpelledBy : ParamValue → List Char → Prop where
  | integer {n : Int} (fits : -9223372036854775808 ≤ n ∧ n < 18446744073709551616) :
      IsSpelledBy (.number (.integer n fits)) (Number.chars (.integer n fits))
  | text {s : String} {cs : List Char} : SpellsString cs (some s) →
      IsSpelledBy (.text s) cs

theorem IsSpelledBy.spells {value : ParamValue} {cs : List Char} (spelled : value.IsSpelledBy cs) :
    Json.Parser.Spells cs (.ofJson value.toJson) := by
  cases spelled with
  | integer fits => exact Json.Parser.spells_integer fits
  | text quoted => exact .string quoted

@[simp] theorem ofJson_toJson (value : ParamValue) : ofJson value.toJson = value := by
  cases value <;> rfl

@[simp] theorem read?_ofJson_toJson (value : ParamValue) : read? (.ofJson value.toJson) = some value := by
  cases value <;> rfl

theorem denotes_toJson (value : ParamValue) : (Tree.ofJson value.toJson).Denotes value.toJson := by
  cases value with
  | number n => exact .number n
  | text s => exact .string s

end ParamValue

/-- The body is an envelope of success, and its data are this value as it may come back. -/
def Envelope.Returns (body : String) (value : ParamValue) : Prop :=
  ∃ tree part reason reasonText cs,
    Json.SpellsText body tree ∧
    tree.HasFields ["status", "data", "reason"] [some (.string (some "ok")), some part, reason] ∧
    Field.Holds Tree.IsText reason reasonText ∧
    Json.Parser.Spells cs part ∧ value.IsSpelledBy cs

theorem Envelope.Returns.spells {body : String} {value : ParamValue} (returns : Returns body value) :
    ∃ reason, Spells body ⟨"ok", some value.toJson, reason⟩ := by
  obtain ⟨tree, part, reason, reasonText, cs, text, fields, holds, written, spelled⟩ := returns
  obtain rfl := written.eq spelled.spells
  refine ⟨reasonText, tree, text, _, reason, fields, .written ?_ ⟨value.denotes_toJson, ?_⟩, holds⟩
  · cases value <;> simp [ParamValue.toJson, Tree.ofJson]
  · have flat : (Tree.ofJson value.toJson).depth = 0 := by cases value <;> rfl
    rw [flat]
    decide

def Envelope.around (data : List Char) : String :=
  String.ofList ('{' :: Json.quoted "status" ++ ':' :: Json.quoted "ok" ++
    ',' :: Json.quoted "data" ++ ':' :: data ++ ['}'])

theorem Envelope.returns_around {value : ParamValue} {cs : List Char} (spelled : value.IsSpelledBy cs) :
    Returns (around cs) value := by
  have members := SpellsMembers.cons blanks_nil (spellsString_quoted "status") blanks_nil blanks_nil
    (.string (spellsString_quoted "ok")) blanks_nil
    (.last blanks_nil (spellsString_quoted "data") blanks_nil blanks_nil spelled.spells blanks_nil)
  refine ⟨_, _, none, none, cs, ⟨[], _, [], ?_, blanks_nil, .object members, blanks_nil⟩,
    .object ?_ ?_, .missing, spelled.spells, spelled⟩
  · simp [around]
  · simp
  · rfl

namespace Http

variable {σ : Type}

theorem recorded_client (transport : Transport σ) (base : String) (call : Call) (device : σ)
    (sent : List Request) :
    (client (recording transport) base call (device, sent)).2.2 =
      sent ++ (call.request? base).toList := by
  rw [client]
  cases call.request? base with
  | none => simp
  | some request => rfl

theorem exists_of_request? {base : String} {call : Call} {request : Request}
    (made : call.request? base = some request) :
    ∃ url, Url.parse? (base ++ call.path) = some url ∧
      request = ⟨if call.body?.isSome then .post else .get, url.withQuery call.query,
        call.body?.map Json.render⟩ := by
  obtain ⟨url, read, made⟩ := Option.bind_eq_some_iff.mp made
  dsimp only at made
  split at made
  · cases made
  · cases made
    exact ⟨url, read, rfl⟩

theorem request?_eq_some {base : String} {call : Call} {request : Request}
    (made : call.request? base = some request) :
    request.method = (if call.body?.isSome then .post else .get) ∧
      request.body = call.body?.map Json.render := by
  obtain ⟨url, -, rfl⟩ := exists_of_request? made
  exact ⟨rfl, rfl⟩

theorem read_of_returns {transport : Transport σ} {base : String} {p : ParamRef} {device : σ}
    {request : Request} (made : (Call.read p).request? base = some request) {httpStatus : Nat}
    {body : String} {value : ParamValue}
    (answered : (transport request device).1.answer? = some (httpStatus, body))
    (success : 200 ≤ httpStatus ∧ httpStatus < 300) (returns : Envelope.Returns body value) :
    (client transport base (.read p) device).1 = .ok value := by
  obtain ⟨reason, spelled⟩ := returns.spells
  have decoded : Envelope.decode httpStatus body = .ok value.toJson :=
    (Envelope.decode_eq_ok_iff httpStatus body _).mpr ⟨success, _, spelled, rfl, rfl⟩
  have interpreted : interpret (.read p) (transport request device).1 = .ok value := by
    rw [interpret, payload_of_answer answered, decoded]
    exact congrArg Except.ok value.ofJson_toJson
  rw [client, made]
  exact interpreted

/-- What is written is what is posted: one request, whose body reads back as an object of the two names
and the value and nothing else. And what was written is what is read: any answer that reports success
with data that spell the value gives this value, whatever device answers and whatever else it says. -/
theorem client_write_read (transport : Transport σ) (base : String) (p : ParamRef) (value : ParamValue)
    (no : value.toJson.HasNoDouble) (device : σ) :
    let posted := (client (recording transport) base (.write p value) (device, [])).2.2
    posted = ((Call.write p value).request? base).toList ∧
      (∀ request ∈ posted, request.method = .post ∧ ∃ text tree, request.body = some text ∧
        Tree.parse? text = some (.object [(some "controllable", .string (some p.controllable)),
          (some "param", .string (some p.param)), (some "value", tree)]) ∧
        tree = .ofJson value.toJson ∧ ParamValue.read? tree = some value) ∧
      ∀ request, (Call.read p).request? base = some request → ∀ device httpStatus body,
        (transport request device).1.answer? = some (httpStatus, body) →
        200 ≤ httpStatus ∧ httpStatus < 300 → Envelope.Returns body value →
        (client transport base (.read p) device).1 = .ok value := by
  intro posted
  have handed : posted = ((Call.write p value).request? base).toList :=
    (recorded_client transport base _ device []).trans (List.nil_append _)
  refine ⟨handed, fun request member => ?_, fun request made device httpStatus body answered success =>
    read_of_returns made answered success⟩
  rw [handed, Option.mem_toList] at member
  obtain ⟨method, body⟩ := request?_eq_some member
  have record : Json.HasNoDouble (.object [("controllable", .string p.controllable),
      ("param", .string p.param), ("value", value.toJson)]) := ⟨trivial, trivial, no, trivial⟩
  exact ⟨method, _, _, body, Tree.parse?_render record, rfl, value.read?_ofJson_toJson⟩

def escapedDigits : List Char :=
  ['"', '\\', 'u', '0', '0', '3', '4', '\\', 'u', '0', '0', '3', '2', '"']

def fortyTwo : Transport Unit := fun _ device =>
  (.answered ⟨200, none, some (Envelope.around escapedDigits).toUTF8.data.toList⟩, device)

theorem client_write_read_digits :
    let p : ParamRef := ⟨"s\"d\x01r", "fréq"⟩
    let value : ParamValue := .text "42"
    let base := "http://[::1]:8099"
    value.toJson.HasNoDouble ∧
      (client (recording fortyTwo) base (.write p value) ((), [])).2.2 =
        ((Call.write p value).request? base).toList ∧
      ((Call.write p value).request? base).isSome = true ∧
      (client fortyTwo base (.read p) ()).1 = .ok value := by
  intro p value base
  obtain ⟨posted, -, read⟩ := client_write_read fortyTwo base p value trivial ()
  have asked : ((Call.read p).request? base).isSome = true := by decide +kernel
  obtain ⟨request, made⟩ := Option.isSome_iff_exists.mp asked
  have answered : (fortyTwo request ()).1.answer? = some (200, Envelope.around escapedDigits) := by
    have text : (Charset.ofContentType none).text (Envelope.around escapedDigits).toUTF8.data.toList =
        Envelope.around escapedDigits := by decide +kernel
    exact congrArg (fun body => some (200, body)) text
  have units : SpellsUnits ['\\', 'u', '0', '0', '3', '4', '\\', 'u', '0', '0', '3', '2'] [52, 50] :=
    .unit (by decide) (.unit (by decide) .empty)
  have spelled : SpellsString escapedDigits (some "42") := .quoted units
  exact ⟨trivial, posted, by decide +kernel, read request made () 200 _ answered (by decide)
    (Envelope.returns_around (.text spelled))⟩

end Http
end ModulatorHealth
