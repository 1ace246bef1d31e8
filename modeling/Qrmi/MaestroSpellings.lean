import Qrmi.MaestroLocal
import Qrmi.MaestroReaders

/-!
# The spellings of a native request

A native Maestro request is given to the runner as it is, inside an envelope, or as
a text inside an envelope.  The runner reads every spelling as the same payload,
and the resource accepts the text of that payload.
-/

namespace MaestroInput

/-- The text that the runner puts into the payload. -/
def PayloadText.render (dump : Json → Text) : PayloadText → Text
  | text content => content
  | document value => dump value

/-- The payload that `task_start` is called with. -/
def MaestroPayload.toPayload (dump : Json → Text) (payload : MaestroPayload) : Payload :=
  .maestroLocal (payload.input.render dump) payload.jobType payload.qubits
    payload.simulatorType payload.simulationMethod payload.observables
    (payload.config.render dump)

/-- The envelope with a single field. -/
def wrapped (request : Json) : Json :=
  .object [("request".toList, request)]

/-- The envelope of a job whose kind is `request`. -/
def typed (request : Json) : Json :=
  .object [("input".toList, request), ("job_type".toList, .string "request".toList)]

/-- The runner inputs that spell one request. -/
def spellings (dump : Json → Text) (request : Json) : List Json :=
  [request, wrapped request, wrapped (.string (dump request)),
    typed request, typed (.string (dump request))]

/-- A native request in the reading of the runner. -/
structure IsNative (document : Json) : Prop where
  object : document.isObject
  version : IntegerVersion document
  keys : ∀ key ∈ document.keys, key ∉ foreignFields ∧ key ≠ "request".toList ∧
    (key ∈ legacyFields → key = "observables".toList)

section Runner

variable {fromStr : Text → Except String Json} {dump : Json → Text}
variable {request document : Json} {payload : MaestroPayload}

theorem isNative_iff (doubles : Doubles) :
    IsNative document ↔ IntegerVersion document ∧ IsRequest doubles document := by
  constructor
  · intro native
    exact ⟨native.version, native.object, native.version.equalsInteger, native.keys⟩
  · rintro ⟨version, native⟩
    exact ⟨native.object, version, native.keys⟩

theorem nativeInput_eq_ok_iff_isNative :
    nativeInput fromStr request = .ok payload ↔
      ∃ document, requestDocument fromStr request = some document ∧ IsNative document ∧
        payload = requestPayload document := by
  -- The reading of doubles has no part in it.
  let doubles : Doubles := ⟨fun _ => none, id, fun _ => []⟩
  rw [nativeInput_eq_ok_iff doubles]
  refine exists_congr fun document => and_congr_right fun _ => ?_
  rw [isNative_iff doubles, and_assoc]

theorem maestroInput_wrapped (request : Json) :
    maestroInput fromStr (wrapped request) = nativeInput fromStr request := by
  rfl

theorem maestroInput_typed (request : Json) :
    maestroInput fromStr (typed request) = nativeInput fromStr request := by
  rfl

theorem requestDocument_of_isObject (object : document.isObject = true) :
    requestDocument fromStr document = some document := by
  cases document with
  | object entries => rfl
  | _ => cases object

theorem requestDocument_dump (roundTrip : fromStr (dump document) = .ok document) :
    requestDocument fromStr (.string (dump document)) = some document := by
  change (fromStr (dump document)).toOption = some document
  rw [roundTrip]
  rfl

/-- A reading of a request that is native or refused. -/
theorem nativeInput_iff (read : requestDocument fromStr request = some document) :
    nativeInput fromStr request = .ok payload ↔
      IsNative document ∧ payload = requestPayload document := by
  rw [nativeInput_eq_ok_iff_isNative]
  constructor
  · rintro ⟨found, held, native, rfl⟩
    obtain rfl : document = found := Option.some.inj (read.symm.trans held)
    exact ⟨native, rfl⟩
  · rintro ⟨native, rfl⟩
    exact ⟨document, read, native, rfl⟩

/-- A request as it is: the checks of the envelope refuse only what is not native. -/
theorem maestroInput_iff_of_versioned (object : document.isObject = true)
    (versioned : "schema_version".toList ∈ document.keys) :
    maestroInput fromStr document = .ok payload ↔
      IsNative document ∧ payload = requestPayload document := by
  have read : requestDocument fromStr document = some document :=
    requestDocument_of_isObject object
  unfold maestroInput
  rw [object]
  by_cases foreign : document.keys.any (· ∈ foreignFields) = true
  · -- A native request has no field of another backend.
    rw [if_neg (by decide), if_pos foreign]
    obtain ⟨key, member, isForeign⟩ := List.any_eq_true.mp foreign
    constructor
    · intro accepted
      cases accepted
    · rintro ⟨native, -⟩
      exact absurd (of_decide_eq_true isForeign) (native.keys key member).1
  rw [if_neg (by decide), if_neg foreign]
  by_cases enveloped : "request".toList ∈ document.keys
  · -- The version is a second field beside the envelope.
    have several : document.keys.length ≠ 1 := by
      intro single
      obtain ⟨key, only⟩ := List.length_eq_one_iff.mp single
      rw [only, List.mem_singleton] at versioned enveloped
      exact absurd (versioned.trans enveloped.symm) (by decide)
    rw [if_pos ⟨enveloped, several⟩]
    constructor
    · intro accepted
      cases accepted
    · rintro ⟨native, -⟩
      exact absurd rfl (native.keys _ enveloped).2.1
  · rw [if_neg (fun refused => enveloped refused.1),
      if_neg (fun refused => refused.2.1 versioned)]
    have unwrapped : document.member? "request" = none := by
      rw [← Option.not_isSome_iff_eq_none, Json.member?_isSome_iff]
      exact enveloped
    have asked : nativeRequest document = .ok (some document) := by
      rw [nativeRequest, unwrapped]
      exact if_pos (Json.member?_isSome_iff.mpr versioned)
    rw [asked]
    exact nativeInput_iff read

/-- Every spelling is read like every other. -/
theorem maestroInput_iff_of_mem_spellings (object : request.isObject = true)
    (versioned : "schema_version".toList ∈ request.keys)
    (roundTrip : fromStr (dump request) = .ok request)
    {value : Json} (spelled : value ∈ spellings dump request) :
    maestroInput fromStr value = .ok payload ↔
      IsNative request ∧ payload = requestPayload request := by
  have plain : requestDocument fromStr request = some request :=
    requestDocument_of_isObject object
  have serialized : requestDocument fromStr (.string (dump request)) = some request :=
    requestDocument_dump roundTrip
  simp only [spellings, List.mem_cons, List.not_mem_nil, or_false] at spelled
  rcases spelled with rfl | rfl | rfl | rfl | rfl
  · exact maestroInput_iff_of_versioned object versioned
  · rw [maestroInput_wrapped]
    exact nativeInput_iff plain
  · rw [maestroInput_wrapped]
    exact nativeInput_iff serialized
  · rw [maestroInput_typed]
    exact nativeInput_iff plain
  · rw [maestroInput_typed]
    exact nativeInput_iff serialized

end Runner

section Resource

open Maestro

variable {codecs : Codecs} {request : Json}

/-- The resource validates the text of a native request. -/
theorem checkNativePayload_dump (native : IsNative request)
    (roundTrip : codecs.serde.parse (codecs.serde.dump request) = .ok request) :
    MaestroLocal.checkNativePayload codecs (codecs.serde.dump request) = .ok () := by
  have version : (request.get "schema_version").asU64 = some 2 :=
    integerVersion_iff.mpr native.version
  rw [MaestroLocal.checkNativePayload, roundTrip]
  simp only [native.object, version, Bool.not_true, Bool.false_or, ne_eq, not_true_eq_false,
    decide_false, Bool.false_eq_true, if_false]

theorem taskStart_toPayload_requestPayload :
    MaestroLocal.taskStart codecs ((requestPayload request).toPayload codecs.serde.dump) =
      MaestroLocal.startNative codecs (codecs.serde.dump request) := by
  rfl

/-- All spellings of a request are accepted or all are refused.  An accepted one
becomes a payload whose text is the request again, and the resource takes that
payload for a valid native request. -/
theorem spellings_lossless (object : request.isObject = true)
    (versioned : "schema_version".toList ∈ request.keys)
    (roundTrip : codecs.serde.parse (codecs.serde.dump request) = .ok request) :
    ((∀ value ∈ spellings codecs.serde.dump request,
        ∃ payload, maestroInput codecs.serde.parse value = .ok payload) ∨
      ∀ value ∈ spellings codecs.serde.dump request,
        ∃ error, maestroInput codecs.serde.parse value = .error error) ∧
    ∀ value ∈ spellings codecs.serde.dump request, ∀ payload,
      maestroInput codecs.serde.parse value = .ok payload →
        codecs.serde.parse (payload.input.render codecs.serde.dump) = .ok request ∧
        MaestroLocal.checkNativePayload codecs
          (payload.input.render codecs.serde.dump) = .ok () ∧
        MaestroLocal.taskStart codecs (payload.toPayload codecs.serde.dump) =
          MaestroLocal.startNative codecs (payload.input.render codecs.serde.dump) := by
  have reads : ∀ value ∈ spellings codecs.serde.dump request, ∀ payload,
      maestroInput codecs.serde.parse value = .ok payload ↔
        IsNative request ∧ payload = requestPayload request :=
    fun value spelled payload =>
      maestroInput_iff_of_mem_spellings object versioned roundTrip spelled
  constructor
  · by_cases native : IsNative request
    · left
      intro value spelled
      exact ⟨requestPayload request, (reads value spelled _).mpr ⟨native, rfl⟩⟩
    · right
      intro value spelled
      cases outcome : maestroInput codecs.serde.parse value with
      | ok payload => exact absurd ((reads value spelled payload).mp outcome).1 native
      | error error => exact ⟨error, rfl⟩
  · intro value spelled payload accepted
    obtain ⟨native, rfl⟩ := (reads value spelled payload).mp accepted
    exact ⟨roundTrip, checkNativePayload_dump native roundTrip,
      taskStart_toPayload_requestPayload⟩

end Resource

namespace MinimalRequest

/-- The smallest native request. -/
def request : Json :=
  .object [Json.unsignedMember "schema_version" 2]

def codecs : Maestro.Codecs where
  json := .ofTable [request]
  serde := .ofTable [request]

theorem roundTrip : codecs.serde.parse (codecs.serde.dump request) = .ok request := by
  simp [codecs, JsonLibrary.ofTable]

end MinimalRequest

open Maestro MinimalRequest in
/-- The text of the smallest request, in an envelope. -/
theorem spellings_lossless_minimal :
    codecs.serde.parse (Json.render request) = .ok request ∧
      MaestroLocal.checkNativePayload codecs (Json.render request) = .ok () ∧
      MaestroLocal.taskStart codecs ((requestPayload request).toPayload Json.render) =
        MaestroLocal.startNative codecs (Json.render request) := by
  have lossless := (@spellings_lossless codecs request rfl
    (List.mem_singleton_self _) roundTrip).2
  refine lossless (wrapped (.string (Json.render request))) ?_ (requestPayload request) ?_
  · simp [spellings, codecs, JsonLibrary.ofTable]
  · rfl

end MaestroInput
