import Qrmi.CFunctions
import Qrmi.InteractionHistory

/-!
# The last error of a thread

A caller of the C interface learns about a failure from two cells, the message and
the kind of the last error.  Every failing call either records its error in both
cells, or sets the message only, or records nothing at all.  The cells speak about
the failing call exactly when it takes the first way, or the second one while the
kind is still the generic one.
-/

open Interaction

/-- What a failing call leaves in the cells of its thread. -/
inductive CFailure
  /-- Both cells are set from a `QrmiError`. -/
  | recorded (error : QrmiError)
  /-- The failure is no `QrmiError`, and only the message is set. -/
  | messageOnly (text : String)
  /-- Nothing is set. -/
  | unrecorded

namespace CFailure

/-- The cells after a failure. -/
def leave (failure : CFailure) (before : CThread) : Option Text × QrmiErrorKind :=
  match failure with
  | recorded error => (some (CThread.message error.display), error.kind)
  | messageOnly text => (some (CThread.message text), before.lastErrorKind)
  | unrecorded => before.cells

/-- The kind that belongs to a failure: that of its `QrmiError` or the generic one. -/
def kind : CFailure → QrmiErrorKind
  | recorded error => error.kind
  | messageOnly _ | unrecorded => .other

/-- A pointer that is missed, without a record. -/
def absent (given : Bool) : Option CFailure :=
  if given then none else some unrecorded

/-- A string that is missed or not UTF-8, without a record. -/
def undecoded (string : Option CStr) : Option CFailure :=
  absent (string.bind CStr.toStr).isSome

/-- The failure of an answer that is a `QrmiError`. -/
def ofAnswer {α : Type} (accept : α → Option CFailure) :
    Except QrmiError α → Option CFailure
  | .ok value => accept value
  | .error error => some (recorded error)

/-- A string that cannot be handed out. -/
def ofText (text : Text) : Option CFailure :=
  absent ('\x00' ∉ text)

end CFailure

/-- The failure that a method's answer causes. -/
def ResourceMethod.failure : (method : ResourceMethod) → method.Answer → Option CFailure
  | .resourceId | .acquire | .taskStart _ | .taskResult _ | .taskLogs _ | .target =>
      CFailure.ofAnswer CFailure.ofText
  | .resourceType | .isAccessible | .status | .release _ | .taskStop _ | .taskStatus _ =>
      CFailure.ofAnswer fun _ => none
  | .metadata => fun _ => none

/-- The failure that an answer causes. -/
def Invocation.failure : (invocation : Invocation) → invocation.Answer → Option CFailure
  | .resource _ method => method.failure
  | .loadConfig _ => fun answer =>
      match answer with
      | .ok _ => none
      | .error text => some (.messageOnly text)
  | .createResource .. | .createResourceFromConfig .. | .createProvider ..
  | .providerResources .. | .providerLeastBusy .. | .serviceResources =>
      CFailure.ofAnswer fun _ => none
  | .setLogSink _ => fun answer =>
      match answer with
      | .ok () => none
      | .error () => some .unrecorded

/-- The failure behind a call: its arguments are refused, or the first answer causes
it. -/
def failureOf (refusal : Option CFailure) (trace : List (Event Invocation.Answer)) :
    Option CFailure :=
  match refusal, trace with
  | some failure, _ => some failure
  | none, event :: _ => event.1.failure event.2
  | none, [] => none

/-! ## Functions and their failures -/

/-- The end of a call with a given failure.  A failing call ends alike on any thread. -/
structure Ends (function : CFunction Returned) (failure : Option CFailure)
    (before : CThread) (trace : List (Event Invocation.Answer))
    (result : Except Empty Returned) (after : CThread) : Prop where
  returns : ∃ returned, result = .ok returned ∧ returned.fails = failure.isSome
  cells : after.cells = failure.elim before.cells fun failure => failure.leave before
  again : failure.isSome → ∀ other, ∃ final, function.Executes other trace result final

/-- A function that asks nothing and ends with a given failure. -/
def Concludes (failure : Option CFailure) (function : CFunction Returned) : Prop :=
  ∀ ⦃before trace result after⦄, function.Executes before trace result after →
    trace = [] ∧ Ends function failure before trace result after

/-- A function whose failure is its refusal or comes from its first answer. -/
def Reports (refusal : Option CFailure) (function : CFunction Returned) : Prop :=
  ∀ ⦃before trace result after⦄, function.Executes before trace result after →
    Ends function (failureOf refusal trace) before trace result after

theorem concludes_of_done {function : CFunction Returned} {failure : Option CFailure}
    (returned : CThread → Returned) (change : CThread → CThread)
    (done : ∀ thread, function thread = .done (.ok (returned thread), change thread))
    (fails : ∀ thread, (returned thread).fails = failure.isSome)
    (cells : ∀ thread, (change thread).cells =
      failure.elim thread.cells fun failure => failure.leave thread)
    (alike : failure.isSome → ∀ thread other, returned thread = returned other) :
    Concludes failure function := by
  intro before trace result after executes
  have run := executes
  rw [Method.Executes, done] at run
  obtain ⟨rfl, equal⟩ := Program.runs_done_iff.mp run
  obtain ⟨rfl, rfl⟩ := Prod.mk.inj equal
  refine ⟨rfl, ⟨_, rfl, fails before⟩, cells before, fun failing other => ?_⟩
  refine ⟨change other, ?_⟩
  rw [Method.Executes, done, alike failing before other]
  exact .done _

theorem Concludes.reports {failure : Option CFailure} {function : CFunction Returned}
    (concludes : Concludes failure function) : Reports failure function := by
  intro before trace result after executes
  obtain ⟨rfl, ends⟩ := concludes executes
  have same : failureOf failure [] = failure := by cases failure <;> rfl
  rw [same]
  exact ends

theorem reports_invoke {invocation : Invocation}
    {next : invocation.Answer → CFunction Returned}
    (concludes : ∀ answer, Concludes (invocation.failure answer) (next answer)) :
    Reports none (CFunction.invoke invocation >>= next) := by
  intro before trace result after executes
  obtain ⟨answer, rest, rfl, continued⟩ := Method.executes_question_bind_iff.mp executes
  obtain ⟨rfl, ends⟩ := concludes answer continued
  refine ⟨ends.returns, ends.cells, fun failing other => ?_⟩
  obtain ⟨final, again⟩ := ends.again failing other
  exact ⟨final, Method.executes_question_bind_iff.mpr ⟨answer, [], rfl, again⟩⟩

/-- A panicking function has no end. -/
theorem reports_abort (refusal : Option CFailure) :
    Reports refusal (CFunction.abort : CFunction Returned) := by
  intro before trace result after executes
  exact (Program.not_runs_pending executes).elim

section Conclusions

open CFunction CFailure

theorem concludes_return {returned : Returned} (succeeds : returned.fails = false) :
    Concludes none (pure returned) :=
  concludes_of_done (fun _ => returned) id (fun _ => rfl) (fun _ => by exact succeeds)
    (fun _ => rfl) fun _ _ _ => rfl

theorem concludes_refuse {returned : Returned} (fails : returned.fails = true) :
    Concludes (some unrecorded) (pure returned) :=
  concludes_of_done (fun _ => returned) id (fun _ => rfl) (fun _ => by exact fails)
    (fun _ => rfl) fun _ _ _ => rfl

theorem concludes_fail (error : QrmiError) : Concludes (some (recorded error)) (fail error) :=
  concludes_of_done (fun _ => .code (.ofKind error.kind))
    (fun thread => (thread.setLastErrorKind error.kind).setLastError error.display)
    (fun _ => rfl) (fun _ => by exact decide_eq_true (ReturnCode.ofKind_ne_success _))
    (fun _ => rfl) fun _ _ _ => rfl

theorem concludes_recordNull (error : QrmiError) :
    Concludes (some (recorded error)) (do
      recordError error
      return .null) :=
  concludes_of_done (fun _ => .null)
    (fun thread => (thread.setLastErrorKind error.kind).setLastError error.display)
    (fun _ => rfl) (fun _ => rfl) (fun _ => rfl) fun _ _ _ => rfl

theorem concludes_message (text : String) {returned : Returned}
    (fails : returned.fails = true) :
    Concludes (some (messageOnly text)) (do
      CFunction.setLastError text
      return returned) :=
  concludes_of_done (fun _ => returned) (CThread.setLastError text)
    (fun _ => rfl) (fun _ => by exact fails) (fun _ => rfl) fun _ _ _ => rfl

theorem concludes_succeedWith (output : Output) : Concludes none (succeedWith output) :=
  concludes_of_done (fun _ => .code .success) (CThread.store output)
    (fun _ => rfl) (fun _ => rfl) (fun _ => rfl) fun _ _ _ => rfl

theorem concludes_succeedWithText (text : Text) :
    Concludes (ofText text) (succeedWithText text) := by
  unfold ofText absent succeedWithText
  by_cases nul : '\x00' ∈ text
  · simp only [nul, not_true_eq_false, decide_false, Bool.false_eq_true, if_false, if_true]
    exact concludes_refuse rfl
  · simp only [nul, not_false_eq_true, decide_true, if_true, if_false]
    exact concludes_succeedWith _

theorem concludes_orFail {α : Type} {accept : α → Option CFailure}
    {succeed : α → CFunction Returned}
    (concludes : ∀ value, Concludes (accept value) (succeed value))
    (answer : Except QrmiError α) :
    Concludes (ofAnswer accept answer) (orFail succeed answer) := by
  cases answer with
  | ok value => exact concludes value
  | error error => exact concludes_fail error

theorem concludes_orNull {α : Type} (handle : α → Handle) (answer : Except QrmiError α) :
    Concludes (ofAnswer (fun _ => none) answer) (orNull handle answer) := by
  cases answer with
  | ok value => exact concludes_return rfl
  | error error => exact concludes_recordNull error

end Conclusions

section Families

open CFunction CFailure

theorem reports_free (given : Bool) : Reports (absent given) (free given) := by
  cases given with
  | false => exact (concludes_refuse rfl).reports
  | true => exact (concludes_return rfl).reports

theorem reports_callMethod {qrmi : Option Nat} {outp : Bool} {noOutp : ReturnCode}
    {method : ResourceMethod} {conclude : method.Answer → CFunction Returned}
    (refuses : noOutp ≠ .success)
    (concludes : ∀ answer, Concludes (method.failure answer) (conclude answer)) :
    Reports (absent qrmi.isSome <|> absent outp)
      (callMethod qrmi outp noOutp method conclude) := by
  cases qrmi with
  | none => exact (concludes_refuse rfl).reports
  | some qrmi =>
      cases outp with
      | false =>
          have fails : (Returned.code noOutp).fails = true := decide_eq_true refuses
          exact (concludes_refuse fails).reports
      | true => exact reports_invoke concludes

theorem reports_callTaskMethod {qrmi : Option Nat} {taskId : Option CStr} {outp : Bool}
    {method : Text → ResourceMethod}
    {conclude : ∀ id, (method id).Answer → CFunction Returned}
    (concludes : ∀ id answer, Concludes ((method id).failure answer) (conclude id answer)) :
    Reports (absent qrmi.isSome <|> undecoded taskId <|> absent outp)
      (callTaskMethod qrmi taskId outp method conclude) := by
  unfold callTaskMethod
  cases qrmi with
  | none => exact (concludes_refuse rfl).reports
  | some qrmi =>
      cases taskId with
      | none => exact (concludes_refuse rfl).reports
      | some taskId =>
          unfold undecoded
          cases decoded : taskId.toStr with
          | none =>
              cases outp <;> simp only [Option.bind_some, decoded] <;>
                exact (concludes_refuse rfl).reports
          | some id =>
              simp only [Option.bind_some, decoded]
              cases outp with
              | false => exact (concludes_refuse rfl).reports
              | true => exact reports_invoke (concludes id)

theorem reports_readStatus {status : Option CResourceStatus} {outp : Bool}
    {accept : CResourceStatus → Option CFailure}
    {read : CResourceStatus → CFunction Returned}
    (concludes : ∀ status, Concludes (accept status) (read status)) :
    Reports (absent status.isSome <|> absent outp <|> status.bind accept)
      (readStatus status outp read) := by
  cases status with
  | none => exact (concludes_refuse rfl).reports
  | some status =>
      cases outp with
      | false => exact (concludes_refuse rfl).reports
      | true => exact (concludes status).reports

/-- A member that is not reported is an error of its own. -/
def CFailure.unsupported {α : Type} (unreported : String) (member : Option α) :
    Option CFailure :=
  if member.isSome then none else some (recorded (.unsupportedFunction unreported))

theorem concludes_reported {α : Type} (output : α → Output) (unreported : String)
    (member : Option α) :
    Concludes (unsupported unreported member) (reported output unreported member) := by
  cases member with
  | some value => exact concludes_succeedWith _
  | none => exact concludes_fail _

/-- Filters that are not UTF-8 only leave a message. -/
def CFailure.undecodedFilters (filters : Option CStr) : Option CFailure :=
  filters.bind fun filters =>
    if filters.toStr.isSome then none
    else some (messageOnly "filters: invalid UTF-8 string")

theorem reports_withFilters {provider : Option Nat} {filters : Option CStr} {out : Bool}
    {query : Nat → Option Text → CFunction Returned}
    (reports : ∀ provider filters, Reports none (query provider filters)) :
    Reports (absent provider.isSome <|> absent out <|> undecodedFilters filters)
      (withFilters provider filters out query) := by
  unfold withFilters
  cases provider with
  | none => exact (concludes_refuse rfl).reports
  | some provider =>
      cases out with
      | false => exact (concludes_refuse rfl).reports
      | true =>
          cases filters with
          | none => exact reports provider none
          | some filters =>
              change Reports (if filters.toStr.isSome then none else some _) _
              cases decoded : filters.toStr with
              | some text =>
                  simp only [decoded]
                  exact reports provider (some text)
              | none =>
                  simp only [decoded]
                  exact (concludes_message _ rfl).reports

end Families

open CFailure in
/-- The failure that the arguments of a call alone decide. -/
def CCall.refusal : CCall → Option CFailure
  | logCallbackSet _ | configResourceTypeToStr _ | getLastError | getLastErrorKind
  | resourceStatusCodeToString _ | resourceStatusReason _ | resourceMetadataValue .. =>
      none
  | stringFree given | stringArrayFree given | configFree given
  | configResourceDefFree given | resourceFree given | resourceStatusFree given
  | resourceCapacityFree given | resourceMetadataFree given | providerFree given
  | providerResourcesFree given | serviceResourcesFree given | serviceResources given =>
      absent given
  | configLoad filename => undecoded filename
  | configResourceDefGet config name =>
      absent config.isSome <|> undecoded name <|>
        absent (config.any fun config =>
          (name.bind CStr.toStr).any fun id =>
            (config.resourceMap.lookup id).isSome)
  | configResourceTypeFromStr typeStr outp =>
      absent typeStr.isSome <|> absent outp <|> typeStr.bind fun typeStr =>
        let value := typeStr.toStringLossy
        if (ResourceType.fromQpuTypeStr value).isSome then none
        else some (recorded (.invalidInput s!"unknown resource type: {String.ofList value}"))
  | configResourceNamesGet config names => absent config.isSome <|> absent names
  | resourceNew name _ => undecoded name
  | resourceNewFromConfig name _ config =>
      absent name.isSome <|>
        (match config with
          | none => some (messageOnly "config is NULL")
          | some config =>
              match CFunction.envvarsToHashmap config .empty with
              | .error error => some (messageOnly error)
              | .ok _ => undecoded name)
  | resourceIsAccessible qrmi outp | resourceStatus qrmi outp | resourceId qrmi outp
  | resourceType qrmi outp | resourceAcquire qrmi outp | resourceMetadata qrmi outp =>
      absent qrmi.isSome <|> absent outp
  | resourceRelease qrmi acquisitionToken =>
      absent qrmi.isSome <|> absent acquisitionToken.isSome
  | resourceTaskStart qrmi payload taskId =>
      absent qrmi.isSome <|> absent payload.isSome <|> absent taskId <|>
        payload.bind fun payload =>
          if (CFunction.payloadFromC payload).isSome then none
          else some (recorded (.invalidInput "payload strings must be valid UTF-8"))
  | resourceTaskStop qrmi taskId => absent qrmi.isSome <|> undecoded taskId
  | resourceTaskStatus qrmi taskId outp | resourceTaskResult qrmi taskId outp
  | resourceTaskLogs qrmi taskId outp =>
      absent qrmi.isSome <|> undecoded taskId <|> absent outp
  | resourceTarget qrmi => absent qrmi.isSome
  | resourceStatusCode status outp => absent status.isSome <|> absent outp
  | resourceStatusHealthy status outp =>
      absent status.isSome <|> absent outp <|> status.bind fun status =>
        unsupported "this vendor does not report health information" status.inner.healthy
  | resourceStatusBusy status outp =>
      absent status.isSome <|> absent outp <|> status.bind fun status =>
        unsupported "this vendor does not report busy information" status.inner.busy
  | resourceStatusPendingJobCount status outp =>
      absent status.isSome <|> absent outp <|> status.bind fun status =>
        unsupported "this resource has no queue / does not report pending job count"
          status.inner.pendingJobCount
  | resourceStatusCapacity status outp =>
      absent status.isSome <|> absent outp <|> status.bind fun status =>
        unsupported "this vendor does not report capacity information"
          status.inner.capacity
  | resourceMetadataKeys metadata => absent metadata.isSome
  | providerNew type environments =>
      match environments with
      | none => some (messageOnly "environments is NULL")
      | some environments =>
          match CFunction.envvarsToHashmap environments .empty with
          | .error error => some (messageOnly error)
          | .ok _ =>
              match type with
              | .qiskitRuntimeService | .ibmQuantumComputeService | .ibmQuantumSystem =>
                  none
              | _ => some (recorded (.unsupportedResourceType type.debug))
  | providerResources provider filters out | providerLeastBusy provider filters out =>
      absent provider.isSome <|> absent out <|> undecodedFilters filters

section Calls

open CFunction CFailure

theorem reports_configLoad (filename : Option CStr) :
    Reports (undecoded filename) (qrmiConfigLoad filename) := by
  unfold qrmiConfigLoad undecoded
  cases filename with
  | none => exact (concludes_refuse rfl).reports
  | some filename =>
      cases decoded : filename.toStr with
      | none =>
          simp only [Option.bind_some, decoded]
          exact (concludes_refuse rfl).reports
      | some file =>
          simp only [Option.bind_some, decoded]
          refine reports_invoke fun answer => ?_
          cases answer with
          | ok config => exact concludes_return rfl
          | error error => exact concludes_message error rfl

theorem reports_configResourceDefGet (config : Option Config)
    (resourceId : Option CStr) :
    Reports (CCall.configResourceDefGet config resourceId).refusal
      (qrmiConfigResourceDefGet config resourceId) := by
  unfold CCall.refusal qrmiConfigResourceDefGet undecoded
  cases config with
  | none => exact (concludes_refuse rfl).reports
  | some config =>
      cases resourceId with
      | none => exact (concludes_refuse rfl).reports
      | some resourceId =>
          cases decoded : resourceId.toStr with
          | none =>
              simp only [Option.bind_some, decoded]
              exact (concludes_refuse rfl).reports
          | some id =>
              simp only [Option.bind_some, decoded, Option.any_some]
              cases found : config.resourceMap.lookup id with
              | none => exact (concludes_refuse rfl).reports
              | some resource =>
                  dsimp only
                  split
                  · exact (concludes_return rfl).reports
                  · exact reports_abort _

theorem reports_configResourceTypeFromStr (typeStr : Option CStr) (outp : Bool) :
    Reports (CCall.configResourceTypeFromStr typeStr outp).refusal
      (qrmiConfigResourceTypeFromStr typeStr outp) := by
  unfold CCall.refusal qrmiConfigResourceTypeFromStr
  cases typeStr with
  | none => exact (concludes_refuse rfl).reports
  | some typeStr =>
      cases outp with
      | false => exact (concludes_refuse rfl).reports
      | true =>
          change Reports (if (ResourceType.fromQpuTypeStr typeStr.toStringLossy).isSome
            then none else some _) _
          cases parsed : ResourceType.fromQpuTypeStr typeStr.toStringLossy with
          | some type =>
              simp only [parsed]
              exact (concludes_succeedWith _).reports
          | none =>
              simp only [parsed]
              exact (concludes_fail _).reports

/-- The names and keys are counted and handed out, or the process is aborted. -/
theorem reports_texts (keys : List Text) :
    Reports none (if keys.all fun key => '\x00' ∉ key then do
      Method.modify (CThread.store (.count keys.length))
      succeedWith (.texts keys)
    else abort) := by
  split
  · exact (concludes_of_done (fun _ => .code .success)
      (fun thread => (thread.store (.count keys.length)).store (.texts keys))
      (fun _ => rfl) (fun _ => rfl) (fun _ => rfl) fun _ _ _ => rfl).reports
  · exact reports_abort _

theorem reports_configResourceNamesGet (config : Option Config) (names : Bool) :
    Reports (CCall.configResourceNamesGet config names).refusal
      (qrmiConfigResourceNamesGet config names) := by
  cases config with
  | none => exact (concludes_refuse rfl).reports
  | some config =>
      cases names with
      | false => exact (concludes_refuse rfl).reports
      | true => exact reports_texts _

theorem reports_resourceMetadataKeys (metadata : Option (List (Text × Text))) :
    Reports (CCall.resourceMetadataKeys metadata).refusal
      (qrmiResourceMetadataKeys metadata) := by
  cases metadata with
  | none => exact (concludes_refuse rfl).reports
  | some metadata => exact reports_texts _

theorem reports_resourceNew (name : Option CStr) (type : ResourceType) :
    Reports (CCall.resourceNew name type).refusal (qrmiResourceNew name type) := by
  unfold CCall.refusal qrmiResourceNew undecoded
  cases name with
  | none => exact (concludes_refuse rfl).reports
  | some name =>
      cases decoded : name.toStr with
      | none =>
          simp only [Option.bind_some, decoded]
          exact (concludes_refuse rfl).reports
      | some id =>
          simp only [Option.bind_some, decoded]
          exact reports_invoke fun answer => concludes_orNull _ answer

theorem reports_resourceNewFromConfig (name : Option CStr) (type : ResourceType)
    (config : Option EnvironmentVariables) :
    Reports (CCall.resourceNewFromConfig name type config).refusal
      (qrmiResourceNewFromConfig name type config) := by
  unfold CCall.refusal qrmiResourceNewFromConfig
  cases name with
  | none => exact (concludes_refuse rfl).reports
  | some name =>
      cases config with
      | none => exact (concludes_message _ rfl).reports
      | some config =>
          cases converted : envvarsToHashmap config .empty with
          | error error =>
              simp only [converted]
              exact (concludes_message _ rfl).reports
          | ok configMap =>
              simp only [converted, undecoded]
              cases decoded : name.toStr with
              | none =>
                  simp only [Option.bind_some, decoded]
                  exact (concludes_refuse rfl).reports
              | some id =>
                  simp only [Option.bind_some, decoded]
                  exact reports_invoke fun answer => concludes_orNull _ answer

theorem reports_resourceRelease (qrmi : Option Nat) (token : Option CStr) :
    Reports (CCall.resourceRelease qrmi token).refusal
      (qrmiResourceRelease qrmi token) := by
  unfold CCall.refusal qrmiResourceRelease
  cases qrmi with
  | none => exact (concludes_refuse rfl).reports
  | some qrmi =>
      cases token with
      | none => exact (concludes_refuse rfl).reports
      | some token =>
          cases decoded : token.toStr with
          | none =>
              simp only [decoded]
              exact (concludes_return rfl).reports
          | some text =>
              simp only [decoded]
              refine reports_invoke fun answer => ?_
              cases answer with
              | ok value => exact concludes_return rfl
              | error error => exact concludes_fail error

theorem reports_resourceTaskStart (qrmi : Option Nat) (payload : Option CPayload)
    (taskId : Bool) :
    Reports (CCall.resourceTaskStart qrmi payload taskId).refusal
      (qrmiResourceTaskStart qrmi payload taskId) := by
  unfold CCall.refusal qrmiResourceTaskStart
  cases qrmi with
  | none => exact (concludes_refuse rfl).reports
  | some qrmi =>
      cases payload with
      | none => exact (concludes_refuse rfl).reports
      | some payload =>
          cases taskId with
          | false => exact (concludes_refuse rfl).reports
          | true =>
              change Reports (if (payloadFromC payload).isSome then none else some _) _
              cases converted : payloadFromC payload with
              | none =>
                  simp only [converted]
                  exact (concludes_fail _).reports
              | some request =>
                  simp only [converted]
                  exact reports_invoke fun answer =>
                    concludes_orFail concludes_succeedWithText answer

theorem reports_resourceTarget (qrmi : Option Nat) :
    Reports (CCall.resourceTarget qrmi).refusal (qrmiResourceTarget qrmi) := by
  cases qrmi with
  | none => exact (concludes_refuse rfl).reports
  | some qrmi =>
      exact reports_invoke fun answer => concludes_orFail concludes_succeedWithText answer

theorem reports_resourceStatusReason (status : Option CResourceStatus) :
    Reports none (qrmiResourceStatusReason status) := by
  unfold qrmiResourceStatusReason
  cases status with
  | none => exact (concludes_return rfl).reports
  | some status =>
      cases reported : status.inner.statusReason with
      | none =>
          simp only [reported]
          exact (concludes_return rfl).reports
      | some reason =>
          simp only [reported]
          split <;> exact (concludes_return rfl).reports

theorem reports_resourceMetadataValue (metadata : Option (List (Text × Text)))
    (key : Option CStr) : Reports none (qrmiResourceMetadataValue metadata key) := by
  unfold qrmiResourceMetadataValue
  cases metadata with
  | none => exact (concludes_return rfl).reports
  | some metadata =>
      cases key with
      | none => exact (concludes_return rfl).reports
      | some key =>
          cases found : key.toStr.bind fun key => metadata.lookup key with
          | none =>
              simp only [found]
              exact (concludes_return rfl).reports
          | some value =>
              simp only [found]
              split <;> exact (concludes_return rfl).reports

theorem reports_providerNew (type : ResourceType)
    (environments : Option EnvironmentVariables) :
    Reports (CCall.providerNew type environments).refusal
      (qrmiProviderNew type environments) := by
  unfold CCall.refusal qrmiProviderNew
  cases environments with
  | none => exact (concludes_message _ rfl).reports
  | some environments =>
      cases converted : envvarsToHashmap environments .empty with
      | error error =>
          simp only [converted]
          exact (concludes_message _ rfl).reports
      | ok envMap =>
          simp only [converted]
          have created : Reports none (do
              let created ← invoke (.createProvider type envMap)
              orNull .provider created) :=
            reports_invoke fun answer => concludes_orNull _ answer
          have unsupported : Reports
              (some (recorded (.unsupportedResourceType type.debug))) (do
                recordError (.unsupportedResourceType type.debug)
                return .null) :=
            (concludes_recordNull _).reports
          cases type <;> first | exact created | exact unsupported

theorem reports_serviceResources (given : Bool) :
    Reports (absent given) (qrmiServiceResources given) := by
  cases given with
  | false => exact (concludes_refuse rfl).reports
  | true =>
      exact reports_invoke fun answer =>
        concludes_orFail (fun _ => concludes_succeedWith _) answer

theorem reports_logCallbackSet (registered : Bool) :
    Reports none (qrmiLogCallbackSet registered) := by
  refine reports_invoke fun answer => ?_
  cases answer with
  | ok value => exact concludes_return rfl
  | error error => exact concludes_refuse rfl

/-- Reading the last error never fails and changes nothing. -/
theorem reports_read (read : CThread → Returned)
    (succeeds : ∀ thread, (read thread).fails = false) :
    Reports none (do
      let thread ← Method.self
      return read thread) :=
  (concludes_of_done read id (fun _ => rfl) (fun _ => by exact succeeds _) (fun _ => rfl)
    (fun impossible => by cases impossible)).reports

/-- Every call fails by its refusal or by the answer that it receives. -/
theorem reports_perform (call : CCall) : Reports call.refusal call.perform := by
  cases call with
  | logCallbackSet registered => exact reports_logCallbackSet registered
  | stringFree given => exact reports_free given
  | stringArrayFree given => exact reports_free given
  | configLoad filename => exact reports_configLoad filename
  | configFree given => exact reports_free given
  | configResourceDefGet config name => exact reports_configResourceDefGet config name
  | configResourceTypeToStr type => exact (concludes_return rfl).reports
  | configResourceTypeFromStr typeStr outp =>
      exact reports_configResourceTypeFromStr typeStr outp
  | configResourceDefFree given => exact reports_free given
  | configResourceNamesGet config names => exact reports_configResourceNamesGet config names
  | getLastError => exact reports_read (fun thread => .text thread.lastError) fun _ => rfl
  | getLastErrorKind =>
      exact reports_read (fun thread => .kind (.ofKind thread.lastErrorKind)) fun _ => rfl
  | resourceNew name type => exact reports_resourceNew name type
  | resourceNewFromConfig name type config =>
      exact reports_resourceNewFromConfig name type config
  | resourceFree given => exact reports_free given
  | resourceIsAccessible qrmi outp =>
      exact reports_callMethod nofun fun answer =>
        concludes_orFail (fun _ => concludes_succeedWith _) answer
  | resourceStatus qrmi outp =>
      exact reports_callMethod nofun fun answer =>
        concludes_orFail (fun _ => concludes_succeedWith _) answer
  | resourceId qrmi outp =>
      exact reports_callMethod nofun fun answer =>
        concludes_orFail concludes_succeedWithText answer
  | resourceType qrmi outp =>
      exact reports_callMethod nofun fun answer =>
        concludes_orFail (fun _ => concludes_succeedWith _) answer
  | resourceAcquire qrmi outp =>
      exact reports_callMethod nofun fun answer =>
        concludes_orFail concludes_succeedWithText answer
  | resourceRelease qrmi token => exact reports_resourceRelease qrmi token
  | resourceTaskStart qrmi payload taskId =>
      exact reports_resourceTaskStart qrmi payload taskId
  | resourceTaskStop qrmi taskId =>
      have refusal : (CCall.resourceTaskStop qrmi taskId).refusal =
          (absent qrmi.isSome <|> undecoded taskId <|> absent true) := by
        change (absent qrmi.isSome <|> undecoded taskId) = _
        cases absent qrmi.isSome <;> cases undecoded taskId <;> rfl
      rw [refusal]
      exact reports_callTaskMethod fun _ answer =>
        concludes_orFail (fun _ => concludes_return rfl) answer
  | resourceTaskStatus qrmi taskId status =>
      exact reports_callTaskMethod fun _ answer =>
        concludes_orFail (fun _ => concludes_succeedWith _) answer
  | resourceTaskResult qrmi taskId outp =>
      exact reports_callTaskMethod fun _ answer =>
        concludes_orFail concludes_succeedWithText answer
  | resourceTaskLogs qrmi taskId outp =>
      exact reports_callTaskMethod fun _ answer =>
        concludes_orFail concludes_succeedWithText answer
  | resourceTarget qrmi => exact reports_resourceTarget qrmi
  | resourceMetadata qrmi outp =>
      exact reports_callMethod nofun fun _ => concludes_succeedWith _
  | resourceStatusFree given => exact reports_free given
  | resourceStatusCode status outp =>
      have refusal : (CCall.resourceStatusCode status outp).refusal =
          (absent status.isSome <|> absent outp <|> status.bind fun _ => none) := by
        cases status <;> cases outp <;> rfl
      rw [refusal]
      exact reports_readStatus fun _ => concludes_succeedWith _
  | resourceStatusCodeToString code =>
      cases code <;> exact (concludes_return rfl).reports
  | resourceStatusReason status => exact reports_resourceStatusReason status
  | resourceStatusHealthy status outp =>
      exact reports_readStatus fun _ => concludes_reported _ _ _
  | resourceStatusBusy status outp =>
      exact reports_readStatus fun _ => concludes_reported _ _ _
  | resourceStatusPendingJobCount status outp =>
      exact reports_readStatus fun _ => concludes_reported _ _ _
  | resourceStatusCapacity status outp =>
      exact reports_readStatus fun _ => concludes_reported _ _ _
  | resourceCapacityFree given => exact reports_free given
  | resourceMetadataFree given => exact reports_free given
  | resourceMetadataValue metadata key => exact reports_resourceMetadataValue metadata key
  | resourceMetadataKeys metadata => exact reports_resourceMetadataKeys metadata
  | providerNew type environments => exact reports_providerNew type environments
  | providerFree given => exact reports_free given
  | providerResources provider filters out =>
      have query (provider : Nat) (filters : Option Text) : Reports none (do
          let found ← invoke (.providerResources provider filters)
          orFail (fun handles => succeedWith (.resources handles)) found) :=
        reports_invoke fun answer =>
          concludes_orFail (fun _ => concludes_succeedWith _) answer
      exact reports_withFilters query
  | providerResourcesFree given => exact reports_free given
  | providerLeastBusy provider filters out =>
      have query (provider : Nat) (filters : Option Text) : Reports none (do
          let found ← invoke (.providerLeastBusy provider filters)
          orFail (fun handle => succeedWith (.resource handle)) found) :=
        reports_invoke fun answer =>
          concludes_orFail (fun _ => concludes_succeedWith _) answer
      exact reports_withFilters query
  | serviceResources given => exact reports_serviceResources given
  | serviceResourcesFree given => exact reports_free given

end Calls

/-! ## Runs of calls on one thread -/

/-- One call between two states of its thread. -/
structure CRun where
  call : CCall
  before : CThread
  trace : List (Event Invocation.Answer)
  returned : Returned
  after : CThread

namespace CRun

/-- The failure of a run, if it fails. -/
def failure (run : CRun) : Option CFailure :=
  failureOf run.call.refusal run.trace

/-- The cells after a run speak about it: the message is the same whatever the thread
remembered before, and the kind is that of its `QrmiError` or the generic one. -/
structure Consistent (run : CRun) (failure : CFailure) : Prop where
  message : ∀ other final, run.call.perform.Executes other run.trace (.ok run.returned)
    final → final.lastError = run.after.lastError
  kind : run.after.lastErrorKind = failure.kind

/-- A run whose failure is recorded: in both cells, or in the message alone while
the kind is the generic one. -/
def Recorded (run : CRun) : CFailure → Prop
  | .recorded _ => True
  | .messageOnly _ => run.before.lastErrorKind = .other
  | .unrecorded => False

end CRun

/-- A thread makes a call to its end. -/
structure CStep (before : CThread) (run : CRun) (after : CThread) : Prop where
  starts : run.before = { before with outputs := [] }
  ends : run.after = after
  executes : run.call.perform.Executes run.before run.trace (.ok run.returned) run.after

section Runs

open CFailure

variable {run : CRun}

theorem CStep.ends_of {before after : CThread} (step : CStep before run after) :
    Ends run.call.perform run.failure run.before run.trace (.ok run.returned) run.after :=
  reports_perform run.call step.executes

/-- A call fails exactly when its arguments or its answer say so. -/
theorem CStep.fails_iff {before after : CThread} (step : CStep before run after) :
    run.returned.fails = true ↔ ∃ failure, run.failure = some failure := by
  obtain ⟨returned, equal, fails⟩ := step.ends_of.returns
  cases equal
  rw [fails, Option.isSome_iff_exists]

/-- The cells speak about a failing call exactly when its failure is recorded. -/
theorem CStep.consistent_iff {before after : CThread} {failure : CFailure}
    (step : CStep before run after) (failed : run.failure = some failure) :
    run.Consistent failure ↔ run.Recorded failure := by
  have ends := step.ends_of
  have leaves {other final : CThread}
      (executes : run.call.perform.Executes other run.trace (.ok run.returned) final) :
      final.cells = failure.leave other := by
    have cells := (reports_perform run.call executes).cells
    change final.cells = run.failure.elim other.cells _ at cells
    rw [cells, failed]
    rfl
  have message {other final : CThread}
      (executes : run.call.perform.Executes other run.trace (.ok run.returned) final) :
      final.lastError = (failure.leave other).1 :=
    congrArg Prod.fst (leaves executes)
  have kind : run.after.lastErrorKind = (failure.leave run.before).2 :=
    congrArg Prod.snd (leaves step.executes)
  cases failure with
  | recorded error =>
      refine iff_of_true ⟨fun other final executes => ?_, kind⟩ trivial
      rw [message executes, message step.executes]
      rfl
  | messageOnly text =>
      constructor
      · intro consistent
        exact kind.symm.trans consistent.kind
      · intro generic
        refine ⟨fun other final executes => ?_, kind.trans generic⟩
        rw [message executes, message step.executes]
        rfl
  | unrecorded =>
      refine iff_of_false (fun consistent => ?_) not_false
      -- A thread with another message keeps it through the same call.
      let other : CThread :=
        { run.before with lastError := some ('x' :: run.after.lastError.getD []) }
      have failing : run.failure.isSome = true := by rw [failed]; rfl
      obtain ⟨final, executes⟩ := ends.again failing other
      have same := consistent.message other final executes
      rw [message executes] at same
      change some ('x' :: run.after.lastError.getD []) = run.after.lastError at same
      cases held : run.after.lastError with
      | none =>
          rw [held] at same
          cases same
      | some text =>
          rw [held] at same
          exact absurd (congrArg List.length (Option.some.inj same)) (by simp)

variable {start final : CThread} {runs : List CRun}

theorem exists_step_of_history (history : History CStep start runs final)
    (member : run ∈ runs) : ∃ before after, CStep before run after := by
  obtain ⟨past, future, rfl⟩ := List.append_of_mem member
  obtain ⟨before, -, rest⟩ := history.split
  cases rest with
  | cons step later => exact ⟨before, _, step⟩

/-- In a run of calls on one thread, the last error speaks about every failing call
exactly when the failure of every call is recorded. -/
theorem lastError_consistent_iff (history : History CStep .initial runs final) :
    (∀ run ∈ runs, run.returned.fails = true →
      ∃ failure, run.failure = some failure ∧ run.Consistent failure) ↔
    ∀ run ∈ runs, ∀ failure, run.failure = some failure → run.Recorded failure := by
  constructor
  · intro consistent run member failure failed
    obtain ⟨before, after, step⟩ := exists_step_of_history history member
    have fails := step.fails_iff.mpr ⟨failure, failed⟩
    obtain ⟨found, same, speaks⟩ := consistent run member fails
    obtain rfl := Option.some.inj (failed.symm.trans same)
    exact (step.consistent_iff failed).mp speaks
  · intro recorded run member fails
    obtain ⟨before, after, step⟩ := exists_step_of_history history member
    obtain ⟨failure, failed⟩ := step.fails_iff.mp fails
    exact ⟨failure, failed, (step.consistent_iff failed).mpr
      (recorded run member failure failed)⟩

end Runs

namespace StaleKind

def resourceName : CStr where
  bytes := [0x71]
  noNul := by decide

def filename : CStr where
  bytes := [0x63]
  noNul := by decide

theorem toStr_resourceName : resourceName.toStr = some ['q'] := by
  decide +kernel

theorem toStr_filename : filename.toStr = some ['c'] := by
  decide +kernel

def unset : QrmiError :=
  .envVarNotSet "q_QRMI_IBM_QCS_ENDPOINT"

def unopened : String :=
  "Failed to open c. reason = No such file or directory (os error 2)"

/-- The thread after a resource could not be created. -/
def uncreated : CThread :=
  (CThread.initial.setLastErrorKind unset.kind).setLastError unset.display

/-- A resource is not created because of the environment. -/
def creation : CRun where
  call := .resourceNew (some resourceName) .ibmQuantumComputeService
  before := .initial
  trace := [⟨.createResource .ibmQuantumComputeService ['q'], .error unset⟩]
  returned := .null
  after := uncreated

/-- Then a configuration file cannot be opened. -/
def loading : CRun where
  call := .configLoad (some filename)
  before := uncreated
  trace := [⟨.loadConfig ['c'], .error unopened⟩]
  returned := .null
  after := uncreated.setLastError unopened

theorem executes_creation : creation.call.perform.Executes creation.before
    creation.trace (.ok creation.returned) creation.after := by
  change (CFunction.qrmiResourceNew (some resourceName) .ibmQuantumComputeService).Executes ..
  simp only [CFunction.qrmiResourceNew, toStr_resourceName]
  exact .ask (.done _)

theorem executes_loading : loading.call.perform.Executes loading.before
    loading.trace (.ok loading.returned) loading.after := by
  change (CFunction.qrmiConfigLoad (some filename)).Executes ..
  simp only [CFunction.qrmiConfigLoad, toStr_filename]
  exact .ask (.done _)

theorem step_loading : CStep uncreated loading loading.after :=
  ⟨rfl, rfl, executes_loading⟩

theorem history : History CStep .initial [creation, loading] loading.after :=
  .cons ⟨rfl, rfl, executes_creation⟩ (.cons step_loading (.nil _))

theorem failure_loading : loading.failure = some (.messageOnly unopened) := by
  change failureOf (CFailure.undecoded (some filename)) _ = _
  rw [CFailure.undecoded, Option.bind_some, toStr_filename]
  rfl

end StaleKind

theorem lastError_consistent_iff_stale :
    (∀ run ∈ [StaleKind.creation, StaleKind.loading], run.returned.fails = true →
      ∃ failure, run.failure = some failure ∧ run.Consistent failure) ↔
    ∀ run ∈ [StaleKind.creation, StaleKind.loading],
      ∀ failure, run.failure = some failure → run.Recorded failure :=
  lastError_consistent_iff StaleKind.history

/-- A failure of another kind is reported with the kind of an earlier one. -/
theorem exists_stale_lastErrorKind :
    ∃ runs final, History CStep .initial runs final ∧
      ∃ run ∈ runs, run.returned.fails = true ∧
        ¬ ∃ failure, run.failure = some failure ∧ run.Consistent failure := by
  refine ⟨_, _, StaleKind.history, StaleKind.loading, by simp, rfl, ?_⟩
  rintro ⟨failure, failed, consistent⟩
  obtain rfl := Option.some.inj (StaleKind.failure_loading.symm.trans failed)
  have generic := (StaleKind.step_loading.consistent_iff failed).mp consistent
  cases generic
