import Qrmi.OqtopusRuns

/-!
# The requests of a run

What the operations of a device ask the service for through the Python client.  Nothing is
asked twice, and nothing is asked for another job or device.
-/

open Interaction

namespace OqtopusBridge

open Method PyMethod

/-- The methods of the client that send a request. -/
def requestNames : List String :=
  ["get_device", "cancel_job", "get_job_status", "get_job_result", "submit_job"]

/-- A request, with the identifier of the device or job that it is about. -/
structure ServiceRequest where
  name : String
  about : Option Text

def requestOf : Event PyAction.Answer → Option ServiceRequest
  | ⟨.callMethod _ name args _, _⟩ =>
      if name ∈ requestNames then
        some ⟨name, match args with
          | [.text value] => some value
          | _ => none⟩
      else none
  | _ => none

def requests (trace : List (Event PyAction.Answer)) : List ServiceRequest :=
  trace.filterMap requestOf

@[simp]
theorem requests_append (first second : List (Event PyAction.Answer)) :
    requests (first ++ second) = requests first ++ requests second :=
  List.filterMap_append

/-- What an entry point asks for.  A new job has no identifier yet. -/
def EntryPoint.request (arg : Text) : EntryPoint → ServiceRequest
  | getDeviceStatus | getDeviceJson => ⟨"get_device", some arg⟩
  | cancelJob => ⟨"cancel_job", some arg⟩
  | getJobStatus => ⟨"get_job_status", some arg⟩
  | getJobResultJson => ⟨"get_job_result", some arg⟩
  | submitJob => ⟨"submit_job", none⟩

/-- An event inside the interpreter. -/
def IsLocal (event : Event PyAction.Answer) : Prop :=
  requestOf event = none

/-- Every execution makes the request at most once, and does make it to succeed. -/
def SendsOnce {State Error α : Type} (request : ServiceRequest)
    (method : Method PyAction PyAction.Answer State Error α) : Prop :=
  ∀ before trace result after, method.Executes before trace result after →
    (requests trace = [] ∨ requests trace = [request]) ∧
      ∀ value, result = .ok value → requests trace = [request]

section Rules

variable {State Error α β : Type} {request : ServiceRequest}
variable {method : Method PyAction PyAction.Answer State Error α}
variable {next : α → Method PyAction PyAction.Answer State Error β}

theorem requests_of_emits {before after : State} {trace : List (Event PyAction.Answer)}
    {result : Except Error α} (emits : method.Emits IsLocal)
    (executes : method.Executes before trace result after) : requests trace = [] :=
  List.filterMap_eq_nil_iff.mpr (emits.event_of_executes executes)

theorem SendsOnce.bind (sends : SendsOnce request method)
    (quiet : ∀ value, (next value).Emits IsLocal) : SendsOnce request (method >>= next) := by
  intro before trace result after executes
  rcases executes_bind_iff.mp executes with ⟨error, rfl, failed⟩ |
    ⟨earlier, later, value, middle, rfl, ran, continued⟩
  · obtain ⟨atMost, -⟩ := sends _ _ _ _ failed
    exact ⟨atMost, fun _ equal => by cases equal⟩
  · obtain ⟨-, sent⟩ := sends _ _ _ _ ran
    have both : requests (earlier ++ later) = [request] := by
      rw [requests_append, sent value rfl, requests_of_emits (quiet value) continued,
        List.append_nil]
    exact ⟨.inr both, fun _ _ => both⟩

theorem SendsOnce.after (quiet : method.Emits IsLocal)
    (sends : ∀ value, SendsOnce request (next value)) : SendsOnce request (method >>= next) := by
  intro before trace result after executes
  rcases executes_bind_iff.mp executes with ⟨error, rfl, failed⟩ |
    ⟨earlier, later, value, middle, rfl, ran, continued⟩
  · exact ⟨.inl (requests_of_emits quiet failed), fun _ equal => by cases equal⟩
  · rw [requests_append, requests_of_emits quiet ran, List.nil_append]
    exact sends value _ _ _ _ continued

theorem sendsOnce_callMethod {client : PyObject} {name : String} {args : List PyArgument}
    {kwargs : Option PyObject}
    (isRequest : ∀ answer, requestOf ⟨.callMethod client name args kwargs, answer⟩ =
      some request) : SendsOnce request (callMethod client name args kwargs) := by
  intro before trace result after executes
  rw [callMethod, executes_question_bind_iff] at executes
  obtain ⟨answer, rest, rfl, continued⟩ := executes
  obtain ⟨rfl, -, -⟩ := executes_ofExcept_iff.mp continued
  have sent : requests [⟨.callMethod client name args kwargs, answer⟩] = [request] :=
    List.filterMap_cons_some (isRequest answer)
  exact ⟨.inr sent, fun _ _ => sent⟩

end Rules

section Local

theorem emits_action {α : Type} {action : PyAction} {next : action.Answer → PyMethod α}
    (isLocal : ∀ answer, IsLocal ⟨action, answer⟩) (rest : ∀ answer, (next answer).Emits IsLocal) :
    (lift (Program.question action) >>= next).Emits IsLocal :=
  (emits_lift (Program.emits_question isLocal)).bind rest

theorem emits_importModule (name : String) : (importModule name).Emits IsLocal :=
  emits_action (fun _ => rfl) emits_ofExcept

theorem emits_newDict : newDict.Emits IsLocal :=
  emits_lift (Program.emits_question fun _ => rfl)

theorem emits_getattr (object : PyObject) (name : String) :
    (getattr object name).Emits IsLocal :=
  emits_action (fun _ => rfl) emits_ofExcept

theorem emits_hasattr (object : PyObject) (name : String) :
    (hasattr object name).Emits IsLocal :=
  emits_action (fun _ => rfl) emits_ofExcept

theorem emits_call (callable : PyObject) (args : List PyArgument) (kwargs : Option PyObject) :
    (call callable args kwargs).Emits IsLocal :=
  emits_action (fun _ => rfl) emits_ofExcept

theorem emits_callMethod {object : PyObject} {name : String} {args : List PyArgument}
    {kwargs : Option PyObject} (other : name ∉ requestNames) :
    (callMethod object name args kwargs).Emits IsLocal :=
  emits_action (fun _ => if_neg other) emits_ofExcept

theorem emits_castDict (object : PyObject) : (castDict object).Emits IsLocal :=
  emits_action (fun _ => rfl) emits_ofExcept

theorem emits_getItem (dict : PyObject) (key : String) : (getItem dict key).Emits IsLocal :=
  emits_action (fun _ => rfl) emits_ofExcept

theorem emits_setItem (dict : PyObject) (key : Text) (value : PyArgument) :
    (setItem dict key value).Emits IsLocal :=
  emits_action (fun _ => rfl) emits_ofExcept

theorem emits_items (dict : PyObject) : (items dict).Emits IsLocal :=
  emits_lift (Program.emits_question fun _ => rfl)

theorem emits_extractString (object : PyObject) : (extractString object).Emits IsLocal :=
  emits_action (fun _ => rfl) emits_ofExcept

theorem emits_extractI64 (object : PyObject) : (extractI64 object).Emits IsLocal :=
  emits_action (fun _ => rfl) emits_ofExcept

theorem emits_ok {α : Type} {method : PyMethod α} (emits : method.Emits IsLocal) :
    (ok method).Emits IsLocal := by
  refine emits.attempt.bind fun outcome => ?_
  rcases outcome with (error | -) | value
  · exact emits_pure _
  · exact emits_throw _
  · exact emits_pure _

theorem emits_display (error : PyErr) : (display error).Emits IsLocal := by
  refine emits_action (fun _ => rfl) fun shown => ?_
  cases shown with
  | none => exact emits_throw _
  | some text => exact emits_pure _

theorem emits_freezeItem (builtins kwargs : PyObject) (key : String) :
    (freezeItem builtins kwargs key).Emits IsLocal := by
  refine (emits_getItem _ _).bind fun present => ?_
  cases present with
  | none => exact emits_pure _
  | some value =>
      exact (emits_callMethod (by decide)).bind fun frozenset => emits_setItem _ _ _

theorem emits_buildClient (configJson : Text) : (buildClient configJson).Emits IsLocal :=
  (emits_importModule _).bind fun _ =>
  (emits_importModule _).bind fun _ =>
  (emits_callMethod (by decide)).bind fun _ =>
  (emits_castDict _).bind fun _ =>
  (emits_importModule _).bind fun _ =>
  (emits_freezeItem _ _ _).bind fun _ =>
  (emits_freezeItem _ _ _).bind fun _ =>
  (emits_getattr _ _).bind fun _ =>
  (emits_getattr _ _).bind fun _ =>
  (emits_getattr _ _).bind fun _ =>
  (emits_call _ _ _).bind fun _ =>
  (emits_getattr _ _).bind fun _ =>
  (emits_getattr _ _).bind fun _ =>
  (emits_getattr _ _).bind fun _ => emits_call _ _ _

theorem emits_jobSpecCls : jobSpecCls.Emits IsLocal :=
  (emits_importModule _).bind fun _ =>
  (emits_getattr _ _).bind fun _ =>
  (emits_getattr _ _).bind fun _ => emits_getattr _ _

theorem emits_modelDump (value : PyObject) : (modelDump value).Emits IsLocal :=
  emits_newDict.bind fun _ =>
  (emits_setItem _ _ _).bind fun _ => emits_callMethod (by decide)

theorem emits_normalizeValue (value : PyObject) : (normalizeValue value).Emits IsLocal := by
  refine (emits_hasattr _ _).bind fun dumps => ?_
  split
  · exact emits_modelDump value
  refine (emits_hasattr _ _).bind fun converts => ?_
  split
  · exact emits_callMethod (by decide)
  · exact emits_pure _

theorem emits_dumpJson (jsonMod strFn value : PyObject) :
    (dumpJson jsonMod strFn value).Emits IsLocal :=
  emits_newDict.bind fun _ =>
  (emits_setItem _ _ _).bind fun _ =>
  (emits_callMethod (by decide)).bind fun _ => emits_extractString _

theorem emits_nestDeviceInfo (jsonMod deviceDict : PyObject) :
    (nestDeviceInfo jsonMod deviceDict).Emits IsLocal := by
  refine (emits_getItem _ _).bind fun present => ?_
  cases present with
  | none => exact emits_pure _
  | some deviceInfo =>
  refine (emits_ok (emits_extractString _)).bind fun text => ?_
  cases text with
  | none => exact emits_pure _
  | some deviceInfoStr =>
  refine (emits_ok (emits_callMethod (by decide))).bind fun parsed => ?_
  cases parsed with
  | none => exact emits_pure _
  | some parsed => exact emits_setItem _ _ _

theorem emits_deviceToJson (device : PyObject) : (deviceToJson device).Emits IsLocal :=
  (emits_getattr _ _).bind fun _ =>
  (emits_modelDump _).bind fun _ =>
  (emits_castDict _).bind fun _ =>
  (emits_importModule _).bind fun _ =>
  (emits_importModule _).bind fun _ =>
  (emits_nestDeviceInfo _ _).bind fun _ =>
  (emits_getattr _ _).bind fun _ => emits_dumpJson _ _ _

theorem emits_copyAttributes (resultDict : PyObject) (attributes : List (PyObject × PyObject)) :
    (copyAttributes resultDict attributes).Emits IsLocal := by
  induction attributes with
  | nil => exact emits_pure _
  | cons entry rest ih =>
      refine (emits_extractString _).bind fun keyStr => ?_
      dsimp only
      split
      · exact ih
      · exact (emits_normalizeValue _).bind fun normalized =>
          (emits_setItem _ _ _).bind fun _ => ih

theorem emits_findString (dict : PyObject) (keys : List String) :
    (findString dict keys).Emits IsLocal := by
  induction keys with
  | nil => exact emits_pure _
  | cons key keys ih =>
      refine (emits_getItem _ _).bind fun present => ?_
      cases present with
      | none => exact ih
      | some value =>
          refine (emits_ok (emits_extractString _)).bind fun text => ?_
          cases text with
          | none => exact ih
          | some text => exact emits_pure _

theorem emits_submittedJobId (response : PyObject) :
    (submittedJobId response).Emits IsLocal := by
  refine (emits_ok (emits_getattr _ _)).bind fun direct => ?_
  rcases direct with - | object
  on_goal 1 => refine (emits_pure none).bind ?_
  on_goal 2 => refine (emits_ok (emits_extractString object)).bind ?_
  all_goals
    rintro (- | jobId)
    · refine (emits_callMethod (by decide)).bind fun asDict =>
        (emits_castDict _).bind fun _ => (emits_findString _ _).bind fun found => ?_
      cases found with
      | some jobId => exact emits_pure _
      | none => exact emits_action (fun _ => rfl) fun error => emits_throw _
    · exact emits_pure _

theorem emits_describeError (error : PyErr) : (describeError error).Emits IsLocal := by
  have extracts : (extractUserApiError error).Emits IsLocal :=
    emits_action (fun _ => rfl) fun value => emits_ok
      ((emits_getattr _ _).bind fun statusCode =>
        (emits_extractI64 _).bind fun statusCode =>
        (emits_getattr _ _).bind fun message =>
        (emits_extractString _).bind fun message => emits_pure _)
  refine extracts.bind fun apiError => ?_
  cases apiError with
  | some apiError => exact emits_pure _
  | none =>
  refine emits_action (fun _ => rfl) fun formatted => ?_
  rcases formatted with (raised | -) | traceback
  · exact (emits_display error).bind fun shown => emits_pure _
  · exact emits_throw _
  · exact (emits_display error).bind fun shown => emits_pure _

end Local

section Calls

variable {entryPoint : EntryPoint} {arg configJson : Text}

theorem sendsOnce_run : SendsOnce (entryPoint.request arg) (entryPoint.run arg configJson) := by
  refine SendsOnce.after (emits_buildClient configJson) fun client => ?_
  cases entryPoint with
  | getDeviceStatus | cancelJob | getJobStatus =>
      exact (sendsOnce_callMethod fun _ => rfl).bind fun response =>
        (emits_getattr _ _).bind fun _ => emits_extractString _
  | getDeviceJson =>
      exact (sendsOnce_callMethod fun _ => rfl).bind fun device => emits_deviceToJson device
  | getJobResultJson =>
      exact (sendsOnce_callMethod fun _ => rfl).bind fun jobResult =>
        (emits_importModule _).bind fun builtins =>
        (emits_callMethod (by decide)).bind fun rawVars =>
        (emits_castDict _).bind fun _ =>
        emits_newDict.bind fun resultDict =>
        (emits_items _).bind fun attributes =>
        (emits_copyAttributes _ _).bind fun _ =>
        (emits_getattr _ _).bind fun strFn =>
        emits_newDict.bind fun kwargs =>
        (emits_setItem _ _ _).bind fun _ =>
        (emits_importModule _).bind fun jsonMod =>
        (emits_callMethod (by decide)).bind fun dumped => emits_extractString _
  | submitJob =>
      exact SendsOnce.after (emits_importModule _) fun jsonMod =>
        SendsOnce.after (emits_callMethod (by decide)) fun specDict =>
        SendsOnce.after (emits_castDict _) fun _ =>
        SendsOnce.after emits_jobSpecCls fun jobSpecCls =>
        SendsOnce.after (emits_call _ _ _) fun jobSpec =>
        (sendsOnce_callMethod fun _ => rfl).bind fun response => emits_submittedJobId response

/-- After its Python code an entry point describes the exception, and that stays local. -/
theorem executes_run_of_described {trace : List (Event PyAction.Answer)}
    {result : Except PyFailure (Except Text Text)}
    (executes : (describedRun entryPoint arg configJson).Executes () trace result ()) :
    ∃ earlier later outcome, trace = earlier ++ later ∧
      (entryPoint.run arg configJson).Executes () earlier outcome () ∧
        (∀ event ∈ later, IsLocal event) ∧
          ∀ value, result = .ok (.ok value) → outcome = .ok value := by
  rcases executes_bind_iff.mp executes with ⟨error, rfl, failed⟩ |
    ⟨earlier, later, outcome, middle, rfl, ran, continued⟩
  · obtain ⟨_, equal, -⟩ := executes_attempt_iff.mp failed
    cases equal
  obtain ⟨_, same, executed⟩ := executes_attempt_iff.mp ran
  cases same
  refine ⟨earlier, later, outcome, rfl, executed, ?_, ?_⟩
  · rcases outcome with (error | -) | value
    · exact ((emits_describeError error).bind fun _ =>
        emits_pure _).event_of_executes continued
    · exact (emits_throw _).event_of_executes continued
    · exact (emits_pure _).event_of_executes continued
  · rintro value rfl
    rcases outcome with (error | -) | value
    · rcases executes_bind_iff.mp continued with ⟨_, equal, -⟩ | ⟨_, _, _, _, -, -, returned⟩
      · cases equal
      · cases (executes_pure_iff.mp returned).2.1
    · cases (executes_throw_iff.mp continued).2.1
    · cases (executes_pure_iff.mp continued).2.1
      rfl

theorem requests_of_describedRun {trace : List (Event PyAction.Answer)}
    {result : Except PyFailure (Except Text Text)}
    (executes : (describedRun entryPoint arg configJson).Executes () trace result ()) :
    (requests trace = [] ∨ requests trace = [entryPoint.request arg]) ∧
      ∀ value, result = .ok (.ok value) → requests trace = [entryPoint.request arg] := by
  obtain ⟨earlier, later, outcome, rfl, ran, quiet, returned⟩ :=
    executes_run_of_described executes
  obtain ⟨atMost, sent⟩ := sendsOnce_run _ _ _ _ ran
  have same : requests (earlier ++ later) = requests earlier := by
    rw [requests_append, requests, requests, List.filterMap_eq_nil_iff.mpr quiet,
      List.append_nil]
  rw [same]
  exact ⟨atMost, fun value equal => sent value (returned value equal)⟩

end Calls

end OqtopusBridge

namespace Oqtopus

open OqtopusBridge

/-- What an operation asks for. -/
def Operation.request (oqtopus : Oqtopus) : Operation → ServiceRequest
  | isAccessible | status | target => ⟨"get_device", some oqtopus.deviceId⟩
  | taskStop taskId => ⟨"cancel_job", some taskId⟩
  | taskStatus taskId => ⟨"get_job_status", some taskId⟩
  | taskResult taskId => ⟨"get_job_result", some taskId⟩
  | taskStart _ => ⟨"submit_job", none⟩

def Call.succeeded (call : Call) : Bool :=
  call.result.toBool

section Requests

variable {libraries : Libraries} {oqtopus : Oqtopus} {start final : Stored BridgeBlock Unit}
variable {calls : List Call}

theorem IsQuiet.emits {α : Type} {method : BridgeMemory QrmiError α} (quiet : IsQuiet method) :
    method.Emits IsLocal :=
  Method.emits_silent fun before trace result after executes =>
    (quiet before trace result after executes).1

theorem sendsOnce_callWith (entryPoint : EntryPoint) (context : String) (text : Text) :
    SendsOnce (entryPoint.request text) (oqtopus.callWith entryPoint context text) := by
  intro before trace result after executes
  rcases executes_callWith_iff.mp executes with ⟨error, -, rfl, rfl, rfl⟩ |
    ⟨-, message, -, rfl, rfl, rfl⟩ | ⟨-, -, outcome, ran, rfl, rfl⟩
  · exact ⟨.inl rfl, fun _ equal => by cases equal⟩
  · exact ⟨.inl rfl, fun _ equal => by cases equal⟩
  · obtain ⟨atMost, sent⟩ := requests_of_describedRun ran
    refine ⟨atMost, fun value equal => ?_⟩
    rcases outcome with failure | (message | value)
    · cases equal
    · cases equal
    · exact sent value rfl

theorem sendsOnce_taskStart (payload : Payload) :
    SendsOnce ⟨"submit_job", none⟩ (oqtopus.taskStart libraries payload) := by
  unfold taskStart
  split
  · exact SendsOnce.after (isQuiet_ofResult _).emits fun spec =>
      sendsOnce_callWith .submitJob _ spec
  · intro before trace result after executes
    obtain ⟨rfl, rfl, -⟩ := Method.executes_ofExcept_iff.mp executes
    exact ⟨.inl rfl, fun _ equal => by cases equal⟩

theorem sendsOnce_operation (operation : Operation) :
    SendsOnce (operation.request oqtopus) (operation.run libraries oqtopus) := by
  have quiet {α : Type} (value : α) := (isQuiet_pure value).emits
  cases operation with
  | isAccessible =>
      exact ((sendsOnce_callWith .getDeviceStatus _ _).bind fun _ => quiet _).bind fun _ => quiet _
  | status =>
      have reads (value : Text) := ((isQuiet_ofResult ((libraries.readDevice value).mapError
        fun error => .other s!"invalid device json: {error}")).bind
          fun device => isQuiet_pure (resourceStatus device)).emits
      exact ((sendsOnce_callWith .getDeviceJson _ _).bind reads).bind fun _ => quiet _
  | taskStop taskId => exact (sendsOnce_callWith .cancelJob _ _).bind fun _ => quiet _
  | taskStatus taskId =>
      exact ((sendsOnce_callWith .getJobStatus _ _).bind
        fun _ => (isQuiet_ofResult _).emits).bind fun _ => quiet _
  | target => exact (sendsOnce_callWith .getDeviceJson _ _).bind fun _ => quiet _
  | taskResult taskId =>
      exact (sendsOnce_callWith .getJobResultJson _ _).bind fun _ => quiet _
  | taskStart payload => exact (sendsOnce_taskStart payload).bind fun _ => quiet _

/-- The requests of a run are those of some of its calls, in their order, among them every
call that succeeded. -/
theorem requests_of_history
    (history : History (Call.Step libraries oqtopus) start calls final) :
    ∃ sent : List Call, (calls.filter Call.succeeded).Sublist sent ∧ sent.Sublist calls ∧
      requests (calls.flatMap Call.trace) =
        sent.map fun call => call.operation.request oqtopus := by
  induction history with
  | nil state => exact ⟨[], .slnil, .slnil, rfl⟩
  | @cons before middle after call calls step rest ih =>
      obtain ⟨sent, included, among, equal⟩ := ih
      obtain ⟨atMost, made⟩ := sendsOnce_operation call.operation _ _ _ _ step
      rw [List.flatMap_cons, requests_append, equal]
      rcases atMost with none | once
      · have failed : call.succeeded = false := by
          cases returned : call.result with
          | error error => rw [Call.succeeded, returned]; rfl
          | ok value =>
              rw [made value returned] at none
              cases none
        refine ⟨sent, ?_, among.cons _, ?_⟩
        · rw [List.filter_cons_of_neg (by simp [failed])]
          exact included
        · rw [none, List.nil_append]
      · refine ⟨call :: sent, ?_, among.cons_cons _, ?_⟩
        · rw [List.filter_cons]
          split
          · exact included.cons_cons _
          · exact included.cons _
        · rw [once, List.map_cons, List.singleton_append]

end Requests

theorem requests_of_cancelledJob :
    requests ([CancelledJob.call, CancelledJob.call].flatMap Call.trace) =
      [⟨"cancel_job", some ['j']⟩, ⟨"cancel_job", some ['j']⟩] := by
  obtain ⟨sent, included, among, equal⟩ := requests_of_history CancelledJob.history
  obtain rfl : sent = [CancelledJob.call, CancelledJob.call] := among.antisymm included
  exact equal

end Oqtopus
