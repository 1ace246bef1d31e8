import Qrmi.OqtopusRequests

/-!
# The jobs of a run

What a device submits: the specification of its caller, for the device itself.
-/

open Interaction

namespace OqtopusBridge

open Method PyMethod

/-- The specification was made of the document that was loaded from a text. -/
def MadeFrom (spec : Text) (jobSpec : PyObject) (trace : List (Event PyAction.Answer)) : Prop :=
  ∃ jsonMod specDict cls,
    (⟨.callMethod jsonMod "loads" [.text spec] none, .ok specDict⟩ : Event PyAction.Answer) ∈
        trace ∧
      (⟨.call cls [] (some specDict), .ok jobSpec⟩ : Event PyAction.Answer) ∈ trace

section Submissions

variable {spec configJson : Text} {client jobSpec : PyObject} {kwargs : Option PyObject}
variable {answer : Except PyFailure PyObject} {trace : List (Event PyAction.Answer)}

theorem MadeFrom.mono {wider : List (Event PyAction.Answer)}
    (made : MadeFrom spec jobSpec trace) (within : trace ⊆ wider) :
    MadeFrom spec jobSpec wider := by
  obtain ⟨jsonMod, specDict, cls, loaded, called⟩ := made
  exact ⟨jsonMod, specDict, cls, within loaded, within called⟩

/-- A request that does not come from the first method comes from the second. -/
theorem exists_of_request {State Error α β : Type}
    {method : Method PyAction PyAction.Answer State Error α}
    {next : α → Method PyAction PyAction.Answer State Error β} {before after : State}
    {result : Except Error β} {event : Event PyAction.Answer}
    {whole : List (Event PyAction.Answer)} (quiet : method.Emits IsLocal)
    (executes : (method >>= next).Executes before trace result after) (within : trace ⊆ whole)
    (asked : event ∈ trace) (request : ¬ IsLocal event) :
    ∃ earlier later value middle, earlier ⊆ whole ∧
      method.Executes before earlier (.ok value) middle ∧
        (next value).Executes middle later result after ∧ later ⊆ whole ∧ event ∈ later := by
  rcases executes_bind_iff.mp executes with ⟨error, rfl, failed⟩ |
    ⟨earlier, later, value, middle, rfl, ran, continued⟩
  · exact absurd (quiet.event_of_executes failed event asked) request
  · obtain ⟨earlierWithin, laterWithin⟩ := List.append_subset.mp within
    refine ⟨earlier, later, value, middle, earlierWithin, ran, continued, laterWithin, ?_⟩
    exact (List.mem_append.mp asked).resolve_left fun inFirst =>
      request (quiet.event_of_executes ran event inFirst)

theorem executes_callMethod_iff {object : PyObject} {name : String} {args : List PyArgument} :
    (callMethod object name args kwargs).Executes () trace answer () ↔
      trace = [⟨.callMethod object name args kwargs, answer⟩] := by
  rw [callMethod, executes_question_bind_iff]
  constructor
  · rintro ⟨answered, rest, rfl, continued⟩
    obtain ⟨rfl, rfl, -⟩ := executes_ofExcept_iff.mp continued
    rfl
  · rintro rfl
    exact ⟨answer, [], rfl, executes_ofExcept_iff.mpr ⟨rfl, rfl, rfl⟩⟩

theorem executes_call_iff {callable : PyObject} {args : List PyArgument} :
    (call callable args kwargs).Executes () trace answer () ↔
      trace = [⟨.call callable args kwargs, answer⟩] := by
  rw [call, executes_question_bind_iff]
  constructor
  · rintro ⟨answered, rest, rfl, continued⟩
    obtain ⟨rfl, rfl, -⟩ := executes_ofExcept_iff.mp continued
    rfl
  · rintro rfl
    exact ⟨answer, [], rfl, executes_ofExcept_iff.mpr ⟨rfl, rfl, rfl⟩⟩

/-- The submission of a job. -/
def submission (client jobSpec : PyObject) (kwargs : Option PyObject)
    (answer : Except PyFailure PyObject) : Event PyAction.Answer :=
  ⟨.callMethod client "submit_job" [.object jobSpec] kwargs, answer⟩

theorem requestOf_submission :
    requestOf (submission client jobSpec kwargs answer) = some ⟨"submit_job", none⟩ :=
  rfl

theorem not_isLocal_submission : ¬ IsLocal (submission client jobSpec kwargs answer) :=
  Option.some_ne_none _

theorem madeFrom_of_run {result : Except PyFailure Text}
    (executes : (EntryPoint.submitJob.run spec configJson).Executes () trace result ())
    (submitted : submission client jobSpec kwargs answer ∈ trace) :
    MadeFrom spec jobSpec trace := by
  have request := @not_isLocal_submission client jobSpec kwargs answer
  obtain ⟨_, _, ownClient, ⟨⟩, -, -, executes, within, submitted⟩ :=
    exists_of_request (emits_buildClient _) executes (List.Subset.refl _) submitted request
  obtain ⟨_, _, jsonMod, ⟨⟩, -, -, executes, within, submitted⟩ :=
    exists_of_request (emits_importModule _) executes within submitted request
  obtain ⟨_, _, specDict, ⟨⟩, loads, loaded, executes, within, submitted⟩ :=
    exists_of_request (emits_callMethod (by decide)) executes within submitted request
  obtain ⟨_, _, _, ⟨⟩, -, -, executes, within, submitted⟩ :=
    exists_of_request (emits_castDict _) executes within submitted request
  obtain ⟨_, _, cls, ⟨⟩, -, -, executes, within, submitted⟩ :=
    exists_of_request emits_jobSpecCls executes within submitted request
  obtain ⟨_, submitting, made, ⟨⟩, makes, called, executes, -, submitted⟩ :=
    exists_of_request (emits_call _ _ _) executes within submitted request
  obtain rfl := executes_callMethod_iff.mp loaded
  obtain rfl := executes_call_iff.mp called
  have same : made = jobSpec := by
    rcases executes_bind_iff.mp executes with ⟨error, rfl, failed⟩ |
      ⟨sending, later, response, ⟨⟩, rfl, sent, continued⟩
    · obtain rfl := executes_callMethod_iff.mp failed
      cases List.mem_singleton.mp submitted
      rfl
    · obtain rfl := executes_callMethod_iff.mp sent
      rcases List.mem_append.mp submitted with first | rest
      · cases List.mem_singleton.mp first
        rfl
      · exact absurd ((emits_submittedJobId response).event_of_executes continued _ rest) request
  subst same
  exact ⟨jsonMod, specDict, cls, loads List.mem_cons_self, makes List.mem_cons_self⟩

theorem madeFrom_of_describedRun {result : Except PyFailure (Except Text Text)}
    (executes : (describedRun .submitJob spec configJson).Executes () trace result ())
    (submitted : submission client jobSpec kwargs answer ∈ trace) :
    MadeFrom spec jobSpec trace := by
  obtain ⟨earlier, later, outcome, rfl, ran, quiet, -⟩ := executes_run_of_described executes
  rcases List.mem_append.mp submitted with inRun | inRest
  · exact (madeFrom_of_run ran inRun).mono (List.subset_append_left _ _)
  · exact absurd (quiet _ inRest) not_isLocal_submission

end Submissions

end OqtopusBridge

namespace Oqtopus

open OqtopusBridge

section Submissions

variable {libraries : Libraries} {oqtopus : Oqtopus}
variable {before after start final : Stored BridgeBlock Unit}
variable {client jobSpec : PyObject} {kwargs : Option PyObject}
variable {answer : Except PyFailure PyObject} {trace : List (Event PyAction.Answer)}

/-- The specification was made of the caller's document with the device in it. -/
def IsForDevice (libraries : Libraries) (oqtopus : Oqtopus) (source : Text)
    (jobSpec : PyObject) (trace : List (Event PyAction.Answer)) : Prop :=
  ∃ entries, libraries.json.parse source = .ok (.object entries) ∧
    MadeFrom (libraries.json.dump (.object
      (Json.insertEntry "device_id".toList (.string oqtopus.deviceId) entries))) jobSpec trace

theorem jobSpecFor_eq_ok {deviceId source spec : Text}
    (made : jobSpecFor libraries deviceId source = .ok spec) :
    ∃ entries, libraries.json.parse source = .ok (.object entries) ∧
      spec = libraries.json.dump (.object
        (Json.insertEntry "device_id".toList (.string deviceId) entries)) := by
  rw [jobSpecFor] at made
  split at made
  · cases made
  · cases made
    exact ⟨_, ‹_›, rfl⟩
  · cases made

theorem isForDevice_of_taskStart {payload : Payload} {result : Except (Halt QrmiError) Text}
    (executes : (oqtopus.taskStart libraries payload).Executes before trace result after)
    (submitted : submission client jobSpec kwargs answer ∈ trace) :
    ∃ source, payload = .oqtopus source ∧
      IsForDevice libraries oqtopus source jobSpec trace := by
  unfold taskStart at executes
  split at executes
  · rename_i source
    rcases executes_ofResult_bind_iff.mp executes with ⟨_, -, rfl, -⟩ | ⟨spec, made, called⟩
    · exact absurd submitted (List.not_mem_nil)
    obtain ⟨entries, parsed, rfl⟩ := jobSpecFor_eq_ok made
    rcases executes_callWith_iff.mp called with ⟨_, -, rfl, -⟩ | ⟨-, _, -, rfl, -⟩ |
      ⟨-, -, outcome, ran, -⟩
    · exact absurd submitted (List.not_mem_nil)
    · exact absurd submitted (List.not_mem_nil)
    · exact ⟨source, rfl, entries, parsed, madeFrom_of_describedRun ran submitted⟩
  · obtain ⟨rfl, -, -⟩ := Method.executes_ofExcept_iff.mp executes
    exact absurd submitted (List.not_mem_nil)

/-- Only `task_start` submits. -/
theorem isForDevice_of_operation {operation : Operation} {result : Except (Halt QrmiError) Unit}
    (executes : (operation.run libraries oqtopus).Executes before trace result after)
    (submitted : submission client jobSpec kwargs answer ∈ trace) :
    ∃ source, operation = .taskStart (.oqtopus source) ∧
      IsForDevice libraries oqtopus source jobSpec trace := by
  have asked : ⟨"submit_job", none⟩ ∈ requests trace :=
    List.mem_filterMap.mpr ⟨_, submitted, requestOf_submission⟩
  have own : operation.request oqtopus = ⟨"submit_job", none⟩ := by
    rcases (sendsOnce_operation operation _ _ _ _ executes).1 with none | once
    · rw [none] at asked
      exact absurd asked (List.not_mem_nil)
    · rw [once] at asked
      exact (List.mem_singleton.mp asked).symm
  cases operation with
  | taskStart payload =>
      rcases Method.executes_bind_iff.mp executes with ⟨_, -, failed⟩ |
        ⟨earlier, later, _, _, rfl, ran, returned⟩
      · obtain ⟨source, rfl, isFor⟩ := isForDevice_of_taskStart failed submitted
        exact ⟨source, rfl, isFor⟩
      · obtain ⟨rfl, -, -⟩ := Method.executes_pure_iff.mp returned
        rw [List.append_nil] at submitted ⊢
        obtain ⟨source, rfl, isFor⟩ := isForDevice_of_taskStart ran submitted
        exact ⟨source, rfl, isFor⟩
  | isAccessible | status | taskStop | taskStatus | target | taskResult =>
      exact absurd (congrArg ServiceRequest.about own) (by simp [Operation.request])

/-- Every job that a run submits was started by its caller, and has the specification that
the caller gave except that it is for the device of the resource. -/
theorem submissions_of_history {calls : List Call} {call : Call}
    (history : History (Call.Step libraries oqtopus) start calls final) (called : call ∈ calls)
    (submitted : submission client jobSpec kwargs answer ∈ call.trace) :
    ∃ source, call.operation = .taskStart (.oqtopus source) ∧
      IsForDevice libraries oqtopus source jobSpec call.trace := by
  induction history with
  | nil state => exact absurd called (List.not_mem_nil)
  | cons step rest ih =>
      rcases List.mem_cons.mp called with rfl | later
      · exact isForDevice_of_operation step submitted
      · exact ih later

end Submissions

namespace StartedJob

open Method CancelledJob

def entries : List (Text × Json) :=
  [("job_type".toList, .string "sampling".toList)]

def source : Text :=
  Json.render (.object entries)

def libraries : Libraries where
  json := JsonLibrary.ofTable [.object entries]
  readDevice _ := .error "expected value"

def spec : Text :=
  Json.render (.object (Json.insertEntry "device_id".toList (.string device.deviceId) entries))

theorem specifies : jobSpecFor libraries device.deviceId source = .ok spec :=
  rfl

/-- Submitting it with the client. -/
def submitting : List (Event PyAction.Answer) :=
  [⟨.importModule "json", .ok ⟨2⟩⟩, ⟨.callMethod ⟨2⟩ "loads" [.text spec] none, .ok ⟨12⟩⟩,
    ⟨.castDict ⟨12⟩, .ok ()⟩, ⟨.importModule "oqtopus_client", .ok ⟨1⟩⟩,
    ⟨.getattr ⟨1⟩ "services", .ok ⟨5⟩⟩, ⟨.getattr ⟨5⟩ "job_spec", .ok ⟨13⟩⟩,
    ⟨.getattr ⟨13⟩ "OqtopusJobSpec", .ok ⟨14⟩⟩, ⟨.call ⟨14⟩ [] (some ⟨12⟩), .ok ⟨15⟩⟩,
    submission ⟨11⟩ ⟨15⟩ none (.ok ⟨16⟩), ⟨.getattr ⟨16⟩ "job_id", .ok ⟨17⟩⟩,
    ⟨.extractString ⟨17⟩, .ok ['j']⟩]

theorem submits : (EntryPoint.submitJob.run spec "\x7b\x7d".toList).Executes ()
    (building ++ submitting) (.ok ['j']) () :=
  executes_bind_iff.mpr (.inr ⟨building, submitting, ⟨11⟩, (), rfl, builds,
    .ask (.ask (.ask (.ask (.ask (.ask (.ask (.ask (.ask (.ask (.ask (.done _)))))))))))⟩)

theorem describes : (describedRun .submitJob spec device.configJson.toStringLossy).Executes ()
    (building ++ submitting) (.ok (.ok ['j'])) () := by
  rw [CStr.toStringLossy_of_bytes (rfl : device.configJson.bytes = Text.utf8 "\x7b\x7d".toList)]
  exact executes_bind_iff.mpr (.inr ⟨_, [], .ok ['j'], (), (List.append_nil _).symm,
    executes_attempt_iff.mpr ⟨_, rfl, submits⟩, .done _⟩)

def call : Call where
  operation := .taskStart (.oqtopus source)
  trace := building ++ submitting
  result := .ok ()

theorem step_call (heap : Heap BridgeBlock) :
    Call.Step libraries device ⟨heap, ()⟩ call ⟨device.settle heap, ()⟩ := by
  refine executes_bind_iff.mpr (.inr ⟨_, [], ['j'], _, (List.append_nil _).symm, ?_, .done _⟩)
  refine executes_ofResult_bind_iff.mpr (.inr ⟨spec, specifies, ?_⟩)
  exact executes_callWith_iff.mpr (.inr (.inr ⟨by decide, rfl, _, describes, rfl, rfl⟩))

/-- A job is cancelled, and another one is started and cancelled. -/
theorem history : History (Call.Step libraries device) start
    [CancelledJob.call, call, CancelledJob.call]
    ⟨device.settle (device.settle (device.settle Heap.empty)), ()⟩ :=
  .cons (step libraries _) (.cons (step_call _) (.cons (step libraries _) (.nil _)))

theorem call_mem : call ∈ [CancelledJob.call, call, CancelledJob.call] :=
  List.mem_cons_of_mem _ List.mem_cons_self

theorem isSubmitted : submission ⟨11⟩ ⟨15⟩ none (.ok ⟨16⟩) ∈ call.trace :=
  List.mem_append_right _ (by simp [submitting])

end StartedJob

theorem submission_of_startedJob : ∃ source,
    StartedJob.call.operation = .taskStart (.oqtopus source) ∧
      IsForDevice StartedJob.libraries CancelledJob.device source ⟨15⟩ StartedJob.call.trace :=
  submissions_of_history StartedJob.history StartedJob.call_mem StartedJob.isSubmitted

end Oqtopus
