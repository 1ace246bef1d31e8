import Qrmi.CFunctions

/-!
# Success in the C interface

A caller takes a success for the operation having happened: the method of the
resource was called with the arguments as they were given, it succeeded, and its
value was stored.  Two functions break this for texts that are not UTF-8.
-/

open Interaction

/-- A string that may be null, with the text that stands for null. -/
def DecodesOr (default : Option Text) (pointer : Option CStr) (value : Option Text) : Prop :=
  match pointer with
  | none => value = default
  | some string => ∃ text, string.toStr = some text ∧ value = some text

/-- A payload with all of its texts decoded. -/
inductive CPayload.Decodes : CPayload → Payload → Prop
  | qiskitPrimitive {input programId : CStr} {inputText programText : Text}
      (first : input.toStr = some inputText) (second : programId.toStr = some programText) :
      Decodes (.qiskitPrimitive input programId) (.qiskitPrimitive inputText programText)
  | pasqalCloud {sequence : CStr} {text : Text} {jobRuns : Int}
      (decoded : sequence.toStr = some text) :
      Decodes (.pasqalCloud sequence jobRuns) (.pasqalCloud text jobRuns)
  | aliceBobFelis {humanQir inputParams : CStr} {qirText paramsText : Text}
      (first : humanQir.toStr = some qirText) (second : inputParams.toStr = some paramsText) :
      Decodes (.aliceBobFelis humanQir inputParams) (.aliceBobFelis qirText paramsText)
  | iqmServer {iqmjson jobType : CStr} {useTimeslot : Int} {tag : Option CStr}
      {jsonText typeText : Text} {tagText : Option Text}
      (first : iqmjson.toStr = some jsonText) (second : jobType.toStr = some typeText)
      (third : DecodesOr none tag tagText) :
      Decodes (.iqmServer iqmjson jobType useTimeslot tag)
        (.iqmServer jsonText typeText (some (useTimeslot = 1)) tagText)
  | oqtopus {jobSpec : CStr} {text : Text} (decoded : jobSpec.toStr = some text) :
      Decodes (.oqtopus jobSpec) (.oqtopus text)
  | maestroLocal {input jobType observables config : Option CStr}
      {inputText typeText observablesText configText : Text}
      {qubits simulatorType simulationMethod : UInt32}
      (first : DecodesOr none input (some inputText))
      (second : DecodesOr none jobType (some typeText))
      (third : DecodesOr (some []) observables (some observablesText))
      (fourth : DecodesOr (some ['\x7b', '\x7d']) config (some configText)) :
      Decodes
        (.maestroLocal input jobType qubits simulatorType simulationMethod observables config)
        (.maestroLocal inputText typeText qubits simulatorType simulationMethod
          observablesText configText)

/-- The method that a call on a resource asks for, when no pointer is null and every
text is decoded. -/
inductive CCall.AsksFor : CCall → Nat → ResourceMethod → Prop
  | resourceId (qrmi : Nat) : AsksFor (.resourceId (some qrmi) true) qrmi .resourceId
  | resourceType (qrmi : Nat) : AsksFor (.resourceType (some qrmi) true) qrmi .resourceType
  | isAccessible (qrmi : Nat) :
      AsksFor (.resourceIsAccessible (some qrmi) true) qrmi .isAccessible
  | status (qrmi : Nat) : AsksFor (.resourceStatus (some qrmi) true) qrmi .status
  | acquire (qrmi : Nat) : AsksFor (.resourceAcquire (some qrmi) true) qrmi .acquire
  | release (qrmi : Nat) {token : CStr} {text : Text} (decoded : token.toStr = some text) :
      AsksFor (.resourceRelease (some qrmi) (some token)) qrmi (.release text)
  | taskStart (qrmi : Nat) {payload : CPayload} {request : Payload}
      (decodes : payload.Decodes request) :
      AsksFor (.resourceTaskStart (some qrmi) (some payload) true) qrmi
        (.taskStart request)
  | taskStop (qrmi : Nat) {taskId : CStr} {id : Text} (decoded : taskId.toStr = some id) :
      AsksFor (.resourceTaskStop (some qrmi) (some taskId)) qrmi (.taskStop id)
  | taskStatus (qrmi : Nat) {taskId : CStr} {id : Text} (decoded : taskId.toStr = some id) :
      AsksFor (.resourceTaskStatus (some qrmi) (some taskId) true) qrmi (.taskStatus id)
  | taskResult (qrmi : Nat) {taskId : CStr} {id : Text} (decoded : taskId.toStr = some id) :
      AsksFor (.resourceTaskResult (some qrmi) (some taskId) true) qrmi (.taskResult id)
  | taskLogs (qrmi : Nat) {taskId : CStr} {id : Text} (decoded : taskId.toStr = some id) :
      AsksFor (.resourceTaskLogs (some qrmi) (some taskId) true) qrmi (.taskLogs id)
  | target (qrmi : Nat) : AsksFor (.resourceTarget (some qrmi)) qrmi .target
  | metadata (qrmi : Nat) : AsksFor (.resourceMetadata (some qrmi) true) qrmi .metadata

/-- The calls of the methods of a resource, with no null pointer. -/
def CCall.isGiven : CCall → Bool
  | resourceId qrmi outp | resourceType qrmi outp | resourceIsAccessible qrmi outp
  | resourceStatus qrmi outp | resourceAcquire qrmi outp | resourceMetadata qrmi outp =>
      qrmi.isSome && outp
  | resourceRelease qrmi token => qrmi.isSome && token.isSome
  | resourceTaskStart qrmi payload taskId => qrmi.isSome && payload.isSome && taskId
  | resourceTaskStop qrmi taskId => qrmi.isSome && taskId.isSome
  | resourceTaskStatus qrmi taskId outp | resourceTaskResult qrmi taskId outp
  | resourceTaskLogs qrmi taskId outp => qrmi.isSome && taskId.isSome && outp
  | resourceTarget qrmi => qrmi.isSome
  | _ => false

/-- What a successful answer stores. -/
def outputsOf {α : Type} (outputs : α → List Output) : Except QrmiError α → Option (List Output)
  | .ok value => some (outputs value)
  | .error _ => none

/-- What the answer of a method stores, if the method succeeded. -/
def ResourceMethod.outputs : (method : ResourceMethod) → method.Answer → Option (List Output)
  | .resourceId | .acquire | .taskStart _ | .taskResult _ | .taskLogs _ | .target =>
      outputsOf fun (text : Text) => [.text text]
  | .resourceType => outputsOf fun (value : ResourceType) => [.resourceType value]
  | .isAccessible => outputsOf fun (value : Bool) => [.bool value]
  | .status => outputsOf fun (value : CResourceStatus) => [.status value]
  | .taskStatus _ => outputsOf fun (value : TaskStatus) => [.taskStatus value]
  | .release _ | .taskStop _ => outputsOf fun (_ : Unit) => []
  | .metadata => fun value => some [.metadata value]

/-- The operation of a call happened: its method was called, succeeded, and its value
was stored. -/
def CCall.Happened (call : CCall) (trace : List (Event Invocation.Answer))
    (outputs : List Output) : Prop :=
  ∃ qrmi method answer, call.AsksFor qrmi method ∧
    trace = [⟨.resource qrmi method, answer⟩] ∧ method.outputs answer = some outputs

/-- A text that is not UTF-8 is passed over: the token of a release, or the tag of an
otherwise valid job. -/
def CCall.dropsText : CCall → Bool
  | resourceRelease _ (some token) => token.toStr.isNone
  | resourceTaskStart _ (some (.iqmServer iqmjson jobType _ (some tag))) _ =>
      iqmjson.toStr.isSome && jobType.toStr.isSome && tag.toStr.isNone
  | _ => false

/-- A function that succeeds without a question, by storing the given outputs. -/
def Stores (outputs : Option (List Output)) (function : CFunction Returned) : Prop :=
  ∀ ⦃before trace after⦄, function.Executes before trace (.ok (.code .success)) after →
    trace = [] ∧ ∃ stored, outputs = some stored ∧
      after.outputs = before.outputs ++ stored

section Conclusions

open CFunction

theorem stores_of_done {function : CFunction Returned} {outputs : List Output}
    {returned : Returned} {change : CThread → CThread}
    (done : ∀ thread, function thread = .done (.ok returned, change thread))
    (stored : ∀ thread, (change thread).outputs = thread.outputs ++ outputs) :
    Stores (some outputs) function := by
  intro before trace after executes
  rw [Method.Executes, done] at executes
  obtain ⟨rfl, equal⟩ := Program.runs_done_iff.mp executes
  obtain ⟨-, rfl⟩ := Prod.mk.inj equal
  exact ⟨rfl, outputs, rfl, stored before⟩

theorem stores_fail (error : QrmiError) : Stores none (fail error) := by
  intro before trace after executes
  have done : fail error before = .done (.ok (.code (.ofKind error.kind)),
      (before.setLastErrorKind error.kind).setLastError error.display) := rfl
  rw [Method.Executes, done] at executes
  obtain ⟨-, equal⟩ := Program.runs_done_iff.mp executes
  have code := Returned.code.inj (Except.ok.inj (Prod.mk.inj equal).1)
  exact (ReturnCode.ofKind_ne_success _ code.symm).elim

theorem stores_return : Stores (some []) (pure (.code .success)) :=
  stores_of_done (fun _ => rfl) fun _ => (List.append_nil _).symm

theorem stores_succeedWith (output : Output) : Stores (some [output]) (succeedWith output) :=
  stores_of_done (fun _ => rfl) fun _ => rfl

theorem stores_succeedWithText (text : Text) :
    Stores (some [.text text]) (succeedWithText text) := by
  unfold succeedWithText
  split
  · intro before trace after executes
    have equal := (Method.executes_pure_iff.mp executes).2.1
    cases equal
  · exact stores_succeedWith _

theorem stores_orFail {α : Type} {outputs : α → List Output} {succeed : α → CFunction Returned}
    (stores : ∀ value, Stores (some (outputs value)) (succeed value))
    (answer : Except QrmiError α) : Stores (outputsOf outputs answer) (orFail succeed answer) := by
  cases answer with
  | ok value => exact stores value
  | error error => exact stores_fail error

end Conclusions

section Calls

open CFunction

variable {call : CCall} {before after : CThread}
variable {trace : List (Event Invocation.Answer)}

theorem executes_invoke_of_stores {qrmi : Nat} {method : ResourceMethod}
    {next : method.Answer → CFunction Returned}
    (stores : ∀ answer, Stores (method.outputs answer) (next answer))
    (executes : (invoke (.resource qrmi method) >>= next).Executes before trace
      (.ok (.code .success)) after) :
    ∃ answer stored, trace = [⟨.resource qrmi method, answer⟩] ∧
      method.outputs answer = some stored ∧ after.outputs = before.outputs ++ stored := by
  obtain ⟨answer, rest, rfl, continued⟩ := Method.executes_question_bind_iff.mp executes
  obtain ⟨rfl, stored, outputs, appended⟩ := stores answer continued
  exact ⟨answer, stored, rfl, outputs, appended⟩

theorem happened_of_invoke {qrmi : Nat} {method : ResourceMethod}
    {next : method.Answer → CFunction Returned} (empty : before.outputs = [])
    (asks : call.AsksFor qrmi method)
    (stores : ∀ answer, Stores (method.outputs answer) (next answer))
    (executes : (invoke (.resource qrmi method) >>= next).Executes before trace
      (.ok (.code .success)) after) : call.Happened trace after.outputs := by
  obtain ⟨answer, stored, asked, outputs, appended⟩ :=
    executes_invoke_of_stores stores executes
  rw [empty, List.nil_append] at appended
  rw [appended]
  exact ⟨qrmi, method, answer, asks, asked, outputs⟩

theorem happened_of_callTaskMethod {qrmi : Nat} {taskId : CStr}
    {method : Text → ResourceMethod}
    {conclude : ∀ id, (method id).Answer → CFunction Returned} (empty : before.outputs = [])
    (asks : ∀ {id}, taskId.toStr = some id → call.AsksFor qrmi (method id))
    (stores : ∀ id answer, Stores ((method id).outputs answer) (conclude id answer))
    (executes : (callTaskMethod (some qrmi) (some taskId) true method conclude).Executes
      before trace (.ok (.code .success)) after) : call.Happened trace after.outputs := by
  unfold callTaskMethod at executes
  cases decoded : taskId.toStr with
  | none =>
      simp only [decoded] at executes
      cases (Method.executes_pure_iff.mp executes).2.1
  | some id =>
      simp only [decoded] at executes
      exact happened_of_invoke empty (asks decoded) (stores id) executes

theorem decodesOr_of_stringOr {pointer : Option CStr} {default value : Option Text}
    {text : Text} (converted : stringOr pointer default = some text)
    (same : value = some text) : DecodesOr default pointer value := by
  cases pointer with
  | none => exact same.trans converted.symm
  | some string => exact ⟨text, converted, same⟩

/-- A converted payload has all of its texts, unless a tag was dropped. -/
theorem decodes_of_payloadFromC {qrmi : Option Nat} {payload : CPayload}
    {request : Payload} {taskId : Bool} (converted : payloadFromC payload = some request)
    (kept : (CCall.resourceTaskStart qrmi (some payload) taskId).dropsText = false) :
    payload.Decodes request := by
  unfold payloadFromC at converted
  cases payload with
  | qiskitPrimitive input programId =>
      dsimp only at converted
      split at converted
      · cases converted
        exact .qiskitPrimitive ‹_› ‹_›
      · cases converted
  | pasqalCloud sequence jobRuns =>
      dsimp only at converted
      split at converted
      · cases converted
        exact .pasqalCloud ‹_›
      · cases converted
  | aliceBobFelis humanQir inputParams =>
      dsimp only at converted
      split at converted
      · cases converted
        exact .aliceBobFelis ‹_› ‹_›
      · cases converted
  | iqmServer iqmjson jobType useTimeslot tag =>
      dsimp only at converted
      split at converted
      · rename_i jsonText typeText first second
        cases converted
        refine .iqmServer first second ?_
        cases tag with
        | none => rfl
        | some tag =>
            cases decoded : tag.toStr with
            | none => simp [CCall.dropsText, first, second, decoded] at kept
            | some tagText => exact ⟨tagText, decoded, decoded⟩
      · cases converted
  | oqtopus jobSpec =>
      dsimp only at converted
      split at converted
      · cases converted
        exact .oqtopus ‹_›
      · cases converted
  | maestroLocal input jobType qubits simulatorType simulationMethod observables config =>
      dsimp only at converted
      split at converted
      · rename_i inputText typeText observablesText configText first second third fourth
        cases converted
        exact .maestroLocal (decodesOr_of_stringOr first rfl)
          (decodesOr_of_stringOr second rfl) (decodesOr_of_stringOr third rfl)
          (decodesOr_of_stringOr fourth rfl)
      · cases converted

theorem given_both {α : Type} {pointer : Option α} {outp : Bool}
    (given : (pointer.isSome && outp) = true) :
    ∃ value, pointer = some value ∧ outp = true := by
  obtain ⟨held, isGiven⟩ := Bool.and_eq_true_iff.mp given
  obtain ⟨value, rfl⟩ := Option.isSome_iff_exists.mp held
  exact ⟨value, rfl, isGiven⟩

theorem given_string {α β : Type} {pointer : Option α} {string : Option β}
    (given : (pointer.isSome && string.isSome) = true) :
    ∃ value text, pointer = some value ∧ string = some text := by
  obtain ⟨value, rfl, held⟩ := given_both given
  obtain ⟨text, rfl⟩ := Option.isSome_iff_exists.mp held
  exact ⟨value, text, rfl, rfl⟩

theorem given_all {α β : Type} {pointer : Option α} {string : Option β} {outp : Bool}
    (given : (pointer.isSome && string.isSome && outp) = true) :
    ∃ value text, pointer = some value ∧ string = some text ∧ outp = true := by
  obtain ⟨both, isGiven⟩ := Bool.and_eq_true_iff.mp given
  obtain ⟨value, text, rfl, rfl⟩ := given_string both
  exact ⟨value, text, rfl, rfl, isGiven⟩

theorem happened_of_release {qrmi : Nat} {token : CStr} (empty : before.outputs = [])
    (kept : (CCall.resourceRelease (some qrmi) (some token)).dropsText = false)
    (executes : (qrmiResourceRelease (some qrmi) (some token)).Executes before trace
      (.ok (.code .success)) after) :
    (CCall.resourceRelease (some qrmi) (some token)).Happened trace after.outputs := by
  cases decoded : token.toStr with
  | none => simp [CCall.dropsText, decoded] at kept
  | some text =>
      simp only [qrmiResourceRelease, decoded] at executes
      refine happened_of_invoke empty (.release qrmi decoded) (fun answer => ?_) executes
      cases answer with
      | ok value => exact stores_return
      | error error => exact stores_fail error

theorem happened_of_taskStart {qrmi : Nat} {payload : CPayload}
    (empty : before.outputs = [])
    (kept : (CCall.resourceTaskStart (some qrmi) (some payload) true).dropsText = false)
    (executes : (qrmiResourceTaskStart (some qrmi) (some payload) true).Executes before
      trace (.ok (.code .success)) after) :
    (CCall.resourceTaskStart (some qrmi) (some payload) true).Happened trace
      after.outputs := by
  simp only [qrmiResourceTaskStart, Bool.not_true, Bool.false_eq_true, if_false] at executes
  cases converted : payloadFromC payload with
  | none =>
      simp only [converted] at executes
      obtain ⟨-, stored, impossible, -⟩ := stores_fail _ executes
      cases impossible
  | some request =>
      simp only [converted] at executes
      have decodes := decodes_of_payloadFromC converted kept
      exact happened_of_invoke empty (.taskStart qrmi decodes)
        (stores_orFail stores_succeedWithText) executes

/-- A successful call that drops no text happened. -/
theorem happened_of_kept (given : call.isGiven = true) (kept : call.dropsText = false)
    (empty : before.outputs = [])
    (executes : call.perform.Executes before trace (.ok (.code .success)) after) :
    call.Happened trace after.outputs := by
  cases call with
  | resourceId qrmi outp =>
      obtain ⟨qrmi, rfl, rfl⟩ := given_both given
      exact happened_of_invoke empty (.resourceId qrmi)
        (stores_orFail stores_succeedWithText) executes
  | resourceType qrmi outp =>
      obtain ⟨qrmi, rfl, rfl⟩ := given_both given
      exact happened_of_invoke empty (.resourceType qrmi)
        (stores_orFail fun _ => stores_succeedWith _) executes
  | resourceIsAccessible qrmi outp =>
      obtain ⟨qrmi, rfl, rfl⟩ := given_both given
      exact happened_of_invoke empty (.isAccessible qrmi)
        (stores_orFail fun _ => stores_succeedWith _) executes
  | resourceStatus qrmi outp =>
      obtain ⟨qrmi, rfl, rfl⟩ := given_both given
      exact happened_of_invoke empty (.status qrmi)
        (stores_orFail fun _ => stores_succeedWith _) executes
  | resourceAcquire qrmi outp =>
      obtain ⟨qrmi, rfl, rfl⟩ := given_both given
      exact happened_of_invoke empty (.acquire qrmi)
        (stores_orFail stores_succeedWithText) executes
  | resourceMetadata qrmi outp =>
      obtain ⟨qrmi, rfl, rfl⟩ := given_both given
      exact happened_of_invoke empty (.metadata qrmi) (fun _ => stores_succeedWith _)
        executes
  | resourceRelease qrmi token =>
      obtain ⟨qrmi, token, rfl, rfl⟩ := given_string given
      exact happened_of_release empty kept executes
  | resourceTaskStart qrmi payload taskId =>
      obtain ⟨qrmi, payload, rfl, rfl, rfl⟩ := given_all given
      exact happened_of_taskStart empty kept executes
  | resourceTaskStop qrmi taskId =>
      obtain ⟨qrmi, taskId, rfl, rfl⟩ := given_string given
      exact happened_of_callTaskMethod empty (.taskStop qrmi)
        (fun _ => stores_orFail fun _ => stores_return) executes
  | resourceTaskStatus qrmi taskId status =>
      obtain ⟨qrmi, taskId, rfl, rfl, rfl⟩ := given_all given
      exact happened_of_callTaskMethod empty (.taskStatus qrmi)
        (fun _ => stores_orFail fun _ => stores_succeedWith _) executes
  | resourceTaskResult qrmi taskId outp =>
      obtain ⟨qrmi, taskId, rfl, rfl, rfl⟩ := given_all given
      exact happened_of_callTaskMethod empty (.taskResult qrmi)
        (fun _ => stores_orFail stores_succeedWithText) executes
  | resourceTaskLogs qrmi taskId outp =>
      obtain ⟨qrmi, taskId, rfl, rfl, rfl⟩ := given_all given
      exact happened_of_callTaskMethod empty (.taskLogs qrmi)
        (fun _ => stores_orFail stores_succeedWithText) executes
  | resourceTarget qrmi =>
      obtain ⟨qrmi, rfl⟩ := Option.isSome_iff_exists.mp given
      exact happened_of_invoke empty (.target qrmi)
        (stores_orFail stores_succeedWithText) executes
  | _ => cases given

theorem exists_unhappened_tag {qrmi : Nat} {iqmjson jobType tag : CStr}
    {useTimeslot : Int} {jsonText typeText : Text} (first : iqmjson.toStr = some jsonText)
    (second : jobType.toStr = some typeText) (missing : tag.toStr = none) :
    let call : CCall := .resourceTaskStart (some qrmi)
      (some (.iqmServer iqmjson jobType useTimeslot (some tag))) true
    ∃ trace after, call.perform.Executes .initial trace (.ok (.code .success)) after ∧
      ¬ call.Happened trace after.outputs := by
  let payload : CPayload := .iqmServer iqmjson jobType useTimeslot (some tag)
  let request : Payload := .iqmServer jsonText typeText (some (useTimeslot = 1)) none
  have converted : payloadFromC payload = some request := by
    simp only [payloadFromC, first, second, Option.bind_some, missing, payload, request]
  refine ⟨[⟨.resource qrmi (.taskStart request), .ok ['1']⟩],
    CThread.initial.store (.text ['1']), ?_, ?_⟩
  · change (qrmiResourceTaskStart (some qrmi) (some payload) true).Executes ..
    simp only [qrmiResourceTaskStart, converted]
    exact .ask (.done _)
  · rintro ⟨_, _, _, asks, -, -⟩
    cases asks with
    | taskStart _ decodes =>
        cases decodes with
        | iqmServer _ _ third =>
            obtain ⟨text, decoded, -⟩ := third
            rw [missing] at decoded
            cases decoded

/-- A dropped text can be followed by a success without the operation. -/
theorem exists_unhappened (given : call.isGiven = true) (drops : call.dropsText = true) :
    ∃ trace after, call.perform.Executes .initial trace (.ok (.code .success)) after ∧
      ¬ call.Happened trace after.outputs := by
  cases call with
  | resourceRelease qrmi token =>
      obtain ⟨qrmi, token, rfl, rfl⟩ := given_string given
      have undecoded : token.toStr = none := Option.isNone_iff_eq_none.mp drops
      refine ⟨[], .initial, ?_, ?_⟩
      · change (qrmiResourceRelease (some qrmi) (some token)).Executes ..
        simp only [qrmiResourceRelease, undecoded]
        exact .done _
      · rintro ⟨_, _, _, -, impossible, -⟩
        cases impossible
  | resourceTaskStart qrmi payload taskId =>
      obtain ⟨qrmi, payload, rfl, rfl, rfl⟩ := given_all given
      cases payload with
      | iqmServer iqmjson jobType useTimeslot tag =>
          cases tag with
          | none => cases drops
          | some tag =>
              obtain ⟨valid, undecoded⟩ := Bool.and_eq_true_iff.mp drops
              obtain ⟨json, type⟩ := Bool.and_eq_true_iff.mp valid
              obtain ⟨jsonText, first⟩ := Option.isSome_iff_exists.mp json
              obtain ⟨typeText, second⟩ := Option.isSome_iff_exists.mp type
              exact exists_unhappened_tag first second (Option.isNone_iff_eq_none.mp undecoded)
      | _ => cases drops
  | _ => cases drops

end Calls

/-- A success of a call means that its operation happened, in every execution,
exactly when the call drops no text. -/
theorem happened_iff {call : CCall} (given : call.isGiven = true) :
    (∀ before trace after, before.outputs = [] →
      call.perform.Executes before trace (.ok (.code .success)) after →
        call.Happened trace after.outputs) ↔ call.dropsText = false := by
  constructor
  · intro happens
    by_contra drops
    obtain ⟨trace, after, executes, unhappened⟩ :=
      exists_unhappened given (Bool.not_eq_false _ ▸ drops)
    exact unhappened (happens _ _ _ rfl executes)
  · intro kept before trace after empty executes
    exact happened_of_kept given kept empty executes

namespace UndecodedToken

def token : CStr where
  bytes := [0xFF]
  noNul := by decide

theorem toStr_token : token.toStr = none := by
  decide +kernel

def call : CCall :=
  .resourceRelease (some 0) (some token)

theorem executes :
    call.perform.Executes .initial [] (.ok (.code .success)) .initial := by
  change (CFunction.qrmiResourceRelease (some 0) (some token)).Executes ..
  simp only [CFunction.qrmiResourceRelease, toStr_token]
  exact .done _

end UndecodedToken

theorem happened_iff_token :
    (∀ before trace after, before.outputs = [] →
      UndecodedToken.call.perform.Executes before trace (.ok (.code .success)) after →
        UndecodedToken.call.Happened trace after.outputs) ↔
      UndecodedToken.call.dropsText = false :=
  happened_iff rfl

/-- A release with a token that is not UTF-8 succeeds without a call. -/
theorem exists_success_without_release :
    ∃ (call : CCall) (trace : _) (after : CThread), call.isGiven = true ∧
      call.perform.Executes .initial trace (.ok (.code .success)) after ∧
        ¬ call.Happened trace after.outputs := by
  refine ⟨UndecodedToken.call, [], .initial, rfl, UndecodedToken.executes, ?_⟩
  rintro ⟨_, _, _, -, impossible, -⟩
  cases impossible
