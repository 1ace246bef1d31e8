import Qrmi.CSuccess
import Qrmi.ConfigBoundary
import Qrmi.InteractionHeap

/-!
# The memory behind the C interface

What a function of the C interface hands out is a block that the caller gives back with
the function of its kind, and what a function is called with must be live.  The
functions themselves are those of the interface; here they are called with pointers.
-/

open Interaction

/-- The deallocators: that of the C library, and one for each kind of object. -/
inductive CBlock
  | malloc
  | string
  | strings
  | config
  | resourceDef
  | resource
  | status
  | capacity
  | metadata
  deriving DecidableEq

/-- A pointer to an object.  Objects do not change and stand beside their address. -/
structure Owned (α : Type) where
  address : Nat
  value : α

/-- The block of a pointer. -/
def Owned.block {α : Type} (pointer : Owned α) (kind : CBlock) : Block CBlock :=
  ⟨pointer.address, kind⟩

/-- The blocks behind a pointer that may be null. -/
def blocksOf {α : Type} (kind : CBlock) (pointer : Option (Owned α)) :
    Multiset (Block CBlock) :=
  pointer.elim 0 fun pointer => {pointer.block kind}

@[simp]
theorem blocksOf_none {α : Type} (kind : CBlock) :
    blocksOf kind (none : Option (Owned α)) = 0 :=
  rfl

@[simp]
theorem blocksOf_some {α : Type} (kind : CBlock) (pointer : Owned α) :
    blocksOf kind (some pointer) = {pointer.block kind} :=
  rfl

/-- The array of strings that `qrmi_resource_metadata_keys` hands out.  An empty array
has no block: its pointer dangles, and it is not null. -/
inductive CStringArray
  | dangling
  | array (pointer : Owned (List (Owned CStr)))

namespace CStringArray

def strings : CStringArray → List (Owned CStr)
  | dangling => []
  | array pointer => pointer.value

/-- The blocks of an array and of its strings. -/
def blocks : CStringArray → Multiset (Block CBlock)
  | dangling => 0
  | array pointer =>
      {pointer.block .strings} + (pointer.value.map fun string => string.block .string : List _)

end CStringArray

/-- A function of the C interface that is called with pointers. -/
abbrev CMemory (Error α : Type) : Type :=
  Method Invocation Invocation.Answer (Stored CBlock CThread) (Halt Error) α

/-- The code that a function returned. -/
def Returned.toCode : Returned → ReturnCode
  | .code value => value
  | _ => .error

namespace CMemory

variable {Error α β : Type}

/-- Call a function whose out-pointers lead to fresh variables. -/
def callOnThread (function : CFunction Returned) :
    Method Invocation Invocation.Answer CThread (Halt Error) (Returned × List Output) := do
  Method.modify fun thread => { thread with outputs := [] }
  let outcome ← Method.attempt function
  let thread ← Method.self
  match outcome with
  | .ok returned => return (returned, thread.outputs)
  | .error impossible => impossible.elim

def call (function : CFunction Returned) : CMemory Error (Returned × List Output) :=
  Method.onRest (callOnThread function)

/-- `Box::into_raw`. -/
def intoRaw (kind : CBlock) (value : α) : CMemory Error (Owned α) := do
  let block ← Method.allocate kind
  return ⟨block.address, value⟩

/-- `CString::into_raw`, where the string exists. -/
def intoRawText (text : Text) : CMemory Error (Option (Owned CStr)) :=
  match cstringNew text with
  | .returned string => some <$> intoRaw .string string
  | .panicked => return none

def intoRawOption (kind : CBlock) : Option α → CMemory Error (Option (Owned α))
  | some value => some <$> intoRaw kind value
  | none => return none

/-- Call a function that stores one string. -/
def callForText (function : CFunction Returned) :
    CMemory Error (ReturnCode × Option (Owned CStr)) := do
  let answered ← call function
  match answered.2 with
  | [.text text] => do
      let string ← intoRawText text
      return (answered.1.toCode, string)
  | _ => return (answered.1.toCode, none)

/-- Call a function that stores one value without a block. -/
def callFor (read : Output → Option α) (function : CFunction Returned) :
    CMemory Error (ReturnCode × Option α) := do
  let answered ← call function
  match answered.2 with
  | [output] => return (answered.1.toCode, read output)
  | _ => return (answered.1.toCode, none)

/-- Call a function that stores one object with a block. -/
def callForObject (kind : CBlock) (read : Output → Option α)
    (function : CFunction Returned) : CMemory Error (ReturnCode × Option (Owned α)) := do
  let answered ← callFor read function
  let object ← intoRawOption kind answered.2
  return (answered.1, object)

/-- Drop what is behind a pointer that may be null. -/
def dropOption (kind : CBlock) : Option (Owned α) → CMemory Error Unit
  | some pointer => Method.giveBack (pointer.block kind)
  | none => return ()

/-- The functions that release an object differ in the kind of its block only. -/
def release (kind : CBlock) (pointer : Option (Owned α)) : CMemory Error ReturnCode := do
  let answered ← call (CFunction.free pointer.isSome)
  dropOption kind pointer
  return answered.1.toCode

/-! ## What is stored -/

def boolOf : Output → Option Bool
  | .bool value => some value
  | _ => none

def resourceTypeOf : Output → Option ResourceType
  | .resourceType value => some value
  | _ => none

def taskStatusOf : Output → Option TaskStatus
  | .taskStatus value => some value
  | _ => none

def statusOf : Output → Option CResourceStatus
  | .status value => some value
  | _ => none

def statusCodeOf : Output → Option ResourceStatusCode
  | .statusCode value => some value
  | _ => none

def countOf : Output → Option Nat
  | .count value => some value
  | _ => none

def capacityOf : Output → Option ResourceCapacity
  | .capacity value => some value
  | _ => none

def metadataOf : Output → Option (List (Text × Text))
  | .metadata value => some value
  | _ => none

/-! ## Strings and the last error -/

def qrmiStringFree (pointer : Option (Owned CStr)) : CMemory Error ReturnCode :=
  release .string pointer

/-- Give back the strings of an array in order. -/
def freeStrings : List (Owned CStr) → CMemory Error Unit
  | [] => return ()
  | string :: rest => do
      Method.giveBack (string.block .string)
      freeStrings rest

/-- The pointer of an empty array is not null, and there is no block at it. -/
def qrmiStringArrayFree : CStringArray → CMemory Error ReturnCode
  | .dangling => Method.throw .panic
  | .array pointer => do
      freeStrings pointer.value
      Method.giveBack (pointer.block .strings)
      return .success

def qrmiGetLastError : CMemory Error (Option (Owned CStr)) := do
  let answered ← call CFunction.qrmiGetLastError
  match answered.1 with
  | .text (some text) => intoRawText text
  | _ => return none

/-! ## Configurations -/

/-- The caller is the owner of the string. -/
def qrmiConfigResourceTypeToStr (resourceType : ResourceType) :
    CMemory Error (Option (Owned CStr)) := do
  let answered ← call (CFunction.qrmiConfigResourceTypeToStr resourceType)
  match answered.1 with
  | .text (some text) => intoRawText text
  | _ => return none

def qrmiConfigLoad (filename : CStr) : CMemory Error (Option (Owned Config)) := do
  let answered ← call (CFunction.qrmiConfigLoad (some filename))
  match answered.1 with
  | .handle (some (.config config)) => some <$> intoRaw .config config
  | _ => return none

def qrmiConfigFree (config : Owned Config) : CMemory Error ReturnCode :=
  release .config (some config)

def qrmiConfigResourceDefGet (config : Owned Config) (resourceId : CStr) :
    CMemory Error (Option (Owned ResourceDef)) := do
  Method.borrow (config.block .config)
  let answered ← call (CFunction.qrmiConfigResourceDefGet (some config.value) (some resourceId))
  match answered.1 with
  | .handle (some (.resourceDef resource)) => some <$> intoRaw .resourceDef resource
  | _ => return none

def qrmiConfigResourceDefFree (resource : Owned ResourceDef) : CMemory Error ReturnCode :=
  release .resourceDef (some resource)

/-! ## Resources -/

/-- The resource behind a returned handle. -/
def intoRawResource : Returned → CMemory Error (Option (Owned Nat))
  | .handle (some (.resource handle)) => some <$> intoRaw .resource handle
  | _ => return none

def qrmiResourceNew (resourceId : CStr) (resourceType : ResourceType) :
    CMemory Error (Option (Owned Nat)) := do
  let answered ← call (CFunction.qrmiResourceNew (some resourceId) resourceType)
  intoRawResource answered.1

def qrmiResourceNewFromConfig (resourceId : CStr) (resourceType : ResourceType)
    (config : EnvironmentVariables) : CMemory Error (Option (Owned Nat)) := do
  let answered ← call
    (CFunction.qrmiResourceNewFromConfig (some resourceId) resourceType (some config))
  intoRawResource answered.1

def qrmiResourceFree (qrmi : Owned Nat) : CMemory Error ReturnCode :=
  release .resource (some qrmi)

/-- Call a function with a resource. -/
def withResource (qrmi : Owned Nat) (function : CMemory Error β) : CMemory Error β := do
  Method.borrow (qrmi.block .resource)
  function

def qrmiResourceIsAccessible (qrmi : Owned Nat) :
    CMemory Error (ReturnCode × Option Bool) :=
  withResource qrmi (callFor boolOf
    (CFunction.qrmiResourceIsAccessible (some qrmi.value) true))

def qrmiResourceId (qrmi : Owned Nat) : CMemory Error (ReturnCode × Option (Owned CStr)) :=
  withResource qrmi (callForText (CFunction.qrmiResourceId (some qrmi.value) true))

def qrmiResourceType (qrmi : Owned Nat) :
    CMemory Error (ReturnCode × Option ResourceType) :=
  withResource qrmi (callFor resourceTypeOf
    (CFunction.qrmiResourceType (some qrmi.value) true))

def qrmiResourceAcquire (qrmi : Owned Nat) :
    CMemory Error (ReturnCode × Option (Owned CStr)) :=
  withResource qrmi (callForText (CFunction.qrmiResourceAcquire (some qrmi.value) true))

def qrmiResourceRelease (qrmi : Owned Nat) (token : CStr) : CMemory Error ReturnCode :=
  withResource qrmi do
    let answered ← call (CFunction.qrmiResourceRelease (some qrmi.value) (some token))
    return answered.1.toCode

def qrmiResourceTaskStart (qrmi : Owned Nat) (payload : CPayload) :
    CMemory Error (ReturnCode × Option (Owned CStr)) :=
  withResource qrmi
    (callForText (CFunction.qrmiResourceTaskStart (some qrmi.value) (some payload) true))

def qrmiResourceTaskStop (qrmi : Owned Nat) (taskId : CStr) : CMemory Error ReturnCode :=
  withResource qrmi do
    let answered ← call (CFunction.qrmiResourceTaskStop (some qrmi.value) (some taskId))
    return answered.1.toCode

def qrmiResourceTaskStatus (qrmi : Owned Nat) (taskId : CStr) :
    CMemory Error (ReturnCode × Option TaskStatus) :=
  withResource qrmi (callFor taskStatusOf
    (CFunction.qrmiResourceTaskStatus (some qrmi.value) (some taskId) true))

def qrmiResourceTaskResult (qrmi : Owned Nat) (taskId : CStr) :
    CMemory Error (ReturnCode × Option (Owned CStr)) :=
  withResource qrmi
    (callForText (CFunction.qrmiResourceTaskResult (some qrmi.value) (some taskId) true))

def qrmiResourceTaskLogs (qrmi : Owned Nat) (taskId : CStr) :
    CMemory Error (ReturnCode × Option (Owned CStr)) :=
  withResource qrmi
    (callForText (CFunction.qrmiResourceTaskLogs (some qrmi.value) (some taskId) true))

def qrmiResourceTarget (qrmi : Owned Nat) :
    CMemory Error (ReturnCode × Option (Owned CStr)) :=
  withResource qrmi (callForText (CFunction.qrmiResourceTarget (some qrmi.value)))

/-! ## Statuses -/

def qrmiResourceStatus (qrmi : Owned Nat) :
    CMemory Error (ReturnCode × Option (Owned CResourceStatus)) :=
  withResource qrmi (callForObject .status statusOf
    (CFunction.qrmiResourceStatus (some qrmi.value) true))

def qrmiResourceStatusFree (status : Option (Owned CResourceStatus)) :
    CMemory Error ReturnCode :=
  release .status status

/-- Follow a pointer that may be null. -/
def borrowOption (kind : CBlock) : Option (Owned α) → CMemory Error Unit
  | some pointer => Method.borrow (pointer.block kind)
  | none => return ()

/-- Call a function with a status. -/
def withStatus (status : Option (Owned CResourceStatus))
    (function : Option CResourceStatus → CMemory Error β) : CMemory Error β := do
  borrowOption .status status
  function (status.map Owned.value)

def qrmiResourceStatusCode (status : Option (Owned CResourceStatus)) :
    CMemory Error (ReturnCode × Option ResourceStatusCode) :=
  withStatus status fun status => callFor statusCodeOf
    (CFunction.qrmiResourceStatusCode status true)

/-- The strings are static. -/
def qrmiResourceStatusCodeToString (code : ResourceStatusCode) :
    CMemory Error (Option Text) := do
  let answered ← call (CFunction.qrmiResourceStatusCodeToString code)
  match answered.1 with
  | .text text => return text
  | _ => return none

def qrmiResourceStatusReason (status : Option (Owned CResourceStatus)) :
    CMemory Error (Option (Owned CStr)) :=
  withStatus status fun status => do
    let answered ← call (CFunction.qrmiResourceStatusReason status)
    match answered.1 with
    | .text (some text) => intoRawText text
    | _ => return none

def qrmiResourceStatusBusy (status : Option (Owned CResourceStatus)) :
    CMemory Error (ReturnCode × Option Bool) :=
  withStatus status fun status => callFor boolOf (CFunction.qrmiResourceStatusBusy status true)

def qrmiResourceStatusHealthy (status : Option (Owned CResourceStatus)) :
    CMemory Error (ReturnCode × Option Bool) :=
  withStatus status fun status =>
    callFor boolOf (CFunction.qrmiResourceStatusHealthy status true)

def qrmiResourceStatusPendingJobCount (status : Option (Owned CResourceStatus)) :
    CMemory Error (ReturnCode × Option Nat) :=
  withStatus status fun status => callFor countOf
    (CFunction.qrmiResourceStatusPendingJobCount status true)

def qrmiResourceStatusCapacity (status : Option (Owned CResourceStatus)) :
    CMemory Error (ReturnCode × Option (Owned ResourceCapacity)) :=
  withStatus status fun status => callForObject .capacity capacityOf
    (CFunction.qrmiResourceStatusCapacity status true)

def qrmiResourceCapacityFree (capacity : Owned ResourceCapacity) :
    CMemory Error ReturnCode :=
  release .capacity (some capacity)

/-! ## Metadata -/

def qrmiResourceMetadata (qrmi : Owned Nat) :
    CMemory Error (ReturnCode × Option (Owned (List (Text × Text)))) :=
  withResource qrmi (callForObject .metadata metadataOf
    (CFunction.qrmiResourceMetadata (some qrmi.value) true))

def qrmiResourceMetadataFree (metadata : Option (Owned (List (Text × Text)))) :
    CMemory Error ReturnCode :=
  release .metadata metadata

/-- `str_c.into_raw()` for each key. -/
def intoRawTexts : List Text → CMemory Error (List (Owned CStr))
  | [] => return []
  | text :: rest => do
      let string ← intoRawText text
      let strings ← intoRawTexts rest
      return string.toList ++ strings

/-- The keys of a map as an array: `Vec::into_boxed_slice` allocates nothing for an empty
one. -/
def intoRawArray : List Text → CMemory Error CStringArray
  | [] => return .dangling
  | text :: rest => do
      let strings ← intoRawTexts (text :: rest)
      .array <$> intoRaw .strings strings

def qrmiResourceMetadataKeys (metadata : Option (Owned (List (Text × Text)))) :
    CMemory Error (ReturnCode × Option CStringArray) := do
  borrowOption .metadata metadata
  let answered ← call (CFunction.qrmiResourceMetadataKeys (metadata.map Owned.value))
  match answered.2 with
  | [.count _, .texts keys] => do
      let array ← intoRawArray keys
      return (answered.1.toCode, some array)
  | _ => return (answered.1.toCode, none)

def qrmiResourceMetadataValue (metadata : Option (Owned (List (Text × Text))))
    (key : Owned CStr) : CMemory Error (Option (Owned CStr)) := do
  borrowOption .metadata metadata
  Method.borrow (key.block .string)
  let answered ← call
    (CFunction.qrmiResourceMetadataValue (metadata.map Owned.value) (some key.value))
  match answered.1 with
  | .text (some text) => intoRawText text
  | _ => return none

end CMemory

namespace CMemory

open Method

variable {Error α β : Type} {rely : Event Invocation.Answer → Prop}
variable {lent given : Multiset (Block CBlock)}

theorem executes_callOnThread {function : CFunction Returned} {before after : CThread}
    {trace : List (Event Invocation.Answer)}
    {result : Except (Halt Error) (Returned × List Output)}
    (executes : (callOnThread function).Executes before trace result after) :
    ∃ returned, result = .ok (returned, after.outputs) ∧
      function.Executes { before with outputs := [] } trace (.ok returned) after := by
  have attempted := executes_modify_bind_iff.mp executes
  rcases executes_bind_iff.mp attempted with
    ⟨_, -, failed⟩ | ⟨first, second, outcome, middle, rfl, ran, rest⟩
  · obtain ⟨_, equal, -⟩ := executes_attempt_iff.mp failed
    cases equal
  · obtain ⟨_, equal, ran⟩ := executes_attempt_iff.mp ran
    cases equal
    have finished := executes_self_bind_iff.mp rest
    cases outcome with
    | ok returned =>
        obtain ⟨rfl, rfl, rfl⟩ := executes_pure_iff.mp finished
        exact ⟨returned, rfl, by rwa [List.append_nil]⟩
    | error impossible => exact impossible.elim

theorem yields_call {function : CFunction Returned}
    {result : Returned × List Output → Prop}
    (spec : ∀ ⦃before trace returned after⦄, before.outputs = [] →
      function.Executes before trace (.ok returned) after →
      (∀ event ∈ trace, rely event) → result (returned, after.outputs)) :
    Yields rely lent given (call function : CMemory Error _)
      fun answered left => result answered ∧ left = given := by
  have called : Transfers rely (fun _ => ()) () lent given (call function : CMemory Error _)
      fun outcome _ left => (∃ answered, outcome = .ok answered ∧ result answered) ∧
        left = given := by
    refine transfers_onRest ?_
    intro before trace outcome after _ executes relies
    obtain ⟨returned, rfl, ran⟩ := executes_callOnThread executes
    exact ⟨.ok _, rfl, _, rfl, spec rfl ran relies⟩
  refine called.mono ?_
  rintro _ _ _ ⟨⟨answered, rfl, holds⟩, rfl⟩
  exact ⟨answered, rfl, holds, rfl⟩

/-- A call leaves what it was given. -/
theorem yields_call_any (function : CFunction Returned) :
    Yields rely lent given (call function : CMemory Error _) fun _ left => left = given := by
  have called : Yields rely lent given (call function : CMemory Error _)
      fun _ left => True ∧ left = given :=
    yields_call fun _ _ _ _ _ _ _ => trivial
  exact called.mono fun _ _ kept => kept.2

theorem yields_intoRaw (kind : CBlock) (value : α) :
    Yields rely lent given (intoRaw kind value : CMemory Error _)
      fun pointer left => pointer.value = value ∧ left = {pointer.block kind} + given := by
  refine (yields_allocate kind).bind ?_
  rintro block _ ⟨rfl, rfl⟩
  exact yields_pure ⟨rfl, rfl⟩

theorem yields_intoRawText (text : Text) :
    Yields rely lent given (intoRawText text : CMemory Error _) fun pointer left =>
      left = blocksOf .string pointer + given ∧
        ∀ string, cstringNew text = .returned string →
          pointer.map Owned.value = some string := by
  unfold intoRawText
  cases converted : cstringNew text with
  | returned string =>
      refine Yields.map ((yields_intoRaw .string string).mono ?_)
      rintro pointer _ ⟨equal, rfl⟩
      exact ⟨rfl, fun other same => by cases same; exact congrArg some equal⟩
  | panicked =>
      refine yields_pure ⟨(zero_add given).symm, ?_⟩
      rintro _ ⟨⟩

/-- A success with one output, or a failure without outputs. -/
def Answers (valid : Output → Prop) (answered : Returned × List Output) : Prop :=
  (answered.1 = .code .success ∧ ∃ output, answered.2 = [output] ∧ valid output) ∨
    ∃ code, answered.1 = .code code ∧ code ≠ .success ∧ answered.2 = []

/-- A function that stores one output if it succeeds, and nothing otherwise. -/
def HandsOut (rely : Event Invocation.Answer → Prop) (valid : Output → Prop)
    (function : CFunction Returned) : Prop :=
  ∀ ⦃before trace returned after⦄, before.outputs = [] →
    function.Executes before trace (.ok returned) after → (∀ event ∈ trace, rely event) →
      Answers valid (returned, after.outputs)

section HandsOut

open CFunction

variable {valid : Output → Prop}

theorem executes_succeedWith_iff {output : Output} {before after : CThread}
    {trace : List (Event Invocation.Answer)} {result : Except Empty Returned} :
    (succeedWith output).Executes before trace result after ↔
      trace = [] ∧ result = .ok (.code .success) ∧ after = before.store output :=
  executes_modify_bind_iff.trans executes_pure_iff

theorem handsOut_succeedWith {output : Output} (holds : valid output) :
    HandsOut rely valid (succeedWith output) := by
  intro before trace returned after empty executes _
  obtain ⟨-, equal, rfl⟩ := executes_succeedWith_iff.mp executes
  cases equal
  refine .inl ⟨rfl, output, ?_, holds⟩
  change before.outputs ++ [output] = [output]
  rw [empty, List.nil_append]

theorem handsOut_refuse {code : ReturnCode} (fails : code ≠ .success) :
    HandsOut rely valid (pure (.code code)) := by
  intro before trace returned after empty executes _
  obtain ⟨-, equal, rfl⟩ := executes_pure_iff.mp executes
  cases equal
  exact .inr ⟨code, rfl, fails, empty⟩

theorem handsOut_fail (error : QrmiError) : HandsOut rely valid (fail error) := by
  intro before trace returned after empty executes _
  have recorded : fail error before = .done (.ok (.code (.ofKind error.kind)),
      (before.setLastErrorKind error.kind).setLastError error.display) := rfl
  rw [Method.Executes, recorded] at executes
  obtain ⟨-, equal⟩ := Program.runs_done_iff.mp executes
  obtain ⟨equal, rfl⟩ := Prod.mk.inj equal
  cases equal
  exact .inr ⟨_, rfl, ReturnCode.ofKind_ne_success _, empty⟩

/-- A string is handed out only where it can be a C string. -/
def IsText (output : Output) : Prop :=
  ∃ text, output = .text text ∧ '\x00' ∉ text

theorem handsOut_succeedWithText (text : Text) :
    HandsOut rely IsText (succeedWithText text) := by
  unfold succeedWithText
  split
  · rename_i member
    exact handsOut_refuse nofun
  · rename_i noNul
    exact handsOut_succeedWith ⟨text, rfl, noNul⟩

theorem handsOut_invoke {invocation : Invocation}
    {next : invocation.Answer → CFunction Returned}
    (handsOut : ∀ answer, rely ⟨invocation, answer⟩ → HandsOut rely valid (next answer)) :
    HandsOut rely valid (invoke invocation >>= next) := by
  intro before trace returned after empty executes relies
  obtain ⟨answer, rest, rfl, continued⟩ := executes_question_bind_iff.mp executes
  exact handsOut answer (relies _ (List.mem_cons_self ..)) empty continued fun event member =>
    relies event (List.mem_cons_of_mem _ member)

theorem handsOut_orFail {succeed : α → CFunction Returned}
    (handsOut : ∀ value, HandsOut rely valid (succeed value)) (answer : Except QrmiError α) :
    HandsOut rely valid (orFail succeed answer) := by
  cases answer with
  | ok value => exact handsOut value
  | error error => exact handsOut_fail error

/-- The functions that answer with a text. -/
theorem handsOut_text {invocation : Invocation}
    {next : invocation.Answer → Except QrmiError Text} :
    HandsOut rely IsText
      (invoke invocation >>= fun answer => orFail succeedWithText (next answer)) :=
  handsOut_invoke fun answer _ => handsOut_orFail handsOut_succeedWithText (next answer)

theorem handsOut_callTaskMethod {qrmi : Nat} {taskId : CStr} {method : Text → ResourceMethod}
    {conclude : ∀ id, (method id).Answer → CFunction Returned}
    (handsOut : ∀ id answer, HandsOut rely valid (conclude id answer)) :
    HandsOut rely valid (callTaskMethod (some qrmi) (some taskId) true method conclude) := by
  unfold callTaskMethod
  cases decoded : taskId.toStr with
  | none =>
      simp only [decoded]
      exact handsOut_refuse nofun
  | some id =>
      simp only [decoded]
      exact handsOut_invoke fun answer _ => handsOut id answer

end HandsOut

/-- What a call leaves that hands out an object. -/
def HandedOut (kind : CBlock) (given : Multiset (Block CBlock)) (valid : α → Prop)
    (answer : ReturnCode × Option (Owned α)) (left : Multiset (Block CBlock)) : Prop :=
  left = blocksOf kind answer.2 + given ∧
    (answer.1 = .success ∧ (∃ pointer, answer.2 = some pointer ∧ valid pointer.value) ∨
      answer.1 ≠ .success ∧ answer.2 = none)

theorem yields_callForText {function : CFunction Returned}
    (handsOut : HandsOut rely IsText function) :
    Yields rely lent given (callForText function : CMemory Error _)
      (HandedOut .string given fun _ => True) := by
  refine (yields_call handsOut).bind ?_
  rintro ⟨returned, outputs⟩ _ ⟨⟨rfl, _, rfl, text, rfl, noNul⟩ | ⟨code, rfl, fails, rfl⟩, rfl⟩
  · dsimp only
    obtain ⟨string, converted⟩ := exists_cstringNew_iff.mpr noNul
    refine (yields_intoRawText text).bind ?_
    rintro pointer _ ⟨rfl, copied⟩
    obtain ⟨owned, rfl, -⟩ := Option.map_eq_some_iff.mp (copied string converted)
    exact yields_pure ⟨rfl, .inl ⟨rfl, owned, rfl, trivial⟩⟩
  · exact yields_pure ⟨(zero_add _).symm, .inr ⟨fails, rfl⟩⟩

theorem yields_callFor (read : Output → Option α) (function : CFunction Returned) :
    Yields rely lent given (callFor read function : CMemory Error _)
      fun _ left => left = given := by
  refine (yields_call_any function).bind ?_
  rintro ⟨returned, outputs⟩ _ rfl
  split
  · exact yields_pure rfl
  · exact yields_pure rfl

theorem yields_intoRawOption (kind : CBlock) (value : Option α) :
    Yields rely lent given (intoRawOption kind value : CMemory Error _)
      fun pointer left => left = blocksOf kind pointer + given ∧
        pointer.map Owned.value = value := by
  cases value with
  | none => exact yields_pure ⟨(zero_add given).symm, rfl⟩
  | some value =>
      refine Yields.map ((yields_intoRaw kind value).mono ?_)
      rintro pointer _ ⟨rfl, rfl⟩
      exact ⟨rfl, rfl⟩

/-- A function that hands out a value without a block. -/
theorem yields_callFor_of_handsOut {read : Output → Option α} {valid : α → Prop}
    {function : CFunction Returned}
    (handsOut : HandsOut rely (fun output => ∃ value, read output = some value ∧ valid value)
      function) :
    Yields rely lent given (callFor read function : CMemory Error _) fun answer left =>
      left = given ∧ (answer.1 = .success ∧ (∃ value, answer.2 = some value ∧ valid value) ∨
        answer.1 ≠ .success ∧ answer.2 = none) := by
  refine (yields_call handsOut).bind ?_
  rintro ⟨returned, outputs⟩ _
    ⟨⟨rfl, _, rfl, value, isRead, holds⟩ | ⟨code, rfl, fails, rfl⟩, rfl⟩
  · exact yields_pure ⟨rfl, .inl ⟨rfl, value, isRead, holds⟩⟩
  · exact yields_pure ⟨rfl, .inr ⟨fails, rfl⟩⟩

/-- A function that hands out an object. -/
theorem yields_callForObject {kind : CBlock} {read : Output → Option α}
    {valid : α → Prop} {function : CFunction Returned}
    (handsOut : HandsOut rely (fun output => ∃ value, read output = some value ∧ valid value)
      function) :
    Yields rely lent given (callForObject kind read function : CMemory Error _)
      (HandedOut kind given valid) := by
  refine (yields_callFor_of_handsOut handsOut).bind ?_
  rintro ⟨code, value⟩ _ ⟨rfl, answered⟩
  refine (yields_intoRawOption kind value).bind ?_
  rintro pointer _ ⟨rfl, rfl⟩
  refine yields_pure ⟨rfl, answered.imp (fun succeeded => ⟨succeeded.1, ?_⟩)
    fun failed => ⟨failed.1, Option.map_eq_none_iff.mp failed.2⟩⟩
  obtain ⟨value, equal, holds⟩ := succeeded.2
  obtain ⟨owned, rfl, rfl⟩ := Option.map_eq_some_iff.mp equal
  exact ⟨owned, rfl, holds⟩

/-- The name of a type is always handed out. -/
theorem yields_qrmiConfigResourceTypeToStr (resourceType : ResourceType) :
    Yields rely lent given (qrmiConfigResourceTypeToStr resourceType : CMemory Error _)
      fun pointer left => ∃ name, pointer = some name ∧
        name.value.bytes = Text.utf8 resourceType.asStr ∧
          left = {name.block .string} + given := by
  have named : Yields rely lent given
      (call (CFunction.qrmiConfigResourceTypeToStr resourceType) : CMemory Error _)
      fun answered left => answered.1 = .text (some resourceType.asStr) ∧ left = given := by
    refine yields_call ?_
    intro before trace returned after _ executes _
    obtain ⟨-, equal, -⟩ := executes_pure_iff.mp executes
    exact Except.ok.inj equal
  refine named.bind ?_
  rintro ⟨_, outputs⟩ _ ⟨rfl, rfl⟩
  have noNul : '\x00' ∉ resourceType.asStr := by cases resourceType <;> decide
  obtain ⟨string, converted⟩ := exists_cstringNew_iff.mpr noNul
  refine (yields_intoRawText resourceType.asStr).mono ?_
  rintro pointer _ ⟨rfl, copied⟩
  obtain ⟨name, rfl, rfl⟩ := Option.map_eq_some_iff.mp (copied string converted)
  have decoded := cstringNew_eq_returned_iff.mp converted
  exact ⟨name, rfl, (decodeUtf8_eq_some_iff.mp decoded).symm, rfl⟩

theorem yields_release {kind : CBlock} {pointer : Option (Owned α)} :
    Yields rely lent (blocksOf kind pointer + given) (release kind pointer : CMemory Error _)
      fun _ left => left = given := by
  refine (yields_call_any _).bind ?_
  rintro answered _ rfl
  cases pointer with
  | none => exact yields_pure (zero_add given)
  | some pointer =>
      refine Yields.bind yields_giveBack ?_
      rintro _ _ rfl
      exact yields_pure rfl

/-- A function that is called with a live resource. -/
theorem Yields.withResource {qrmi : Owned Nat} {function : CMemory Error β}
    {result : β → Multiset (Block CBlock) → Prop}
    (member : qrmi.block .resource ∈ given ∨ qrmi.block .resource ∈ lent)
    (yields : Yields rely lent given function result) :
    Yields rely lent given (withResource qrmi function) result := by
  refine (yields_borrow member).bind ?_
  rintro _ _ rfl
  exact yields

theorem yields_borrowOption {kind : CBlock} {pointer : Option (Owned α)}
    (member : ∀ block ∈ blocksOf kind pointer, block ∈ given ∨ block ∈ lent) :
    Yields rely lent given (borrowOption kind pointer : CMemory Error _)
      fun _ left => left = given := by
  cases pointer with
  | none => exact yields_pure rfl
  | some pointer => exact yields_borrow (member _ (Multiset.mem_singleton_self _))

/-- A function that is called with a live status, or with none. -/
theorem Yields.withStatus {status : Option (Owned CResourceStatus)}
    {function : Option CResourceStatus → CMemory Error β}
    {result : β → Multiset (Block CBlock) → Prop}
    (member : ∀ block ∈ blocksOf .status status, block ∈ given ∨ block ∈ lent)
    (yields : Yields rely lent given (function (status.map Owned.value)) result) :
    Yields rely lent given (withStatus status function) result := by
  refine (yields_borrowOption member).bind ?_
  rintro _ _ rfl
  exact yields

/-- A call that ends with a string or nothing. -/
theorem yields_returnedText (function : CFunction Returned) :
    Yields rely lent given (do
      let answered ← call function
      match answered.1 with
      | .text (some text) => intoRawText text
      | _ => return none : CMemory Error _)
      fun pointer left => left = blocksOf .string pointer + given := by
  refine (yields_call_any _).bind ?_
  rintro answered _ rfl
  split
  · exact (yields_intoRawText _).mono fun _ _ kept => kept.1
  · exact yields_pure (zero_add _).symm

/-! ### Arrays of strings -/

/-- The blocks of some strings. -/
def stringBlocks (strings : List (Owned CStr)) : Multiset (Block CBlock) :=
  (strings.map fun string => string.block .string : List _)

theorem stringBlocks_cons (string : Owned CStr) (strings : List (Owned CStr)) :
    stringBlocks (string :: strings) = {string.block .string} + stringBlocks strings :=
  rfl

theorem yields_intoRawTexts (texts : List Text) :
    Yields rely lent given (intoRawTexts texts : CMemory Error _)
      fun strings left => left = stringBlocks strings + given := by
  induction texts generalizing given with
  | nil => exact yields_pure (zero_add _).symm
  | cons text rest ih =>
      refine (yields_intoRawText text).bind ?_
      rintro string _ ⟨rfl, -⟩
      refine ih.bind ?_
      rintro strings _ rfl
      refine yields_pure ?_
      cases string with
      | none =>
          rw [blocksOf_none, zero_add]
          rfl
      | some string =>
          change _ = stringBlocks (string :: strings) + given
          rw [stringBlocks_cons, blocksOf_some, add_left_comm, add_assoc]

theorem yields_freeStrings (strings : List (Owned CStr)) :
    Yields rely lent (stringBlocks strings + given) (freeStrings strings : CMemory Error _)
      fun _ left => left = given := by
  induction strings with
  | nil => exact yields_pure (zero_add _)
  | cons string rest ih =>
      rw [stringBlocks_cons, add_assoc]
      refine Yields.bind yields_giveBack ?_
      rintro _ _ rfl
      exact ih

/-- An array that is not empty is given back with its strings. -/
theorem yields_qrmiStringArrayFree (pointer : Owned (List (Owned CStr))) :
    Yields rely lent ({pointer.block .strings} + stringBlocks pointer.value + given)
      (qrmiStringArrayFree (.array pointer) : CMemory Error _) fun _ left => left = given := by
  rw [add_right_comm, add_comm]
  refine (yields_freeStrings pointer.value).bind ?_
  rintro _ _ rfl
  refine Yields.bind yields_giveBack ?_
  rintro _ _ rfl
  exact yields_pure rfl

/-- An array of keys has a block where there are keys. -/
theorem yields_intoRawArray {texts : List Text} (nonempty : texts ≠ []) :
    Yields rely lent given (intoRawArray texts : CMemory Error _)
      fun array left => ∃ pointer, array = .array pointer ∧
        left = {pointer.block .strings} + stringBlocks pointer.value + given := by
  cases texts with
  | nil => exact absurd rfl nonempty
  | cons text rest =>
      refine (yields_intoRawTexts (text :: rest)).bind ?_
      rintro strings _ rfl
      refine Yields.map ((yields_intoRaw .strings strings).mono ?_)
      rintro pointer _ ⟨rfl, rfl⟩
      exact ⟨pointer, rfl, (add_assoc _ _ _).symm⟩

theorem yields_callMetadataKeys (metadata : List (Text × Text)) :
    Yields rely lent given
      (call (CFunction.qrmiResourceMetadataKeys (some metadata)) : CMemory Error _)
      fun answered left => (∃ count, answered.2 =
        [.count count, .texts (metadata.map Prod.fst)]) ∧ left = given := by
  refine yields_call ?_
  intro before trace returned after empty executes _
  simp only [CFunction.qrmiResourceMetadataKeys] at executes
  split at executes
  · obtain ⟨-, -, rfl⟩ := executes_succeedWith_iff.mp (executes_modify_bind_iff.mp executes)
    refine ⟨(metadata.map Prod.fst).length, ?_⟩
    change (before.outputs ++ _) ++ _ = _
    rw [empty]
    rfl
  · exact absurd executes Program.not_runs_pending

/-- The keys of metadata that is not empty. -/
theorem yields_qrmiResourceMetadataKeys {metadata : Owned (List (Text × Text))}
    (nonempty : metadata.value ≠ [])
    (member : metadata.block .metadata ∈ given ∨ metadata.block .metadata ∈ lent) :
    Yields rely lent given (qrmiResourceMetadataKeys (some metadata) : CMemory Error _)
      fun answer left => ∃ pointer, answer.2 = some (.array pointer) ∧
        left = {pointer.block .strings} + stringBlocks pointer.value + given := by
  refine (yields_borrow member).bind ?_
  rintro _ _ rfl
  refine (yields_callMetadataKeys metadata.value).bind ?_
  rintro ⟨returned, outputs⟩ _ ⟨⟨count, rfl⟩, rfl⟩
  have keysNonempty : metadata.value.map Prod.fst ≠ [] := by
    rwa [Ne, List.map_eq_nil_iff]
  refine (yields_intoRawArray keysNonempty).bind ?_
  rintro _ _ ⟨pointer, rfl, rfl⟩
  exact yields_pure ⟨pointer, rfl, rfl⟩

theorem yields_qrmiResourceMetadataValue {metadata : Owned (List (Text × Text))}
    {key : Owned CStr} (first : metadata.block .metadata ∈ lent)
    (second : key.block .string ∈ lent) :
    Yields rely lent given (qrmiResourceMetadataValue (some metadata) key : CMemory Error _)
      fun pointer left => left = blocksOf .string pointer + given := by
  refine (yields_borrow (.inr first)).bind ?_
  rintro _ _ rfl
  refine (yields_borrow (.inr second)).bind ?_
  rintro _ _ rfl
  exact yields_returnedText _

/-- A function that hands out a resource or nothing. -/
theorem yields_callForResource (function : CFunction Returned) :
    Yields rely lent given (do
      let answered ← call function
      intoRawResource answered.1 : CMemory Error _)
      fun pointer left => left = blocksOf .resource pointer + given := by
  refine (yields_call_any _).bind ?_
  rintro answered _ rfl
  unfold intoRawResource
  split
  · refine Yields.map ((yields_intoRaw _ _).mono ?_)
    rintro pointer _ ⟨-, rfl⟩
    rfl
  · exact yields_pure (zero_add _).symm

end CMemory
