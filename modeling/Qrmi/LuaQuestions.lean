import Qrmi.CLastError
import Qrmi.LuaBinding

/-!
# What the Lua binding asks for

A call from Lua asks the code behind the C interface for its own operation only.  The
exception is `acquire`, which releases the cached token first.  Only the functions that
are about tokens change what the objects hold.
-/

open Interaction

/-- The invocations that a function of Lua can make. -/
def LuaFunction.asks : LuaFunction → Invocation → Prop
  | new, .createResource .. => True
  | newFromConfig, .createResourceFromConfig .. => True
  | loadConfig, .loadConfig _ => True
  | isAccessible, .resource _ .isAccessible => True
  | status, .resource _ .status => True
  | id, .resource _ .resourceId => True
  | type, .resource _ .resourceType => True
  | acquire, .resource _ .acquire => True
  | acquire, .resource _ (.release _) => True
  | release, .resource _ (.release _) => True
  | taskStart, .resource _ (.taskStart _) => True
  | taskStatus, .resource _ (.taskStatus _) => True
  | taskResult, .resource _ (.taskResult _) => True
  | taskLogs, .resource _ (.taskLogs _) => True
  | taskStop, .resource _ (.taskStop _) => True
  | metadata, .resource _ .metadata => True
  | target, .resource _ .target => True
  | free, .resource _ (.release _) => True
  | gc, .resource _ (.release _) => True
  | _, _ => False

/-- The functions that do not change a token of an object. -/
def LuaFunction.keepsTokens : LuaFunction → Bool
  | acquire | release | detach | free | gc => false
  | _ => true

/-- The token that an object keeps, with the handle that it is for. -/
def UserData.heldTokens : UserData → Multiset (Nat × List UInt8)
  | resource ⟨some handle, some token⟩ => {(handle.value, token.value.bytes)}
  | _ => 0

/-- The tokens that the objects keep. -/
def heldTokens (objects : List UserData) : Multiset (Nat × List UInt8) :=
  (objects.map UserData.heldTokens).sum

theorem heldTokens_append (objects : List UserData) (object : UserData) :
    heldTokens (objects ++ [object]) = object.heldTokens + heldTokens objects := by
  simp [heldTokens, add_comm]

/-- The tokens of an object and of the others. -/
theorem heldTokens_split {objects : List UserData} {object : Nat} {payload : UserData}
    (found : objects[object]? = some payload) :
    ∃ others, heldTokens objects = payload.heldTokens + others ∧
      ∀ other, heldTokens (objects.set object other) = other.heldTokens + others := by
  induction objects generalizing object with
  | nil => cases found
  | cons first rest ih =>
      cases object with
      | zero =>
          obtain rfl := Option.some.inj found
          exact ⟨heldTokens rest, rfl, fun _ => rfl⟩
      | succ object =>
          obtain ⟨others, divided, changed⟩ := ih found
          refine ⟨first.heldTokens + others, ?_, fun other => ?_⟩
          · change first.heldTokens + heldTokens rest = _
            rw [divided, add_left_comm]
          · change first.heldTokens + heldTokens (rest.set object other) = _
            rw [changed, add_left_comm]

/-- An event whose question is of a kind. -/
def Asked (asks : Invocation → Prop) (event : Event Invocation.Answer) : Prop :=
  asks event.1

section Functions

open CFunction

variable {asks : Invocation → Prop}

theorem Concludes.emits {failure : Option CFailure} {function : CFunction Returned}
    (concludes : Concludes failure function) : function.Emits (Asked asks) :=
  Method.emits_silent fun _ _ _ _ executes => (concludes executes).1

theorem emits_invoke {invocation : Invocation}
    {next : invocation.Answer → CFunction Returned} (asked : asks invocation)
    (rest : ∀ answer, (next answer).Emits (Asked asks)) :
    (invoke invocation >>= next).Emits (Asked asks) := by
  have question : (invoke invocation).Emits (Asked asks) := by
    refine Method.emits_lift fun trace value runs event member => ?_
    rw [Program.runs_question_iff.mp runs, List.mem_singleton] at member
    rw [member]
    exact asked
  exact question.bind rest

theorem emits_abort : (abort : CFunction Returned).Emits (Asked asks) :=
  fun _ _ _ runs => absurd runs Program.not_runs_pending

theorem emits_orFailText (answer : Except QrmiError Text) :
    (orFail succeedWithText answer).Emits (Asked asks) :=
  (concludes_orFail concludes_succeedWithText answer).emits

theorem emits_orFailWith {α : Type} (output : α → Output) (answer : Except QrmiError α) :
    (orFail (fun value => succeedWith (output value)) answer).Emits (Asked asks) := by
  cases answer with
  | ok value => exact (concludes_succeedWith _).emits
  | error error => exact (concludes_fail error).emits

/-- A method that returns no value. -/
theorem emits_orFailUnit (answer : Except QrmiError Unit) :
    (orFail (fun _ => pure (.code .success)) answer).Emits (Asked asks) := by
  cases answer with
  | ok value => exact Method.emits_pure _
  | error error => exact (concludes_fail error).emits

theorem emits_callMethod {qrmi : Nat} {noOutp : ReturnCode} {method : ResourceMethod}
    {conclude : method.Answer → CFunction Returned} (asked : asks (.resource qrmi method))
    (rest : ∀ answer, (conclude answer).Emits (Asked asks)) :
    (callMethod (some qrmi) true noOutp method conclude).Emits (Asked asks) :=
  emits_invoke asked rest

theorem emits_callTaskMethod {qrmi : Nat} {taskId : CStr} {method : Text → ResourceMethod}
    {conclude : ∀ id, (method id).Answer → CFunction Returned}
    (asked : ∀ id, asks (.resource qrmi (method id)))
    (rest : ∀ id answer, (conclude id answer).Emits (Asked asks)) :
    (callTaskMethod (some qrmi) (some taskId) true method conclude).Emits (Asked asks) := by
  unfold callTaskMethod
  cases decoded : taskId.toStr with
  | none =>
      simp only [decoded]
      exact Method.emits_pure _
  | some id =>
      simp only [decoded]
      exact emits_invoke (asked id) (rest id)

theorem emits_readStatus {status : Option CResourceStatus}
    {read : CResourceStatus → CFunction Returned}
    {failure : CResourceStatus → Option CFailure}
    (concludes : ∀ status, Concludes (failure status) (read status)) :
    (readStatus status true read).Emits (Asked asks) := by
  cases status with
  | none => exact Method.emits_pure _
  | some status => exact (concludes status).emits

theorem emits_free (given : Bool) : (CFunction.free given).Emits (Asked asks) := by
  cases given <;> exact Method.emits_pure _

theorem emits_qrmiConfigLoad (filename : CStr) (asked : ∀ file, asks (.loadConfig file)) :
    (qrmiConfigLoad (some filename)).Emits (Asked asks) := by
  unfold qrmiConfigLoad
  dsimp only
  split
  · refine emits_invoke (asked _) fun answer => ?_
    split
    · exact Method.emits_pure _
    · exact (Method.emits_modify _).bind fun _ => Method.emits_pure _
  · exact Method.emits_pure _

theorem emits_qrmiConfigResourceDefGet (config : Config) (resourceId : CStr) :
    (qrmiConfigResourceDefGet (some config) (some resourceId)).Emits (Asked asks) := by
  unfold qrmiConfigResourceDefGet
  dsimp only
  split
  · exact Method.emits_pure _
  · split
    · exact Method.emits_pure _
    · split
      · exact Method.emits_pure _
      · exact emits_abort

theorem emits_qrmiResourceNew (resourceId : CStr) (resourceType : ResourceType)
    (asked : ∀ id, asks (.createResource resourceType id)) :
    (qrmiResourceNew (some resourceId) resourceType).Emits (Asked asks) := by
  unfold qrmiResourceNew
  dsimp only
  split
  · exact emits_invoke (asked _) fun answer => (concludes_orNull .resource answer).emits
  · exact Method.emits_pure _

theorem emits_qrmiResourceNewFromConfig (resourceId : CStr) (resourceType : ResourceType)
    (config : EnvironmentVariables)
    (asked : ∀ id map, asks (.createResourceFromConfig resourceType id map)) :
    (qrmiResourceNewFromConfig (some resourceId) resourceType (some config)).Emits
      (Asked asks) := by
  unfold qrmiResourceNewFromConfig
  dsimp only
  split
  · exact (Method.emits_modify _).bind fun _ => Method.emits_pure _
  · split
    · exact emits_invoke (asked _ _) fun answer => (concludes_orNull .resource answer).emits
    · exact Method.emits_pure _

theorem emits_qrmiResourceRelease (qrmi : Nat) (token : CStr)
    (asked : ∀ token, asks (.resource qrmi (.release token))) :
    (qrmiResourceRelease (some qrmi) (some token)).Emits (Asked asks) := by
  unfold qrmiResourceRelease
  dsimp only
  split
  · refine emits_invoke (asked _) fun answer => ?_
    split
    · exact Method.emits_pure _
    · exact (concludes_fail _).emits
  · exact Method.emits_pure _

theorem emits_qrmiResourceTaskStart (qrmi : Nat) (payload : CPayload)
    (asked : ∀ payload, asks (.resource qrmi (.taskStart payload))) :
    (qrmiResourceTaskStart (some qrmi) (some payload) true).Emits (Asked asks) := by
  unfold qrmiResourceTaskStart
  simp only [Bool.not_true, Bool.false_eq_true, if_false]
  split
  · exact (concludes_fail _).emits
  · exact emits_invoke (asked _) emits_orFailText

theorem emits_qrmiResourceStatusReason (status : Option CResourceStatus) :
    (qrmiResourceStatusReason status).Emits (Asked asks) := by
  unfold qrmiResourceStatusReason
  split
  · exact Method.emits_pure _
  · split
    · split <;> exact Method.emits_pure _
    · exact Method.emits_pure _

end Functions

namespace CMemory

open Method

variable {Error α β : Type} {asks : Invocation → Prop}

theorem emits_call {function : CFunction Returned} (emits : function.Emits (Asked asks)) :
    (call function : CMemory Error _).Emits (Asked asks) := by
  refine Emits.zoom ?_
  refine (emits_modify _).bind fun _ => (emits.attempt).bind fun outcome => ?_
  refine emits_self.bind fun thread => ?_
  cases outcome with
  | ok returned => exact emits_pure _
  | error impossible => exact impossible.elim

theorem emits_intoRaw (kind : CBlock) (value : α) :
    (intoRaw kind value : CMemory Error _).Emits (Asked asks) :=
  (emits_allocate kind).bind fun _ => emits_pure _

theorem emits_intoRawText (text : Text) :
    (intoRawText text : CMemory Error _).Emits (Asked asks) := by
  unfold intoRawText
  split
  · exact (emits_intoRaw _ _).bind fun _ => emits_pure _
  · exact emits_pure _

theorem emits_intoRawOption (kind : CBlock) (value : Option α) :
    (intoRawOption kind value : CMemory Error _).Emits (Asked asks) := by
  cases value with
  | none => exact emits_pure _
  | some value => exact (emits_intoRaw _ _).bind fun _ => emits_pure _

theorem emits_callForText {function : CFunction Returned}
    (emits : function.Emits (Asked asks)) :
    (callForText function : CMemory Error _).Emits (Asked asks) := by
  refine (emits_call emits).bind fun answered => ?_
  split
  · exact (emits_intoRawText _).bind fun _ => emits_pure _
  · exact emits_pure _

theorem emits_callFor {function : CFunction Returned} (read : Output → Option α)
    (emits : function.Emits (Asked asks)) :
    (callFor read function : CMemory Error _).Emits (Asked asks) := by
  refine (emits_call emits).bind fun answered => ?_
  split
  · exact emits_pure _
  · exact emits_pure _

theorem emits_callForObject {function : CFunction Returned} (kind : CBlock)
    (read : Output → Option α) (emits : function.Emits (Asked asks)) :
    (callForObject kind read function : CMemory Error _).Emits (Asked asks) :=
  (emits_callFor read emits).bind fun _ =>
    (emits_intoRawOption _ _).bind fun _ => emits_pure _

theorem emits_release (kind : CBlock) (pointer : Option (Owned α)) :
    (release kind pointer : CMemory Error _).Emits (Asked asks) := by
  refine (emits_call (emits_free _)).bind fun answered => ?_
  cases pointer with
  | none => exact (emits_pure _).bind fun _ => emits_pure _
  | some pointer => exact (emits_giveBack _).bind fun _ => emits_pure _

theorem emits_withResource {qrmi : Owned Nat} {function : CMemory Error β}
    (emits : function.Emits (Asked asks)) :
    (withResource qrmi function).Emits (Asked asks) :=
  (emits_borrow _).bind fun _ => emits

theorem emits_borrowOption (kind : CBlock) (pointer : Option (Owned α)) :
    (borrowOption kind pointer : CMemory Error _).Emits (Asked asks) := by
  cases pointer with
  | none => exact emits_pure _
  | some pointer => exact emits_borrow _

theorem emits_withStatus {status : Option (Owned CResourceStatus)}
    {function : Option CResourceStatus → CMemory Error β}
    (emits : ∀ status, (function status).Emits (Asked asks)) :
    (withStatus status function).Emits (Asked asks) :=
  (emits_borrowOption _ _).bind fun _ => emits _

/-- A call that ends with a string or nothing. -/
theorem emits_returnedText {function : CFunction Returned}
    (emits : function.Emits (Asked asks)) :
    (do
      let answered ← call function
      match answered.1 with
      | .text (some text) => intoRawText text
      | _ => return none : CMemory Error _).Emits (Asked asks) := by
  refine (emits_call emits).bind fun answered => ?_
  split
  · exact emits_intoRawText _
  · exact emits_pure _

theorem emits_qrmiGetLastError :
    (qrmiGetLastError : CMemory Error _).Emits (Asked asks) :=
  emits_returnedText (emits_self.bind fun _ => emits_pure _)

theorem emits_freeStrings (strings : List (Owned CStr)) :
    (freeStrings strings : CMemory Error _).Emits (Asked asks) := by
  induction strings with
  | nil => exact emits_pure _
  | cons string rest ih => exact (emits_giveBack _).bind fun _ => ih

theorem emits_qrmiStringArrayFree (array : CStringArray) :
    (qrmiStringArrayFree array : CMemory Error _).Emits (Asked asks) := by
  cases array with
  | dangling => exact emits_throw _
  | array pointer =>
      exact (emits_freeStrings _).bind fun _ => (emits_giveBack _).bind fun _ => emits_pure _

theorem emits_intoRawResource (returned : Returned) :
    (intoRawResource returned : CMemory Error _).Emits (Asked asks) := by
  unfold intoRawResource
  split
  · exact (emits_intoRaw _ _).bind fun _ => emits_pure _
  · exact emits_pure _

theorem emits_intoRawTexts (texts : List Text) :
    (intoRawTexts texts : CMemory Error _).Emits (Asked asks) := by
  induction texts with
  | nil => exact emits_pure _
  | cons text rest ih =>
      exact (emits_intoRawText _).bind fun _ => ih.bind fun _ => emits_pure _

theorem emits_qrmiResourceMetadataKeys (metadata : Option (Owned (List (Text × Text)))) :
    (qrmiResourceMetadataKeys metadata : CMemory Error _).Emits (Asked asks) := by
  have keys : (CFunction.qrmiResourceMetadataKeys (metadata.map Owned.value)).Emits
      (Asked asks) := by
    unfold CFunction.qrmiResourceMetadataKeys
    split
    · exact emits_pure _
    · dsimp only
      split
      · exact (emits_modify _).bind fun _ => (concludes_succeedWith _).emits
      · exact emits_abort
  refine (emits_borrowOption _ _).bind fun _ => (emits_call keys).bind fun answered => ?_
  split
  · rename_i texts _
    refine Emits.bind ?_ fun _ => emits_pure _
    cases texts with
    | nil => exact emits_pure _
    | cons text rest =>
        exact (emits_intoRawTexts _).bind fun _ => (emits_intoRaw _ _).bind fun _ => emits_pure _
  · exact emits_pure _

theorem emits_qrmiResourceMetadataValue (metadata : Option (Owned (List (Text × Text))))
    (key : Owned CStr) :
    (qrmiResourceMetadataValue metadata key : CMemory Error _).Emits (Asked asks) := by
  have value : (CFunction.qrmiResourceMetadataValue (metadata.map Owned.value)
      (some key.value)).Emits (Asked asks) := by
    unfold CFunction.qrmiResourceMetadataValue
    split
    · exact emits_pure _
    · dsimp only
      split
      · split <;> exact emits_pure _
      · exact emits_pure _
  exact (emits_borrowOption _ _).bind fun _ => (emits_borrow _).bind fun _ =>
    emits_returnedText value

end CMemory

namespace LuaBinding

open Method CMemory

variable {α : Type} {asks : Invocation → Prop} {keeps : Bool}

/-- A method asks for invocations of a kind, and it may keep the tokens as they are. -/
def Confined (asks : Invocation → Prop) (keeps : Bool) (method : LuaMethod α) : Prop :=
  ∀ ⦃before trace result after⦄, method.Executes before trace result after →
    (∀ event ∈ trace, Asked asks event) ∧
      (keeps = true → heldTokens after.rest.objects = heldTokens before.rest.objects)

section Confined

variable {β : Type} {method : LuaMethod α}

theorem confined_of_silent (silent : ∀ ⦃before trace result after⦄,
    method.Executes before trace result after → trace = [] ∧
      heldTokens after.rest.objects = heldTokens before.rest.objects) :
    Confined asks keeps method := by
  intro before trace result after executes
  obtain ⟨rfl, same⟩ := silent executes
  exact ⟨by rintro _ ⟨⟩, fun _ => same⟩

theorem confined_pure (value : α) : Confined asks keeps (pure value) :=
  confined_of_silent fun _ _ _ _ executes =>
    ⟨(executes_pure_iff.mp executes).1, by rw [(executes_pure_iff.mp executes).2.2]⟩

theorem confined_throw (halt : Halt LuaError) :
    Confined asks keeps (Method.throw halt : LuaMethod α) :=
  confined_of_silent fun _ _ _ _ executes =>
    ⟨(executes_throw_iff.mp executes).1, by rw [(executes_throw_iff.mp executes).2.2]⟩

theorem confined_setObject (object : Nat) (payload : UserData) :
    Confined asks false (setObject object payload) := by
  intro before trace result after executes
  obtain ⟨rfl, -, -⟩ := executes_modify_iff.mp executes
  exact ⟨by rintro _ ⟨⟩, nofun⟩

theorem Confined.bind {next : α → LuaMethod β} (first : Confined asks keeps method)
    (second : ∀ value, Confined asks keeps (next value)) :
    Confined asks keeps (method >>= next) := by
  intro before trace result after executes
  rcases executes_bind_iff.mp executes with
    ⟨_, rfl, failed⟩ | ⟨earlier, later, value, middle, rfl, ran, rest⟩
  · exact first failed
  · obtain ⟨asked, same⟩ := first ran
    obtain ⟨askedLater, sameLater⟩ := second value rest
    refine ⟨fun event member => ?_, fun kept => (sameLater kept).trans (same kept)⟩
    rcases List.mem_append.mp member with inFirst | inSecond
    · exact asked event inFirst
    · exact askedLater event inSecond

theorem confined_newUserdata (payload : UserData) (without : payload.heldTokens = 0) :
    Confined asks keeps (newUserdata payload) := by
  refine confined_of_silent fun before trace result after executes => ?_
  have added := executes_modify_bind_iff.mp (executes_self_bind_iff.mp executes)
  obtain ⟨rfl, -, rfl⟩ := executes_pure_iff.mp added
  refine ⟨rfl, ?_⟩
  change heldTokens (before.rest.objects ++ [payload]) = _
  rw [heldTokens_append, without, zero_add]

end Confined

/-- A call into the C interface does not touch the objects. -/
theorem executes_inC {function : CMemory LuaError α} {before after : Stored CBlock LuaState}
    {trace : List (Event Invocation.Answer)} {result : Except (Halt LuaError) α}
    (executes : (inC function).Executes before trace result after) :
    after.rest.objects = before.rest.objects ∧
      function.Executes ⟨before.heap, before.rest.thread⟩ trace result
        ⟨after.heap, after.rest.thread⟩ := by
  unfold inC onPart at executes
  obtain ⟨part, rfl, ran⟩ := executes_zoom_iff.mp executes
  exact ⟨rfl, ran⟩

theorem confined_inC {function : CMemory LuaError α} (emits : function.Emits (Asked asks)) :
    Confined asks keeps (inC function) := by
  intro before trace result after executes
  obtain ⟨same, ran⟩ := executes_inC executes
  exact ⟨emits.event_of_executes ran, fun _ => by rw [same]⟩

/-- The operations on the heap do not touch the objects. -/
theorem confined_tryAllocate (refuses : Nat → Bool) (kind : CBlock) :
    Confined asks keeps (tryAllocate refuses kind) := by
  refine confined_of_silent fun before trace result after executes => ?_
  have chosen := executes_self_bind_iff.mp executes
  split at chosen
  · have skipped := executes_modify_bind_iff.mp chosen
    obtain ⟨rfl, -, rfl⟩ := executes_pure_iff.mp skipped
    exact ⟨rfl, rfl⟩
  · rcases executes_bind_iff.mp chosen with ⟨_, _, failed⟩ | ⟨_, _, _, _, rfl, ran, rest⟩
    · have allocated := executes_modify_bind_iff.mp (executes_self_bind_iff.mp failed)
      obtain ⟨rfl, -, rfl⟩ := executes_pure_iff.mp allocated
      exact ⟨rfl, rfl⟩
    · have allocated := executes_modify_bind_iff.mp (executes_self_bind_iff.mp ran)
      obtain ⟨rfl, -, rfl⟩ := executes_pure_iff.mp allocated
      obtain ⟨rfl, -, rfl⟩ := executes_pure_iff.mp rest
      exact ⟨rfl, rfl⟩

theorem confined_borrow (block : Block CBlock) :
    Confined asks keeps (Method.borrow block) := by
  refine confined_of_silent fun before trace result after executes => ?_
  have checked := executes_self_bind_iff.mp executes
  split at checked
  · obtain ⟨rfl, -, rfl⟩ := executes_pure_iff.mp checked
    exact ⟨rfl, rfl⟩
  · obtain ⟨rfl, -, rfl⟩ := executes_throw_iff.mp checked
    exact ⟨rfl, rfl⟩

theorem confined_giveBack (block : Block CBlock) :
    Confined asks keeps (Method.giveBack block) := by
  refine (confined_borrow block).bind fun _ => confined_of_silent
    fun before trace result after executes => ?_
  obtain ⟨rfl, -, rfl⟩ := executes_modify_iff.mp executes
  exact ⟨rfl, rfl⟩

/-! ### Arguments -/

/-- A method that only reads: it asks nothing, leaves the state as it is, and fails or
returns a value that fits the objects. -/
def Checks (check : LuaMethod α) (holds : List UserData → α → Prop) : Prop :=
  ∀ ⦃before trace result after⦄, check.Executes before trace result after →
    trace = [] ∧ after = before ∧ ((∃ error, result = .error (.failed error)) ∨
      ∃ value, result = .ok value ∧ holds before.rest.objects value)

section Checks

variable {β : Type} {check : LuaMethod α} {next : α → LuaMethod β}
variable {holds : List UserData → α → Prop} {holdsNext : List UserData → β → Prop}

theorem Checks.confined (checks : Checks check holds) : Confined asks keeps check :=
  confined_of_silent fun _ _ _ _ executes =>
    ⟨(checks executes).1, by rw [(checks executes).2.1]⟩

theorem checks_pure {value : α} (valid : ∀ objects, holds objects value) :
    Checks (pure value) holds := by
  intro before trace result after executes
  obtain ⟨rfl, rfl, rfl⟩ := executes_pure_iff.mp executes
  exact ⟨rfl, rfl, .inr ⟨value, rfl, valid _⟩⟩

theorem checks_failed (error : LuaError) :
    Checks (Method.throw (.failed error) : LuaMethod α) holds := by
  intro before trace result after executes
  obtain ⟨rfl, rfl, rfl⟩ := executes_throw_iff.mp executes
  exact ⟨rfl, rfl, .inl ⟨error, rfl⟩⟩

theorem Checks.bind (first : Checks check holds)
    (second : ∀ value, Checks (next value) fun objects result =>
      holds objects value → holdsNext objects result) : Checks (check >>= next) holdsNext := by
  intro before trace result after executes
  rcases executes_bind_iff.mp executes with
    ⟨halt, rfl, failed⟩ | ⟨earlier, later, value, middle, rfl, ran, rest⟩
  · obtain ⟨rfl, rfl, ⟨error, equal⟩ | ⟨_, equal, -⟩⟩ := first failed
    · cases equal
      exact ⟨rfl, rfl, .inl ⟨error, rfl⟩⟩
    · cases equal
  · obtain ⟨rfl, rfl, ⟨error, equal⟩ | ⟨_, equal, valid⟩⟩ := first ran
    · cases equal
    · cases equal
      obtain ⟨rfl, rfl, ended⟩ := second value rest
      exact ⟨rfl, rfl, ended.imp_right fun returned =>
        returned.imp fun _ both => ⟨both.1, both.2 valid⟩⟩

end Checks

/-- The object of a method, with its payload. -/
theorem checks_checkUserdata (read : UserData → Option α) (name : String)
    (value : Option LuaValue) : Checks (checkUserdata read name value) fun objects found =>
      value = some (.userdata found.1) ∧ objects[found.1]?.bind read = some found.2 := by
  intro before trace result after executes
  replace executes := executes_self_bind_iff.mp executes
  split at executes
  · split at executes
    · rename_i object payload found
      obtain ⟨rfl, rfl, rfl⟩ := executes_pure_iff.mp executes
      exact ⟨rfl, rfl, .inr ⟨_, rfl, rfl, found⟩⟩
    · obtain ⟨rfl, rfl, rfl⟩ := executes_throw_iff.mp executes
      exact ⟨rfl, rfl, .inl ⟨_, rfl⟩⟩
  · obtain ⟨rfl, rfl, rfl⟩ := executes_throw_iff.mp executes
    exact ⟨rfl, rfl, .inl ⟨_, rfl⟩⟩

theorem resourceOf_eq_some {objects : List UserData} {object : Nat}
    {payload : LuaQrmiResource} (found : objects[object]?.bind resourceOf = some payload) :
    objects[object]? = some (UserData.resource payload) := by
  obtain ⟨value, isHere, read⟩ := Option.bind_eq_some_iff.mp found
  cases value with
  | resource own =>
      cases read
      exact isHere
  | config own => cases read

theorem configOf_eq_some {objects : List UserData} {object : Nat}
    {payload : LuaQrmiConfig} (found : objects[object]?.bind configOf = some payload) :
    objects[object]? = some (UserData.config payload) := by
  obtain ⟨value, isHere, read⟩ := Option.bind_eq_some_iff.mp found
  cases value with
  | resource own => cases read
  | config own =>
      cases read
      exact isHere

/-- The resource of a method, which is not freed. -/
theorem checks_checkResource (arguments : List LuaValue) :
    Checks (checkResource arguments) fun objects ud =>
      argument arguments 1 = some (.userdata ud.object) ∧
        objects[ud.object]? =
          some (UserData.resource ⟨some ud.handle, ud.acquisitionToken⟩) := by
  refine (checks_checkUserdata _ _ _).bind fun found => ?_
  obtain ⟨object, handle, token⟩ := found
  cases handle with
  | none => exact checks_failed _
  | some handle =>
      exact checks_pure fun objects valid => ⟨valid.1, resourceOf_eq_some valid.2⟩

theorem checks_checkConfig (arguments : List LuaValue) :
    Checks (checkConfig arguments) fun objects config =>
      ∃ object : Nat, objects[object]? = some (UserData.config ⟨some config⟩) := by
  refine (checks_checkUserdata _ _ _).bind fun found => ?_
  obtain ⟨object, ⟨handle⟩⟩ := found
  cases handle with
  | none => exact checks_failed _
  | some handle => exact checks_pure fun objects valid => ⟨object, configOf_eq_some valid.2⟩

/-- The string that a value is read as. -/
def stringOf : Option LuaValue → Option CStr
  | some (.string bytes) => some (.ofBytes bytes)
  | some (.number text _) => some (.ofBytes text)
  | _ => none

theorem checks_checkString (index : Int) (value : Option LuaValue) :
    Checks (checkString index value) fun _ text => stringOf value = some text := by
  unfold checkString
  split
  · exact checks_pure fun _ => rfl
  · exact checks_pure fun _ => rfl
  · exact checks_failed _

theorem checks_optString (index : Int) (default : Option CStr) (value : Option LuaValue) :
    Checks (optString index default value) fun _ text =>
      text = default ∨ ∃ string, text = some string ∧ stringOf value = some string := by
  unfold optString
  split
  · exact checks_pure fun _ => .inl rfl
  · exact checks_pure fun _ => .inl rfl
  · exact (checks_checkString _ _).bind fun string =>
      checks_pure fun _ valid => .inr ⟨string, rfl, valid⟩

theorem checks_checkInteger (runtime : LuaRuntime) (index : Int) (value : Option LuaValue) :
    Checks (checkInteger runtime index value) fun _ _ => True := by
  unfold checkInteger
  split
  · exact checks_pure fun _ => trivial
  · split
    · exact checks_pure fun _ => trivial
    · exact checks_failed _
  · exact checks_failed _

theorem checks_optInteger (runtime : LuaRuntime) (index : Int) (default : Int64)
    (value : Option LuaValue) :
    Checks (optInteger runtime index default value) fun _ _ => True := by
  unfold optInteger
  split
  · exact checks_pure fun _ => trivial
  · exact checks_pure fun _ => trivial
  · exact checks_checkInteger _ _ _

theorem checks_checkTable (index : Int) (value : Option LuaValue) :
    Checks (checkTable index value) fun _ _ => True := by
  unfold checkTable
  split
  · exact checks_pure fun _ => trivial
  · exact checks_failed _

theorem checks_stringField (entries : List (LuaValue × LuaValue)) (name : String) :
    Checks (stringField entries name) fun _ text =>
      stringOf (some (LuaValue.getField entries name)) = some text :=
  checks_checkString _ _

theorem checks_maestroU32 (value : Int64) (field : String) :
    Checks (maestroU32 value field) fun _ _ => True := by
  unfold maestroU32
  split
  · exact checks_failed _
  · exact checks_pure fun _ => trivial

theorem checks_maestroIntegers (jobType : CStr) (qubits simulatorType simulationMethod : Int64) :
    Checks (maestroIntegers jobType qubits simulatorType simulationMethod)
      fun _ _ => True := by
  unfold maestroIntegers
  split
  · exact checks_pure fun _ => trivial
  · exact (checks_maestroU32 _ _).bind fun _ => (checks_maestroU32 _ _).bind fun _ =>
      (checks_maestroU32 _ _).bind fun _ => checks_pure fun _ _ _ _ => trivial

theorem checks_maestroPayload (runtime : LuaRuntime) (entries : List (LuaValue × LuaValue)) :
    Checks (maestroPayload runtime entries) fun _ _ => True := by
  have ends (payload : CPayload) {holds : List UserData → CPayload → Prop}
      (valid : ∀ objects, holds objects payload) : Checks (pure payload) holds :=
    checks_pure valid
  exact (checks_stringField _ _).bind fun _ => (checks_optString _ _ _).bind fun _ =>
    (checks_optInteger _ _ _ _).bind fun _ => (checks_optInteger _ _ _ _).bind fun _ =>
      (checks_optInteger _ _ _ _).bind fun _ => (checks_optString _ _ _).bind fun _ =>
        (checks_optString _ _ _).bind fun _ => (checks_maestroIntegers _ _ _ _).bind fun _ =>
          ends _ fun _ _ _ _ _ _ _ _ _ => trivial

/-- The payload of the table that is found is read. -/
theorem checks_of_findVariant {runtime : LuaRuntime} {entries : List (LuaValue × LuaValue)}
    {read : LuaMethod CPayload} (found : findVariant entries (variants runtime) = some read) :
    Checks read fun _ _ => True := by
  have reads (variant : String × (List (LuaValue × LuaValue) → LuaMethod CPayload))
      (member : variant ∈ variants runtime) (fields : List (LuaValue × LuaValue)) :
      Checks (variant.2 fields) fun _ _ => True := by
    simp only [variants, List.mem_cons, List.not_mem_nil, or_false] at member
    rcases member with rfl | rfl | rfl | rfl | rfl | rfl
    · exact (checks_stringField _ _).bind fun _ => (checks_stringField _ _).bind fun _ =>
        checks_pure fun _ _ _ => trivial
    · exact (checks_stringField _ _).bind fun _ => (checks_stringField _ _).bind fun _ =>
        (checks_optString _ _ _).bind fun _ => checks_pure fun _ _ _ _ => trivial
    · exact (checks_stringField _ _).bind fun _ => (checks_checkInteger _ _ _).bind fun _ =>
        checks_pure fun _ _ _ => trivial
    · exact (checks_stringField _ _).bind fun _ => (checks_stringField _ _).bind fun _ =>
        checks_pure fun _ _ _ => trivial
    · exact checks_maestroPayload _ _
    · exact (checks_stringField _ _).bind fun _ => checks_pure fun _ _ => trivial
  generalize variants runtime = candidates at found reads
  induction candidates with
  | nil => cases found
  | cons variant rest ih =>
      obtain ⟨name, readFields⟩ := variant
      unfold findVariant at found
      split at found
      · cases found
        exact reads _ (List.mem_cons_self ..) _
      · exact ih found fun variant member => reads variant (List.mem_cons_of_mem _ member)

/-! ### Memory and messages -/

theorem confined_strdup (runtime : LuaRuntime) (text : CStr) :
    Confined asks keeps (strdup runtime text) :=
  (confined_tryAllocate _ _).bind fun _ => confined_pure _

theorem confined_free (pointer : Option (Owned CStr)) :
    Confined asks keeps (free pointer) := by
  cases pointer with
  | none => exact confined_pure _
  | some pointer => exact confined_giveBack _

theorem confined_freeGiven (pointer : Option (Owned CStr)) :
    Confined asks keeps (freeGiven pointer) := by
  cases pointer with
  | none => exact confined_pure _
  | some pointer => exact (confined_inC (emits_release _ _)).bind fun _ => confined_pure _

theorem confined_pushQrmiError (code : ReturnCode) :
    Confined asks keeps (pushQrmiError code) := by
  refine (confined_inC emits_qrmiGetLastError).bind fun err => ?_
  split
  · exact (confined_inC (emits_release _ _)).bind fun _ => confined_pure _
  · exact confined_pure _

theorem confined_pushText (answer : ReturnCode × Option (Owned CStr)) :
    Confined asks keeps (pushText answer) := by
  unfold pushText
  split
  · exact confined_pushQrmiError _
  · exact (confined_inC (emits_release _ _)).bind fun _ => confined_pure _

theorem confined_pushValue (answer : ReturnCode × α) (push : α → LuaValue) :
    Confined asks keeps (pushValue answer push) := by
  unfold pushValue
  split
  · exact confined_pushQrmiError _
  · exact confined_pure _

theorem confined_typeToStr (resourceType : ResourceType) :
    Confined asks keeps (inC (qrmiConfigResourceTypeToStr resourceType)) :=
  confined_inC (emits_returnedText (emits_pure _))

theorem confined_resourceTypeFromString (text : CStr) (types : List ResourceType) :
    Confined asks keeps (resourceTypeFromString text types) := by
  induction types with
  | nil => exact confined_pure _
  | cons resourceType rest ih =>
      refine (confined_typeToStr _).bind fun name => ?_
      split
      · exact confined_pure _
      · exact ih

theorem confined_pushTypeName (resourceType : Option ResourceType) :
    Confined asks keeps (pushTypeName resourceType) := by
  cases resourceType with
  | none => exact confined_pure _
  | some resourceType => exact (confined_typeToStr _).bind fun _ => confined_pure _

/-! ### Creating resources -/

theorem confined_lQrmiNew (arguments : List LuaValue) :
    Confined LuaFunction.new.asks keeps (lQrmiNew arguments) := by
  refine (checks_checkString _ _).confined.bind fun resourceId =>
    (checks_checkString _ _).confined.bind fun _ => ?_
  refine (confined_resourceTypeFromString _ _).bind fun found => ?_
  cases found with
  | none => exact confined_pure _
  | some resourceType =>
      refine Confined.bind (confined_inC ((emits_call
        (emits_qrmiResourceNew _ _ fun _ => trivial)).bind fun answered =>
          emits_intoRawResource _)) fun handle => ?_
      cases handle with
      | none =>
          exact (confined_inC emits_qrmiGetLastError).bind fun _ =>
            (confined_freeGiven _).bind fun _ => confined_pure _
      | some handle =>
          exact (confined_newUserdata _ rfl).bind fun _ => confined_pure _

theorem confined_freeEntries (entries : List (Option (Owned CStr) × Option (Owned CStr))) :
    Confined asks keeps (freeEntries entries) := by
  induction entries with
  | nil => exact confined_pure _
  | cons entry rest ih => exact (confined_free _).bind fun _ => (confined_free _).bind fun _ => ih

theorem confined_freeConfigPairs (pairs : Option ConfigPairs) :
    Confined asks keeps (freeConfigPairs pairs) := by
  cases pairs with
  | none => exact confined_pure _
  | some pairs => exact (confined_freeEntries _).bind fun _ => confined_giveBack _

theorem confined_fillConfigPairs (runtime : LuaRuntime) (pairs : ConfigPairs)
    (entries : List (LuaValue × LuaValue)) :
    Confined asks keeps (fillConfigPairs runtime pairs entries) := by
  fun_induction fillConfigPairs runtime pairs entries with
  | case1 pairs => exact confined_pure _
  | case2 pairs key value rest ih =>
      refine (confined_strdup _ _).bind fun key => (confined_strdup _ _).bind fun value => ?_
      dsimp only
      split
      · exact (confined_freeConfigPairs _).bind fun _ => confined_throw _
      · exact ih _ _
  | case3 pairs entry rest _ => exact (confined_freeConfigPairs _).bind fun _ => confined_throw _

theorem confined_buildConfigMapFromTable (runtime : LuaRuntime)
    (entries : List (LuaValue × LuaValue)) :
    Confined asks keeps (buildConfigMapFromTable runtime entries) := by
  unfold buildConfigMapFromTable
  split
  · exact confined_pure _
  · refine (confined_tryAllocate _ _).bind fun array => ?_
    cases array with
    | none => exact confined_throw _
    | some array => exact (confined_fillConfigPairs _ _ _).bind fun _ => confined_pure _

theorem confined_lQrmiNewFromConfig (runtime : LuaRuntime) (arguments : List LuaValue) :
    Confined LuaFunction.newFromConfig.asks keeps (lQrmiNewFromConfig runtime arguments) := by
  refine (checks_checkString _ _).confined.bind fun resourceId =>
    (checks_checkString _ _).confined.bind fun _ =>
    (checks_checkTable _ _).confined.bind fun table => ?_
  refine (confined_resourceTypeFromString _ _).bind fun found => ?_
  cases found with
  | none => exact confined_pure _
  | some resourceType =>
      refine (confined_buildConfigMapFromTable _ _).bind fun pairs =>
        Confined.bind (confined_inC ((emits_call
          (emits_qrmiResourceNewFromConfig _ _ _ fun _ _ => trivial)).bind fun answered =>
            emits_intoRawResource _)) fun handle => ?_
      refine (confined_freeConfigPairs _).bind fun _ => ?_
      cases handle with
      | none => exact (confined_inC emits_qrmiGetLastError).bind fun _ => confined_pure _
      | some handle =>
          exact (confined_newUserdata _ rfl).bind fun _ => confined_pure _

/-! ### Methods of resources -/

theorem confined_lIsAccessible (arguments : List LuaValue) :
    Confined LuaFunction.isAccessible.asks keeps (lIsAccessible arguments) := by
  refine (checks_checkResource _).confined.bind fun ud => Confined.bind ?_ fun _ =>
    confined_pushValue _ _
  refine confined_inC (emits_withResource (emits_callFor _ ?_))
  exact emits_callMethod trivial (emits_orFailWith _)

theorem confined_lResourceId (arguments : List LuaValue) :
    Confined LuaFunction.id.asks keeps (lResourceId arguments) := by
  refine (checks_checkResource _).confined.bind fun ud => Confined.bind ?_ fun _ =>
    confined_pushText _
  refine confined_inC (emits_withResource (emits_callForText ?_))
  exact emits_callMethod trivial emits_orFailText

theorem confined_lResourceType (arguments : List LuaValue) :
    Confined LuaFunction.type.asks keeps (lResourceType arguments) := by
  refine (checks_checkResource _).confined.bind fun ud => Confined.bind ?_ fun answer => ?_
  · refine confined_inC (emits_withResource (emits_callFor _ ?_))
    exact emits_callMethod trivial (emits_orFailWith _)
  · split
    · exact confined_pushQrmiError _
    · exact (confined_pushTypeName _).bind fun _ => confined_pure _

theorem confined_acquireNew (runtime : LuaRuntime) (ud : CheckedResource) :
    Confined LuaFunction.acquire.asks false (acquireNew runtime ud) := by
  refine Confined.bind ?_ fun answer => ?_
  · refine confined_inC (emits_withResource (emits_callForText ?_))
    exact emits_callMethod trivial emits_orFailText
  · split
    · exact confined_pushQrmiError _
    · split
      · exact confined_throw _
      · exact (confined_strdup _ _).bind fun _ => (confined_setObject _ _).bind fun _ =>
          (confined_inC (emits_release _ _)).bind fun _ => confined_pure _

/-- The release of a token. -/
theorem confined_qrmiResourceRelease (qrmi : Owned Nat) (token : CStr)
    (asked : ∀ token, asks (.resource qrmi.value (.release token))) :
    Confined asks keeps (inC (qrmiResourceRelease qrmi token)) :=
  confined_inC (emits_withResource
    ((emits_call (emits_qrmiResourceRelease _ _ asked)).bind fun _ => emits_pure _))

theorem confined_dropCached (ud : CheckedResource) (token : Owned CStr) :
    Confined LuaFunction.acquire.asks false (dropCached ud token) :=
  (confined_borrow _).bind fun _ =>
    (confined_qrmiResourceRelease _ _ fun _ => trivial).bind fun _ =>
      (confined_free _).bind fun _ => (confined_setObject _ _).bind fun _ => confined_pure _

theorem confined_lAcquire (runtime : LuaRuntime) (arguments : List LuaValue) :
    Confined LuaFunction.acquire.asks false (lAcquire runtime arguments) := by
  refine (checks_checkResource _).confined.bind fun ud => ?_
  split
  · exact confined_acquireNew _ _
  · refine (confined_dropCached _ _).bind fun released => ?_
    split
    · exact confined_pushQrmiError _
    · exact confined_acquireNew _ _

theorem confined_tokenToRelease (ud : CheckedResource) (given : Option CStr) :
    Confined asks keeps (tokenToRelease ud given) := by
  unfold tokenToRelease
  split
  · exact confined_pure _
  · exact (confined_borrow _).bind fun _ => confined_pure _
  · exact confined_pure _

theorem confined_lRelease (arguments : List LuaValue) :
    Confined LuaFunction.release.asks false (lRelease arguments) := by
  refine (checks_checkResource _).confined.bind fun ud =>
    (checks_optString _ _ _).confined.bind fun given =>
      (confined_tokenToRelease _ _).bind fun token => ?_
  cases token with
  | none => exact confined_pure _
  | some token =>
      refine (confined_qrmiResourceRelease _ _ fun _ => trivial).bind fun released => ?_
      split
      · exact confined_pushQrmiError _
      · exact (confined_free _).bind fun _ => (confined_setObject _ _).bind fun _ =>
          confined_pure _

theorem confined_lDetach (arguments : List LuaValue) :
    Confined asks false (lDetach arguments) := by
  refine (checks_checkResource _).confined.bind fun ud => ?_
  split
  · exact confined_pure _
  · exact (confined_free _).bind fun _ => (confined_setObject _ _).bind fun _ => confined_pure _

/-! ### Tasks -/

theorem confined_lTaskStart (runtime : LuaRuntime) (arguments : List LuaValue) :
    Confined LuaFunction.taskStart.asks keeps (lTaskStart runtime arguments) := by
  refine (checks_checkResource _).confined.bind fun ud =>
    (checks_checkTable _ _).confined.bind fun entries => ?_
  split
  · exact confined_pure _
  · rename_i read found
    refine (checks_of_findVariant found).confined.bind fun payload => Confined.bind ?_ fun answer =>
      confined_pushText _
    exact confined_inC (emits_withResource (emits_callForText
      (emits_qrmiResourceTaskStart _ _ fun _ => trivial)))

theorem confined_lTaskStatus (arguments : List LuaValue) :
    Confined LuaFunction.taskStatus.asks keeps (lTaskStatus arguments) := by
  refine (checks_checkResource _).confined.bind fun ud =>
    (checks_checkString _ _).confined.bind fun taskId =>
    Confined.bind ?_ fun _ => confined_pushValue _ _
  refine confined_inC (emits_withResource (emits_callFor _ ?_))
  exact emits_callTaskMethod (fun _ => trivial) fun _ => emits_orFailWith _

theorem confined_lTaskResult (arguments : List LuaValue) :
    Confined LuaFunction.taskResult.asks keeps (lTaskResult arguments) := by
  refine (checks_checkResource _).confined.bind fun ud =>
    (checks_checkString _ _).confined.bind fun taskId =>
    Confined.bind ?_ fun _ => confined_pushText _
  refine confined_inC (emits_withResource (emits_callForText ?_))
  exact emits_callTaskMethod (fun _ => trivial) fun _ => emits_orFailText

theorem confined_lTaskLogs (arguments : List LuaValue) :
    Confined LuaFunction.taskLogs.asks keeps (lTaskLogs arguments) := by
  refine (checks_checkResource _).confined.bind fun ud =>
    (checks_checkString _ _).confined.bind fun taskId =>
    Confined.bind ?_ fun _ => confined_pushText _
  refine confined_inC (emits_withResource (emits_callForText ?_))
  exact emits_callTaskMethod (fun _ => trivial) fun _ => emits_orFailText

theorem confined_lTaskStop (arguments : List LuaValue) :
    Confined LuaFunction.taskStop.asks keeps (lTaskStop arguments) := by
  refine (checks_checkResource _).confined.bind fun ud =>
    (checks_checkString _ _).confined.bind fun taskId =>
    Confined.bind ?_ fun _ => confined_pushValue _ _
  refine confined_inC (emits_withResource (Emits.bind (emits_call ?_) fun _ => emits_pure _))
  exact emits_callTaskMethod (fun _ => trivial) fun _ => emits_orFailUnit

/-! ### Descriptions -/

theorem confined_pushEntries (metadata : Option (Owned (List (Text × Text))))
    (keys : List (Owned CStr)) (entries : List (LuaValue × LuaValue)) :
    Confined asks keeps (pushEntries metadata keys entries) := by
  induction keys generalizing entries with
  | nil => exact confined_pure _
  | cons key rest ih =>
      exact (confined_inC (emits_qrmiResourceMetadataValue _ _)).bind fun _ =>
        (confined_freeGiven _).bind fun _ => ih _

/-- The metadata is asked for once, and what follows asks for nothing. -/
theorem confined_pushMetadata (answer : ReturnCode × Option (Owned (List (Text × Text)))) :
    Confined asks keeps (pushMetadata answer) := by
  unfold pushMetadata
  split
  · exact confined_pushQrmiError _
  · refine (confined_inC (emits_qrmiResourceMetadataKeys _)).bind fun keys => ?_
    split
    · exact (confined_inC (emits_release _ _)).bind fun _ => confined_pushQrmiError _
    · exact (confined_pushEntries _ _ _).bind fun _ =>
        (confined_inC (emits_qrmiStringArrayFree _)).bind fun _ =>
          (confined_inC (emits_release _ _)).bind fun _ => confined_pure _

theorem confined_lMetadata (arguments : List LuaValue) :
    Confined LuaFunction.metadata.asks keeps (lMetadata arguments) := by
  refine (checks_checkResource _).confined.bind fun ud => Confined.bind ?_ fun _ =>
    confined_pushMetadata _
  refine confined_inC (emits_withResource (emits_callForObject _ _ ?_))
  exact emits_callMethod trivial fun answer => (concludes_succeedWith _).emits

theorem emits_reported {β : Type} (output : β → Output) (unreported : String)
    (status : Option CResourceStatus) (member : CResourceStatus → Option β) :
    (CFunction.readStatus status true fun status =>
      CFunction.reported output unreported (member status)).Emits (Asked asks) :=
  emits_readStatus fun _ => concludes_reported _ _ _

theorem confined_pushCapacity (status : Option (Owned CResourceStatus)) :
    Confined asks keeps (pushCapacity status) := by
  refine Confined.bind (confined_inC (emits_withStatus fun status =>
    emits_callForObject _ _ (emits_reported _ _ _ _))) fun answer => ?_
  split
  · exact confined_pure _
  · split
    · exact confined_throw _
    · exact (confined_borrow _).bind fun _ => (confined_inC (emits_release _ _)).bind fun _ =>
        confined_pure _

theorem confined_lStatus (arguments : List LuaValue) :
    Confined LuaFunction.status.asks keeps (lStatus arguments) := by
  refine (checks_checkResource _).confined.bind fun ud => Confined.bind ?_ fun answer => ?_
  · refine confined_inC (emits_withResource (emits_callForObject _ _ ?_))
    exact emits_callMethod trivial (emits_orFailWith _)
  split
  · exact confined_pushQrmiError _
  refine Confined.bind (confined_inC (emits_withStatus fun status => emits_callFor _
    (emits_readStatus fun _ => concludes_succeedWith _))) fun code => ?_
  split
  · exact (confined_inC (emits_release _ _)).bind fun _ => confined_pushQrmiError _
  have codeText (code : ResourceStatusCode) :
      (qrmiResourceStatusCodeToString code : CMemory LuaError _).Emits
        (Asked LuaFunction.status.asks) := by
    refine Emits.bind (emits_call ?_) fun answered => ?_
    · cases code <;> exact emits_pure _
    · split <;> exact emits_pure _
  exact (confined_inC (codeText _)).bind fun _ =>
    (confined_inC (emits_withStatus fun status =>
      emits_returnedText (emits_qrmiResourceStatusReason _))).bind fun _ =>
      (confined_freeGiven _).bind fun _ =>
        (confined_inC (emits_withStatus fun status =>
          emits_callFor _ (emits_reported _ _ _ _))).bind fun _ =>
          (confined_inC (emits_withStatus fun status =>
            emits_callFor _ (emits_reported _ _ _ _))).bind fun _ =>
            (confined_inC (emits_withStatus fun status =>
              emits_callFor _ (emits_reported _ _ _ _))).bind fun _ =>
              (confined_pushCapacity _).bind fun _ =>
                (confined_inC (emits_release _ _)).bind fun _ => confined_pure _

theorem confined_lTarget (arguments : List LuaValue) :
    Confined LuaFunction.target.asks keeps (lTarget arguments) := by
  refine (checks_checkResource _).confined.bind fun ud => Confined.bind ?_ fun _ =>
    confined_pushText _
  refine confined_inC (emits_withResource (emits_callForText ?_))
  exact emits_invoke trivial emits_orFailText

/-! ### The end of objects -/

theorem confined_lResourceFree (arguments : List LuaValue)
    (asked : ∀ handle token, asks (.resource handle (.release token))) :
    Confined asks false (lResourceFree arguments) := by
  refine (checks_checkUserdata _ _ _).confined.bind fun found => Confined.bind ?_ fun _ =>
    confined_pure _
  unfold releaseResource
  split
  · exact confined_pure _
  · refine Confined.bind ?_ fun _ =>
      (confined_inC (emits_release _ _)).bind fun _ => confined_setObject _ _
    unfold releaseCached
    split
    · exact (confined_borrow _).bind fun _ =>
        (confined_qrmiResourceRelease _ _ (asked _)).bind fun _ => confined_free _
    · exact confined_pure _

theorem confined_lQrmiLoadConfig (arguments : List LuaValue) :
    Confined LuaFunction.loadConfig.asks keeps (lQrmiLoadConfig arguments) := by
  refine (checks_checkString _ _).confined.bind fun filename => Confined.bind ?_ fun handle => ?_
  · refine confined_inC ((emits_call (emits_qrmiConfigLoad _ fun _ => trivial)).bind
      fun answered => ?_)
    split
    · exact (emits_intoRaw _ _).bind fun _ => emits_pure _
    · exact emits_pure _
  · cases handle with
    | none =>
        exact (confined_inC emits_qrmiGetLastError).bind fun _ =>
          (confined_freeGiven _).bind fun _ => confined_pure _
    | some handle =>
        exact (confined_newUserdata _ rfl).bind fun _ => confined_pure _

theorem confined_lConfigResourceDef (arguments : List LuaValue) :
    Confined asks keeps (lConfigResourceDef arguments) := by
  refine Confined.bind ((checks_checkUserdata _ _ _).confined.bind fun found => ?_) fun config =>
    (checks_checkString _ _).confined.bind fun resourceId => Confined.bind ?_ fun resource => ?_
  · split
    · exact confined_pure _
    · exact confined_throw _
  · refine confined_inC ((emits_borrow _).bind fun _ =>
      (emits_call (emits_qrmiConfigResourceDefGet _ _)).bind fun answered => ?_)
    split
    · exact (emits_intoRaw _ _).bind fun _ => emits_pure _
    · exact emits_pure _
  · cases resource with
    | none =>
        exact (confined_inC emits_qrmiGetLastError).bind fun _ =>
          (confined_freeGiven _).bind fun _ => confined_pure _
    | some resource =>
        exact (confined_borrow _).bind fun _ => (confined_pushTypeName _).bind fun _ =>
          (confined_inC (emits_release _ _)).bind fun _ => confined_pure _

/-- A configuration that is freed has no token. -/
theorem confined_releaseConfig {object : Nat} {handle : Option (Owned Config)}
    {before after : Stored CBlock LuaState} {trace : List (Event Invocation.Answer)}
    {result : Except (Halt LuaError) Unit}
    (found : before.rest.objects[object]? = some (.config ⟨handle⟩))
    (executes : (releaseConfig object ⟨handle⟩).Executes before trace result after) :
    (∀ event ∈ trace, Asked asks event) ∧
      heldTokens after.rest.objects = heldTokens before.rest.objects := by
  cases handle with
  | none =>
      obtain ⟨rfl, -, rfl⟩ := executes_pure_iff.mp executes
      exact ⟨by rintro _ ⟨⟩, rfl⟩
  | some handle =>
      have silent : (release .config (some handle) : CMemory LuaError _).Emits (Asked asks) :=
        emits_release _ _
      rcases executes_bind_iff.mp executes with
        ⟨_, -, failed⟩ | ⟨first, second, _, middle, rfl, ran, rest⟩
      · obtain ⟨same, freed⟩ := executes_inC failed
        exact ⟨silent.event_of_executes freed, by rw [same]⟩
      · obtain ⟨same, freed⟩ := executes_inC ran
        obtain ⟨rfl, -, rfl⟩ := executes_modify_iff.mp rest
        rw [List.append_nil]
        refine ⟨silent.event_of_executes freed, ?_⟩
        obtain ⟨others, divided, changed⟩ := heldTokens_split found
        change heldTokens (middle.rest.objects.set object _) = _
        rw [same, changed, divided]
        rfl

theorem confined_lConfigFree (arguments : List LuaValue) :
    Confined asks keeps (lConfigFree arguments) := by
  intro before trace result after executes
  rcases executes_bind_iff.mp executes with
    ⟨_, rfl, failed⟩ | ⟨first, second, found, middle, rfl, ran, rest⟩
  · exact (checks_checkUserdata _ _ _).confined failed
  obtain ⟨rfl, rfl, ⟨_, equal⟩ | ⟨_, equal, valid⟩⟩ := checks_checkUserdata _ _ _ ran
  · cases equal
  cases equal
  have isHere := configOf_eq_some valid.2
  rcases executes_bind_iff.mp rest with
    ⟨_, rfl, failed⟩ | ⟨earlier, later, _, last, rfl, freed, ended⟩
  · obtain ⟨asked, same⟩ := confined_releaseConfig isHere failed
    exact ⟨asked, fun _ => same⟩
  · obtain ⟨rfl, -, rfl⟩ := executes_pure_iff.mp ended
    obtain ⟨asked, same⟩ := confined_releaseConfig isHere freed
    rw [List.append_nil]
    exact ⟨asked, fun _ => same⟩

end LuaBinding

open LuaBinding in
/-- A function of Lua asks for its own operation only, and most functions keep the
tokens. -/
theorem LuaFunction.confined_call (runtime : LuaRuntime) (arguments : List LuaValue)
    (function : LuaFunction) :
    Confined function.asks function.keepsTokens (function.call runtime arguments) := by
  cases function with
  | new => exact confined_lQrmiNew _
  | newFromConfig => exact confined_lQrmiNewFromConfig _ _
  | loadConfig => exact confined_lQrmiLoadConfig _
  | isAccessible => exact confined_lIsAccessible _
  | status => exact confined_lStatus _
  | id => exact confined_lResourceId _
  | type => exact confined_lResourceType _
  | acquire => exact confined_lAcquire _ _
  | release => exact confined_lRelease _
  | detach => exact confined_lDetach _
  | taskStart => exact confined_lTaskStart _ _
  | taskStatus => exact confined_lTaskStatus _
  | taskResult => exact confined_lTaskResult _
  | taskLogs => exact confined_lTaskLogs _
  | taskStop => exact confined_lTaskStop _
  | metadata => exact confined_lMetadata _
  | target => exact confined_lTarget _
  | free => exact confined_lResourceFree _ fun _ _ => trivial
  | gc => exact confined_lResourceFree _ fun _ _ => trivial
  | resourceDef => exact confined_lConfigResourceDef _
  | configFree => exact confined_lConfigFree _
  | configGc => exact confined_lConfigFree _
