import Qrmi.InteractionHistory
import Qrmi.LuaQuestions

/-!
# Memory of the Lua binding

Between two calls the live blocks are those of the objects and the strings that earlier
calls have left behind.  A call gives back whatever it was handed, except for the names
of resource types and one message.  There is one way for it to go wrong: the array of
keys of empty metadata is given back, although there is no block.
-/

open Interaction

/-- The blocks of an object. -/
def UserData.blocks : UserData → Multiset (Block CBlock)
  | resource payload =>
      blocksOf .resource payload.handle + blocksOf .malloc payload.acquisitionToken
  | config payload => blocksOf .config payload.handle

/-- The blocks of all objects. -/
def ownedBlocks (objects : List UserData) : Multiset (Block CBlock) :=
  (objects.map UserData.blocks).sum

theorem ownedBlocks_append (objects : List UserData) (object : UserData) :
    ownedBlocks (objects ++ [object]) = object.blocks + ownedBlocks objects := by
  simp [ownedBlocks, add_comm]

/-- An object and the others: what the object is changed to has no part in the others. -/
theorem ownedBlocks_split {objects : List UserData} {object : Nat} {payload : UserData}
    (found : objects[object]? = some payload) :
    ∃ others, ownedBlocks objects = payload.blocks + others ∧
      ∀ other, ownedBlocks (objects.set object other) = other.blocks + others := by
  induction objects generalizing object with
  | nil => cases found
  | cons first rest ih =>
      cases object with
      | zero =>
          obtain rfl := Option.some.inj found
          exact ⟨ownedBlocks rest, rfl, fun _ => rfl⟩
      | succ object =>
          obtain ⟨others, split, changed⟩ := ih found
          refine ⟨first.blocks + others, ?_, fun other => ?_⟩
          · change first.blocks + ownedBlocks rest = _
            rw [split, add_left_comm]
          · change first.blocks + ownedBlocks (rest.set object other) = _
            rw [changed, add_left_comm]

namespace LuaBinding

open Method CMemory

variable {α β : Type} {rely : Event Invocation.Answer → Prop}
variable {objects : List UserData} {given kept : Multiset (Block CBlock)}

/-- What a method of Lua takes and leaves, beside what it makes of the objects. -/
def Manages (rely : Event Invocation.Answer → Prop) (objects : List UserData)
    (given : Multiset (Block CBlock)) (method : LuaMethod α)
    (post : Except LuaError α → List UserData → Multiset (Block CBlock) → Prop) : Prop :=
  Transfers rely LuaState.objects objects 0 given method post

section Rules

variable {post : Except LuaError α → List UserData → Multiset (Block CBlock) → Prop}

theorem manages_pure {value : α} (holds : post (.ok value) objects given) :
    Manages rely objects given (pure value : LuaMethod α) post :=
  transfers_pure holds

theorem manages_failed {error : LuaError} (holds : post (.error error) objects given) :
    Manages rely objects given (Method.throw (.failed error) : LuaMethod α) post :=
  transfers_failed holds

/-- Call into the C interface with a part of the blocks, the others being lent. -/
theorem manages_inC_bind {function : CMemory LuaError β} {next : β → LuaMethod α}
    {result : β → Multiset (Block CBlock) → Prop}
    (yields : Yields rely kept given function result)
    (continues : ∀ value left, result value left →
      Manages rely objects (left + kept) (next value) post) :
    Manages rely objects (given + kept) (inC function >>= next) post := by
  have called : Transfers rely LuaState.objects objects 0 (given + kept) (inC function) _ :=
    Transfers.lend (Transfers.onPart (by rwa [zero_add]) fun _ _ => rfl)
  refine Transfers.bind called ?_ ?_
  · rintro _ _ _ ⟨own, rfl, rfl, value, equal, holds⟩
    cases equal
    exact continues _ _ holds
  · rintro _ _ _ ⟨_, _, _, _, equal, _⟩
    cases equal

theorem manages_setObject_bind {object : Nat} {payload : UserData}
    {next : Unit → LuaMethod α}
    (continues : Manages rely (objects.set object payload) given (next ()) post) :
    Manages rely objects given (setObject object payload >>= next) post := by
  rintro frame before trace result after rfl within live executes relies
  have changed := executes_modify_bind_iff.mp executes
  exact continues (by rfl) within (by exact live) changed relies

theorem manages_newUserdata_bind {payload : UserData} {next : LuaValue → LuaMethod α}
    (continues : ∀ value, Manages rely (objects ++ [payload]) given (next value) post) :
    Manages rely objects given (newUserdata payload >>= next) post := by
  rintro frame before trace result after rfl within live executes relies
  rcases executes_bind_iff.mp executes with
    ⟨_, _, failed⟩ | ⟨first, second, value, middle, rfl, ran, rest⟩
  · have changed := executes_modify_bind_iff.mp (executes_self_bind_iff.mp failed)
    cases (executes_pure_iff.mp changed).2.1
  · have changed := executes_modify_bind_iff.mp (executes_self_bind_iff.mp ran)
    obtain ⟨rfl, -, rfl⟩ := executes_pure_iff.mp changed
    exact continues value (by rfl) within (by exact live) rest relies

/-- What is left of a method that cannot fail and returns nothing. -/
def Becomes (seen : List UserData) (kept : Multiset (Block CBlock))
    (outcome : Except LuaError Unit) (sees : List UserData) (left : Multiset (Block CBlock)) :
    Prop :=
  outcome = .ok () ∧ sees = seen ∧ left = kept

theorem Manages.becomes_bind {method : LuaMethod Unit} {next : Unit → LuaMethod α}
    {seen : List UserData} (first : Manages rely objects given method (Becomes seen kept))
    (continues : Manages rely seen kept (next ()) post) :
    Manages rely objects given (method >>= next) post := by
  refine Transfers.bind first ?_ ?_
  · rintro _ _ _ ⟨-, rfl, rfl⟩
    exact continues
  · rintro _ _ _ ⟨equal, -⟩
    cases equal

/-- Follow a pointer to a block that is there. -/
theorem manages_borrow_bind {block : Block CBlock} {next : Unit → LuaMethod α}
    (member : block ∈ given) (continues : Manages rely objects given (next ()) post) :
    Manages rely objects given (Method.borrow block >>= next) post := by
  refine Transfers.bind (transfers_borrow (.inl member)) ?_ ?_
  · rintro _ _ _ ⟨-, rfl, rfl⟩
    exact continues
  · rintro _ _ _ ⟨equal, -⟩
    cases equal

theorem manages_giveBack_bind {block : Block CBlock} {next : Unit → LuaMethod α}
    (continues : Manages rely objects given (next ()) post) :
    Manages rely objects ({block} + given) (Method.giveBack block >>= next) post := by
  refine Transfers.bind transfers_giveBack ?_ ?_
  · rintro _ _ _ ⟨-, rfl, rfl⟩
    exact continues
  · rintro _ _ _ ⟨equal, -⟩
    cases equal

theorem manages_free_bind {pointer : Option (Owned CStr)} {next : Unit → LuaMethod α}
    (continues : Manages rely objects given (next ()) post) :
    Manages rely objects (blocksOf .malloc pointer + given) (free pointer >>= next) post := by
  cases pointer with
  | none =>
      rw [blocksOf_none, zero_add]
      exact continues
  | some pointer => exact manages_giveBack_bind continues

theorem manages_strdup_bind {runtime : LuaRuntime} {text : CStr}
    {next : Option (Owned CStr) → LuaMethod α}
    (continues : ∀ copy, (∀ pointer ∈ copy, pointer.value = text) →
      Manages rely objects (blocksOf .malloc copy + given) (next copy) post) :
    Manages rely objects given (strdup runtime text >>= next) post := by
  have duplicates : Transfers rely LuaState.objects objects 0 given (strdup runtime text)
      fun outcome sees left => sees = objects ∧ ∃ copy, outcome = .ok copy ∧
        (∀ pointer ∈ copy, pointer.value = text) ∧ left = blocksOf .malloc copy + given := by
    refine Transfers.bind (transfers_tryAllocate _ _) ?_ ?_
    · rintro _ _ _ ⟨rfl, ⟨equal, rfl⟩ | ⟨address, equal, rfl⟩⟩
      · cases equal
        exact transfers_pure ⟨rfl, none, rfl, by simp, (zero_add _).symm⟩
      · cases equal
        refine transfers_pure ⟨rfl, some ⟨address, text⟩, rfl, ?_, rfl⟩
        rintro _ ⟨⟩
        rfl
    · rintro _ _ _ ⟨-, ⟨equal, -⟩ | ⟨_, equal, -⟩⟩
      · cases equal
      · cases equal
  refine Transfers.bind duplicates ?_ ?_
  · rintro _ _ _ ⟨rfl, pointer, equal, copied, rfl⟩
    cases equal
    exact continues _ copied
  · rintro _ _ _ ⟨-, _, equal, -⟩
    cases equal

/-- Read the arguments of a method. -/
theorem manages_check_bind {check : LuaMethod β} {next : β → LuaMethod α}
    {holds : List UserData → β → Prop} (checks : Checks check holds)
    (fails : ∀ error, post (.error error) objects given)
    (continues : ∀ value, holds objects value →
      Manages rely objects given (next value) post) :
    Manages rely objects given (check >>= next) post := by
  rintro frame before trace result after rfl within live executes relies
  rcases executes_bind_iff.mp executes with
    ⟨_, rfl, failed⟩ | ⟨first, second, value, middle, rfl, ran, rest⟩
  · obtain ⟨rfl, rfl, ⟨error, equal⟩ | ⟨_, equal, -⟩⟩ := checks failed
    · cases equal
      exact ⟨.error error, given, rfl, fails error, live⟩
    · cases equal
  · obtain ⟨rfl, rfl, ⟨_, equal⟩ | ⟨_, equal, valid⟩⟩ := checks ran
    · cases equal
    · cases equal
      exact continues value valid rfl within live rest relies

/-- A function of the C interface that is lent everything and leaves nothing. -/
theorem manages_lend_bind {function : CMemory LuaError β} {next : β → LuaMethod α}
    (yields : Yields rely given 0 function fun _ left => left = 0)
    (continues : ∀ value, Manages rely objects given (next value) post) :
    Manages rely objects given (inC function >>= next) post := by
  rw [← zero_add given]
  refine manages_inC_bind yields ?_
  rintro value _ rfl
  rw [zero_add]
  exact continues value

/-- Give an object back. -/
theorem manages_release_bind {kind : CBlock} {pointer : Option (Owned β)}
    {next : ReturnCode → LuaMethod α}
    (continues : ∀ code, Manages rely objects given (next code) post) :
    Manages rely objects (blocksOf kind pointer + given)
      (inC (release kind pointer) >>= next) post := by
  have yields : Yields rely given (blocksOf kind pointer)
      (release kind pointer : CMemory LuaError _) fun _ left => left = 0 := by
    rw [← add_zero (blocksOf kind pointer)]
    exact yields_release
  refine manages_inC_bind yields ?_
  rintro code _ rfl
  rw [zero_add]
  exact continues code

/-- A function of the C interface that hands out an object. -/
theorem manages_handedOut_bind {kind : CBlock} {valid : β → Prop}
    {function : CMemory LuaError (ReturnCode × Option (Owned β))}
    {next : ReturnCode × Option (Owned β) → LuaMethod α}
    (yields : Yields rely given 0 function (HandedOut kind 0 valid))
    (fails : ∀ code, code ≠ .success →
      Manages rely objects given (next (code, none)) post)
    (succeeds : ∀ pointer, valid pointer.value →
      Manages rely objects (blocksOf kind (some pointer) + given)
        (next (.success, some pointer)) post) :
    Manages rely objects given (inC function >>= next) post := by
  rw [← zero_add given]
  refine manages_inC_bind yields ?_
  rintro ⟨code, pointer⟩ _ ⟨rfl, ⟨equal, owned, equalPointer, holds⟩ | ⟨failed, equal⟩⟩
  · cases equal
    cases equalPointer
    rw [add_zero]
    exact succeeds owned holds
  · cases equal
    rw [add_zero, blocksOf_none, zero_add]
    exact fails code failed

/-- A function of the C interface that returns a string or nothing. -/
theorem manages_returned_bind {function : CFunction Returned}
    {next : Option (Owned CStr) → LuaMethod α}
    (continues : ∀ pointer,
      Manages rely objects (blocksOf .string pointer + given) (next pointer) post) :
    Manages rely objects given (inC (do
      let answered ← call function
      match answered.1 with
      | .text (some text) => intoRawText text
      | _ => return none) >>= next) post := by
  rw [← zero_add given]
  refine manages_inC_bind (yields_returnedText function) ?_
  rintro pointer _ rfl
  rw [add_zero]
  exact continues pointer

theorem manages_freeGiven_bind {pointer : Option (Owned CStr)} {next : Unit → LuaMethod α}
    (continues : Manages rely objects given (next ()) post) :
    Manages rely objects (blocksOf .string pointer + given) (freeGiven pointer >>= next)
      post := by
  cases pointer with
  | none =>
      rw [blocksOf_none, zero_add]
      exact continues
  | some pointer =>
      have gives : Manages rely objects (blocksOf .string (some pointer) + given)
          (freeGiven (some pointer)) (Becomes objects given) :=
        manages_release_bind fun _ => manages_pure ⟨rfl, rfl, rfl⟩
      exact gives.becomes_bind continues

end Rules

/-! ## Messages and strings -/

/-- A failing call returns nil and a message, and leaves what it was given. -/
def EndsWith (objects : List UserData) (given : Multiset (Block CBlock))
    (outcome : Except LuaError (List LuaValue)) (sees : List UserData)
    (left : Multiset (Block CBlock)) : Prop :=
  sees = objects ∧ left = given ∧ ∃ message, outcome = .ok [.nil, message]

theorem manages_pushQrmiError (code : ReturnCode) :
    Manages rely objects given (pushQrmiError code) (EndsWith objects given) := by
  refine manages_returned_bind fun err => ?_
  cases err with
  | none =>
      rw [blocksOf_none, zero_add]
      exact manages_pure ⟨rfl, rfl, _, rfl⟩
  | some err => exact manages_release_bind fun _ => manages_pure ⟨rfl, rfl, _, rfl⟩

/-- The objects and the blocks stay as they are. -/
def Keeps (objects : List UserData) (given : Multiset (Block CBlock))
    (_ : Except LuaError (List LuaValue)) (sees : List UserData)
    (left : Multiset (Block CBlock)) : Prop :=
  sees = objects ∧ left = given

theorem manages_error_keeps (code : ReturnCode) :
    Manages rely objects given (pushQrmiError code) (Keeps objects given) :=
  (manages_pushQrmiError code).mono fun _ _ _ ends => ⟨ends.1, ends.2.1⟩

/-- A method that calls one function and pushes its string. -/
theorem manages_text_bind {qrmi : Owned Nat} {function : CFunction Returned}
    (member : qrmi.block .resource ∈ given) (handsOut : HandsOut rely IsText function) :
    Manages rely objects given
      (inC (withResource qrmi (callForText function)) >>= pushText) (Keeps objects given) := by
  refine manages_handedOut_bind (Yields.withResource (.inr member)
    (yields_callForText handsOut)) ?_ ?_
  · intro code failed
    unfold pushText
    rw [if_pos failed]
    exact manages_error_keeps code
  · intro pointer _
    unfold pushText
    rw [if_neg (not_not_intro rfl)]
    exact manages_release_bind fun _ => manages_pure ⟨rfl, rfl⟩

/-- A method that calls one function and pushes its value. -/
theorem manages_value_bind {β : Type} {qrmi : Owned Nat} {function : CFunction Returned}
    {read : Output → Option β} {push : Option β → LuaValue}
    (member : qrmi.block .resource ∈ given) :
    Manages rely objects given
      (inC (withResource qrmi (callFor read function)) >>= fun answer => pushValue answer push)
      (Keeps objects given) := by
  refine manages_lend_bind (Yields.withResource (.inr member) (yields_callFor _ _)) ?_
  intro answer
  unfold pushValue
  split
  · exact manages_error_keeps _
  · exact manages_pure ⟨rfl, rfl⟩

/-! ## Objects -/

theorem handle_mem_ownedBlocks {object : Nat} {handle : Owned Nat}
    {token : Option (Owned CStr)}
    (found : objects[object]? = some (UserData.resource ⟨some handle, token⟩)) :
    handle.block .resource ∈ ownedBlocks objects := by
  obtain ⟨others, split, -⟩ := ownedBlocks_split found
  rw [split]
  simp [UserData.blocks]

/-- The blocks of a resource and of the other objects. -/
theorem ownedBlocks_resource {object : Nat} {handle : Option (Owned Nat)}
    {token : Option (Owned CStr)}
    (found : objects[object]? = some (UserData.resource ⟨handle, token⟩)) :
    ∃ others, ownedBlocks objects =
        blocksOf .malloc token + (blocksOf .resource handle + others) ∧
      ∀ newHandle newToken,
        ownedBlocks (objects.set object (.resource ⟨newHandle, newToken⟩)) =
          blocksOf .malloc newToken + (blocksOf .resource newHandle + others) := by
  obtain ⟨others, split, changed⟩ := ownedBlocks_split found
  refine ⟨others, ?_, fun newHandle newToken => ?_⟩
  · rw [split, UserData.blocks, add_assoc, add_left_comm]
  · rw [changed, UserData.blocks, add_assoc, add_left_comm]

/-- The live blocks are those of the objects again. -/
def Settles (_ : Except LuaError (List LuaValue)) (sees : List UserData)
    (left : Multiset (Block CBlock)) : Prop :=
  left = ownedBlocks sees

theorem settles_of_keeps {method : LuaMethod (List LuaValue)}
    (manages : Manages rely objects (ownedBlocks objects) method
      (Keeps objects (ownedBlocks objects))) :
    Manages rely objects (ownedBlocks objects) method Settles :=
  manages.mono fun _ _ _ keeps => by
    obtain ⟨rfl, rfl⟩ := keeps
    rfl

/-- A method of a resource begins with its check. -/
theorem manages_checkResource_bind {arguments : List LuaValue}
    {next : CheckedResource → LuaMethod (List LuaValue)}
    (continues : ∀ ud : CheckedResource, argument arguments 1 = some (.userdata ud.object) →
      objects[ud.object]? = some (UserData.resource ⟨some ud.handle, ud.acquisitionToken⟩) →
        Manages rely objects (ownedBlocks objects) (next ud) Settles) :
    Manages rely objects (ownedBlocks objects) (checkResource arguments >>= next) Settles :=
  manages_check_bind (checks_checkResource _) (fun _ => rfl)
    fun ud valid => continues ud valid.1 valid.2

theorem manages_checkString_bind {index : Int} {value : Option LuaValue}
    {next : CStr → LuaMethod (List LuaValue)}
    (continues : ∀ text,
      Manages rely objects (ownedBlocks objects) (next text) Settles) :
    Manages rely objects (ownedBlocks objects) (checkString index value >>= next) Settles :=
  manages_check_bind (checks_checkString _ _) (fun _ => rfl) fun text _ => continues text

/-! ## Methods of resources -/

theorem settles_lIsAccessible (arguments : List LuaValue) :
    Manages rely objects (ownedBlocks objects) (lIsAccessible arguments) Settles :=
  manages_checkResource_bind fun _ _ found =>
    settles_of_keeps (manages_value_bind (handle_mem_ownedBlocks found))

theorem settles_lResourceId (arguments : List LuaValue) :
    Manages rely objects (ownedBlocks objects) (lResourceId arguments) Settles :=
  manages_checkResource_bind fun _ _ found =>
    settles_of_keeps (manages_text_bind (handle_mem_ownedBlocks found) handsOut_text)

theorem settles_lTarget (arguments : List LuaValue) :
    Manages rely objects (ownedBlocks objects) (lTarget arguments) Settles :=
  manages_checkResource_bind fun _ _ found =>
    settles_of_keeps (manages_text_bind (handle_mem_ownedBlocks found) handsOut_text)

theorem settles_lTaskStatus (arguments : List LuaValue) :
    Manages rely objects (ownedBlocks objects) (lTaskStatus arguments) Settles :=
  manages_checkResource_bind fun _ _ found => manages_checkString_bind fun _ =>
    settles_of_keeps (manages_value_bind (handle_mem_ownedBlocks found))

theorem settles_lTaskResult (arguments : List LuaValue) :
    Manages rely objects (ownedBlocks objects) (lTaskResult arguments) Settles :=
  manages_checkResource_bind fun _ _ found => manages_checkString_bind fun _ =>
    settles_of_keeps (manages_text_bind (handle_mem_ownedBlocks found)
      (handsOut_callTaskMethod fun _ => handsOut_orFail handsOut_succeedWithText))

theorem settles_lTaskLogs (arguments : List LuaValue) :
    Manages rely objects (ownedBlocks objects) (lTaskLogs arguments) Settles :=
  manages_checkResource_bind fun _ _ found => manages_checkString_bind fun _ =>
    settles_of_keeps (manages_text_bind (handle_mem_ownedBlocks found)
      (handsOut_callTaskMethod fun _ => handsOut_orFail handsOut_succeedWithText))

theorem settles_lTaskStop (arguments : List LuaValue) :
    Manages rely objects (ownedBlocks objects) (lTaskStop arguments) Settles := by
  refine manages_checkResource_bind fun ud _ found => manages_checkString_bind fun taskId => ?_
  refine manages_lend_bind (Yields.withResource (.inr (handle_mem_ownedBlocks found))
    ((yields_call_any _).bind fun _ _ kept => yields_pure kept)) fun stopped => ?_
  refine settles_of_keeps ?_
  unfold pushValue
  split
  · exact manages_error_keeps _
  · exact manages_pure ⟨rfl, rfl⟩

theorem settles_lTaskStart (runtime : LuaRuntime) (arguments : List LuaValue) :
    Manages rely objects (ownedBlocks objects) (lTaskStart runtime arguments) Settles := by
  refine manages_checkResource_bind fun ud _ found => ?_
  refine manages_check_bind (checks_checkTable _ _) (fun _ => rfl) fun entries _ => ?_
  split
  · exact manages_pure rfl
  · rename_i read isRead
    refine manages_check_bind (checks_of_findVariant isRead) (fun _ => rfl) fun payload _ => ?_
    refine settles_of_keeps (manages_text_bind (handle_mem_ownedBlocks found) ?_)
    unfold CFunction.qrmiResourceTaskStart
    dsimp only
    rw [if_neg (by decide)]
    split
    · exact handsOut_fail _
    · exact handsOut_text

/-- The release of a token that is cached or given. -/
theorem manages_release_token_bind {qrmi : Owned Nat} {token : CStr}
    {next : ReturnCode → LuaMethod α}
    {post : Except LuaError α → List UserData → Multiset (Block CBlock) → Prop}
    (member : qrmi.block .resource ∈ given)
    (continues : ∀ code, Manages rely objects given (next code) post) :
    Manages rely objects given (inC (qrmiResourceRelease qrmi token) >>= next) post :=
  manages_lend_bind (Yields.withResource (.inr member)
    ((yields_call_any _).bind fun _ _ kept => yields_pure kept)) continues

theorem settles_acquireNew {runtime : LuaRuntime} {ud : CheckedResource}
    (found : objects[ud.object]? = some (UserData.resource ⟨some ud.handle, none⟩)) :
    Manages rely objects (ownedBlocks objects) (acquireNew runtime ud) Settles := by
  refine manages_handedOut_bind (Yields.withResource (.inr (handle_mem_ownedBlocks found))
    (yields_callForText handsOut_text)) ?_ ?_
  · intro code failed
    rw [if_pos failed]
    exact settles_of_keeps (manages_error_keeps code)
  · intro token _
    rw [if_neg (not_not_intro rfl)]
    refine manages_strdup_bind fun copy _ => manages_setObject_bind ?_
    obtain ⟨others, divided, changed⟩ := ownedBlocks_resource found
    rw [add_left_comm]
    refine manages_release_bind fun _ => manages_pure ?_
    rw [Settles, changed, divided, blocksOf_none, zero_add]

theorem manages_dropCached {ud : CheckedResource} {token : Owned CStr}
    (found : objects[ud.object]? = some (UserData.resource ⟨some ud.handle, some token⟩)) :
    Manages rely objects (ownedBlocks objects) (dropCached ud token) fun outcome sees left =>
      (∃ released, outcome = .ok released) ∧
        sees = objects.set ud.object (.resource ⟨some ud.handle, none⟩) ∧
          left = ownedBlocks sees := by
  obtain ⟨others, divided, changed⟩ := ownedBlocks_resource found
  refine manages_borrow_bind (by rw [divided]; simp) ?_
  refine manages_release_token_bind (handle_mem_ownedBlocks found) fun released => ?_
  rw [divided]
  refine manages_free_bind (manages_setObject_bind (manages_pure ⟨⟨_, rfl⟩, rfl, ?_⟩))
  rw [changed, blocksOf_none, zero_add]

theorem settles_lAcquire (runtime : LuaRuntime) (arguments : List LuaValue) :
    Manages rely objects (ownedBlocks objects) (lAcquire runtime arguments) Settles := by
  refine manages_checkResource_bind fun ud _ found => ?_
  split
  · rename_i none_cached
    rw [none_cached] at found
    exact settles_acquireNew found
  · rename_i token cached
    rw [cached] at found
    refine Transfers.bind (manages_dropCached found) ?_ ?_
    · rintro released _ _ ⟨-, rfl, rfl⟩
      split
      · exact settles_of_keeps (manages_error_keeps _)
      · exact settles_acquireNew
          (List.getElem?_set_self (List.getElem?_eq_some_iff.mp found).1)
    · rintro _ _ _ ⟨⟨_, equal⟩, -⟩
      cases equal

theorem manages_tokenToRelease {ud : CheckedResource} (given : Option CStr)
    (found : objects[ud.object]? =
      some (UserData.resource ⟨some ud.handle, ud.acquisitionToken⟩)) :
    Manages rely objects (ownedBlocks objects) (tokenToRelease ud given)
      fun outcome sees left => (∃ token, outcome = .ok token) ∧ sees = objects ∧
        left = ownedBlocks objects := by
  unfold tokenToRelease
  split
  · exact manages_pure ⟨⟨_, rfl⟩, rfl, rfl⟩
  · rename_i cached isCached
    rw [isCached] at found
    obtain ⟨others, divided, -⟩ := ownedBlocks_resource found
    exact manages_borrow_bind (by rw [divided]; simp) (manages_pure ⟨⟨_, rfl⟩, rfl, rfl⟩)
  · exact manages_pure ⟨⟨_, rfl⟩, rfl, rfl⟩

theorem settles_lRelease (arguments : List LuaValue) :
    Manages rely objects (ownedBlocks objects) (lRelease arguments) Settles := by
  refine manages_checkResource_bind fun ud _ found => ?_
  refine manages_check_bind (checks_optString _ _ _) (fun _ => rfl) fun given _ => ?_
  refine Transfers.bind (manages_tokenToRelease given found) ?_ ?_
  · rintro token _ _ ⟨-, rfl, rfl⟩
    cases token with
    | none => exact manages_pure rfl
    | some token =>
        refine manages_release_token_bind (handle_mem_ownedBlocks found) fun released => ?_
        split
        · exact settles_of_keeps (manages_error_keeps _)
        · obtain ⟨others, divided, changed⟩ := ownedBlocks_resource found
          rw [divided]
          refine manages_free_bind (manages_setObject_bind (manages_pure ?_))
          rw [Settles, changed, blocksOf_none, zero_add]
  · rintro _ _ _ ⟨⟨_, equal⟩, -⟩
    cases equal

theorem settles_lDetach (arguments : List LuaValue) :
    Manages rely objects (ownedBlocks objects) (lDetach arguments) Settles := by
  refine manages_checkResource_bind fun ud _ found => ?_
  split
  · exact manages_pure rfl
  · rename_i token cached
    rw [cached] at found
    obtain ⟨others, divided, changed⟩ := ownedBlocks_resource found
    rw [divided]
    refine manages_free_bind (manages_setObject_bind (manages_pure ?_))
    rw [Settles, changed, blocksOf_none, zero_add]

/-! ## Descriptions -/

/-- Every event but an answer of empty metadata. -/
def HasMetadata (event : Event Invocation.Answer) : Prop :=
  ∀ handle, event ≠ ⟨.resource handle .metadata, ([] : List (Text × Text))⟩

theorem manages_pushEntries {metadata : Owned (List (Text × Text))} {keys : List (Owned CStr)}
    (entries : List (LuaValue × LuaValue)) (member : metadata.block .metadata ∈ given)
    (members : ∀ key ∈ keys, key.block .string ∈ given) :
    Manages rely objects given (pushEntries (some metadata) keys entries)
      fun outcome sees left => (∃ table, outcome = .ok table) ∧ sees = objects ∧
        left = given := by
  induction keys generalizing entries with
  | nil => exact manages_pure ⟨⟨_, rfl⟩, rfl, rfl⟩
  | cons key rest ih =>
      rw [← zero_add given]
      refine manages_inC_bind (yields_qrmiResourceMetadataValue member
        (members _ (List.mem_cons_self ..))) ?_
      rintro value _ rfl
      rw [add_zero]
      refine manages_freeGiven_bind ?_
      rw [zero_add]
      exact ih _ fun key isRest => members key (List.mem_cons_of_mem _ isRest)

theorem string_mem_stringBlocks {strings : List (Owned CStr)} {string : Owned CStr}
    (member : string ∈ strings) : string.block .string ∈ stringBlocks strings :=
  Multiset.mem_coe.mpr (List.mem_map_of_mem member)

theorem settles_lMetadata {arguments : List LuaValue}
    (relies : ∀ event, rely event → HasMetadata event) :
    Manages rely objects (ownedBlocks objects) (lMetadata arguments) Settles := by
  refine manages_checkResource_bind fun ud _ found => settles_of_keeps ?_
  have handsOut : HandsOut rely (fun output => ∃ value,
      metadataOf output = some value ∧ value ≠ [])
      (CFunction.qrmiResourceMetadata (some ud.handle.value) true) := by
    refine handsOut_invoke fun answer relied => handsOut_succeedWith ⟨answer, rfl, ?_⟩
    rintro rfl
    exact relies _ relied _ rfl
  refine manages_handedOut_bind (Yields.withResource (.inr (handle_mem_ownedBlocks found))
    (yields_callForObject handsOut)) ?_ ?_
  · intro code failed
    unfold pushMetadata
    rw [if_pos failed]
    exact manages_error_keeps code
  · intro metadata nonempty
    unfold pushMetadata
    rw [if_neg (not_not_intro rfl), ← zero_add (blocksOf _ _ + _)]
    have isLent : metadata.block .metadata ∈
        blocksOf .metadata (some metadata) + ownedBlocks objects := by simp
    refine manages_inC_bind (yields_qrmiResourceMetadataKeys nonempty (.inr isLent)) ?_
    rintro ⟨code, _⟩ _ ⟨pointer, rfl, rfl⟩
    rw [add_zero]
    have freed : Yields rely (blocksOf .metadata (some metadata) + ownedBlocks objects)
        ({pointer.block .strings} + stringBlocks pointer.value)
        (qrmiStringArrayFree (.array pointer) : CMemory LuaError _)
        fun _ left => left = 0 := by
      rw [← add_zero ({pointer.block .strings} + stringBlocks pointer.value)]
      exact yields_qrmiStringArrayFree pointer
    refine Transfers.bind (manages_pushEntries [] (by simp) fun key member => ?_) ?_ ?_
    · exact Multiset.mem_add.mpr (.inl (Multiset.mem_add.mpr
        (.inr (string_mem_stringBlocks member))))
    · rintro table _ _ ⟨-, rfl, rfl⟩
      refine manages_inC_bind freed ?_
      rintro code _ rfl
      rw [zero_add]
      exact manages_release_bind fun _ => manages_pure ⟨rfl, rfl⟩
    · rintro _ _ _ ⟨⟨_, equal⟩, -⟩
      cases equal

/-- A reader of a status. -/
theorem manages_status_bind {β : Type} {status : Owned CResourceStatus}
    {read : Output → Option β} {function : Option CResourceStatus → CFunction Returned}
    {next : ReturnCode × Option β → LuaMethod α}
    {post : Except LuaError α → List UserData → Multiset (Block CBlock) → Prop}
    (continues : ∀ answer,
      Manages rely objects (blocksOf .status (some status) + given) (next answer) post) :
    Manages rely objects (blocksOf .status (some status) + given)
      (inC (withStatus (some status) fun status => callFor read (function status)) >>= next)
      post :=
  manages_lend_bind (Yields.withStatus (fun _ member => .inr (Multiset.mem_add.mpr (.inl member)))
    (yields_callFor _ _)) continues

theorem manages_pushCapacity {status : Owned CResourceStatus} :
    Manages rely objects (blocksOf .status (some status) + given) (pushCapacity (some status))
      fun outcome sees left => (∃ value, outcome = .ok value) ∧ sees = objects ∧
        left = blocksOf .status (some status) + given := by
  have handsOut : HandsOut rely (fun output => ∃ value,
      capacityOf output = some value ∧ True)
      (CFunction.qrmiResourceStatusCapacity (some status.value) true) := by
    unfold CFunction.qrmiResourceStatusCapacity CFunction.readStatus CFunction.reported
    dsimp only
    rw [if_neg (by decide)]
    split
    · exact handsOut_succeedWith ⟨_, rfl, trivial⟩
    · exact handsOut_fail _
  refine manages_handedOut_bind (Yields.withStatus
    (fun _ member => .inr (Multiset.mem_add.mpr (.inl member)))
    (yields_callForObject handsOut)) ?_ ?_
  · intro code failed
    rw [if_pos failed]
    exact manages_pure ⟨⟨_, rfl⟩, rfl, rfl⟩
  · intro capacity _
    rw [if_neg (not_not_intro rfl)]
    refine manages_borrow_bind (by simp) ?_
    exact manages_release_bind fun _ => manages_pure ⟨⟨_, rfl⟩, rfl, rfl⟩

theorem settles_lStatus (arguments : List LuaValue) :
    Manages rely objects (ownedBlocks objects) (lStatus arguments) Settles := by
  refine manages_checkResource_bind fun ud _ found => settles_of_keeps ?_
  have handsOut : HandsOut rely (fun output => ∃ value,
      statusOf output = some value ∧ True)
      (CFunction.qrmiResourceStatus (some ud.handle.value) true) :=
    handsOut_invoke fun answer _ => handsOut_orFail
      (fun value => handsOut_succeedWith ⟨value, rfl, trivial⟩) answer
  refine manages_handedOut_bind (Yields.withResource (.inr (handle_mem_ownedBlocks found))
    (yields_callForObject handsOut)) ?_ ?_
  · intro code failed
    rw [if_pos failed]
    exact manages_error_keeps code
  · intro status _
    rw [if_neg (not_not_intro rfl)]
    refine manages_status_bind fun code => ?_
    split
    · exact manages_release_bind fun _ => manages_error_keeps _
    have codeText (code : ResourceStatusCode) :
        Yields rely (blocksOf .status (some status) + ownedBlocks objects) 0
          (qrmiResourceStatusCodeToString code : CMemory LuaError _)
          fun _ left => left = 0 := by
      refine (yields_call_any _).bind ?_
      rintro answered _ rfl
      split <;> exact yields_pure rfl
    refine manages_lend_bind (codeText _) fun codeText => ?_
    rw [← zero_add (blocksOf _ _ + _)]
    refine manages_inC_bind (Yields.withStatus
      (fun _ member => .inr (Multiset.mem_add.mpr (.inl member))) (yields_returnedText _)) ?_
    rintro reason _ rfl
    rw [add_zero]
    refine manages_freeGiven_bind ?_
    refine manages_status_bind fun busy => manages_status_bind fun healthy =>
      manages_status_bind fun pending => ?_
    refine Transfers.bind manages_pushCapacity ?_ ?_
    · rintro capacity _ _ ⟨-, rfl, rfl⟩
      exact manages_release_bind fun _ => manages_pure ⟨rfl, rfl⟩
    · rintro _ _ _ ⟨⟨_, equal⟩, -⟩
      cases equal

/-! ## The end of objects -/

theorem settles_lResourceFree (arguments : List LuaValue) :
    Manages rely objects (ownedBlocks objects) (lResourceFree arguments) Settles := by
  refine manages_check_bind (checks_checkUserdata _ _ _) (fun _ => rfl) fun found valid => ?_
  obtain ⟨object, handle, token⟩ := found
  have isHere := resourceOf_eq_some valid.2
  dsimp only at isHere
  cases handle with
  | none => exact manages_pure rfl
  | some handle =>
      obtain ⟨others, divided, changed⟩ := ownedBlocks_resource isHere
      have released : Manages rely objects (ownedBlocks objects) (releaseCached handle token)
          (Becomes objects (blocksOf .resource (some handle) + others)) := by
        cases token with
        | none => exact manages_pure ⟨rfl, rfl, by rw [divided, blocksOf_none, zero_add]⟩
        | some token =>
            refine manages_borrow_bind (by rw [divided]; simp) ?_
            refine manages_release_token_bind (handle_mem_ownedBlocks isHere) fun _ => ?_
            rw [divided]
            exact transfers_giveBack
      have freed : Manages rely objects (ownedBlocks objects)
          (releaseResource object ⟨some handle, token⟩)
          (Becomes (objects.set object (.resource ⟨none, none⟩)) others) := by
        refine released.becomes_bind (manages_release_bind fun _ => ?_)
        rintro frame before trace result after rfl within live executes relies
        obtain ⟨-, rfl, rfl⟩ := executes_modify_iff.mp executes
        exact ⟨.ok (), others, rfl, ⟨rfl, rfl, rfl⟩, live⟩
      refine freed.becomes_bind (manages_pure ?_)
      rw [Settles, changed, blocksOf_none, blocksOf_none, zero_add, zero_add]

theorem settles_lConfigFree (arguments : List LuaValue) :
    Manages rely objects (ownedBlocks objects) (lConfigFree arguments) Settles := by
  refine manages_check_bind (checks_checkUserdata _ _ _) (fun _ => rfl) fun found valid => ?_
  obtain ⟨object, ⟨handle⟩⟩ := found
  have isHere := configOf_eq_some valid.2
  dsimp only at isHere
  cases handle with
  | none => exact manages_pure rfl
  | some handle =>
      obtain ⟨others, divided, changed⟩ := ownedBlocks_split isHere
      have freed : Manages rely objects (ownedBlocks objects)
          (releaseConfig object ⟨some handle⟩)
          (Becomes (objects.set object (.config ⟨none⟩)) others) := by
        rw [divided]
        refine manages_release_bind fun _ => ?_
        rintro frame before trace result after rfl within live executes relies
        obtain ⟨-, rfl, rfl⟩ := executes_modify_iff.mp executes
        exact ⟨.ok (), others, rfl, ⟨rfl, rfl, rfl⟩, live⟩
      refine freed.becomes_bind (manages_pure ?_)
      rw [Settles, changed, UserData.blocks, blocksOf_none, zero_add]

/-! ## Names that are left behind -/

/-- Some strings that nothing refers to. -/
def Stranded (leaked : Multiset (Block CBlock)) : Prop :=
  ∀ block ∈ leaked, block.kind = .string

theorem stranded_zero : Stranded 0 := by
  rintro _ ⟨⟩

theorem stranded_add {first second : Multiset (Block CBlock)} (one : Stranded first)
    (other : Stranded second) : Stranded (first + second) := by
  intro block member
  rcases Multiset.mem_add.mp member with inFirst | inSecond
  · exact one block inFirst
  · exact other block inSecond

theorem stranded_blocksOf {α : Type} (pointer : Option (Owned α)) :
    Stranded (blocksOf .string pointer) := by
  cases pointer with
  | none => exact stranded_zero
  | some pointer =>
      intro block member
      rw [Multiset.mem_singleton.mp member]
      rfl

/-- The live blocks are those of the objects and some stranded strings: at most a limit,
and a known number after a call that returns one value. -/
def Strands (limit exact : Nat) (outcome : Except LuaError (List LuaValue))
    (sees : List UserData) (left : Multiset (Block CBlock)) : Prop :=
  ∃ leaked, left = leaked + ownedBlocks sees ∧ Stranded leaked ∧ leaked.card ≤ limit ∧
    ∀ value, outcome = .ok [value] → leaked.card = exact

theorem strands_of_settles {outcome : Except LuaError (List LuaValue)}
    {left : Multiset (Block CBlock)} (settles : Settles outcome objects left) :
    Strands 0 0 outcome objects left :=
  ⟨0, settles.trans (zero_add _).symm, stranded_zero, le_rfl, fun _ _ => rfl⟩

/-- A method that fails before it strands anything. -/
theorem strands_failure {limit exact : Nat} {outcome : Except LuaError (List LuaValue)}
    (fails : ∀ value, outcome ≠ .ok [value]) :
    Strands limit exact outcome objects (ownedBlocks objects) :=
  ⟨0, (zero_add _).symm, stranded_zero, Nat.zero_le _, fun value equal =>
    absurd equal (fails value)⟩

theorem strands_error {limit exact : Nat} (error : LuaError) :
    Strands limit exact (.error error) objects (ownedBlocks objects) :=
  strands_failure nofun

theorem manages_typeToStr_bind {resourceType : ResourceType}
    {next : Option (Owned CStr) → LuaMethod α}
    {post : Except LuaError α → List UserData → Multiset (Block CBlock) → Prop}
    (continues : ∀ name : Owned CStr, name.value.bytes = Text.utf8 resourceType.asStr →
      Manages rely objects ({name.block .string} + given) (next (some name)) post) :
    Manages rely objects given
      (inC (qrmiConfigResourceTypeToStr resourceType) >>= next) post := by
  rw [← zero_add given]
  refine manages_inC_bind (yields_qrmiConfigResourceTypeToStr resourceType) ?_
  rintro _ _ ⟨name, rfl, spelled, rfl⟩
  rw [add_zero]
  exact continues name spelled

theorem strands_lResourceType (arguments : List LuaValue) :
    Manages rely objects (ownedBlocks objects) (lResourceType arguments) (Strands 1 1) := by
  refine manages_check_bind (checks_checkResource _) strands_error fun ud valid => ?_
  have handsOut : HandsOut rely (fun output => ∃ value,
      resourceTypeOf output = some value ∧ True)
      (CFunction.qrmiResourceType (some ud.handle.value) true) :=
    handsOut_invoke fun answer _ => handsOut_orFail
      (fun value => handsOut_succeedWith ⟨value, rfl, trivial⟩) answer
  rw [← zero_add (ownedBlocks objects)]
  refine manages_inC_bind (Yields.withResource (.inr (handle_mem_ownedBlocks valid.2))
    (yields_callFor_of_handsOut handsOut)) ?_
  rintro ⟨code, resourceType⟩ _ ⟨rfl, ⟨rfl, found, rfl, -⟩ | ⟨failed, rfl⟩⟩
  · rw [if_neg (not_not_intro rfl), zero_add]
    have names : Manages rely objects (ownedBlocks objects) (pushTypeName (some found))
        fun outcome sees left => (∃ value, outcome = .ok value) ∧ sees = objects ∧
          ∃ name : Owned CStr, left = {name.block .string} + ownedBlocks objects :=
      manages_typeToStr_bind fun name _ => manages_pure ⟨⟨_, rfl⟩, rfl, name, rfl⟩
    refine Transfers.bind names ?_ ?_
    · rintro _ _ _ ⟨-, rfl, name, rfl⟩
      exact manages_pure ⟨_, rfl, stranded_blocksOf (some name), le_rfl, fun _ _ => rfl⟩
    · rintro _ _ _ ⟨⟨_, equal⟩, -⟩
      cases equal
  · rw [if_pos failed, zero_add]
    refine (manages_pushQrmiError code).mono ?_
    rintro _ _ _ ⟨rfl, rfl, message, rfl⟩
    exact strands_failure nofun

/-- The names that are handed out until one of them is found. -/
def namesCompared (text : CStr) : List ResourceType → Nat
  | [] => 0
  | resourceType :: rest =>
      if Text.utf8 resourceType.asStr = text.bytes then 1 else namesCompared text rest + 1

theorem namesCompared_le (text : CStr) (types : List ResourceType) :
    namesCompared text types ≤ types.length := by
  induction types with
  | nil => exact le_rfl
  | cons resourceType rest ih =>
      unfold namesCompared
      split
      · exact Nat.le_add_left _ _
      · exact Nat.succ_le_succ ih

/-- The search leaves each name behind that it compares. -/
theorem manages_resourceTypeFromString (text : CStr) (types : List ResourceType) :
    Manages rely objects given (resourceTypeFromString text types)
      fun outcome sees left => (∃ found, outcome = .ok found) ∧ sees = objects ∧
        ∃ leaked, left = leaked + given ∧ Stranded leaked ∧
          leaked.card = namesCompared text types := by
  induction types generalizing given with
  | nil => exact manages_pure ⟨⟨_, rfl⟩, rfl, 0, (zero_add _).symm, stranded_zero, rfl⟩
  | cons resourceType rest ih =>
      refine manages_typeToStr_bind fun name spelled => ?_
      have compared : (some name).map (fun name => name.value.bytes) = some text.bytes ↔
          Text.utf8 resourceType.asStr = text.bytes := by
        rw [Option.map_some, spelled, Option.some.injEq]
      unfold namesCompared
      by_cases same : Text.utf8 resourceType.asStr = text.bytes
      · rw [if_pos (compared.mpr same), if_pos same]
        exact manages_pure ⟨⟨_, rfl⟩, rfl, _, rfl, stranded_blocksOf (some name), rfl⟩
      · rw [if_neg (mt compared.mp same), if_neg same]
        refine ih.mono ?_
        rintro _ _ _ ⟨returns, rfl, leaked, rfl, stranded, card⟩
        refine ⟨returns, rfl, leaked + {name.block .string}, (add_assoc _ _ _).symm,
          stranded_add stranded (stranded_blocksOf (some name)), ?_⟩
        rw [Multiset.card_add, card, Multiset.card_singleton]

/-- The names that a function compares the type with that it is given. -/
def namesOf (arguments : List LuaValue) : Nat :=
  (stringOf (argument arguments 2)).elim 0 fun text => namesCompared text allResourceTypes

/-- The end of a function that could not create an object. -/
theorem strands_of_null {limit exact : Nat} {leaked : Multiset (Block CBlock)}
    {results : Option (Owned CStr) → List LuaValue} (stranded : Stranded leaked)
    (bounded : leaked.card ≤ limit) (fails : ∀ err value, results err ≠ [value]) :
    Manages rely objects (leaked + ownedBlocks objects) (do
      let err ← inC qrmiGetLastError
      freeGiven err
      return results err) (Strands limit exact) := by
  refine manages_returned_bind fun err => manages_freeGiven_bind (manages_pure ?_)
  exact ⟨leaked, rfl, stranded, bounded, fun value equal =>
    absurd (Except.ok.inj equal) (fails err value)⟩

theorem ownedBlocks_created {handle : Owned Nat} {leaked : Multiset (Block CBlock)} :
    blocksOf .resource (some handle) + (leaked + ownedBlocks objects) =
      leaked + ownedBlocks (objects ++ [.resource ⟨some handle, none⟩]) := by
  rw [ownedBlocks_append, UserData.blocks, blocksOf_none, add_zero, add_left_comm]

/-- The end of a function that has created a resource. -/
theorem strands_of_created {limit exact : Nat} {leaked : Multiset (Block CBlock)}
    {handle : Owned Nat} (stranded : Stranded leaked) (card : leaked.card = exact)
    (bounded : exact ≤ limit) :
    Manages rely objects (blocksOf .resource (some handle) + (leaked + ownedBlocks objects))
      (do
        let object ← newUserdata (.resource ⟨some handle, none⟩)
        return [object]) (Strands limit exact) := by
  refine manages_newUserdata_bind fun value => manages_pure ?_
  exact ⟨leaked, ownedBlocks_created, stranded, card.trans_le bounded, fun _ _ => card⟩

theorem strands_lQrmiNew (arguments : List LuaValue) :
    Manages rely objects (ownedBlocks objects) (lQrmiNew arguments)
      (Strands 9 (namesOf arguments)) := by
  refine manages_check_bind (checks_checkString _ _) strands_error fun resourceId _ => ?_
  refine manages_check_bind (checks_checkString _ _) strands_error fun typeStr isType => ?_
  have names : namesOf arguments = namesCompared typeStr allResourceTypes := by
    rw [namesOf, isType]
    rfl
  have bounded : namesOf arguments ≤ 9 := names.trans_le (namesCompared_le _ _)
  refine Transfers.bind (manages_resourceTypeFromString typeStr allResourceTypes) ?_ ?_
  · rintro found _ _ ⟨-, rfl, leaked, rfl, stranded, card⟩
    rw [← names] at card
    cases found with
    | none => exact manages_pure ⟨leaked, rfl, stranded, card.trans_le bounded, nofun⟩
    | some resourceType =>
        rw [← zero_add (leaked + _)]
        refine manages_inC_bind (yields_callForResource _) ?_
        rintro handle _ rfl
        rw [add_zero]
        cases handle with
        | none =>
            rw [blocksOf_none, zero_add]
            exact strands_of_null stranded (card.trans_le bounded) nofun
        | some handle => exact strands_of_created stranded card bounded
  · rintro _ _ _ ⟨⟨_, equal⟩, -⟩
    cases equal

/-! ### Pairs of a configuration -/

/-- The blocks of the strings of some pairs. -/
def entriesBlocks (entries : List (Option (Owned CStr) × Option (Owned CStr))) :
    Multiset (Block CBlock) :=
  (entries.map fun entry => blocksOf .malloc entry.1 + blocksOf .malloc entry.2).sum

theorem entriesBlocks_append (entries : List (Option (Owned CStr) × Option (Owned CStr)))
    (key value : Option (Owned CStr)) :
    entriesBlocks (entries ++ [(key, value)]) =
      blocksOf .malloc value + (blocksOf .malloc key + entriesBlocks entries) := by
  simp only [entriesBlocks, List.map_append, List.map_singleton, List.sum_append,
    List.sum_singleton]
  rw [add_comm, add_comm (blocksOf _ key), add_assoc]

/-- The blocks of an array and of its strings. -/
def ConfigPairs.blocks (pairs : ConfigPairs) : Multiset (Block CBlock) :=
  {pairs.array} + entriesBlocks pairs.entries

theorem manages_freeEntries (entries : List (Option (Owned CStr) × Option (Owned CStr))) :
    Manages rely objects (entriesBlocks entries + given) (freeEntries entries)
      (Becomes objects given) := by
  induction entries with
  | nil => exact manages_pure ⟨rfl, rfl, zero_add _⟩
  | cons entry rest ih =>
      have divided : entriesBlocks (entry :: rest) + given =
          blocksOf .malloc entry.1 +
            (blocksOf .malloc entry.2 + (entriesBlocks rest + given)) := by
        rw [entriesBlocks, List.map_cons, List.sum_cons, add_assoc, add_assoc]
        rfl
      rw [divided]
      exact manages_free_bind (manages_free_bind ih)

theorem manages_freeConfigPairs (pairs : ConfigPairs) :
    Manages rely objects (pairs.blocks + given) (freeConfigPairs (some pairs))
      (Becomes objects given) := by
  have divided : pairs.blocks + given =
      entriesBlocks pairs.entries + ({pairs.array} + given) := by
    rw [ConfigPairs.blocks, add_assoc, add_left_comm]
  rw [divided]
  exact (manages_freeEntries pairs.entries).becomes_bind transfers_giveBack

/-- The blocks of pairs that there may be none of. -/
def pairsBlocks (pairs : Option ConfigPairs) : Multiset (Block CBlock) :=
  pairs.elim 0 ConfigPairs.blocks

/-- What is left of building the pairs: they exist, or an error is raised without them. -/
def Builds {α : Type} (seen : List UserData) (kept : Multiset (Block CBlock))
    (blocks : α → Multiset (Block CBlock)) (outcome : Except LuaError α)
    (sees : List UserData) (left : Multiset (Block CBlock)) : Prop :=
  sees = seen ∧ ((∃ pairs, outcome = .ok pairs ∧ left = blocks pairs + kept) ∨
    (∃ error, outcome = .error error) ∧ left = kept)

theorem manages_fillConfigPairs (runtime : LuaRuntime) (pairs : ConfigPairs)
    (entries : List (LuaValue × LuaValue)) :
    Manages rely objects (pairs.blocks + given) (fillConfigPairs runtime pairs entries)
      (Builds objects given ConfigPairs.blocks) := by
  have gives (pairs : ConfigPairs) (text : String) :
      Manages rely objects (pairs.blocks + given)
        (freeConfigPairs (some pairs) >>= fun _ => raise text)
        (Builds objects given ConfigPairs.blocks) :=
    (manages_freeConfigPairs pairs).becomes_bind
      (manages_failed ⟨rfl, .inr ⟨⟨_, rfl⟩, rfl⟩⟩)
  fun_induction fillConfigPairs runtime pairs entries with
  | case1 pairs => exact manages_pure ⟨rfl, .inl ⟨pairs, rfl, rfl⟩⟩
  | case2 pairs key value rest ih =>
      refine manages_strdup_bind fun key _ => manages_strdup_bind fun value _ => ?_
      have filled : blocksOf .malloc value + (blocksOf .malloc key + (pairs.blocks + given)) =
          ConfigPairs.blocks { pairs with entries := pairs.entries ++ [(key, value)] } +
            given := by
        rw [ConfigPairs.blocks, ConfigPairs.blocks, entriesBlocks_append]
        simp only [add_assoc, add_left_comm]
      rw [filled]
      dsimp only
      split
      · exact gives _ _
      · exact ih _ _
  | case3 pairs entry rest _ => exact gives _ _

theorem manages_buildConfigMapFromTable (runtime : LuaRuntime)
    (entries : List (LuaValue × LuaValue)) :
    Manages rely objects given (buildConfigMapFromTable runtime entries)
      (Builds objects given pairsBlocks) := by
  unfold buildConfigMapFromTable
  split
  · exact manages_pure ⟨rfl, .inl ⟨none, rfl, (zero_add _).symm⟩⟩
  · refine Transfers.bind (transfers_tryAllocate _ _) ?_ ?_
    · rintro array _ _ ⟨rfl, ⟨equal, rfl⟩ | ⟨address, equal, rfl⟩⟩
      · cases equal
        exact manages_failed ⟨rfl, .inr ⟨⟨_, rfl⟩, rfl⟩⟩
      · cases equal
        refine Transfers.bind (manages_fillConfigPairs runtime ⟨⟨address, .malloc⟩, []⟩ entries)
          ?_ ?_
        · rintro pairs _ _ ⟨rfl, ⟨_, equal, rfl⟩ | ⟨⟨_, equal⟩, rfl⟩⟩
          · cases equal
            exact manages_pure ⟨rfl, .inl ⟨some pairs, rfl, rfl⟩⟩
          · cases equal
        · rintro _ _ _ ⟨rfl, ⟨_, equal, rfl⟩ | ⟨⟨_, equal⟩, rfl⟩⟩
          · cases equal
          · exact ⟨rfl, .inr ⟨⟨_, rfl⟩, rfl⟩⟩
    · rintro _ _ _ ⟨-, ⟨equal, -⟩ | ⟨_, equal, -⟩⟩
      · cases equal
      · cases equal

/-- Building the pairs of a configuration, and what follows it. -/
theorem manages_pairs_bind {runtime : LuaRuntime} {entries : List (LuaValue × LuaValue)}
    {next : Option ConfigPairs → LuaMethod α}
    {post : Except LuaError α → List UserData → Multiset (Block CBlock) → Prop}
    (fails : ∀ error, post (.error error) objects given)
    (continues : ∀ pairs,
      Manages rely objects (pairsBlocks pairs + given) (next pairs) post) :
    Manages rely objects given (buildConfigMapFromTable runtime entries >>= next) post := by
  refine Transfers.bind (manages_buildConfigMapFromTable runtime entries) ?_ ?_
  · rintro pairs _ _ ⟨rfl, ⟨_, equal, rfl⟩ | ⟨⟨_, equal⟩, rfl⟩⟩
    · cases equal
      exact continues pairs
    · cases equal
  · rintro error _ _ ⟨rfl, ⟨_, equal, rfl⟩ | ⟨-, rfl⟩⟩
    · cases equal
    · exact fails error

theorem manages_freePairs_bind {pairs : Option ConfigPairs} {next : Unit → LuaMethod α}
    {post : Except LuaError α → List UserData → Multiset (Block CBlock) → Prop}
    (continues : Manages rely objects given (next ()) post) :
    Manages rely objects (pairsBlocks pairs + given) (freeConfigPairs pairs >>= next) post := by
  cases pairs with
  | none =>
      change Manages rely objects (0 + given) (next ()) post
      rw [zero_add]
      exact continues
  | some pairs => exact (manages_freeConfigPairs pairs).becomes_bind continues

theorem strands_lQrmiNewFromConfig (runtime : LuaRuntime) (arguments : List LuaValue) :
    Manages rely objects (ownedBlocks objects) (lQrmiNewFromConfig runtime arguments)
      (Strands 10 (namesOf arguments)) := by
  refine manages_check_bind (checks_checkString _ _) strands_error fun resourceId _ => ?_
  refine manages_check_bind (checks_checkString _ _) strands_error fun typeStr isType => ?_
  refine manages_check_bind (checks_checkTable _ _) strands_error fun table _ => ?_
  have names : namesOf arguments = namesCompared typeStr allResourceTypes := by
    rw [namesOf, isType]
    rfl
  have bounded : namesOf arguments ≤ 9 := names.trans_le (namesCompared_le _ _)
  refine Transfers.bind (manages_resourceTypeFromString typeStr allResourceTypes) ?_ ?_
  · rintro found _ _ ⟨-, rfl, leaked, rfl, stranded, card⟩
    rw [← names] at card
    have few : leaked.card ≤ 10 := card.trans_le (bounded.trans (by decide))
    cases found with
    | none => exact manages_pure ⟨leaked, rfl, stranded, few, nofun⟩
    | some resourceType =>
        refine manages_pairs_bind (fun _ => ⟨leaked, rfl, stranded, few, nofun⟩) fun pairs => ?_
        rw [← zero_add (pairsBlocks pairs + _)]
        refine manages_inC_bind (yields_callForResource _) ?_
        rintro handle _ rfl
        rw [add_zero, add_left_comm]
        refine manages_freePairs_bind ?_
        cases handle with
        | none =>
            rw [blocksOf_none, zero_add]
            refine manages_returned_bind fun err => manages_pure ?_
            -- The message is the tenth string.
            refine ⟨blocksOf .string err + leaked, (add_assoc _ _ _).symm,
              stranded_add (stranded_blocksOf err) stranded, ?_, nofun⟩
            rw [Multiset.card_add, card]
            have single : (blocksOf .string err).card ≤ 1 := by
              cases err with
              | none => exact Nat.zero_le _
              | some err => exact le_rfl
            omega
        | some handle => exact strands_of_created stranded card (bounded.trans (by decide))
  · rintro _ _ _ ⟨⟨_, equal⟩, -⟩
    cases equal

/-! ### Configurations -/

theorem settles_lQrmiLoadConfig (arguments : List LuaValue) :
    Manages rely objects (ownedBlocks objects) (lQrmiLoadConfig arguments) Settles := by
  refine manages_checkString_bind fun filename => ?_
  have loads : Yields rely (ownedBlocks objects) 0
      (qrmiConfigLoad filename : CMemory LuaError _)
      fun pointer left => left = blocksOf .config pointer := by
    refine (yields_call_any _).bind ?_
    rintro answered _ rfl
    split
    · refine Yields.map ((yields_intoRaw _ _).mono ?_)
      rintro pointer _ ⟨-, rfl⟩
      exact add_zero _
    · exact yields_pure rfl
  rw [← zero_add (ownedBlocks objects)]
  refine manages_inC_bind loads ?_
  rintro handle _ rfl
  cases handle with
  | none =>
      rw [blocksOf_none, zero_add]
      exact manages_returned_bind fun err => manages_freeGiven_bind (manages_pure rfl)
  | some handle =>
      refine manages_newUserdata_bind fun value => manages_pure ?_
      rw [Settles, ownedBlocks_append]
      rfl

theorem strands_lConfigResourceDef (arguments : List LuaValue) :
    Manages rely objects (ownedBlocks objects) (lConfigResourceDef arguments)
      (Strands 1 1) := by
  refine manages_check_bind (checks_checkConfig _) strands_error fun config valid => ?_
  refine manages_check_bind (checks_checkString _ _) strands_error fun resourceId _ => ?_
  obtain ⟨object, found⟩ := valid
  have member : config.block .config ∈ ownedBlocks objects := by
    obtain ⟨others, divided, -⟩ := ownedBlocks_split found
    rw [divided]
    simp [UserData.blocks]
  have gets : Yields rely (ownedBlocks objects) 0
      (qrmiConfigResourceDefGet config resourceId : CMemory LuaError _)
      fun pointer left => left = blocksOf .resourceDef pointer := by
    refine (yields_borrow (.inr member)).bind ?_
    rintro _ _ rfl
    refine (yields_call_any _).bind ?_
    rintro answered _ rfl
    split
    · refine Yields.map ((yields_intoRaw _ _).mono ?_)
      rintro pointer _ ⟨-, rfl⟩
      exact add_zero _
    · exact yields_pure rfl
  rw [← zero_add (ownedBlocks objects)]
  refine manages_inC_bind gets ?_
  rintro resource _ rfl
  cases resource with
  | none =>
      rw [blocksOf_none]
      exact strands_of_null stranded_zero (Nat.zero_le _) nofun
  | some resource =>
      refine manages_borrow_bind (by simp) ?_
      have names : Manages rely objects
          (blocksOf .resourceDef (some resource) + ownedBlocks objects)
          (pushTypeName (some resource.value.resourceType)) fun outcome sees left =>
            (∃ value, outcome = .ok value) ∧ sees = objects ∧
              ∃ name : Owned CStr, left = {name.block .string} +
                (blocksOf .resourceDef (some resource) + ownedBlocks objects) :=
        manages_typeToStr_bind fun name _ => manages_pure ⟨⟨_, rfl⟩, rfl, name, rfl⟩
      refine Transfers.bind names ?_ ?_
      · rintro typeName _ _ ⟨-, rfl, name, rfl⟩
        rw [add_left_comm]
        refine manages_release_bind fun _ => manages_pure ?_
        exact ⟨_, rfl, stranded_blocksOf (some name), le_rfl, fun _ _ => rfl⟩
      · rintro _ _ _ ⟨⟨_, equal⟩, -⟩
        cases equal

end LuaBinding

/-- The strings that a call of a function leaves behind at most. -/
def LuaFunction.strandLimit : LuaFunction → Nat
  | new => 9
  | newFromConfig => 10
  | type | resourceDef => 1
  | _ => 0

/-- The strings that a call of a function leaves behind if it returns one value. -/
def LuaFunction.strandedNames (arguments : List LuaValue) : LuaFunction → Nat
  | new | newFromConfig => LuaBinding.namesOf arguments
  | type | resourceDef => 1
  | _ => 0

open LuaBinding in
/-- A call does not panic, and it strands names only.  For metadata the answer must not
be empty. -/
theorem LuaFunction.manages_call {rely : Event Invocation.Answer → Prop}
    {objects : List UserData} (runtime : LuaRuntime) (arguments : List LuaValue)
    (function : LuaFunction)
    (relies : function = .metadata → ∀ event, rely event → HasMetadata event) :
    Manages rely objects (ownedBlocks objects) (function.call runtime arguments)
      (Strands function.strandLimit (function.strandedNames arguments)) := by
  have settled {method : LuaMethod (List LuaValue)}
      (settles : Manages rely objects (ownedBlocks objects) method Settles) :
      Manages rely objects (ownedBlocks objects) method (Strands 0 0) :=
    settles.mono fun _ _ _ => strands_of_settles
  cases function with
  | new => exact strands_lQrmiNew _
  | newFromConfig => exact strands_lQrmiNewFromConfig _ _
  | loadConfig => exact settled (settles_lQrmiLoadConfig _)
  | isAccessible => exact settled (settles_lIsAccessible _)
  | status => exact settled (settles_lStatus _)
  | id => exact settled (settles_lResourceId _)
  | type => exact strands_lResourceType _
  | acquire => exact settled (settles_lAcquire _ _)
  | release => exact settled (settles_lRelease _)
  | detach => exact settled (settles_lDetach _)
  | taskStart => exact settled (settles_lTaskStart _ _)
  | taskStatus => exact settled (settles_lTaskStatus _)
  | taskResult => exact settled (settles_lTaskResult _)
  | taskLogs => exact settled (settles_lTaskLogs _)
  | taskStop => exact settled (settles_lTaskStop _)
  | metadata => exact settled (settles_lMetadata (relies rfl))
  | target => exact settled (settles_lTarget _)
  | free | gc => exact settled (settles_lResourceFree _)
  | resourceDef => exact strands_lConfigResourceDef _
  | configFree | configGc => exact settled (settles_lConfigFree _)
