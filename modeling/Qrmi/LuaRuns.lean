import Qrmi.LuaMemory

/-!
# Runs of the Lua binding

A run of a Lua program is a sequence of calls.  As long as no call panics, the live
blocks are those of the objects and the stranded strings, and the next call panics
exactly when it is told that the metadata of a resource is empty.
-/

open Interaction

namespace LuaBinding

open Method CMemory

variable {α β : Type}

/-- Every execution panics, or returns a value as described. -/
def Leads {State : Type}
    (method : Method Invocation Invocation.Answer State (Halt LuaError) α)
    (post : List (Event Invocation.Answer) → α → Prop) : Prop :=
  ∀ ⦃before trace result after⦄, method.Executes before trace result after →
    result = .error .panic ∨ ∃ value, result = .ok value ∧ post trace value

section Leads

variable {State Part : Type} {post : List (Event Invocation.Answer) → α → Prop}
variable {last : List (Event Invocation.Answer) → β → Prop}

theorem leads_pure {value : α} (holds : post [] value) :
    Leads (pure value : Method Invocation Invocation.Answer State (Halt LuaError) α) post := by
  intro before trace result after executes
  obtain ⟨rfl, rfl, rfl⟩ := executes_pure_iff.mp executes
  exact .inr ⟨value, rfl, holds⟩

theorem leads_panic :
    Leads (Method.throw .panic : Method Invocation Invocation.Answer State (Halt LuaError) α)
      post :=
  fun _ _ _ _ executes => .inl (executes_throw_iff.mp executes).2.1

theorem Leads.bind {method : Method Invocation Invocation.Answer State (Halt LuaError) α}
    {next : α → Method Invocation Invocation.Answer State (Halt LuaError) β}
    (first : Leads method post)
    (second : ∀ value earlier, post earlier value →
      Leads (next value) fun later result => last (earlier ++ later) result) :
    Leads (method >>= next) last := by
  intro before trace result after executes
  rcases executes_bind_iff.mp executes with
    ⟨halt, rfl, failed⟩ | ⟨earlier, later, value, middle, rfl, ran, rest⟩
  · rcases first failed with equal | ⟨_, equal, _⟩
    · cases equal
      exact .inl rfl
    · cases equal
  · rcases first ran with equal | ⟨_, equal, holds⟩
    · cases equal
    · cases equal
      exact second value earlier holds rest

theorem Leads.zoom {read : State → Part} {write : State → Part → State}
    {method : Method Invocation Invocation.Answer Part (Halt LuaError) α}
    (leads : Leads method post) : Leads (Method.zoom read write method) post := by
  intro before trace result after executes
  obtain ⟨part, -, ran⟩ := executes_zoom_iff.mp executes
  exact leads ran

end Leads

theorem leads_inC {function : CMemory LuaError α}
    {post : List (Event Invocation.Answer) → α → Prop} (leads : Leads function post) :
    Leads (inC function) post := by
  unfold inC onPart
  exact leads.zoom

theorem leads_self {State : Type} :
    Leads (Method.self : Method Invocation Invocation.Answer State (Halt LuaError) State)
      fun trace _ => trace = [] := by
  intro before trace result after executes
  obtain ⟨rfl, rfl, -⟩ := executes_self_iff.mp executes
  exact .inr ⟨_, rfl, rfl⟩

theorem leads_modify {State : Type} (change : State → State) :
    Leads (Method.modify change : Method Invocation Invocation.Answer State (Halt LuaError) Unit)
      fun trace _ => trace = [] := by
  intro before trace result after executes
  obtain ⟨rfl, rfl, -⟩ := executes_modify_iff.mp executes
  exact .inr ⟨_, rfl, rfl⟩

theorem leads_borrow (block : Block CBlock) :
    Leads (Method.borrow block : CMemory LuaError Unit) fun trace _ => trace = [] := by
  refine leads_self.bind fun state earlier silent => ?_
  subst silent
  split
  · exact leads_pure rfl
  · exact leads_panic

theorem leads_call {function : CFunction Returned}
    {holds : List (Event Invocation.Answer) → Returned × List Output → Prop}
    (spec : ∀ ⦃before trace returned after⦄, before.outputs = [] →
      function.Executes before trace (.ok returned) after →
      holds trace (returned, after.outputs)) :
    Leads (call function : CMemory LuaError _) holds := by
  refine Leads.zoom ?_
  intro before trace result after executes
  obtain ⟨returned, rfl, ran⟩ := executes_callOnThread executes
  exact .inr ⟨_, rfl, spec rfl ran⟩

theorem leads_intoRaw (kind : CBlock) (value : α) :
    Leads (intoRaw kind value : CMemory LuaError _) fun trace pointer =>
      trace = [] ∧ pointer.value = value := by
  have allocates : Leads (Method.allocate kind : CMemory LuaError _) fun trace _ =>
      trace = [] := by
    refine leads_self.bind fun state _ silent => (leads_modify _).bind fun _ _ changed => ?_
    subst silent changed
    exact leads_pure rfl
  refine allocates.bind fun block _ silent => ?_
  subst silent
  exact leads_pure ⟨rfl, rfl⟩

/-- The metadata of a resource is what the code behind the interface answers. -/
theorem leads_qrmiResourceMetadata (qrmi : Owned Nat) :
    Leads (qrmiResourceMetadata qrmi : CMemory LuaError _) fun trace answer =>
      ∃ metadata : Owned (List (Text × Text)), answer = (.success, some metadata) ∧
        trace = [⟨.resource qrmi.value .metadata, metadata.value⟩] := by
  refine (leads_borrow _).bind fun _ _ silent => ?_
  subst silent
  have answers : Leads (call (CFunction.qrmiResourceMetadata (some qrmi.value) true) :
      CMemory LuaError _) fun trace answered => ∃ value : List (Text × Text),
        trace = [⟨.resource qrmi.value .metadata, value⟩] ∧
          answered = (.code .success, [.metadata value]) := by
    refine leads_call fun before trace returned after empty executes => ?_
    obtain ⟨value, rest, rfl, stored⟩ := executes_question_bind_iff.mp executes
    obtain ⟨rfl, equal, rfl⟩ := executes_succeedWith_iff.mp stored
    cases equal
    refine ⟨value, rfl, ?_⟩
    change (_, before.outputs ++ _) = _
    rw [empty]
    rfl
  have called : Leads (callFor metadataOf (CFunction.qrmiResourceMetadata (some qrmi.value)
      true) : CMemory LuaError _) fun trace answer => ∃ value : List (Text × Text),
        trace = [⟨.resource qrmi.value .metadata, value⟩] ∧
          answer = (.success, some value) := by
    refine answers.bind fun answered earlier holds => ?_
    obtain ⟨value, rfl, rfl⟩ := holds
    exact leads_pure ⟨value, rfl, rfl⟩
  refine called.bind fun answer earlier holds => ?_
  obtain ⟨value, rfl, rfl⟩ := holds
  have handed : Leads (intoRawOption .metadata (some value) : CMemory LuaError _)
      fun trace object => trace = [] ∧ ∃ pointer : Owned (List (Text × Text)),
        object = some pointer ∧ pointer.value = value := by
    refine (leads_intoRaw .metadata value).bind fun pointer _ made => ?_
    obtain ⟨rfl, same⟩ := made
    exact leads_pure ⟨rfl, pointer, rfl, same⟩
  refine handed.bind fun object _ made => ?_
  obtain ⟨rfl, pointer, rfl, rfl⟩ := made
  exact leads_pure ⟨pointer, rfl, rfl⟩

/-- The array of keys of empty metadata dangles. -/
theorem leads_metadataKeys_nil {metadata : Owned (List (Text × Text))}
    (empty : metadata.value = []) :
    Leads (qrmiResourceMetadataKeys (some metadata) : CMemory LuaError _) fun _ answer =>
      answer.2 = some .dangling := by
  refine (leads_borrow _).bind fun _ _ _ => ?_
  have keys : Leads (call (CFunction.qrmiResourceMetadataKeys (some metadata.value)) :
      CMemory LuaError _) fun _ answered => answered.2 = [.count 0, .texts []] := by
    refine leads_call fun before trace returned after outputs executes => ?_
    rw [empty] at executes
    obtain ⟨-, -, rfl⟩ := executes_succeedWith_iff.mp (executes_modify_bind_iff.mp executes)
    change (before.outputs ++ _) ++ _ = _
    rw [outputs]
    rfl
  refine keys.bind fun answered _ stored => ?_
  obtain ⟨returned, _⟩ := answered
  obtain rfl := stored
  exact leads_pure rfl

/-- Empty metadata ends in a panic, whatever the state of the heap is. -/
theorem leads_pushMetadata_nil {metadata : Owned (List (Text × Text))}
    (empty : metadata.value = []) :
    Leads (pushMetadata (.success, some metadata)) fun _ _ => False := by
  unfold pushMetadata
  rw [if_neg (not_not_intro rfl)]
  refine (leads_inC (leads_metadataKeys_nil empty)).bind fun keys _ dangles => ?_
  obtain ⟨code, _⟩ := keys
  obtain rfl := dangles
  have entries : Leads (pushEntries (some metadata) CStringArray.dangling.strings [])
      fun _ _ => True :=
    leads_pure trivial
  have frees : Leads (inC (qrmiStringArrayFree .dangling)) fun _ _ => False :=
    leads_inC leads_panic
  exact entries.bind fun _ _ _ => frees.bind fun _ _ impossible => impossible.elim

end LuaBinding

/-- A call from Lua, with what was asked and how it ended. -/
structure LuaCall where
  function : LuaFunction
  arguments : List LuaValue
  trace : List (Event Invocation.Answer)
  result : Except (Halt LuaError) (List LuaValue)

namespace LuaCall

/-- A call between two states of a process. -/
def Step (runtime : LuaRuntime) (before : Stored CBlock LuaState) (call : LuaCall)
    (after : Stored CBlock LuaState) : Prop :=
  (call.function.call runtime call.arguments).Executes before call.trace call.result after

/-- The metadata of a resource was answered, and it was empty. -/
def HasEmptyMetadata (call : LuaCall) : Prop :=
  ∃ handle, (⟨.resource handle .metadata, ([] : List (Text × Text))⟩ :
    Event Invocation.Answer) ∈ call.trace

/-- A call that returns one value. -/
def isSuccess (call : LuaCall) : Bool :=
  match call.result with
  | .ok [_] => true
  | _ => false

/-- The strings that a call strands at least. -/
def fewestStranded (call : LuaCall) : Nat :=
  if call.isSuccess then call.function.strandedNames call.arguments else 0

/-- The strings that a call strands at most. -/
def mostStranded (call : LuaCall) : Nat :=
  if call.isSuccess then call.function.strandedNames call.arguments
  else call.function.strandLimit

end LuaCall

/-- A process that has not called anything. -/
def LuaState.initial : Stored CBlock LuaState where
  heap := .empty
  rest := { thread := .initial, objects := [] }

/-- The live blocks after some calls: those of the objects and the stranded strings. -/
def Accounts (calls : List LuaCall) (state : Stored CBlock LuaState) : Prop :=
  ∃ stranded, state.heap.live = stranded + ownedBlocks state.rest.objects ∧
    LuaBinding.Stranded stranded ∧
      (calls.map LuaCall.fewestStranded).sum ≤ stranded.card ∧
        stranded.card ≤ (calls.map LuaCall.mostStranded).sum

section Runs

open LuaBinding Method

variable {runtime : LuaRuntime} {before after final : Stored CBlock LuaState}
variable {call : LuaCall} {calls : List LuaCall}

theorem function_eq_metadata {function : LuaFunction} {handle : Nat}
    (asks : function.asks (.resource handle .metadata)) : function = .metadata := by
  cases function with
  | metadata => rfl
  | _ => exact asks.elim

/-- A call that is told that metadata is empty panics. -/
theorem panics_of_empty (taken : call.Step runtime before after)
    (empty : call.HasEmptyMetadata) : call.result = .error .panic := by
  obtain ⟨handle, member⟩ := empty
  have asks := (call.function.confined_call runtime call.arguments taken).1 _ member
  obtain ⟨function, arguments, trace, result⟩ := call
  obtain rfl := function_eq_metadata asks
  rcases executes_bind_iff.mp taken with
    ⟨_, -, failed⟩ | ⟨first, second, ud, middle, rfl, ran, rest⟩
  · rw [(checks_checkResource _ failed).1] at member
    cases member
  obtain ⟨rfl, -⟩ := checks_checkResource _ ran
  rw [List.nil_append] at member
  have leads := leads_inC (leads_qrmiResourceMetadata ud.handle)
  rcases executes_bind_iff.mp rest with
    ⟨_, rfl, failed⟩ | ⟨earlier, later, answer, last, rfl, asked, pushed⟩
  · rcases leads failed with panicked | ⟨_, equal, -⟩
    · cases panicked
      rfl
    · cases equal
  rcases leads asked with panicked | ⟨_, equal, metadata, rfl, rfl⟩
  · cases panicked
  cases equal
  rcases List.mem_append.mp member with inFirst | inLater
  · have isEmpty : metadata.value = [] := by
      obtain ⟨address, value⟩ := metadata
      cases List.mem_singleton.mp inFirst
      rfl
    exact (leads_pushMetadata_nil isEmpty pushed).resolve_right fun returned =>
      returned.elim fun _ both => both.2
  · have silent : Confined (fun _ => False) true (pushMetadata (.success, some metadata)) :=
      confined_pushMetadata _
    exact ((silent pushed).1 _ inLater).elim

/-- A call that is not told so neither panics nor loses a block. -/
theorem accounts_of_step (accounts : Accounts calls before)
    (taken : call.Step runtime before after) (nonempty : ¬ call.HasEmptyMetadata) :
    call.result ≠ .error .panic ∧ Accounts (calls ++ [call]) after := by
  obtain ⟨stranded, live, strings, fewest, most⟩ := accounts
  have relies : ∀ event ∈ call.trace, HasMetadata event := by
    rintro event member handle rfl
    exact nonempty ⟨handle, member⟩
  obtain ⟨outcome, left, equal, ⟨leaked, rfl, moreStrings, few, exact⟩, lives⟩ :=
    call.function.manages_call runtime call.arguments (fun _ _ relied => relied) rfl
      (Multiset.zero_le _) (live.trans (add_comm _ _)) taken relies
  refine ⟨fun panicked => mapError_failed_ne_panic outcome (equal.symm.trans panicked),
    stranded + leaked, ?_, stranded_add strings moreStrings, ?_⟩
  · rw [lives, add_comm, add_assoc]
  have counts : call.fewestStranded ≤ leaked.card ∧ leaked.card ≤ call.mostStranded := by
    unfold LuaCall.fewestStranded LuaCall.mostStranded
    cases success : call.isSuccess with
    | false => exact ⟨Nat.zero_le _, few⟩
    | true =>
        have returned : ∃ value, outcome = .ok [value] := by
          rw [LuaCall.isSuccess, equal] at success
          cases outcome with
          | error error => cases success
          | ok values =>
              match values, success with
              | [value], _ => exact ⟨value, rfl⟩
        obtain ⟨value, isValue⟩ := returned
        have card := exact value isValue
        exact ⟨card.ge, card.le⟩
  simp only [List.map_append, List.map_singleton, List.sum_append, List.sum_singleton,
    Multiset.card_add]
  omega

/-- The live blocks after a run without a panic. -/
theorem accounts_of_history (history : History (LuaCall.Step runtime) LuaState.initial calls final)
    (returned : ∀ call ∈ calls, call.result ≠ .error .panic) : Accounts calls final := by
  revert returned
  refine History.invariant (fun calls state =>
    (∀ call ∈ calls, call.result ≠ .error .panic) → Accounts calls state) ?_ ?_ history
  · intro _
    exact ⟨0, rfl, stranded_zero, le_rfl, le_rfl⟩
  · intro past state call next _ accounts taken returned
    have earlier := accounts fun call member => returned call (List.mem_append_left _ member)
    have last := returned call (List.mem_append_right _ (List.mem_singleton_self _))
    exact (accounts_of_step earlier taken fun empty => last (panics_of_empty taken empty)).2

/-- After a run without a panic, the live blocks that no object owns are strings: the names
that calls have compared, and what calls that failed have left. -/
theorem unowned_blocks_are_names
    (history : History (LuaCall.Step runtime) LuaState.initial calls final)
    (returned : ∀ call ∈ calls, call.result ≠ .error .panic) :
    ownedBlocks final.rest.objects ≤ final.heap.live ∧
      (∀ block ∈ final.heap.live - ownedBlocks final.rest.objects, block.kind = .string) ∧
        (calls.map LuaCall.fewestStranded).sum ≤
            (final.heap.live - ownedBlocks final.rest.objects).card ∧
          (final.heap.live - ownedBlocks final.rest.objects).card ≤
            (calls.map LuaCall.mostStranded).sum := by
  obtain ⟨stranded, live, strings, fewest, most⟩ := accounts_of_history history returned
  have unowned : final.heap.live - ownedBlocks final.rest.objects = stranded := by
    rw [live, add_tsub_cancel_right]
  rw [unowned]
  refine ⟨?_, strings, fewest, most⟩
  rw [live]
  exact Multiset.le_add_left _ _

/-- In every run, a function asks only what is its own to ask, and functions that do not
handle tokens do not leave one in an object. -/
theorem questions_of_history
    (history : History (LuaCall.Step runtime) LuaState.initial calls final) :
    (∀ call ∈ calls, ∀ event ∈ call.trace, call.function.asks event.1) ∧
      ((∀ call ∈ calls, call.function.keepsTokens) → heldTokens final.rest.objects = 0) := by
  refine History.invariant (fun calls state =>
    (∀ call ∈ calls, ∀ event ∈ call.trace, call.function.asks event.1) ∧
      ((∀ call ∈ calls, call.function.keepsTokens) → heldTokens state.rest.objects = 0)) ?_ ?_
    history
  · exact ⟨fun _ member => (List.not_mem_nil member).elim, fun _ => rfl⟩
  · intro past state call next _ earlier taken
    obtain ⟨asked, kept⟩ := call.function.confined_call runtime call.arguments taken
    refine ⟨fun other member => ?_, fun keeps => ?_⟩
    · rcases List.mem_append.mp member with inPast | isCall
      · exact earlier.1 other inPast
      · rw [List.mem_singleton.mp isCall]
        exact asked
    · have none := earlier.2 fun other member => keeps other (List.mem_append_left _ member)
      rw [kept (keeps call (List.mem_append_right _ (List.mem_singleton_self _)))]
      exact none

end Runs

namespace EmptyMetadata

def runtime : LuaRuntime where
  stringToInteger _ := none
  refusesMemory _ := false

/-- A resource of the first type is created with the name "r". -/
def creation : LuaCall where
  function := .new
  arguments := [.string [114], .string (Text.utf8 "ibm-quantum-system".toList)]
  trace := [⟨.createResource .ibmQuantumSystem ['r'], (.ok 7 : Except QrmiError Nat)⟩]
  result := .ok [.userdata 0]

/-- The name of the type is stranded. -/
def created : Stored CBlock LuaState where
  heap :=
    { next := 2
      live := {⟨1, .resource⟩, ⟨0, .string⟩}
      below := by decide
      distinct := by decide }
  rest := { thread := .initial, objects := [.resource ⟨some ⟨1, 7⟩, none⟩] }

theorem creates : creation.Step runtime LuaState.initial created := by
  exact .ask (.done _)

theorem history : History (LuaCall.Step runtime) LuaState.initial [creation] created :=
  .cons creates (.nil _)

theorem returned : ∀ call ∈ [creation], call.result ≠ .error .panic := by
  intro call member
  rw [List.mem_singleton.mp member]
  rintro ⟨⟩

/-- Its metadata is empty. -/
def description : LuaCall where
  function := .metadata
  arguments := [.userdata 0]
  trace := [⟨.resource 7 .metadata, ([] : List (Text × Text))⟩]
  result := .error .panic

def aborted : Stored CBlock LuaState where
  heap :=
    { next := 3
      live := {⟨2, .metadata⟩, ⟨1, .resource⟩, ⟨0, .string⟩}
      below := by decide
      distinct := by decide }
  rest :=
    { thread := ⟨none, .other, [.count 0, .texts []]⟩
      objects := [.resource ⟨some ⟨1, 7⟩, none⟩] }

theorem describes : description.Step runtime created aborted := by
  exact .ask (.done _)

end EmptyMetadata

/-- The name of the type is the string that is left. -/
theorem unowned_blocks_of_creation :
    ownedBlocks EmptyMetadata.created.rest.objects ≤ EmptyMetadata.created.heap.live ∧
      (∀ block ∈ EmptyMetadata.created.heap.live -
          ownedBlocks EmptyMetadata.created.rest.objects, block.kind = .string) ∧
        1 ≤ (EmptyMetadata.created.heap.live -
            ownedBlocks EmptyMetadata.created.rest.objects).card ∧
          (EmptyMetadata.created.heap.live -
            ownedBlocks EmptyMetadata.created.rest.objects).card ≤ 1 := by
  exact unowned_blocks_are_names EmptyMetadata.history EmptyMetadata.returned

theorem asks_of_creation :
    (∀ call ∈ [EmptyMetadata.creation], ∀ event ∈ call.trace, call.function.asks event.1) ∧
      ((∀ call ∈ [EmptyMetadata.creation], call.function.keepsTokens) →
        heldTokens EmptyMetadata.created.rest.objects = 0) :=
  questions_of_history EmptyMetadata.history
