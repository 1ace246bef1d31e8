import Qrmi.LuaRuns

/-!
# Acquisition tokens of the Lua binding

A resource object keeps the token of its last acquisition, so that it can be released
when the object is collected.  Every token that was acquired is kept by an object, was
asked to be released on the resource that it was acquired from, or was handed over by
`detach`.  The other ways for a token to disappear are excluded here: an explicit
release of another token, a token that cannot be a C string, and a refused copy.
-/

open Interaction

/-- A token with the handle of its resource. -/
abbrev LuaToken : Type :=
  Nat × List UInt8

/-- The token of a successful acquisition. -/
def acquiredToken : Event Invocation.Answer → Multiset LuaToken
  | ⟨.resource handle .acquire, outcome⟩ =>
      match (outcome : Except QrmiError Text) with
      | .ok text => {(handle, Text.utf8 text)}
      | .error _ => 0
  | _ => 0

/-- The token that is asked to be released, whatever the answer is. -/
def releasedToken : Event Invocation.Answer → Multiset LuaToken
  | ⟨.resource handle (.release text), _⟩ => {(handle, Text.utf8 text)}
  | _ => 0

def acquiredTokens (trace : List (Event Invocation.Answer)) : Multiset LuaToken :=
  (trace.map acquiredToken).sum

def releasedTokens (trace : List (Event Invocation.Answer)) : Multiset LuaToken :=
  (trace.map releasedToken).sum

/-- The token that a call of `detach` returns. -/
def LuaCall.detachedToken (before : Stored CBlock LuaState) (call : LuaCall) :
    Multiset LuaToken :=
  match call.function, LuaBinding.argument call.arguments 1, call.result with
  | .detach, some (.userdata object), .ok [.string bytes] =>
      match before.rest.objects[object]? with
      | some (.resource ⟨some handle, _⟩) => {(handle.value, bytes)}
      | _ => 0
  | _, _, _ => 0

/-- The tokens that are acquired can be C strings. -/
def AcquiresStrings (trace : List (Event Invocation.Answer)) : Prop :=
  ∀ handle text, (⟨.resource handle .acquire, (.ok text : Except QrmiError Text)⟩ :
    Event Invocation.Answer) ∈ trace → '\x00' ∉ text

/-- A call that does not drop a token: an explicit token for `release` is the cached one
where there is one, and acquired tokens can be C strings. -/
structure LuaCall.Careful (before : Stored CBlock LuaState) (call : LuaCall) : Prop where
  explicit : call.function = .release → ∀ object handle cached given,
    LuaBinding.argument call.arguments 1 = some (.userdata object) →
      before.rest.objects[object]? = some (.resource ⟨handle, some cached⟩) →
        LuaBinding.stringOf (LuaBinding.argument call.arguments 2) = some given →
          given = cached.value
  strings : AcquiresStrings call.trace

/-- Every kept token is a text. -/
def KeepsTexts (objects : List UserData) : Prop :=
  ∀ token ∈ heldTokens objects, ∃ text, token.2 = Text.utf8 text

namespace LuaBinding

open Method CMemory

variable {α β : Type}

/-! ## Answers -/

theorem toStr_eq_some_iff {string : CStr} {text : Text} :
    string.toStr = some text ↔ Text.utf8 text = string.bytes :=
  decodeUtf8_eq_some_iff

/-- A token that is a text is asked to be released. -/
theorem leads_qrmiResourceRelease (qrmi : Owned Nat) (token : CStr) :
    Leads (qrmiResourceRelease qrmi token : CMemory LuaError _) fun trace _ =>
      acquiredTokens trace = 0 ∧
        ∀ text, token.toStr = some text → releasedTokens trace = {(qrmi.value, token.bytes)} := by
  refine (leads_borrow _).bind fun _ _ silent => ?_
  subst silent
  have asks : Leads (call (CFunction.qrmiResourceRelease (some qrmi.value) (some token)) :
      CMemory LuaError _) fun trace _ => acquiredTokens trace = 0 ∧ ∀ text,
        token.toStr = some text → releasedTokens trace = {(qrmi.value, token.bytes)} := by
    refine leads_call fun before trace returned after _ executes => ?_
    unfold CFunction.qrmiResourceRelease at executes
    cases decoded : token.toStr with
    | none =>
        simp only [decoded] at executes
        obtain ⟨rfl, -, -⟩ := executes_pure_iff.mp executes
        exact ⟨rfl, nofun⟩
    | some text =>
        simp only [decoded] at executes
        obtain ⟨answer, rest, rfl, ended⟩ := executes_question_bind_iff.mp executes
        have silent : rest = [] := by
          cases answer with
          | ok value => exact (executes_pure_iff.mp ended).1
          | error error => exact (concludes_fail error ended).1
        subst silent
        refine ⟨rfl, fun _ _ => ?_⟩
        rw [← toStr_eq_some_iff.mp decoded]
        rfl
  refine asks.bind fun answered earlier holds => ?_
  exact leads_pure (by rwa [List.append_nil])

theorem leads_intoRawText {text : Text} (noNul : '\x00' ∉ text) :
    Leads (intoRawText text : CMemory LuaError _) fun trace pointer =>
      trace = [] ∧ ∃ string : Owned CStr, pointer = some string ∧
        string.value.toStr = some text := by
  obtain ⟨string, converted⟩ := exists_cstringNew_iff.mpr noNul
  unfold intoRawText
  rw [converted]
  refine (leads_intoRaw .string string).bind fun pointer _ made => ?_
  obtain ⟨rfl, rfl⟩ := made
  exact leads_pure ⟨rfl, pointer, rfl, cstringNew_eq_returned_iff.mp converted⟩

/-- The events of a call are one answered acquisition. -/
def Acquires (handle : Nat) (outcome : Except QrmiError Text)
    (trace : List (Event Invocation.Answer)) : Prop :=
  trace = [⟨.resource handle .acquire, outcome⟩]

theorem leads_callAcquire (qrmi : Nat) :
    Leads (call (CFunction.qrmiResourceAcquire (some qrmi) true) : CMemory LuaError _)
      fun trace answered => ∃ outcome, Acquires qrmi outcome trace ∧
        ((∃ code, code ≠ .success ∧ answered = (.code code, []) ∧
            ∀ text, outcome = .ok text → '\x00' ∈ text) ∨
          ∃ text, outcome = .ok text ∧ '\x00' ∉ text ∧
            answered = (.code .success, [.text text])) := by
  refine leads_call fun before trace returned after empty executes => ?_
  obtain ⟨outcome, rest, rfl, ended⟩ := executes_question_bind_iff.mp executes
  cases outcome with
  | error error =>
      have handsOut : HandsOut (fun _ => True) (fun _ => False) (CFunction.fail error) :=
        handsOut_fail error
      obtain rfl := (concludes_fail error ended).1
      rcases handsOut empty ended fun _ _ => trivial with
        ⟨_, _, _, impossible⟩ | ⟨code, rfl, fails, none⟩
      · exact impossible.elim
      · exact ⟨.error error, rfl, .inl ⟨code, fails, Prod.ext rfl none, nofun⟩⟩
  | ok text =>
      change (CFunction.succeedWithText text).Executes _ _ _ _ at ended
      unfold CFunction.succeedWithText at ended
      split at ended
      · rename_i nul
        obtain ⟨rfl, equal, rfl⟩ := executes_pure_iff.mp ended
        cases equal
        refine ⟨.ok text, rfl, .inl ⟨.error, nofun, Prod.ext rfl empty, ?_⟩⟩
        rintro _ ⟨⟩
        exact nul
      · rename_i noNul
        obtain ⟨rfl, equal, rfl⟩ := executes_succeedWith_iff.mp ended
        cases equal
        refine ⟨.ok text, rfl, .inr ⟨text, rfl, noNul, Prod.ext rfl ?_⟩⟩
        change before.outputs ++ [_] = _
        rw [empty]
        rfl

/-- An acquisition succeeds with a token that is a text, unless the text cannot be a C
string. -/
theorem leads_qrmiResourceAcquire (qrmi : Owned Nat) :
    Leads (qrmiResourceAcquire qrmi : CMemory LuaError _) fun trace answer =>
      ∃ outcome, Acquires qrmi.value outcome trace ∧
        ((answer.1 ≠ .success ∧ ∀ text, outcome = .ok text → '\x00' ∈ text) ∨
          ∃ token : Owned CStr, answer = (.success, some token) ∧
            ∃ text, outcome = .ok text ∧ token.value.toStr = some text) := by
  refine (leads_borrow _).bind fun _ _ silent => ?_
  subst silent
  refine (leads_callAcquire qrmi.value).bind fun answered earlier holds => ?_
  obtain ⟨outcome, rfl, ⟨code, fails, rfl, nul⟩ | ⟨text, rfl, noNul, rfl⟩⟩ := holds
  · exact leads_pure ⟨outcome, rfl, .inl ⟨fails, nul⟩⟩
  · refine (leads_intoRawText noNul).bind fun pointer _ made => ?_
    obtain ⟨rfl, string, rfl, decoded⟩ := made
    exact leads_pure ⟨.ok text, rfl, .inr ⟨string, rfl, text, rfl, decoded⟩⟩

/-! ## Changes of the objects -/

/-- Every execution from the given objects panics, or returns a value as described. -/
def Moves (objects : List UserData) (method : LuaMethod α)
    (post : List (Event Invocation.Answer) → α → List UserData → Prop) : Prop :=
  ∀ ⦃before trace result after⦄, before.rest.objects = objects →
    method.Executes before trace result after →
      result = .error .panic ∨ ∃ value, result = .ok value ∧ post trace value after.rest.objects

section Moves

variable {objects : List UserData} {method : LuaMethod α} {next : α → LuaMethod β}
variable {post : List (Event Invocation.Answer) → α → List UserData → Prop}
variable {last : List (Event Invocation.Answer) → β → List UserData → Prop}

theorem moves_pure {value : α} (holds : post [] value objects) :
    Moves objects (pure value) post := by
  rintro before trace result after rfl executes
  obtain ⟨rfl, rfl, rfl⟩ := executes_pure_iff.mp executes
  exact .inr ⟨value, rfl, holds⟩

theorem Moves.bind (first : Moves objects method post)
    (second : ∀ value earlier moved, post earlier value moved →
      Moves moved (next value) fun later result => last (earlier ++ later) result) :
    Moves objects (method >>= next) last := by
  intro before trace result after start executes
  rcases executes_bind_iff.mp executes with
    ⟨halt, rfl, failed⟩ | ⟨earlier, later, value, middle, rfl, ran, rest⟩
  · rcases first start failed with equal | ⟨_, equal, _⟩
    · cases equal
      exact .inl rfl
    · cases equal
  · rcases first start ran with equal | ⟨_, equal, holds⟩
    · cases equal
    · cases equal
      exact second value earlier _ holds rfl rest

theorem Moves.mono {weaker : List (Event Invocation.Answer) → α → List UserData → Prop}
    (moves : Moves objects method post)
    (weakens : ∀ trace value moved, post trace value moved → weaker trace value moved) :
    Moves objects method weaker :=
  fun _ _ _ _ start executes => (moves start executes).imp_right fun returned =>
    returned.imp fun _ both => ⟨both.1, weakens _ _ _ both.2⟩

/-- A method that leaves the objects alone. -/
theorem moves_of_leads {holds : List (Event Invocation.Answer) → α → Prop}
    (leads : Leads method holds) (keeps : ∀ ⦃before trace result after⦄,
      method.Executes before trace result after →
        after.rest.objects = before.rest.objects) :
    Moves objects method fun trace value moved => holds trace value ∧ objects = moved := by
  rintro before trace result after rfl executes
  rcases leads executes with panicked | ⟨value, returned, valid⟩
  · exact .inl panicked
  · exact .inr ⟨value, returned, valid, (keeps executes).symm⟩

theorem moves_inC {function : CMemory LuaError α}
    {holds : List (Event Invocation.Answer) → α → Prop} (leads : Leads function holds) :
    Moves objects (inC function) fun trace value moved =>
      holds trace value ∧ objects = moved :=
  moves_of_leads (leads_inC leads) fun _ _ _ _ executes => (executes_inC executes).1

theorem moves_setObject (object : Nat) (payload : UserData) :
    Moves objects (setObject object payload) fun trace _ moved =>
      trace = [] ∧ objects.set object payload = moved := by
  rintro before trace result after rfl executes
  obtain ⟨rfl, rfl, rfl⟩ := executes_modify_iff.mp executes
  exact .inr ⟨(), rfl, rfl, rfl⟩

/-- A step on the heap asks nothing and leaves the objects alone. -/
def Silent (objects : List UserData) (trace : List (Event Invocation.Answer)) (_ : α)
    (moved : List UserData) : Prop :=
  trace = [] ∧ objects = moved

theorem moves_borrow (block : Block CBlock) :
    Moves objects (Method.borrow block) (Silent objects) := by
  rintro before trace result after rfl executes
  have checked := executes_self_bind_iff.mp executes
  split at checked
  · obtain ⟨rfl, rfl, rfl⟩ := executes_pure_iff.mp checked
    exact .inr ⟨(), rfl, rfl, rfl⟩
  · exact .inl (executes_throw_iff.mp checked).2.1

theorem moves_free (pointer : Option (Owned CStr)) :
    Moves objects (free pointer) (Silent objects) := by
  cases pointer with
  | none => exact moves_pure ⟨rfl, rfl⟩
  | some pointer =>
      refine (moves_borrow _).bind fun _ _ _ silent => ?_
      obtain ⟨rfl, rfl⟩ := silent
      rintro before trace result after rfl executes
      obtain ⟨rfl, rfl, rfl⟩ := executes_modify_iff.mp executes
      exact .inr ⟨(), rfl, rfl, rfl⟩

/-- A copy is made where memory is not refused. -/
theorem moves_strdup {runtime : LuaRuntime} (text : CStr)
    (memory : ∀ next, runtime.refusesMemory next = false) :
    Moves objects (strdup runtime text) fun trace copy moved =>
      Silent objects trace copy moved ∧ ∃ pointer : Owned CStr, copy = some pointer ∧
        pointer.value = text := by
  have allocates : Moves objects (tryAllocate runtime.refusesMemory .malloc)
      fun trace block moved => Silent objects trace block moved ∧ block.isSome = true := by
    rintro before trace result after rfl executes
    replace executes := executes_self_bind_iff.mp executes
    rw [if_neg (by rw [memory]; decide)] at executes
    rcases executes_bind_iff.mp executes with
      ⟨_, -, failed⟩ | ⟨_, _, block, _, rfl, ran, rest⟩
    · have allocated := executes_modify_bind_iff.mp (executes_self_bind_iff.mp failed)
      cases (executes_pure_iff.mp allocated).2.1
    · have allocated := executes_modify_bind_iff.mp (executes_self_bind_iff.mp ran)
      obtain ⟨rfl, -, rfl⟩ := executes_pure_iff.mp allocated
      obtain ⟨rfl, rfl, rfl⟩ := executes_pure_iff.mp rest
      exact .inr ⟨some block, rfl, ⟨rfl, rfl⟩, rfl⟩
  refine allocates.bind fun block _ moved holds => ?_
  obtain ⟨⟨rfl, rfl⟩, isSome⟩ := holds
  obtain ⟨own, rfl⟩ := Option.isSome_iff_exists.mp isSome
  exact moves_pure ⟨⟨rfl, rfl⟩, _, rfl, rfl⟩

theorem leads_release {α : Type} (kind : CBlock) (pointer : Option (Owned α)) :
    Leads (release kind pointer : CMemory LuaError _) fun trace _ => trace = [] := by
  have answers : Leads (call (CFunction.free pointer.isSome) : CMemory LuaError _)
      fun trace _ => trace = [] := by
    refine leads_call fun before trace returned after _ executes => ?_
    cases given : pointer.isSome with
    | false =>
        rw [given] at executes
        exact (executes_pure_iff.mp executes).1
    | true =>
        rw [given] at executes
        exact (executes_pure_iff.mp executes).1
  have drops : Leads (dropOption kind pointer : CMemory LuaError _) fun trace _ =>
      trace = [] := by
    cases pointer with
    | none => exact leads_pure rfl
    | some pointer =>
        refine (leads_borrow _).bind fun _ _ silent => ?_
        subst silent
        exact leads_modify _
  refine answers.bind fun _ _ silent => drops.bind fun _ _ dropped => ?_
  subst silent dropped
  exact leads_pure rfl

end Moves

theorem leads_qrmiGetLastError :
    Leads (qrmiGetLastError : CMemory LuaError _) fun trace _ => trace = [] := by
  have answers : Leads (call CFunction.qrmiGetLastError : CMemory LuaError _)
      fun trace _ => trace = [] := by
    refine leads_call fun before trace returned after _ executes => ?_
    have read := executes_self_bind_iff.mp executes
    exact (executes_pure_iff.mp read).1
  refine answers.bind fun answered _ silent => ?_
  subst silent
  split
  · rename_i text _
    unfold intoRawText
    split
    · refine (leads_intoRaw _ _).bind fun _ _ made => ?_
      obtain ⟨rfl, -⟩ := made
      exact leads_pure rfl
    · exact leads_pure rfl
  · exact leads_pure rfl

theorem moves_pushQrmiError {objects : List UserData} (code : ReturnCode) :
    Moves objects (pushQrmiError code) (Silent objects) := by
  refine (moves_inC leads_qrmiGetLastError).bind fun err _ _ silent => ?_
  obtain ⟨rfl, rfl⟩ := silent
  cases err with
  | none => exact moves_pure ⟨rfl, rfl⟩
  | some err =>
      refine (moves_inC (leads_release _ _)).bind fun _ _ _ freed => ?_
      obtain ⟨rfl, rfl⟩ := freed
      exact moves_pure ⟨rfl, rfl⟩

/-! ## The balance of a call -/

/-- No token disappears between two states of the objects. -/
structure Balances (objects : List UserData) (trace : List (Event Invocation.Answer))
    (moved : List UserData) : Prop where
  kept : heldTokens objects + acquiredTokens trace ≤ heldTokens moved + releasedTokens trace
  texts : KeepsTexts moved

theorem acquiredTokens_append (first second : List (Event Invocation.Answer)) :
    acquiredTokens (first ++ second) = acquiredTokens first + acquiredTokens second := by
  simp [acquiredTokens]

theorem releasedTokens_append (first second : List (Event Invocation.Answer)) :
    releasedTokens (first ++ second) = releasedTokens first + releasedTokens second := by
  simp [releasedTokens]

theorem balances_refl {objects : List UserData} (texts : KeepsTexts objects) :
    Balances objects [] objects :=
  ⟨le_rfl, texts⟩

theorem Balances.trans {objects middle moved : List UserData}
    {first second : List (Event Invocation.Answer)} (one : Balances objects first middle)
    (other : Balances middle second moved) : Balances objects (first ++ second) moved := by
  refine ⟨?_, other.texts⟩
  rw [acquiredTokens_append, releasedTokens_append, ← add_assoc]
  calc heldTokens objects + acquiredTokens first + acquiredTokens second
      ≤ heldTokens middle + releasedTokens first + acquiredTokens second :=
        add_le_add_left one.kept _
    _ = heldTokens middle + acquiredTokens second + releasedTokens first :=
        add_right_comm _ _ _
    _ ≤ heldTokens moved + releasedTokens second + releasedTokens first :=
        add_le_add_left other.kept _
    _ = heldTokens moved + (releasedTokens first + releasedTokens second) := by
        rw [add_assoc, add_comm (releasedTokens second)]

/-- The token of a resource that may keep none. -/
def keptToken (handle : Owned Nat) (token : Option (Owned CStr)) : Multiset LuaToken :=
  token.elim 0 fun token => {(handle.value, token.value.bytes)}

@[simp]
theorem keptToken_none (handle : Owned Nat) : keptToken handle none = 0 :=
  rfl

@[simp]
theorem keptToken_some (handle : Owned Nat) (token : Owned CStr) :
    keptToken handle (some token) = {(handle.value, token.value.bytes)} :=
  rfl

/-- The tokens of a resource and of the other objects. -/
theorem heldTokens_resource {objects : List UserData} {object : Nat} {handle : Owned Nat}
    {token : Option (Owned CStr)}
    (found : objects[object]? = some (UserData.resource ⟨some handle, token⟩)) :
    ∃ others, heldTokens objects = keptToken handle token + others ∧
      (∀ newToken, heldTokens (objects.set object (.resource ⟨some handle, newToken⟩)) =
        keptToken handle newToken + others) ∧
      heldTokens (objects.set object (.resource ⟨none, none⟩)) = others := by
  obtain ⟨others, divided, changed⟩ := heldTokens_split found
  have own (token : Option (Owned CStr)) :
      UserData.heldTokens (.resource ⟨some handle, token⟩) = keptToken handle token := by
    cases token <;> rfl
  refine ⟨others, ?_, fun newToken => ?_, ?_⟩
  · rw [divided, own]
  · rw [changed, own]
  · rw [changed]
    exact zero_add _

/-- A kept token is a text. -/
theorem text_of_kept {objects : List UserData} (texts : KeepsTexts objects) {object : Nat}
    {handle : Owned Nat} {token : Owned CStr}
    (found : objects[object]? = some (UserData.resource ⟨some handle, some token⟩)) :
    ∃ text, token.value.toStr = some text := by
  obtain ⟨others, divided, -⟩ := heldTokens_split found
  have member : (handle.value, token.value.bytes) ∈ heldTokens objects := by
    rw [divided]
    exact Multiset.mem_add.mpr (.inl (Multiset.mem_singleton_self _))
  obtain ⟨text, equal⟩ := texts _ member
  exact ⟨text, toStr_eq_some_iff.mpr equal.symm⟩

theorem keepsTexts_mono {objects moved : List UserData} (texts : KeepsTexts objects)
    (fewer : heldTokens moved ≤ heldTokens objects) : KeepsTexts moved :=
  fun token member => texts token (Multiset.mem_of_le fewer member)

section Functions

variable {objects : List UserData} {runtime : LuaRuntime}

/-- No token disappears in a part of a call, if the kept tokens are texts and the
acquired ones can be C strings. -/
def Conserved (objects : List UserData) (trace : List (Event Invocation.Answer))
    (moved : List UserData) : Prop :=
  KeepsTexts objects → AcquiresStrings trace → Balances objects trace moved

/-- A method that does not drop a token. -/
def Conserves (objects : List UserData) (method : LuaMethod α) : Prop :=
  Moves objects method fun trace _ moved => Conserved objects trace moved

theorem conserved_refl : Conserved objects [] objects :=
  fun texts _ => balances_refl texts

theorem conserves_pure {value : α} : Conserves objects (pure value) :=
  moves_pure conserved_refl

theorem conserves_silent {method : LuaMethod α} (moves : Moves objects method (Silent objects)) :
    Conserves objects method := by
  refine moves.mono fun _ _ _ silent => ?_
  obtain ⟨rfl, rfl⟩ := silent
  exact conserved_refl

theorem conserves_error {code : ReturnCode} : Conserves objects (pushQrmiError code) :=
  conserves_silent (moves_pushQrmiError code)

/-- A first part that conserves the tokens, and a second one from there. -/
theorem conserves_bind {method : LuaMethod α} {next : α → LuaMethod β}
    {holds : α → List UserData → Prop}
    (first : Moves objects method fun trace value moved =>
      Conserved objects trace moved ∧ holds value moved)
    (second : ∀ value moved, holds value moved → Conserves moved (next value)) :
    Conserves objects (method >>= next) := by
  refine first.bind fun value earlier moved both => ?_
  obtain ⟨conserved, valid⟩ := both
  intro before trace result after start executes
  refine (second value moved valid start executes).imp_right fun returned =>
    returned.imp fun _ both => ⟨both.1, fun texts strings => ?_⟩
  have one := conserved texts fun handle text member =>
    strings handle text (List.mem_append_left _ member)
  exact one.trans (both.2 one.texts fun handle text member =>
    strings handle text (List.mem_append_right _ member))

/-- The acquisition of a resource without a token. -/
theorem conserves_acquireNew {ud : CheckedResource}
    (memory : ∀ next, runtime.refusesMemory next = false)
    (found : objects[ud.object]? = some (UserData.resource ⟨some ud.handle, none⟩)) :
    Conserves objects (acquireNew runtime ud) := by
  refine (moves_inC (leads_qrmiResourceAcquire ud.handle)).bind
    fun answer earlier moved holds => ?_
  obtain ⟨⟨outcome, rfl, answered⟩, rfl⟩ := holds
  obtain ⟨fails, nul⟩ | ⟨token, rfl, text, rfl, decoded⟩ := answered
  · rw [if_pos fails]
    have nothing : AcquiresStrings [⟨.resource ud.handle.value .acquire, outcome⟩] →
        acquiredTokens [⟨.resource ud.handle.value .acquire, outcome⟩] = 0 := by
      intro strings
      cases outcome with
      | error error => rfl
      | ok text => exact absurd (nul text rfl) (strings _ _ (List.mem_singleton_self _))
    refine (moves_pushQrmiError answer.1).mono fun _ _ _ silent texts strings => ?_
    obtain ⟨rfl, rfl⟩ := silent
    exact ⟨(congrArg _ (nothing strings)).le, texts⟩
  · rw [if_neg (not_not_intro rfl)]
    refine (moves_strdup token.value memory).bind fun copy _ _ copied => ?_
    obtain ⟨⟨rfl, rfl⟩, pointer, rfl, same⟩ := copied
    refine (moves_setObject _ _).bind fun _ _ _ changed => ?_
    obtain ⟨rfl, rfl⟩ := changed
    refine (moves_inC (leads_release _ _)).bind fun _ _ _ freed => ?_
    obtain ⟨rfl, rfl⟩ := freed
    obtain ⟨others, divided, cached, -⟩ := heldTokens_resource found
    refine moves_pure fun texts _ => ?_
    have kept : heldTokens (objects.set ud.object (.resource ⟨some ud.handle, some pointer⟩)) =
        {(ud.handle.value, Text.utf8 text)} + heldTokens objects := by
      rw [cached, divided, keptToken_some, keptToken_none, zero_add, same,
        toStr_eq_some_iff.mp decoded]
    refine ⟨?_, ?_⟩
    · rw [kept]
      change heldTokens objects + ({(ud.handle.value, Text.utf8 text)} + 0) ≤ _ + (0 + 0)
      rw [add_zero, add_zero, add_zero, add_comm]
    · intro other member
      rw [kept] at member
      rcases Multiset.mem_add.mp member with isToken | isOther
      · rw [Multiset.mem_singleton.mp isToken]
        exact ⟨text, rfl⟩
      · exact texts other isOther

/-- A kept token is asked to be released and dropped. -/
theorem conserved_dropped {moved : List UserData} {trace : List (Event Invocation.Answer)}
    {object : Nat} {handle : Owned Nat} {token : Owned CStr}
    (found : objects[object]? = some (UserData.resource ⟨some handle, some token⟩))
    (asked : acquiredTokens trace = 0 ∧ ∀ text, token.value.toStr = some text →
      releasedTokens trace = {(handle.value, token.value.bytes)})
    (dropped : heldTokens objects = keptToken handle (some token) + heldTokens moved) :
    Conserved objects trace moved := by
  intro texts _
  obtain ⟨text, decoded⟩ := text_of_kept texts found
  refine ⟨?_, keepsTexts_mono texts (dropped.symm ▸ Multiset.le_add_left _ _)⟩
  rw [asked.1, asked.2 text decoded, add_zero, dropped, add_comm]
  exact le_rfl

/-- A call does not drop a token, whether or not it fails. -/
def ConservesCall (objects : List UserData) (method : LuaMethod α) : Prop :=
  ∀ ⦃before trace result after⦄, before.rest.objects = objects →
    method.Executes before trace result after → result ≠ .error .panic →
      Conserved objects trace after.rest.objects

theorem Conserves.call {method : LuaMethod α} (conserves : Conserves objects method) :
    ConservesCall objects method := by
  intro before trace result after start executes returned
  obtain ⟨_, _, conserved⟩ := (conserves start executes).resolve_left returned
  exact conserved

/-- A method that begins by reading its arguments. -/
theorem conserves_check_bind {check : LuaMethod α} {next : α → LuaMethod β}
    {holds : List UserData → α → Prop} (checks : Checks check holds)
    (continues : ∀ value, holds objects value → ConservesCall objects (next value)) :
    ConservesCall objects (check >>= next) := by
  rintro before trace result after rfl executes returned
  rcases executes_bind_iff.mp executes with
    ⟨_, rfl, failed⟩ | ⟨first, second, value, middle, rfl, ran, rest⟩
  · obtain ⟨rfl, rfl, -⟩ := checks failed
    exact conserved_refl
  · obtain ⟨rfl, rfl, ⟨_, equal⟩ | ⟨_, equal, valid⟩⟩ := checks ran
    · cases equal
    · cases equal
      exact continues value valid rfl rest returned

theorem moves_dropCached {ud : CheckedResource} {token : Owned CStr}
    (found : objects[ud.object]? = some (UserData.resource ⟨some ud.handle, some token⟩)) :
    Moves objects (dropCached ud token) fun trace _ moved => Conserved objects trace moved ∧
      moved[ud.object]? = some (UserData.resource ⟨some ud.handle, none⟩) := by
  obtain ⟨others, divided, changed, -⟩ := heldTokens_resource found
  refine (moves_borrow _).bind fun _ _ _ silent => ?_
  obtain ⟨rfl, rfl⟩ := silent
  refine (moves_inC (leads_qrmiResourceRelease ud.handle token.value)).bind
    fun released earlier _ holds => ?_
  obtain ⟨asked, rfl⟩ := holds
  refine (moves_free _).bind fun _ _ _ silent => ?_
  obtain ⟨rfl, rfl⟩ := silent
  refine (moves_setObject _ _).bind fun _ _ _ set => ?_
  obtain ⟨rfl, rfl⟩ := set
  refine moves_pure ⟨?_, List.getElem?_set_self (List.getElem?_eq_some_iff.mp found).1⟩
  simp only [List.nil_append, List.append_nil]
  refine conserved_dropped found asked ?_
  rw [changed, divided, keptToken_none, zero_add]

theorem conserves_lAcquire (arguments : List LuaValue)
    (memory : ∀ next, runtime.refusesMemory next = false) :
    ConservesCall objects (lAcquire runtime arguments) := by
  refine conserves_check_bind (checks_checkResource _) fun ud valid => Conserves.call ?_
  have found := valid.2
  split
  · rename_i noneKept
    rw [noneKept] at found
    exact conserves_acquireNew memory found
  · rename_i token kept
    rw [kept] at found
    refine conserves_bind (moves_dropCached found) fun released moved isHere => ?_
    split
    · exact conserves_error
    · exact conserves_acquireNew memory isHere

/-- The token that `release` is about. -/
theorem moves_tokenToRelease {ud : CheckedResource} (given : Option CStr) :
    Moves objects (tokenToRelease ud given) fun trace token moved =>
      Silent objects trace token moved ∧ ∀ released, token = some released →
        given = some released ∨ ∃ kept, ud.acquisitionToken = some kept ∧
          released = kept.value := by
  unfold tokenToRelease
  split
  · refine moves_pure ⟨⟨rfl, rfl⟩, ?_⟩
    rintro _ ⟨⟩
    exact .inl rfl
  · rename_i cached kept
    refine (moves_borrow _).bind fun _ _ _ silent => ?_
    obtain ⟨rfl, rfl⟩ := silent
    refine moves_pure ⟨⟨rfl, rfl⟩, ?_⟩
    rintro _ ⟨⟩
    exact .inr ⟨cached, kept, rfl⟩
  · exact moves_pure ⟨⟨rfl, rfl⟩, nofun⟩

/-- A token is asked to be released, and after a success the kept token is dropped. -/
theorem conserves_releaseToken {ud : CheckedResource} {token : CStr}
    (found : objects[ud.object]? =
      some (UserData.resource ⟨some ud.handle, ud.acquisitionToken⟩))
    (same : ∀ kept, ud.acquisitionToken = some kept → token = kept.value) :
    Conserves objects (do
      let released ← inC (qrmiResourceRelease ud.handle token)
      if released ≠ .success then pushQrmiError released
      else do
        LuaBinding.free ud.acquisitionToken
        setObject ud.object (.resource ⟨some ud.handle, none⟩)
        return [.boolean true]) := by
  refine (moves_inC (leads_qrmiResourceRelease ud.handle token)).bind
    fun released earlier _ holds => ?_
  obtain ⟨asked, rfl⟩ := holds
  by_cases fails : released ≠ .success
  · rw [if_pos fails]
    refine (moves_pushQrmiError released).mono fun _ _ _ silent texts _ => ?_
    obtain ⟨rfl, rfl⟩ := silent
    rw [List.append_nil]
    refine ⟨?_, texts⟩
    rw [asked.1, add_zero]
    exact Multiset.le_add_right _ _
  · rw [if_neg fails]
    refine (moves_free _).bind fun _ _ _ silent => ?_
    obtain ⟨rfl, rfl⟩ := silent
    refine (moves_setObject _ _).bind fun _ _ _ set => ?_
    obtain ⟨rfl, rfl⟩ := set
    refine moves_pure ?_
    simp only [List.append_nil]
    obtain ⟨others, divided, changed, -⟩ := heldTokens_resource found
    cases kept : ud.acquisitionToken with
    | none =>
        rw [kept, keptToken_none, zero_add] at divided
        intro texts _
        have unchanged : heldTokens (objects.set ud.object
            (.resource ⟨some ud.handle, none⟩)) = heldTokens objects := by
          rw [changed, divided, keptToken_none, zero_add]
        refine ⟨?_, keepsTexts_mono texts unchanged.le⟩
        rw [asked.1, add_zero, unchanged]
        exact Multiset.le_add_right _ _
    | some own =>
        rw [kept] at found divided
        obtain rfl := same own kept
        refine conserved_dropped found asked ?_
        rw [changed, divided, keptToken_none, zero_add]

/-- The release of the kept token, of the same token given explicitly, or of any token
where none is kept. -/
theorem conserves_lRelease {arguments : List LuaValue}
    (explicit : ∀ object handle kept given, argument arguments 1 = some (.userdata object) →
      objects[object]? = some (UserData.resource ⟨handle, some kept⟩) →
        stringOf (argument arguments 2) = some given → given = kept.value) :
    ConservesCall objects (lRelease arguments) := by
  refine conserves_check_bind (checks_checkResource _) fun ud valid => ?_
  obtain ⟨isObject, found⟩ := valid
  refine conserves_check_bind (checks_optString _ _ _) fun given isGiven => Conserves.call ?_
  refine (moves_tokenToRelease given).bind fun token _ _ holds => ?_
  obtain ⟨⟨rfl, rfl⟩, isToken⟩ := holds
  cases token with
  | none => exact conserves_pure
  | some token =>
      refine conserves_releaseToken found fun kept isKept => ?_
      rcases isToken token rfl with rfl | ⟨own, isOwn, rfl⟩
      · rcases isGiven with impossible | ⟨string, equal, isString⟩
        · cases impossible
        · cases equal
          rw [isKept] at found
          exact explicit _ _ _ _ isObject found isString
      · rw [isKept] at isOwn
        cases isOwn
        rfl

theorem moves_releaseCached (handle : Owned Nat) (token : Option (Owned CStr)) :
    Moves objects (releaseCached handle token) fun trace _ moved => objects = moved ∧
      match token with
      | none => trace = []
      | some token => acquiredTokens trace = 0 ∧ ∀ text, token.value.toStr = some text →
          releasedTokens trace = {(handle.value, token.value.bytes)} := by
  cases token with
  | none => exact moves_pure ⟨rfl, rfl⟩
  | some token =>
      refine (moves_borrow _).bind fun _ _ _ silent => ?_
      obtain ⟨rfl, rfl⟩ := silent
      refine (moves_inC (leads_qrmiResourceRelease handle token.value)).bind
        fun released earlier _ holds => ?_
      obtain ⟨asked, rfl⟩ := holds
      refine (moves_free _).mono fun _ _ _ silent => ?_
      obtain ⟨rfl, rfl⟩ := silent
      refine ⟨rfl, ?_⟩
      simpa only [List.nil_append, List.append_nil] using asked

/-- A resource that is freed asks for the release of its token. -/
theorem conserves_releaseResource {object : Nat} {handle : Owned Nat}
    {token : Option (Owned CStr)}
    (found : objects[object]? = some (UserData.resource ⟨some handle, token⟩)) :
    Conserves objects (releaseResource object ⟨some handle, token⟩) := by
  obtain ⟨others, divided, -, freed⟩ := heldTokens_resource found
  refine (moves_releaseCached handle token).bind fun _ earlier _ holds => ?_
  obtain ⟨rfl, asked⟩ := holds
  refine (moves_inC (leads_release _ _)).bind fun _ _ _ released => ?_
  obtain ⟨rfl, rfl⟩ := released
  refine (moves_setObject _ _).mono fun _ _ _ set => ?_
  obtain ⟨rfl, rfl⟩ := set
  simp only [List.append_nil]
  cases token with
  | none =>
      obtain rfl := asked
      rw [keptToken_none, zero_add] at divided
      intro texts _
      have unchanged := freed.trans divided.symm
      exact ⟨add_le_add unchanged.ge le_rfl, keepsTexts_mono texts unchanged.le⟩
  | some token =>
      refine conserved_dropped found asked ?_
      rw [freed, divided]

theorem conserves_lResourceFree (arguments : List LuaValue) :
    ConservesCall objects (lResourceFree arguments) := by
  refine conserves_check_bind (checks_checkUserdata _ _ _) fun found valid => Conserves.call ?_
  obtain ⟨object, handle, token⟩ := found
  have isHere := resourceOf_eq_some valid.2
  dsimp only at isHere
  have conserved : Conserves objects (releaseResource object ⟨handle, token⟩) := by
    cases handle with
    | none => exact conserves_pure
    | some handle => exact conserves_releaseResource isHere
  have freed : Moves objects (releaseResource object ⟨handle, token⟩) fun trace _ moved =>
      Conserved objects trace moved ∧ True :=
    conserved.mono fun _ _ _ kept => ⟨kept, trivial⟩
  exact conserves_bind freed fun _ _ _ => conserves_pure

/-- The token that is handed over is the one that was kept. -/
theorem moves_detachToken {ud : CheckedResource} {token : Owned CStr}
    (found : objects[ud.object]? = some (UserData.resource ⟨some ud.handle, some token⟩)) :
    Moves objects (do
      LuaBinding.free (some token)
      setObject ud.object (.resource ⟨some ud.handle, none⟩)
      return [LuaValue.string token.value.bytes]) fun trace values moved => trace = [] ∧
        values = [LuaValue.string token.value.bytes] ∧
          heldTokens objects = {(ud.handle.value, token.value.bytes)} + heldTokens moved := by
  obtain ⟨others, divided, changed, -⟩ := heldTokens_resource found
  refine (moves_free _).bind fun _ _ _ silent => ?_
  obtain ⟨rfl, rfl⟩ := silent
  refine (moves_setObject _ _).bind fun _ _ _ set => ?_
  obtain ⟨rfl, rfl⟩ := set
  refine moves_pure ⟨rfl, rfl, ?_⟩
  rw [changed, divided, keptToken_none, zero_add, keptToken_some]

end Functions

end LuaBinding

section Calls

open LuaBinding Method

variable {runtime : LuaRuntime} {before after : Stored CBlock LuaState} {call : LuaCall}

/-- What a call does to the tokens: none is lost. -/
def LuaCall.Accounts (before : Stored CBlock LuaState) (call : LuaCall)
    (after : Stored CBlock LuaState) : Prop :=
  heldTokens before.rest.objects + acquiredTokens call.trace ≤
      heldTokens after.rest.objects + releasedTokens call.trace + call.detachedToken before ∧
    KeepsTexts after.rest.objects

theorem acquiredTokens_eq_zero {trace : List (Event Invocation.Answer)}
    (none : ∀ event ∈ trace, acquiredToken event = 0) : acquiredTokens trace = 0 := by
  induction trace with
  | nil => rfl
  | cons event rest ih =>
      change acquiredToken event + acquiredTokens rest = 0
      rw [none event (List.mem_cons_self ..), zero_add]
      exact ih fun event member => none event (List.mem_cons_of_mem _ member)

/-- A function that keeps the tokens does not acquire any. -/
theorem acquiredToken_eq_zero {function : LuaFunction} (keeps : function.keepsTokens = true)
    {event : Event Invocation.Answer} (asks : function.asks event.1) :
    acquiredToken event = 0 := by
  obtain ⟨invocation, answer⟩ := event
  cases invocation with
  | resource handle method =>
      cases method with
      | acquire =>
          cases function with
          | acquire => cases keeps
          | _ => exact asks.elim
      | _ => rfl
  | _ => rfl

theorem accounts_of_balances (balances : Balances before.rest.objects call.trace
    after.rest.objects) : call.Accounts before after :=
  ⟨balances.kept.trans (Multiset.le_add_right _ _), balances.texts⟩

theorem accounts_of_keeps (taken : call.Step runtime before after)
    (texts : KeepsTexts before.rest.objects) (keeps : call.function.keepsTokens = true) :
    call.Accounts before after := by
  obtain ⟨asks, same⟩ := call.function.confined_call runtime call.arguments taken
  have unchanged := same keeps
  have none := acquiredTokens_eq_zero fun event member =>
    acquiredToken_eq_zero keeps (asks event member)
  refine ⟨?_, keepsTexts_mono texts unchanged.le⟩
  rw [none, add_zero, unchanged, add_assoc]
  exact Multiset.le_add_right _ _

theorem accounts_of_detach {arguments : List LuaValue}
    {trace : List (Event Invocation.Answer)} {result : Except (Halt LuaError) (List LuaValue)}
    (executes : (lDetach arguments).Executes before trace result after)
    (returned : result ≠ .error .panic) (texts : KeepsTexts before.rest.objects) :
    LuaCall.Accounts before ⟨.detach, arguments, trace, result⟩ after := by
  have unchanged {result : Except (Halt LuaError) (List LuaValue)} :
      LuaCall.Accounts before ⟨.detach, arguments, [], result⟩ before := by
    refine ⟨?_, texts⟩
    rw [add_assoc]
    exact add_le_add le_rfl (Multiset.zero_le _)
  rcases executes_bind_iff.mp executes with
    ⟨_, rfl, failed⟩ | ⟨first, second, ud, middle, rfl, ran, rest⟩
  · obtain ⟨rfl, rfl, -⟩ := checks_checkResource _ failed
    exact unchanged
  obtain ⟨rfl, rfl, ⟨_, equal⟩ | ⟨_, equal, valid⟩⟩ := checks_checkResource _ ran
  · cases equal
  cases equal
  obtain ⟨isObject, found⟩ := valid
  split at rest
  · obtain ⟨rfl, rfl, rfl⟩ := executes_pure_iff.mp rest
    exact unchanged
  · rename_i token kept
    rw [kept] at found
    obtain ⟨_, rfl, rfl, rfl, divided⟩ :=
      (moves_detachToken found rfl rest).resolve_left returned
    have detached : LuaCall.detachedToken middle
        ⟨.detach, arguments, [] ++ [], .ok [.string token.value.bytes]⟩ =
          {(ud.handle.value, token.value.bytes)} := by
      simp only [LuaCall.detachedToken, isObject, found]
    refine ⟨?_, keepsTexts_mono texts (divided.symm ▸ Multiset.le_add_left _ _)⟩
    rw [detached, divided, add_comm ({_} : Multiset LuaToken)]
    exact (add_right_comm _ _ (0 : Multiset LuaToken)).le

/-- A call loses no token. -/
theorem accounts_of_careful (memory : ∀ next, runtime.refusesMemory next = false)
    (taken : call.Step runtime before after) (returned : call.result ≠ .error .panic)
    (careful : call.Careful before) (texts : KeepsTexts before.rest.objects) :
    call.Accounts before after := by
  obtain ⟨function, arguments, trace, result⟩ := call
  cases function with
  | acquire =>
      exact accounts_of_balances
        (conserves_lAcquire arguments memory rfl taken returned texts careful.strings)
  | release =>
      exact accounts_of_balances
        (conserves_lRelease (careful.explicit rfl) rfl taken returned texts careful.strings)
  | free | gc =>
      exact accounts_of_balances
        (conserves_lResourceFree arguments rfl taken returned texts careful.strings)
  | detach => exact accounts_of_detach taken returned texts
  | _ => exact accounts_of_keeps taken texts rfl

end Calls

/-! ## Runs -/

/-- The tokens that a run has acquired, asked to be released, and handed over. -/
structure TokenLedger where
  acquired : Multiset LuaToken
  released : Multiset LuaToken
  detached : Multiset LuaToken

namespace TokenLedger

def empty : TokenLedger where
  acquired := 0
  released := 0
  detached := 0

/-- Enter a call. -/
def record (before : Stored CBlock LuaState) (call : LuaCall) (ledger : TokenLedger) :
    TokenLedger where
  acquired := ledger.acquired + acquiredTokens call.trace
  released := ledger.released + releasedTokens call.trace
  detached := ledger.detached + call.detachedToken before

/-- A call that does not drop a token, with the ledger before and after it. -/
structure Step (runtime : LuaRuntime) (before : Stored CBlock LuaState × TokenLedger)
    (call : LuaCall) (after : Stored CBlock LuaState × TokenLedger) : Prop where
  taken : call.Step runtime before.1 after.1
  returned : call.result ≠ .error .panic
  careful : call.Careful before.1
  recorded : after.2 = before.2.record before.1 call

/-- Every acquired token is kept, was asked to be released, or was handed over. -/
def Accounted (state : Stored CBlock LuaState × TokenLedger) : Prop :=
  state.2.acquired ≤ heldTokens state.1.rest.objects + state.2.released + state.2.detached

theorem accounted_of_step {runtime : LuaRuntime} {call : LuaCall}
    {before after : Stored CBlock LuaState × TokenLedger}
    (memory : ∀ next, runtime.refusesMemory next = false)
    (accounted : Accounted before ∧ KeepsTexts before.1.rest.objects)
    (step : Step runtime before call after) :
    Accounted after ∧ KeepsTexts after.1.rest.objects := by
  obtain ⟨earlier, texts⟩ := accounted
  obtain ⟨kept, textsAfter⟩ :=
    accounts_of_careful memory step.taken step.returned step.careful texts
  refine ⟨?_, textsAfter⟩
  unfold Accounted at earlier ⊢
  rw [step.recorded]
  calc before.2.acquired + acquiredTokens call.trace
      ≤ heldTokens before.1.rest.objects + before.2.released + before.2.detached +
          acquiredTokens call.trace := add_le_add earlier le_rfl
    _ = heldTokens before.1.rest.objects + acquiredTokens call.trace +
          (before.2.released + before.2.detached) := by
        rw [add_assoc (heldTokens _), add_right_comm]
    _ ≤ heldTokens after.1.rest.objects + releasedTokens call.trace +
          call.detachedToken before.1 + (before.2.released + before.2.detached) :=
        add_le_add kept le_rfl
    _ = heldTokens after.1.rest.objects + (before.2.released + releasedTokens call.trace) +
          (before.2.detached + call.detachedToken before.1) := by
        abel

end TokenLedger

/-- In every run of careful calls, each token that was acquired is kept by its object,
was asked to be released on its resource, or was handed over by `detach`. -/
theorem tokens_accounted {runtime : LuaRuntime} {calls : List LuaCall}
    {final : Stored CBlock LuaState × TokenLedger}
    (memory : ∀ next, runtime.refusesMemory next = false)
    (history : History (TokenLedger.Step runtime) (LuaState.initial, .empty) calls final) :
    final.2.acquired ≤ heldTokens final.1.rest.objects + final.2.released + final.2.detached := by
  have accounted : TokenLedger.Accounted final ∧ KeepsTexts final.1.rest.objects := by
    refine History.stateInvariant
      (fun state => TokenLedger.Accounted state ∧ KeepsTexts state.1.rest.objects) ?_
      (fun accounted step => TokenLedger.accounted_of_step memory accounted step) history
    exact ⟨Multiset.zero_le _, by rintro _ ⟨⟩⟩
  exact accounted.1

namespace TokenLedger.Detached

/-- The resource that was created is acquired with the token "t". -/
def acquisition : LuaCall where
  function := .acquire
  arguments := [.userdata 0]
  trace := [⟨.resource 7 .acquire, (.ok ['t'] : Except QrmiError Text)⟩]
  result := .ok [.string [116]]

def keeping : Stored CBlock LuaState where
  heap :=
    { next := 4
      live := {⟨3, .malloc⟩, ⟨1, .resource⟩, ⟨0, .string⟩}
      below := by decide
      distinct := by decide }
  rest :=
    { thread := ⟨none, .other, []⟩
      objects := [.resource ⟨some ⟨1, 7⟩, some ⟨3, .ofBytes [116]⟩⟩] }

theorem acquires : acquisition.Step EmptyMetadata.runtime EmptyMetadata.created keeping := by
  exact .ask (.done _)

/-- The token is handed over. -/
def detachment : LuaCall where
  function := .detach
  arguments := [.userdata 0]
  trace := []
  result := .ok [.string [116]]

def detached : Stored CBlock LuaState where
  heap :=
    { next := 4
      live := EmptyMetadata.created.heap.live
      below := by decide
      distinct := EmptyMetadata.created.heap.distinct }
  rest :=
    { thread := ⟨none, .other, []⟩
      objects := [.resource ⟨some ⟨1, 7⟩, none⟩] }

theorem detaches : detachment.Step EmptyMetadata.runtime keeping detached := by
  exact .done _

theorem careful {before : Stored CBlock LuaState} {call : LuaCall}
    (other : call.function ≠ .release) (strings : AcquiresStrings call.trace) :
    call.Careful before :=
  ⟨fun isRelease => absurd isRelease other, strings⟩

theorem acquiresStrings_creation : AcquiresStrings EmptyMetadata.creation.trace := by
  intro handle text member
  cases List.mem_singleton.mp member

theorem acquiresStrings_acquisition : AcquiresStrings acquisition.trace := by
  intro handle text member
  cases List.mem_singleton.mp member
  decide

def afterCreation : TokenLedger :=
  TokenLedger.empty.record LuaState.initial EmptyMetadata.creation

theorem stepCreation : Step EmptyMetadata.runtime (LuaState.initial, .empty)
    EmptyMetadata.creation (EmptyMetadata.created, afterCreation) :=
  ⟨EmptyMetadata.creates, nofun, careful (by decide) acquiresStrings_creation, rfl⟩

def afterAcquisition : TokenLedger :=
  afterCreation.record EmptyMetadata.created acquisition

theorem stepAcquisition : Step EmptyMetadata.runtime (EmptyMetadata.created, afterCreation)
    acquisition (keeping, afterAcquisition) :=
  ⟨acquires, nofun, careful (by decide) acquiresStrings_acquisition, rfl⟩

/-- The ledger after the three calls. -/
def ledger : TokenLedger :=
  afterAcquisition.record keeping detachment

theorem stepDetachment : Step EmptyMetadata.runtime (keeping, afterAcquisition) detachment
    (detached, ledger) :=
  ⟨detaches, nofun, careful (by decide) (by rintro _ _ ⟨⟩), rfl⟩

theorem history : History (Step EmptyMetadata.runtime) (LuaState.initial, .empty)
    [EmptyMetadata.creation, acquisition, detachment] (detached, ledger) :=
  .cons stepCreation (.cons stepAcquisition (.cons stepDetachment (.nil _)))

end TokenLedger.Detached

/-- The token of the acquisition was handed over. -/
theorem tokens_accounted_detached :
    TokenLedger.Detached.ledger.acquired ≤
      heldTokens TokenLedger.Detached.detached.rest.objects +
        TokenLedger.Detached.ledger.released + TokenLedger.Detached.ledger.detached :=
  tokens_accounted (fun _ => rfl) TokenLedger.Detached.history
