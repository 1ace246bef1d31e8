import Qrmi.QuantumComputeService

/-!
# Looking for a dedicated session

A backend is busy when one of its running jobs belongs to an active dedicated session.
The jobs come in pages, and the search asks for the page at the next offset until it
finds such a job or a page is short.
-/

open Interaction
open QuantumCompute

namespace IBMQuantumComputeService

/-- The request for the page at an offset. -/
def pageRequest (config : Configuration) (backendName : Text) (offset : Nat) :
    HttpRequest :=
  config.request .get "/jobs".toList
    [("limit", some (Text.showInt PAGE_SIZE)), ("offset", some (Text.showInt offset)),
      ("pending", some (showBool true)), ("backend", some backendName),
      ("sort", some "DESC".toList), ("session_id", none),
      ("exclude_params", some (showBool true))]
    (some "2025-01-01") none

/-- The request for the session of a job. -/
def jobSessionRequest (config : Configuration) (id : Text) : HttpRequest :=
  config.request .get (sessionPath id) [] (some "2025-01-01") none

section Serving

variable (codec : Codec) (config : Configuration) (backendName : Text)

/-- What a server with these jobs and sessions answers: every page is the slice at its
offset, and every lookup succeeds. -/
structure ServesJobs (jobs : List JobResponse) (sessions : Text → SessionResponse)
    (event : WebEvent) : Prop where
  page : ∀ offset reply, event = ⟨.send (pageRequest config backendName offset), reply⟩ →
    ∃ page, HttpReply.readJson "application/json" "models::JobsResponse" codec.readJobs
        reply = .ok page ∧
      page.jobs.getD [] = (jobs.drop offset).take PAGE_SIZE
  session : ∀ id reply, event = ⟨.send (jobSessionRequest config id), reply⟩ →
    HttpReply.readJson "application/json" "models::CreateSession200Response"
      codec.readSession reply = .ok (sessions id)

/-- A lookup of a session, or a request for a page whose offset is an `i32`. -/
def PagesInRange (event : WebEvent) : Prop :=
  (∃ id, event.1 = .send (jobSessionRequest config id)) ∨
    ∃ offset ≤ MAX_OFFSET, event.1 = .send (pageRequest config backendName offset)

/-- A running job of a session that keeps the device for itself. -/
def OccupiesDevice (sessions : Text → SessionResponse) (job : JobResponse) : Prop :=
  job.status = .running ∧ ∃ id, job.sessionId = some id ∧
    (sessions id).state = some .active ∧ (sessions id).mode = .dedicated

end Serving

section Search

variable {codec : Codec} {config : Configuration} {backendName : Text}
variable {jobs : List JobResponse} {sessions : Text → SessionResponse} {offset : Nat}

theorem isDedicatedActive_iff {session : SessionResponse} :
    isDedicatedActive session = true ↔
      session.state = some .active ∧ session.mode = .dedicated := by
  simp [isDedicatedActive]

/-- One step of the scan: only a running job of a session is looked up. -/
theorem scanJobs_total (jobs : List JobResponse) : (scanJobs codec config jobs).Total := by
  induction jobs with
  | nil => exact Program.total_pure _
  | cons job jobs ih =>
      rw [scanJobs]
      split
      · exact ih
      · split
        · exact ih
        · refine Program.Total.tryThen
            ((fetch_total _ _).bind fun _ => Program.total_pure _) fun session => ?_
          split
          · exact Program.total_pure _
          · exact ih

theorem scanJobs_inRange (jobs : List JobResponse) :
    (scanJobs codec config jobs).Asks (PagesInRange config backendName) := by
  refine asks_scanJobs (fun id => ?_) jobs
  exact (Program.asks_question fun _ => .inl ⟨id, rfl⟩).bind fun _ => Program.asks_pure _

/-- A page is scanned for a job that occupies the device. -/
theorem scanJobs_ensures {served : List JobResponse} (page : List JobResponse) :
    (scanJobs codec config page).Ensures (ServesJobs codec config backendName served sessions)
      fun result => ∃ found, result = .ok found ∧
        (found = true ↔ ∃ job ∈ page, OccupiesDevice sessions job) := by
  induction page with
  | nil => exact Program.ensures_pure ⟨false, rfl, by simp⟩
  | cons job jobs ih =>
      rw [scanJobs]
      have passes : ¬ OccupiesDevice sessions job →
          (scanJobs codec config jobs).Ensures
            (ServesJobs codec config backendName served sessions) fun result =>
              ∃ found, result = .ok found ∧
                (found = true ↔ ∃ other ∈ job :: jobs, OccupiesDevice sessions other) := by
        intro idle trace result runs served
        obtain ⟨found, returned, found_iff⟩ := ih trace result runs served
        refine ⟨found, returned, found_iff.trans ?_⟩
        rw [List.exists_mem_cons_iff, or_iff_right idle]
      by_cases running : job.status = .running
      case neg =>
        rw [if_pos running]
        exact passes fun occupies => running occupies.1
      rw [if_neg (not_not.mpr running)]
      cases held : job.sessionId with
      | none =>
          refine passes fun occupies => ?_
          obtain ⟨-, id, holds, -⟩ := occupies
          rw [held] at holds
          cases holds
      | some id =>
          have lookup : (classified (classify .session)
              (getSession codec config (some "2025-01-01") id)).Ensures
                (ServesJobs codec config backendName served sessions) fun outcome =>
                  ∃ session, outcome = .ok session ∧ session = sessions id := by
            refine ensures_classified_fetch fun reply serves => ⟨_, ?_, rfl⟩
            have read := serves.session id reply rfl
            rw [read]
            rfl
          refine lookup.tryThen fun session same => ?_
          subst same
          have occupies_iff : OccupiesDevice sessions job ↔
              isDedicatedActive (sessions id) = true := by
            rw [isDedicatedActive_iff, OccupiesDevice, held]
            simp [running]
          split
          case isTrue dedicated =>
            refine Program.ensures_pure ⟨true, rfl, iff_of_true rfl ?_⟩
            exact ⟨job, List.mem_cons_self, occupies_iff.mpr dedicated⟩
          case isFalse shared => exact passes (mt occupies_iff.mp shared)

theorem hasDedicatedActiveSession_total (backendName : Text) (offset : Nat) :
    (hasDedicatedActiveSession codec config backendName offset).Total := by
  induction offset using hasDedicatedActiveSession.induct with
  | case1 offset ih =>
      rw [hasDedicatedActiveSession]
      refine Program.Total.tryThen
        ((fetch_total _ _).bind fun _ => Program.total_pure _) fun page => ?_
      refine (scanJobs_total _).tryThen fun found => ?_
      split
      · exact Program.total_pure _
      split
      · exact Program.total_pure _
      split
      · exact Program.total_pure _
      · exact ih (by assumption)

/-- No addition exceeds the integer type, whatever the server answers. -/
theorem hasDedicatedActiveSession_inRange (bounded : offset ≤ MAX_OFFSET) :
    (hasDedicatedActiveSession codec config backendName offset).Asks
      (PagesInRange config backendName) := by
  induction offset using hasDedicatedActiveSession.induct with
  | case1 offset ih =>
      rw [hasDedicatedActiveSession]
      refine Program.Asks.tryThen (Program.Asks.bind ?_ fun _ => Program.asks_pure _)
        fun page => ?_
      · exact (Program.asks_question fun _ => .inr ⟨offset, bounded, rfl⟩).bind fun _ =>
          Program.asks_pure _
      refine (scanJobs_inRange _).tryThen fun found => ?_
      split
      · exact Program.asks_pure _
      split
      · exact Program.asks_pure _
      split
      · exact Program.asks_pure _
      case isFalse below =>
        refine ih below ?_
        simp only [MAX_OFFSET, PAGE_SIZE] at *
        omega

/-- The search from an offset on finds what is behind it.  The last page of a full list
is short, since the offsets are multiples of the page size. -/
theorem hasDedicatedActiveSession_ensures (bounded : jobs.length ≤ MAX_OFFSET)
    (aligned : PAGE_SIZE ∣ offset) :
    (hasDedicatedActiveSession codec config backendName offset).Ensures
      (ServesJobs codec config backendName jobs sessions) fun result =>
        ∃ found, result = .ok found ∧
          (found = true ↔ ∃ job ∈ jobs.drop offset, OccupiesDevice sessions job) := by
  induction offset using hasDedicatedActiveSession.induct with
  | case1 offset ih =>
      rw [hasDedicatedActiveSession]
      have page : (classified (classify .job) (listJobs codec config (some "2025-01-01")
          { limit := some PAGE_SIZE
            offset := some offset
            pending := some true
            backend := some backendName
            sort := some "DESC".toList
            sessionId := none
            excludeParams := some true })).Ensures
          (ServesJobs codec config backendName jobs sessions) fun outcome =>
            ∃ page, outcome = .ok page ∧
              page.jobs.getD [] = (jobs.drop offset).take PAGE_SIZE := by
        refine ensures_classified_fetch fun reply serves => ?_
        obtain ⟨page, read, slice⟩ := serves.page offset reply rfl
        refine ⟨page, ?_, slice⟩
        rw [read]
        rfl
      refine page.tryThen fun page slice => ?_
      rw [slice]
      refine (scanJobs_ensures _).tryThen fun found onPage => ?_
      have parts : (∃ job ∈ jobs.drop offset, OccupiesDevice sessions job) ↔
          found = true ∨ ∃ job ∈ jobs.drop (offset + PAGE_SIZE),
            OccupiesDevice sessions job := by
        rw [onPage, ← List.drop_drop]
        conv_lhs => rw [← List.take_append_drop PAGE_SIZE (jobs.drop offset)]
        simp only [List.mem_append, or_and_right, exists_or]
      cases found with
      | true =>
          rw [if_pos rfl]
          exact Program.ensures_pure ⟨true, rfl, iff_of_true rfl (parts.mpr (.inl rfl))⟩
      | false =>
          rw [if_neg Bool.false_ne_true]
          simp only [Bool.false_eq_true, false_or] at parts
          have ended : jobs.length ≤ offset + PAGE_SIZE →
              ¬ ∃ job ∈ jobs.drop offset, OccupiesDevice sessions job := by
            intro within
            rw [parts, List.drop_eq_nil_of_le within]
            simp
          split
          case isTrue short =>
            refine Program.ensures_pure ⟨false, rfl, iff_of_false Bool.false_ne_true ?_⟩
            refine ended ?_
            simp only [List.length_take, List.length_drop, PAGE_SIZE] at short ⊢
            omega
          split
          case isTrue beyond =>
            refine Program.ensures_pure ⟨false, rfl, iff_of_false Bool.false_ne_true ?_⟩
            refine ended ?_
            simp only [MAX_OFFSET, PAGE_SIZE] at bounded aligned beyond ⊢
            omega
          case isFalse below =>
            intro trace result runs served
            have rest := ih below (Nat.dvd_add aligned (Nat.dvd_refl _)) trace result runs served
            rwa [parts]

/-- The search ends, its offsets stay in range, and it finds a dedicated session exactly
when there is one. -/
theorem hasDedicatedActiveSession_exact (codec : Codec) (config : Configuration)
    (backendName : Text) (jobs : List JobResponse) (sessions : Text → SessionResponse)
    (bounded : jobs.length ≤ MAX_OFFSET) :
    (hasDedicatedActiveSession codec config backendName 0).Total ∧
      (hasDedicatedActiveSession codec config backendName 0).Asks
        (PagesInRange config backendName) ∧
      (hasDedicatedActiveSession codec config backendName 0).Ensures
        (ServesJobs codec config backendName jobs sessions) fun result =>
          ∃ found, result = .ok found ∧
            (found = true ↔ ∃ job ∈ jobs, OccupiesDevice sessions job) :=
  ⟨hasDedicatedActiveSession_total _ _,
    hasDedicatedActiveSession_inRange (Nat.zero_le _),
    hasDedicatedActiveSession_ensures bounded (Nat.dvd_zero _)⟩

end Search

namespace ThreeJobs

/-- Only the last job is running in a session. -/
def jobs : List JobResponse :=
  [⟨.queued, some ['t']⟩, ⟨.running, none⟩, ⟨.running, some ['s']⟩]

def session : SessionResponse :=
  ⟨['s'], .dedicated, some .active, none, none⟩

/-- A library that reads one page and one session. -/
def codec : Codec where
  readJob _ := .error "expected value"
  readJobs := readDocument "jobs".toList ⟨some jobs⟩
  readCreatedJob _ := .error "expected value"
  readSession := readDocument "session".toList session
  readBackendStatus _ := .error "expected value"
  readBackends _ := .error "expected value"
  readProperties _ := .error "expected value"
  readString _ := .error "expected value"
  readToken _ := .error "expected value"
  samplerInput _ := .error "expected value"
  estimatorInput _ := .error "expected value"
  noiseLearnerInput _ := .error "expected value"
  json := .ofTable []
  toLowercase text := text.map Char.toLower

def reply (body : Text) : HttpReply :=
  .ok ⟨⟨200, "OK"⟩, none, .ok body⟩

def trace : List WebEvent :=
  [⟨.send (pageRequest .new "ibm".toList 0), reply "jobs".toList⟩,
    ⟨.send (jobSessionRequest .new ['s']), reply "session".toList⟩]

theorem runs :
    (hasDedicatedActiveSession codec .new "ibm".toList 0).Runs trace (.ok true) := by
  rw [hasDedicatedActiveSession]
  exact .ask (.ask (.done _))

theorem serves :
    ∀ event ∈ trace, ServesJobs codec .new "ibm".toList jobs (fun _ => session) event := by
  intro event member
  simp only [trace, List.mem_cons, List.not_mem_nil, or_false] at member
  rcases member with rfl | rfl
  · refine ⟨fun offset served equal => ?_, fun id served equal => ?_⟩ <;>
      simp only [Sigma.mk.injEq, WebAction.send.injEq] at equal
    · obtain ⟨same, equal⟩ := equal
      have shown : Text.showInt (0 : Nat) = Text.showInt offset := by
        have queries := congrArg HttpRequest.query same
        simpa [pageRequest, Configuration.request] using queries
      rw [Text.showInt_natCast, Text.showInt_natCast] at shown
      obtain rfl := Text.showUnsigned_injective shown
      obtain rfl := eq_of_heq equal
      exact ⟨⟨some jobs⟩, rfl, rfl⟩
    · have queries := congrArg HttpRequest.query equal.1
      simp [pageRequest, jobSessionRequest, Configuration.request] at queries
  · refine ⟨fun offset served equal => ?_, fun id served equal => ?_⟩ <;>
      simp only [Sigma.mk.injEq, WebAction.send.injEq] at equal
    · have queries := congrArg HttpRequest.query equal.1
      simp [pageRequest, jobSessionRequest, Configuration.request] at queries
    · obtain rfl := eq_of_heq equal.2
      rfl

end ThreeJobs

theorem hasDedicatedActiveSession_exact_threeJobs :
    ThreeJobs.jobs.length ≤ MAX_OFFSET ∧
      ∃ found, (.ok true : Except QrmiError Bool) = .ok found ∧
        (found = true ↔
          ∃ job ∈ ThreeJobs.jobs, OccupiesDevice (fun _ => ThreeJobs.session) job) :=
  ⟨by decide, (hasDedicatedActiveSession_exact ThreeJobs.codec .new "ibm".toList ThreeJobs.jobs
    (fun _ => ThreeJobs.session) (by decide)).2.2 _ _ ThreeJobs.runs ThreeJobs.serves⟩

end IBMQuantumComputeService
