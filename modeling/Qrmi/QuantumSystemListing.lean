import Qrmi.QuantumSystemTasks

/-!
# Listing a bucket

The service hands out the keys of a bucket page by page, and the client follows the
continuation tokens.
-/

open Interaction

namespace QuantumSystem

/-- A page of the keys of a bucket.  An object may come without its key. -/
structure ListPage where
  contents : List (Option Text)
  isTruncated : Option Bool
  nextContinuationToken : Option Text

def ListPage.keyNames (page : ListPage) : List Text :=
  page.contents.map fun key => key.getD []

/-- The request for a page. -/
structure ListQuery where
  config : S3Config
  bucket : Text
  continuationToken : Option Text

abbrev ListQuery.Answer (_ : ListQuery) : Type :=
  Except String ListPage

abbrev ListMethod (α : Type) : Type :=
  Method ListQuery ListQuery.Answer Unit QuantumSystemError α

section Loop

variable (config : S3Config) (bucket : Text)

/-- The loop of `list_objects`.  The fuel bounds the pages where nothing else does. -/
def listFrom : Nat → Option Text → List Text → ListMethod (List Text)
  | 0, _, _ => fun _ => .pending
  | fuel + 1, contToken, keyNames => do
      let answer ← Method.lift (Program.question ⟨config, bucket, contToken⟩)
      let resp ← Method.ofExcept (answer.mapError
        (Client.otherError "An error occurred while listing objects in S3 bucket"))
      if resp.isTruncated = some true then
        listFrom fuel resp.nextContinuationToken (keyNames ++ resp.keyNames)
      else return keyNames ++ resp.keyNames

/-- `S3Client::list_objects`. -/
def listObjects (fuel : Nat) : ListMethod (List Text) :=
  listFrom config bucket fuel none []

/-- Page after page, up to the first failure or the first page that is not truncated. -/
inductive Listing : Option Text → List (Event ListQuery.Answer) → Except String (List Text) → Prop
  | failed (token : Option Text) (message : String) :
      Listing token [⟨⟨config, bucket, token⟩, .error message⟩] (.error message)
  | last {token : Option Text} {page : ListPage} (ends : page.isTruncated ≠ some true) :
      Listing token [⟨⟨config, bucket, token⟩, .ok page⟩] (.ok page.keyNames)
  | more {token : Option Text} {page : ListPage} {trace : List (Event ListQuery.Answer)}
      {outcome : Except String (List Text)} (truncated : page.isTruncated = some true)
      (rest : Listing page.nextContinuationToken trace outcome) :
      Listing token (⟨⟨config, bucket, token⟩, .ok page⟩ :: trace)
        (outcome.map (page.keyNames ++ ·))

/-- What the caller gets of the keys that were listed, or of the failure. -/
def listed (keyNames : List Text) (outcome : Except String (List Text)) :
    Except QuantumSystemError (List Text) :=
  (outcome.map (keyNames ++ ·)).mapError
    (Client.otherError "An error occurred while listing objects in S3 bucket")

variable {config bucket}

open Method

theorem executes_listFrom_iff {fuel : Nat} {token : Option Text} {keyNames : List Text}
    {trace : List (Event ListQuery.Answer)} {result : Except QuantumSystemError (List Text)} :
    (listFrom config bucket fuel token keyNames).Executes () trace result () ↔
      trace.length ≤ fuel ∧ ∃ outcome, Listing config bucket token trace outcome ∧
        result = listed keyNames outcome := by
  induction fuel generalizing token keyNames trace with
  | zero =>
      constructor
      · exact fun executes => absurd executes Program.not_runs_pending
      · rintro ⟨short, outcome, listing, -⟩
        cases listing <;> cases short
  | succ fuel ih =>
      rw [listFrom, executes_question_bind_iff]
      constructor
      · rintro ⟨answer, rest, rfl, continued⟩
        cases answer with
        | error message =>
            obtain ⟨rfl, rfl, -⟩ := executes_ofExcept_bind_error_iff.mp continued
            exact ⟨Nat.succ_le_succ (Nat.zero_le _), _, .failed token message, rfl⟩
        | ok page =>
            have afterPage := executes_ofExcept_bind_ok_iff.mp continued
            split at afterPage
            · rename_i truncated
              obtain ⟨short, outcome, listing, rfl⟩ := ih.mp afterPage
              refine ⟨Nat.succ_le_succ short, _, .more truncated listing, ?_⟩
              cases outcome with
              | error message => rfl
              | ok keys =>
                  rw [listed, listed, Except.map, Except.map, Except.map, List.append_assoc]
            · rename_i ends
              obtain ⟨rfl, rfl, -⟩ := executes_pure_iff.mp afterPage
              exact ⟨Nat.succ_le_succ (Nat.zero_le _), _, .last ends, rfl⟩
      · rintro ⟨short, outcome, listing, rfl⟩
        cases listing with
        | failed => exact ⟨_, [], rfl, executes_ofExcept_bind_error_iff.mpr ⟨rfl, rfl, rfl⟩⟩
        | @last _ page ends =>
            refine ⟨_, [], rfl, executes_ofExcept_bind_ok_iff.mpr ?_⟩
            rw [if_neg ends]
            exact executes_pure_iff.mpr ⟨rfl, rfl, rfl⟩
        | @more _ page trace outcome truncated rest =>
            refine ⟨_, _, rfl, executes_ofExcept_bind_ok_iff.mpr ?_⟩
            rw [if_pos truncated]
            refine ih.mpr ⟨Nat.le_of_succ_le_succ short, outcome, rest, ?_⟩
            cases outcome with
            | error message => rfl
            | ok keys =>
                rw [listed, listed, Except.map, Except.map, Except.map, List.append_assoc]

end Loop

/-- A service whose pages are pieces of the keys of a bucket, in order.  `start` is the
position of a token. -/
structure Pages (objects : List Text) (serve : Option Text → ListPage)
    (start : Option Text → Nat) : Prop where
  first : start none = 0
  last : ∀ token, (serve token).isTruncated ≠ some true →
    (serve token).keyNames = objects.drop (start token)
  more : ∀ token, (serve token).isTruncated = some true →
    start token < start (serve token).nextContinuationToken ∧
      start (serve token).nextContinuationToken ≤ objects.length ∧
        objects.drop (start token) = (serve token).keyNames ++
          objects.drop (start (serve token).nextContinuationToken)

/-- Every request is answered with the page that the service has for its token. -/
def AnsweredBy (serve : Option Text → ListPage) (trace : List (Event ListQuery.Answer)) : Prop :=
  ∀ event ∈ trace, event.2 = .ok (serve event.1.continuationToken)

section Buckets

variable {config : S3Config} {bucket : Text} {objects : List Text}
variable {serve : Option Text → ListPage} {start : Option Text → Nat}

/-- Following the tokens gives the keys from the first token on. -/
theorem Listing.eq_drop (pages : Pages objects serve start) {token : Option Text}
    {trace : List (Event ListQuery.Answer)} {outcome : Except String (List Text)}
    (listing : Listing config bucket token trace outcome) (answered : AnsweredBy serve trace) :
    outcome = .ok (objects.drop (start token)) ∧
      trace.length ≤ objects.length - start token + 1 := by
  induction listing with
  | failed token message => cases answered _ List.mem_cons_self
  | @last token page ends =>
      obtain rfl : page = serve token := Except.ok.inj (answered _ List.mem_cons_self)
      exact ⟨congrArg Except.ok (pages.last token ends), Nat.succ_le_succ (Nat.zero_le _)⟩
  | @more token page trace outcome truncated rest ih =>
      obtain rfl : page = serve token := Except.ok.inj (answered _ List.mem_cons_self)
      obtain ⟨rfl, short⟩ := ih fun event member => answered event (List.mem_cons_of_mem _ member)
      obtain ⟨forward, within, pieces⟩ := pages.more token truncated
      refine ⟨congrArg Except.ok pieces.symm, ?_⟩
      rw [List.length_cons]
      omega

/-- The pages of a bucket come to an end. -/
theorem exists_listing (pages : Pages objects serve start) (token : Option Text) :
    ∃ trace outcome, AnsweredBy serve trace ∧ Listing config bucket token trace outcome := by
  induction remaining : objects.length - start token using Nat.strong_induction_on
    generalizing token with
  | _ remaining ih =>
      by_cases truncated : (serve token).isTruncated = some true
      · obtain ⟨forward, within, -⟩ := pages.more token truncated
        obtain ⟨trace, outcome, answered, listing⟩ := ih
          (objects.length - start (serve token).nextContinuationToken) (by omega) _ rfl
        refine ⟨_, _, fun event member => ?_, .more truncated listing⟩
        rcases List.mem_cons.mp member with rfl | later
        · rfl
        · exact answered event later
      · refine ⟨_, _, fun event member => ?_, .last truncated⟩
        obtain rfl := List.mem_singleton.mp member
        rfl

/-- A listing ends with every key of the bucket, once and in order, and with at most one
request more than there are keys. -/
theorem lists_objects (pages : Pages objects serve start) {fuel : Nat}
    (enough : objects.length < fuel) :
    (∃ trace, AnsweredBy serve trace ∧
      (listObjects config bucket fuel).Executes () trace (.ok objects) ()) ∧
      ∀ trace result, AnsweredBy serve trace →
        (listObjects config bucket fuel).Executes () trace result () →
          result = .ok objects ∧ trace.length ≤ objects.length + 1 := by
  have whole : objects.drop (start none) = objects := by
    rw [pages.first, List.drop_zero]
  refine ⟨?_, fun trace result answered executes => ?_⟩
  · obtain ⟨trace, outcome, answered, listing⟩ :=
      @exists_listing config bucket _ _ _ pages none
    obtain ⟨rfl, short⟩ := listing.eq_drop pages answered
    refine ⟨trace, answered, executes_listFrom_iff.mpr ⟨by omega, _, listing, ?_⟩⟩
    rw [whole]
    rfl
  · obtain ⟨-, outcome, listing, rfl⟩ := executes_listFrom_iff.mp executes
    obtain ⟨rfl, short⟩ := listing.eq_drop pages answered
    refine ⟨?_, by omega⟩
    rw [whole]
    rfl

end Buckets

namespace TwoPages

def serve : Option Text → ListPage
  | none => ⟨[some ['a']], some true, some ['t']⟩
  | some _ => ⟨[some ['b']], some false, none⟩

def start (token : Option Text) : Nat :=
  if token = none then 0 else 1

theorem pages : Pages [['a'], ['b']] serve start where
  first := rfl
  last token ends := by
    cases token with
    | none => exact absurd rfl ends
    | some token => rfl
  more token truncated := by
    cases token with
    | none => exact ⟨Nat.zero_lt_one, by decide, rfl⟩
    | some token => cases truncated

end TwoPages

theorem lists_twoPages : ∃ trace, AnsweredBy TwoPages.serve trace ∧
    (listObjects ⟨[], [], [], []⟩ ['b'] 3).Executes () trace (.ok [['a'], ['b']]) () :=
  (lists_objects TwoPages.pages (by decide)).1

end QuantumSystem
