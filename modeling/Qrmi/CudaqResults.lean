import Qrmi.PasqalCloudResource

/-!
# Results of CUDA-Q jobs

Pasqal Cloud returns the counts of a CUDA-Q job in one of four shapes.  All of them
normalise to a document with the counts under `counter`, and such a document is
normalised already.
-/

open Interaction

namespace PasqalCloudResource

open Method PasqalCloud

/-- Counts: numbers under different bit strings. -/
structure Counts where
  entries : List (Text × JsonNumber)
  bitstrings : ∀ entry ∈ entries, ∀ bit ∈ entry.1, bit = '0' ∨ bit = '1'
  distinct : (entries.map Prod.fst).Nodup

def Counts.toJson (counts : Counts) : Json :=
  .object (counts.entries.map fun entry => (entry.1, .number entry.2))

/-- The shapes of a result. -/
inductive ResultShape
  | counter
  | jobInCounter (jobId : Text)
  | counterInJob (jobId : Text)
  | bare

def ResultShape.body (counts : Json) : ResultShape → Json
  | counter => .object [("counter".toList, counts)]
  | jobInCounter jobId => .object [("counter".toList, .object [(jobId, counts)])]
  | counterInJob jobId => .object [(jobId, .object [("counter".toList, counts)])]
  | bare => counts

theorem member?_singleton (key : String) (value : Json) :
    (Json.object [(key.toList, value)]).member? key = some value := by
  rw [Json.member?, List.lookup_cons, beq_self_eq_true]

theorem member?_singleton_of_ne {key : Text} {name : String} (different : key ≠ name.toList)
    (value : Json) : (Json.object [(key, value)]).member? name = none := by
  rw [Json.member?, List.lookup_cons, beq_false_of_ne different.symm]
  rfl

namespace Counts

/-- No bit string is taken for the key of the counter. -/
theorem member?_counter (counts : Counts) : counts.toJson.member? "counter" = none := by
  apply List.lookup_eq_none_iff.mpr
  intro entry member
  obtain ⟨count, among, rfl⟩ := List.mem_map.mp member
  apply bne_iff_ne.mpr
  intro equal
  have bits := counts.bitstrings count among 'c'
  rw [← equal] at bits
  exact absurd (bits (by decide)) (by decide)

theorem all_isNumber (counts : Counts) :
    (counts.entries.map fun entry => (entry.1, Json.number entry.2)).all
      (fun entry => entry.2.isNumber) = true := by
  apply List.all_eq_true.mpr
  intro entry member
  obtain ⟨count, -, rfl⟩ := List.mem_map.mp member
  rfl

end Counts

/-- A counter whose members are numbers is kept. -/
theorem normalizedCounter_of_numbers {result : Json} {counter : List (Text × Json)}
    (isCounter : (result.member? "counter").getD result = .object counter)
    (numbers : (counter.all fun entry => entry.2.isNumber) = true) :
    normalizedCounter result = .object counter := by
  rw [normalizedCounter, isCounter]
  simp only [numbers, if_true]

/-- An object that is the only member of the counter is unwrapped. -/
theorem normalizedCounter_of_wrapped {result : Json} {key : Text} {nested : Json}
    (isCounter : (result.member? "counter").getD result = .object [(key, nested)])
    (isObject : nested.isObject = true) :
    normalizedCounter result =
      ((nested.member? "counter").filter Json.isObject).getD nested := by
  have noNumber : ([(key, nested)].all fun entry => entry.2.isNumber) = false := by
    cases nested with
    | object members => rfl
    | _ => cases isObject
  rw [normalizedCounter, isCounter]
  simp only [noNumber, isObject, if_true, Bool.false_eq_true, if_false]
  cases (nested.member? "counter").filter Json.isObject <;> rfl

/-- A counter that holds nothing but the counts under a key. -/
theorem normalizedCounter_of_job (counts : Counts) {result : Json} {jobId : Text}
    (isCounter : (result.member? "counter").getD result =
      .object [(jobId, counts.toJson)]) :
    normalizedCounter result = counts.toJson := by
  rw [normalizedCounter_of_wrapped isCounter rfl, counts.member?_counter]
  rfl

/-- The counts are found in every shape.  A job with the identifier `counter` makes two
of the shapes the same. -/
theorem normalizedCounter_body (counts : Counts) (shape : ResultShape) :
    normalizedCounter (shape.body counts.toJson) = counts.toJson := by
  cases shape with
  | counter =>
      apply normalizedCounter_of_numbers _ counts.all_isNumber
      rw [ResultShape.body, member?_singleton]
      rfl
  | jobInCounter jobId =>
      apply normalizedCounter_of_job
      rw [ResultShape.body, member?_singleton, Option.getD_some]
  | counterInJob jobId =>
      by_cases same : jobId = "counter".toList
      · apply normalizedCounter_of_job
        rw [ResultShape.body, same, member?_singleton, Option.getD_some]
      · have isCounter :
            ((ResultShape.counterInJob jobId).body counts.toJson |>.member? "counter").getD
              ((ResultShape.counterInJob jobId).body counts.toJson) =
              .object [(jobId, .object [("counter".toList, counts.toJson)])] := by
          rw [ResultShape.body, member?_singleton_of_ne same]
          rfl
        rw [normalizedCounter_of_wrapped isCounter rfl, member?_singleton]
        rfl
  | bare =>
      apply normalizedCounter_of_numbers _ counts.all_isNumber
      rw [ResultShape.body, counts.member?_counter]
      rfl

/-- A counter that holds nothing but another object. -/
def WrapsObject (counter : Json) : Prop :=
  ∃ key nested, counter = .object [(key, nested)] ∧ nested.isObject = true

theorem sizeOf_member?_lt {document member : Json} {key : String}
    (found : document.member? key = some member) : sizeOf member < sizeOf document := by
  cases document with
  | object entries =>
      obtain ⟨before, after, rfl, -⟩ := List.lookup_eq_some_iff.mp found
      have among : (key.toList, member) ∈ before ++ (key.toList, member) :: after :=
        List.mem_append_right _ List.mem_cons_self
      have inEntries := List.sizeOf_lt_of_mem among
      have inEntry : sizeOf member < sizeOf (key.toList, member) := by simp
      have inDocument : sizeOf (before ++ (key.toList, member) :: after) <
          sizeOf (Json.object (before ++ (key.toList, member) :: after)) := by simp
      omega
  | _ => cases found

/-- An unwrapped object is smaller than what was around it. -/
theorem sizeOf_normalizedCounter_lt {result : Json} {key : Text} {nested : Json}
    (isCounter : (result.member? "counter").getD result = .object [(key, nested)])
    (isObject : nested.isObject = true) :
    sizeOf (normalizedCounter result) < sizeOf (Json.object [(key, nested)]) := by
  have inside : sizeOf nested < sizeOf (Json.object [(key, nested)]) := by
    simp
    omega
  rw [normalizedCounter_of_wrapped isCounter isObject]
  cases found : (nested.member? "counter").filter Json.isObject with
  | none => exact inside
  | some value =>
      have deeper := sizeOf_member?_lt (Option.filter_eq_some_iff.mp found).1
      rw [Option.getD_some]
      omega

/-- A counter that wraps no object is kept. -/
theorem normalizedCounter_of_not_wraps {result counter : Json}
    (isCounter : (result.member? "counter").getD result = counter)
    (flat : ¬ WrapsObject counter) : normalizedCounter result = counter := by
  rw [normalizedCounter, isCounter]
  match counter with
  | .null | .bool _ | .number _ | .string _ | .array _ => rfl
  | .object [] => rfl
  | .object (_ :: _ :: _) => simp only [ite_self]
  | .object [(key, nested)] =>
      have noObject : nested.isObject = false := by
        by_contra isObject
        exact flat ⟨key, nested, rfl, Bool.eq_true_of_not_eq_false isObject⟩
      have noMember : nested.member? "counter" = none := by
        cases nested with
        | object _ => cases noObject
        | _ => rfl
      simp only [noObject, noMember, Option.filter_none, Bool.false_eq_true, if_false, ite_self]

/-- A second normalisation changes nothing exactly when the first has left no object
wrapped in the counter. -/
theorem normalizedResult_idempotent_iff (result : Json) :
    normalizedResult (normalizedResult result) = normalizedResult result ↔
      ¬ WrapsObject (normalizedCounter result) := by
  have isCounter : ((normalizedResult result).member? "counter").getD (normalizedResult result) =
      normalizedCounter result := by
    rw [normalizedResult, member?_singleton, Option.getD_some]
  constructor
  · rintro same ⟨key, nested, wraps, isObject⟩
    have smaller := sizeOf_normalizedCounter_lt (isCounter.trans wraps) isObject
    have equal : normalizedCounter (normalizedResult result) = normalizedCounter result := by
      have members := List.cons.inj (Json.object.inj same)
      exact (Prod.mk.inj members.1).2
    rw [equal, wraps] at smaller
    exact absurd smaller (Nat.lt_irrefl _)
  · intro flat
    rw [normalizedResult, normalizedCounter_of_not_wraps isCounter flat]
    rfl

theorem Counts.not_wrapsObject (counts : Counts) : ¬ WrapsObject counts.toJson := by
  rintro ⟨key, nested, equal, isObject⟩
  have numbers := counts.all_isNumber
  rw [Json.object.inj equal, List.all_cons, Bool.and_eq_true] at numbers
  cases nested with
  | object members => cases numbers.1
  | _ => cases isObject

section Results

variable {HeaderValue : Type} (library : Library HeaderValue)

/-- The result of a CUDA-Q task that holds counts is the document of these counts. -/
theorem taskResult_of_cudaq {before after : PasqalCloudResource HeaderValue} {taskId : Text}
    (isCudaq : before.taskKinds.get taskId = some .cudaq)
    {trace : List (CloudEvent HeaderValue)} {result : Except QrmiError Text}
    (executes : (taskResult library taskId).Executes before trace result after) :
    ∃ outcome, (Client.getCudaqJob library.toCloudLibrary taskId).Executes before.apiClient trace
        outcome after.apiClient ∧
      ∀ job, outcome = .ok job → ∀ (counts : Counts) (shape : ResultShape),
        job.data.result = shape.body counts.toJson →
          result = .ok (library.dump (ResultShape.counter.body counts.toJson)) := by
  have kind : before.taskKind taskId = .cudaq := by
    rw [taskKind, isCudaq, Option.getD_some]
  rw [taskResult, executes_self_bind_iff, kind] at executes
  rcases executes_bind_iff.mp executes with ⟨error, rfl, failed⟩ |
    ⟨first, rest, job, middle, rfl, fetched, returned⟩
  · obtain ⟨outcome, apiClient, ran, reported, rfl⟩ := executes_client_iff.mp failed
    refine ⟨outcome, ran, ?_⟩
    rintro job rfl
    cases reported
  · obtain ⟨outcome, apiClient, ran, reported, rfl⟩ := executes_client_iff.mp fetched
    obtain ⟨rfl, rfl, rfl⟩ := executes_pure_iff.mp returned
    rw [List.append_nil]
    refine ⟨outcome, ran, ?_⟩
    rintro other rfl counts shape holds
    cases reported
    rw [holds, normalizeCudaqResult, normalizedResult, normalizedCounter_body]
    rfl

/-- Counts are normalised alike in every shape, and normalising what comes out changes
nothing.  A CUDA-Q task whose job holds them has their document for its result. -/
theorem normalizeCudaqResult_body (counts : Counts) (shape : ResultShape) :
    normalizeCudaqResult library (shape.body counts.toJson) =
        library.dump (ResultShape.counter.body counts.toJson) ∧
      normalizedResult (normalizedResult (shape.body counts.toJson)) =
        normalizedResult (shape.body counts.toJson) ∧
      ∀ before after taskId trace result, before.taskKinds.get taskId = some .cudaq →
        (taskResult library taskId).Executes before trace result after →
          ∃ outcome, (Client.getCudaqJob library.toCloudLibrary taskId).Executes
              before.apiClient trace outcome after.apiClient ∧
            ∀ job, outcome = .ok job → job.data.result = shape.body counts.toJson →
              result = .ok (library.dump (ResultShape.counter.body counts.toJson)) := by
  have normal := normalizedCounter_body counts shape
  refine ⟨?_, ?_, ?_⟩
  · rw [normalizeCudaqResult, normalizedResult, normal]
    rfl
  · apply (normalizedResult_idempotent_iff _).mpr
    rw [normal]
    exact counts.not_wrapsObject
  · intro before after taskId trace result isCudaq executes
    obtain ⟨outcome, fetched, returns⟩ := taskResult_of_cudaq library isCudaq executes
    exact ⟨outcome, fetched, fun job found => returns job found counts shape⟩

end Results

end PasqalCloudResource
