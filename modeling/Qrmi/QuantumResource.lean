import Qrmi.QrmiError

/-!
# The data of the quantum resource interface

Payloads, task statuses and results as every backend exchanges them with its
caller.
-/

/-- Task statuses. -/
inductive TaskStatus
  | queued
  | running
  | completed
  | failed
  | cancelled
  deriving DecidableEq

namespace TaskStatus

/-- A status after which a task never changes again. -/
def isTerminal : TaskStatus → Bool
  | completed | failed | cancelled => true
  | queued | running => false

def debug : TaskStatus → String
  | queued => "Queued"
  | running => "Running"
  | completed => "Completed"
  | failed => "Failed"
  | cancelled => "Cancelled"

end TaskStatus

/-- The current status of a resource. -/
inductive ResourceStatusCode
  | online
  | offline
  | paused
  deriving DecidableEq

/-- A resource capacity. -/
structure ResourceCapacity where
  availableSlots : Nat
  maxSlots : Nat
  deriving DecidableEq

structure ResourceStatus where
  status : ResourceStatusCode
  statusReason : Option Text
  healthy : Option Bool
  busy : Option Bool
  capacity : Option ResourceCapacity
  pendingJobCount : Option Nat

/-- Task payloads. -/
inductive Payload
  | qiskitPrimitive (input programId : Text)
  | pasqalCloud (sequence : Text) (jobRuns : Int)
  | aliceBobFelis (humanQir inputParams : Text)
  | iqmServer (iqmjson jobType : Text) (useTimeslot : Option Bool)
      (tag : Option Text)
  | oqtopus (jobSpec : Text)
  | maestroLocal (input jobType : Text)
      (qubits simulatorType simulationMethod : UInt32)
      (observables config : Text)
  deriving DecidableEq

namespace Payload

/-- The `Debug` rendering that an unsupported payload is reported with. -/
def debug : Payload → String
  | qiskitPrimitive input programId =>
      "QiskitPrimitive \x7b input: " ++ Text.debug input ++
        ", program_id: " ++ Text.debug programId ++ " \x7d"
  | pasqalCloud sequence jobRuns =>
      "PasqalCloud \x7b sequence: " ++ Text.debug sequence ++
        ", job_runs: " ++ toString jobRuns ++ " \x7d"
  | aliceBobFelis humanQir inputParams =>
      "AliceBobFelis \x7b human_qir: " ++ Text.debug humanQir ++
        ", input_params: " ++ Text.debug inputParams ++ " \x7d"
  | iqmServer iqmjson jobType useTimeslot tag =>
      "IQMServer \x7b iqmjson: " ++ Text.debug iqmjson ++
        ", job_type: " ++ Text.debug jobType ++ ", use_timeslot: " ++
        (match useTimeslot with
          | some value => s!"Some({value})"
          | none => "None") ++ ", tag: " ++
        (match tag with
          | some value => "Some(" ++ Text.debug value ++ ")"
          | none => "None") ++ " \x7d"
  | oqtopus jobSpec =>
      "Oqtopus \x7b job_spec: " ++ Text.debug jobSpec ++ " \x7d"
  | maestroLocal input jobType qubits simulatorType simulationMethod
      observables config =>
      "MaestroLocal \x7b input: " ++ Text.debug input ++
        ", job_type: " ++ Text.debug jobType ++
        ", qubits: " ++ toString qubits ++
        ", simulator_type: " ++ toString simulatorType ++
        ", simulation_method: " ++ toString simulationMethod ++
        ", observables: " ++ Text.debug observables ++
        ", config: " ++ Text.debug config ++ " \x7d"

end Payload
