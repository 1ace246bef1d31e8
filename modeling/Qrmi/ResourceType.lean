import Qrmi.RustText

/-!
# Resource types

The kinds of resources, with the names by which configuration files and job
environments refer to them.
-/

/-- The type of a quantum resource. -/
inductive ResourceType
  | ibmQuantumSystem
  | qiskitRuntimeService
  | ibmQuantumComputeService
  | pasqalCloud
  | pasqalLocal
  | aliceBobFelis
  | iqmServer
  | oqtopus
  | maestroLocal
  deriving DecidableEq

namespace ResourceType

/-- `ResourceType::as_str`. -/
def asStr : ResourceType → Text
  | ibmQuantumSystem => "ibm-quantum-system".toList
  | qiskitRuntimeService => "qiskit-runtime-service".toList
  | ibmQuantumComputeService => "ibm-quantum-compute-service".toList
  | pasqalCloud => "pasqal-cloud".toList
  | pasqalLocal => "pasqal-local".toList
  | aliceBobFelis => "alice-bob-felis".toList
  | iqmServer => "iqm-server".toList
  | oqtopus => "oqtopus".toList
  | maestroLocal => "maestro-local".toList

/-- `ResourceType::from_qpu_type_str`. -/
def fromQpuTypeStr (text : Text) : Option ResourceType :=
  if text = "ibm-quantum-system".toList then some ibmQuantumSystem
  else if text = "qiskit-runtime-service".toList then some qiskitRuntimeService
  else if text = "ibm-quantum-compute-service".toList then
    some ibmQuantumComputeService
  else if text = "pasqal-cloud".toList then some pasqalCloud
  else if text = "pasqal-local".toList then some pasqalLocal
  else if text = "alice-bob-felis".toList then some aliceBobFelis
  else if text = "iqm-server".toList then some iqmServer
  else if text = "oqtopus".toList then some oqtopus
  else if text = "maestro-local".toList then some maestroLocal
  else none

/-- The derived `Debug` name. -/
def debug : ResourceType → String
  | ibmQuantumSystem => "IBMQuantumSystem"
  | qiskitRuntimeService => "QiskitRuntimeService"
  | ibmQuantumComputeService => "IBMQuantumComputeService"
  | pasqalCloud => "PasqalCloud"
  | pasqalLocal => "PasqalLocal"
  | aliceBobFelis => "AliceBobFelis"
  | iqmServer => "IQMServer"
  | oqtopus => "OQTOPUS"
  | maestroLocal => "MaestroLocal"

/-- Types are parsed from their own names, and from nothing else. -/
theorem fromQpuTypeStr_eq_some_iff {text : Text} {resourceType : ResourceType} :
    fromQpuTypeStr text = some resourceType ↔ text = resourceType.asStr := by
  constructor
  · intro parsed
    unfold fromQpuTypeStr at parsed
    repeat
      split at parsed
      · cases parsed
        assumption
    cases parsed
  · rintro rfl
    cases resourceType <;> decide +kernel

theorem fromQpuTypeStr_asStr (type : ResourceType) :
    fromQpuTypeStr type.asStr = some type :=
  fromQpuTypeStr_eq_some_iff.mpr rfl

theorem asStr_injective : Function.Injective asStr := by
  intro first second same
  have parsed := congrArg fromQpuTypeStr same
  rw [fromQpuTypeStr_asStr, fromQpuTypeStr_asStr] at parsed
  exact Option.some.inj parsed

end ResourceType
