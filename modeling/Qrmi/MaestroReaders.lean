import Qrmi.MaestroInput
import Qrmi.ResourceSettings

/-!
# Agreement of the two readers of Maestro input

Both readers first decide what kind of payload a value is, and they decide alike.
They part where the two languages hold a number differently, and where the two
JSON libraries read a serialised request differently.
-/

namespace MaestroInput

open Except (bind_eq_ok_iff)

section Agreement

variable (doubles : Doubles)

/-- The same text, or the same JSON value.  The runner writes the empty object
itself. -/
inductive SameText : PayloadText → PayloadText → Prop
  | text (content : Text) : SameText (.text content) (.text content)
  | document {first second : Json} (same : Json.Same doubles first second) :
      SameText (.document first) (.document second)
  | emptyObject : SameText (.text "{}".toList) (.document (.object []))

structure SamePayload (rust python : MaestroPayload) : Prop where
  input : SameText doubles rust.input python.input
  jobType : rust.jobType = python.jobType
  qubits : rust.qubits = python.qubits
  simulatorType : rust.simulatorType = python.simulatorType
  simulationMethod : rust.simulationMethod = python.simulationMethod
  observables : rust.observables = python.observables
  config : SameText doubles rust.config python.config

/-- Both readers accept a value with the same payload, or both reject it. -/
structure Agree (rust : Except InputError MaestroPayload)
    (python : Except PayloadError MaestroPayload) : Prop where
  accepted : ∀ payload, rust = .ok payload →
    ∃ other, python = .ok other ∧ SamePayload doubles payload other
  mirrored : ∀ other, python = .ok other →
    ∃ payload, rust = .ok payload ∧ SamePayload doubles payload other

end Agreement

section Fields

variable {α : Type} {value : Json} {field expected : String}

theorem readMember_eq_ok_iff {read : Json → Option α} {content : Option α} :
    readMember value field expected read = .ok content ↔
      (value.member? field).map read = content.map some := by
  unfold readMember
  cases value.member? field with
  | none => cases content <;> simp
  | some member =>
      cases found : read member <;> cases content <;> simp [found]

theorem required_eq_ok_iff {content : Option α} {result : α} :
    required field content = .ok result ↔ content = some result := by
  cases content <;> simp [required]

theorem map_eq_map_some_iff {read : Json → Option α} {member : Option Json} {result : α} :
    member.map read = (some result).map some ↔ member.bind read = some result := by
  cases member <;> simp

theorem asString_getD {member : Option Json} {content : Option Text}
    (read : member.map Json.asString = content.map some) :
    (member.getD (.string [])).asString = some (content.getD []) := by
  cases member with
  | none =>
      cases content with
      | none => rfl
      | some _ => cases read
  | some member =>
      cases content with
      | none => cases read
      | some content => exact Option.some.inj read

theorem exists_of_asString_getD {member : Option Json} {text : Text}
    (read : (member.getD (.string [])).asString = some text) :
    ∃ content : Option Text, member.map Json.asString = content.map some ∧
      content.getD [] = text := by
  cases member with
  | none => exact ⟨none, rfl, Option.some.inj read⟩
  | some member => exact ⟨some text, congrArg some read, rfl⟩

/-- What the fields of a legacy job must be. -/
theorem fromValue_eq_ok_iff {parsed : Input} :
    Input.fromValue value = .ok parsed ↔
      value.member? "input" = some parsed.input ∧
      (value.member? "job_type").bind Json.asString = some parsed.jobType ∧
      (value.member? "qubits").bind Json.asU32 = some parsed.qubits ∧
      (value.member? "simulator_type").bind Json.asU32 = some parsed.simulatorType ∧
      (value.member? "simulation_method").bind Json.asU32 = some parsed.simulationMethod ∧
      ((value.member? "observables").getD (.string [])).asString =
        some parsed.observables ∧
      (value.member? "config").getD .null = parsed.config := by
  unfold Input.fromValue
  simp only [bind_eq_ok_iff, readMember_eq_ok_iff, required_eq_ok_iff]
  constructor
  · rintro ⟨_, jobType, observables, noted, _, qubits, _, method, _, simulator, input, given,
      _, rfl, _, rfl, _, rfl, _, rfl, equal⟩
    cases equal
    exact ⟨given, map_eq_map_some_iff.mp jobType, map_eq_map_some_iff.mp qubits,
      map_eq_map_some_iff.mp simulator, map_eq_map_some_iff.mp method,
      asString_getD noted, rfl⟩
  · rintro ⟨given, jobType, qubits, simulator, method, noted, config⟩
    obtain ⟨observables, read, content⟩ := exists_of_asString_getD noted
    refine ⟨_, map_eq_map_some_iff.mpr jobType, observables, read, _,
      map_eq_map_some_iff.mpr qubits, _, map_eq_map_some_iff.mpr method, _,
      map_eq_map_some_iff.mpr simulator, _, given, _, rfl, _, rfl, _, rfl, _, rfl, ?_⟩
    rw [config, content]
    rfl

end Fields

/-- A member that is an unsigned number of 32 bits, however its zero is written. -/
inductive Numeral (number : UInt32) : Option Json → Prop
  | unsigned : Numeral number (some (.number (.unsigned number.toNat)))
  | negativeZero (zero : number = 0) : Numeral number (some (.number (.negative 0)))

/-- The fields of a legacy job in a value. -/
structure LegacyFields (value : Json) (job : Input) : Prop where
  input : value.member? "input" = some job.input
  jobType : (value.member? "job_type").bind Json.asString = some job.jobType
  qubits : Numeral job.qubits (value.member? "qubits")
  simulatorType : Numeral job.simulatorType (value.member? "simulator_type")
  simulationMethod : Numeral job.simulationMethod (value.member? "simulation_method")
  observables : ((value.member? "observables").getD (.string [])).asString =
    some job.observables
  config : (value.member? "config").getD .null = job.config

/-- What is asked of the fields of a legacy job. -/
structure IsLegacyJob (job : Input) : Prop where
  kind : ["execute".toList, "estimate".toList].any (Text.eqIgnoreAsciiCase job.jobType) = true
  input : job.input.isString
  qubits : job.qubits ≠ 0
  config : job.config.isNull ∨ job.config.isObject ∨ job.config.isString

/-- A value that describes a legacy job. -/
structure LegacyJob (value : Json) (job : Input) : Prop where
  fields : LegacyFields value job
  job : IsLegacyJob job

section Numerals

variable {doubles : Doubles} {member : Option Json} {number : UInt32}

theorem asU32_unsigned_iff {value : Nat} :
    (Json.number (.unsigned value)).asU32 = some number ↔ value = number.toNat := by
  have bound := number.toNat_lt
  have wider : (Json.number (.unsigned value)).asU64 =
      if value < 2 ^ 64 then some value else none := rfl
  unfold Json.asU32
  rw [wider]
  constructor
  · intro read
    by_cases wide : value < 2 ^ 64
    · rw [if_pos wide] at read
      by_cases narrow : value < 2 ^ 32
      · obtain rfl := Option.some.inj ((if_pos narrow).symm.trans read)
        exact (UInt32.toNat_ofNat_of_lt' narrow).symm
      · cases (if_neg narrow).symm.trans read
    · rw [if_neg wide] at read
      cases read
  · rintro rfl
    have wide : number.toNat < 2 ^ 64 := by omega
    rw [if_pos wide]
    exact (if_pos bound).trans (congrArg some UInt32.ofNat_toNat)

/-- The runner takes an unsigned number of 32 bits, and no negative zero. -/
theorem asU32_serde_iff :
    (member.map (Json.serde doubles)).bind Json.asU32 = some number ↔
      member = some (.number (.unsigned number.toNat)) := by
  constructor
  · intro read
    cases member with
    | none => cases read
    | some member =>
        cases member with
        | number found =>
            cases found with
            | unsigned value =>
                simp only [Option.map_some, Option.bind_some, Json.mapNumbers, JsonNumber.serde]
                  at read
                split at read
                · rw [asU32_unsigned_iff.mp read]
                · cases read
            | negative magnitude =>
                simp only [Option.map_some, Option.bind_some, Json.mapNumbers, JsonNumber.serde]
                  at read
                split at read
                · cases read
                · split at read <;> cases read
            | real literal => cases read
        | _ => cases read
  · rintro rfl
    have wide : number.toNat < 2 ^ 64 := by
      have bound := number.toNat_lt
      omega
    simp only [Option.map_some, Option.bind_some, Json.mapNumbers, JsonNumber.serde, wide,
      if_true]
    exact asU32_unsigned_iff.mpr rfl

theorem asInt_python_iff {member : Json} :
    asInt member.python = some (number.toNat : Int) ↔
      Numeral number (some member) := by
  constructor
  · intro read
    cases member with
    | number found =>
        cases found with
        | unsigned value =>
            have equal : (value : Int) = number.toNat := Option.some.inj read
            rw [Int.ofNat_inj.mp equal]
            exact .unsigned
        | negative magnitude =>
            cases magnitude with
            | zero =>
                have equal : (0 : Int) = number.toNat := Option.some.inj read
                apply Numeral.negativeZero
                apply UInt32.toNat_inj.mp
                exact (Int.ofNat_inj.mp equal).symm
            | succ magnitude =>
                have equal : (-(magnitude + 1 : Nat) : Int) = number.toNat :=
                  Option.some.inj read
                omega
        | real literal => cases read
    | _ => cases read
  · intro numeral
    cases numeral with
    | unsigned => rfl
    | negativeZero zero =>
        subst zero
        rfl

/-- The package takes an unsigned number of 32 bits. -/
theorem legacyInteger_python_iff {field : String} {minimum : Int} {member : Json}
    (nonnegative : 0 ≤ minimum) :
    legacyInteger field minimum member.python = .ok number ↔
      Numeral number (some member) ∧ minimum ≤ number.toNat := by
  have bound := number.toNat_lt
  rw [← asInt_python_iff]
  unfold legacyInteger
  cases found : asInt member.python with
  | none => simp
  | some value =>
      by_cases inside : minimum ≤ value ∧ value ≤ 4294967295
      · have small : value.toNat < 2 ^ 32 := by omega
        simp only [inside, and_self, if_true, Except.ok.injEq, Option.some.injEq]
        constructor
        · rintro rfl
          rw [UInt32.toNat_ofNat_of_lt' small]
          omega
        · rintro ⟨rfl, -⟩
          simp
      · simp only [inside, if_false, reduceCtorEq, Option.some.injEq, false_iff]
        rintro ⟨rfl, least⟩
        omega

end Numerals

section Jobs

variable {doubles : Doubles} {value : Json} {payload : MaestroPayload} {jobType : Text}

/-- The zeros of a legacy job are written without a sign. -/
structure UnsignedZeros (value : Json) : Prop where
  simulatorType : value.member? "simulator_type" ≠ some (.number (.negative 0))
  simulationMethod : value.member? "simulation_method" ≠ some (.number (.negative 0))

/-- A number whose sign is not written in front of a zero. -/
theorem eq_unsigned_iff {member : Option Json} {number : UInt32} :
    member = some (.number (.unsigned number.toNat)) ↔
      Numeral number member ∧ member ≠ some (.number (.negative 0)) := by
  constructor
  · rintro rfl
    exact ⟨.unsigned, by simp⟩
  · rintro ⟨numeral, signless⟩
    cases numeral with
    | unsigned => rfl
    | negativeZero zero => exact absurd rfl signless

theorem ne_negativeZero_of_pos {member : Option Json} {number : UInt32}
    (numeral : Numeral number member) (positive : number ≠ 0) :
    member ≠ some (.number (.negative 0)) := by
  rintro rfl
  cases numeral with
  | negativeZero zero => exact positive zero

/-- The fields of a job as the runner holds them. -/
def serdeFields (doubles : Doubles) (job : Input) : Input :=
  { job with input := job.input.serde doubles, config := job.config.serde doubles }

section Members

variable {change : JsonNumber → JsonNumber} {member : Option Json}

theorem asString_mapNumbers_getD :
    ((member.map (Json.mapNumbers change)).getD (.string [])).asString =
      (member.getD (.string [])).asString := by
  cases member with
  | none => rfl
  | some member => exact Json.asString_mapNumbers member

theorem bind_asString_mapNumbers :
    (member.map (Json.mapNumbers change)).bind Json.asString = member.bind Json.asString := by
  cases member with
  | none => rfl
  | some member => exact Json.asString_mapNumbers member

theorem mapNumbers_getD_null :
    (member.map (Json.mapNumbers change)).getD .null =
      (member.getD .null).mapNumbers change := by
  cases member with
  | none => simp [Json.mapNumbers]
  | some member => rfl

end Members

/-- The runner reads the fields whose numbers have no sign. -/
theorem fromValue_serde_iff {parsed : Input} :
    Input.fromValue (value.serde doubles) = .ok parsed ↔
      ∃ job, LegacyFields value job ∧ UnsignedZeros value ∧
        value.member? "qubits" ≠ some (.number (.negative 0)) ∧
        parsed = serdeFields doubles job := by
  rw [fromValue_eq_ok_iff]
  simp only [Json.member?_mapNumbers]
  rw [bind_asString_mapNumbers, asU32_serde_iff, asU32_serde_iff, asU32_serde_iff,
    asString_mapNumbers_getD, mapNumbers_getD_null, eq_unsigned_iff, eq_unsigned_iff,
    eq_unsigned_iff]
  constructor
  · rintro ⟨input, jobType, ⟨qubits, signless⟩, ⟨simulatorType, plainType⟩,
      ⟨simulationMethod, plainMethod⟩, observables, config⟩
    obtain ⟨raw, found, held⟩ := Option.map_eq_some_iff.mp input
    refine ⟨{ parsed with input := raw, config := (value.member? "config").getD .null },
      ⟨found, jobType, qubits, simulatorType, simulationMethod, observables, rfl⟩,
      ⟨plainType, plainMethod⟩, signless, ?_⟩
    unfold serdeFields
    dsimp only
    rw [Json.serde, held, Json.serde, config]
  · rintro ⟨job, fields, zeros, signless, rfl⟩
    refine ⟨?_, fields.jobType, ⟨fields.qubits, signless⟩,
      ⟨fields.simulatorType, zeros.simulatorType⟩,
      ⟨fields.simulationMethod, zeros.simulationMethod⟩, fields.observables, ?_⟩
    · rw [fields.input]
      rfl
    · rw [fields.config]
      rfl

/-- The checks that follow the deserialisation do not depend on the numbers. -/
theorem isLegacyJob_serdeFields_iff {job : Input} :
    IsLegacyJob (serdeFields doubles job) ↔ IsLegacyJob job := by
  constructor
  · rintro ⟨kind, input, qubits, config⟩
    simp only [serdeFields, Json.isString_mapNumbers, Json.isNull_mapNumbers,
      Json.isObject_mapNumbers] at kind input qubits config
    exact ⟨kind, input, qubits, config⟩
  · rintro ⟨kind, input, qubits, config⟩
    refine ⟨kind, ?_, qubits, ?_⟩
    · simpa [serdeFields] using input
    · simpa [serdeFields] using config

/-- What the legacy branch makes of its fields. -/
def fieldsPayload (parsed : Input) : MaestroPayload where
  input := serialize parsed.input
  jobType := parsed.jobType
  qubits := parsed.qubits
  simulatorType := parsed.simulatorType
  simulationMethod := parsed.simulationMethod
  observables := parsed.observables
  config := if parsed.config.isNull then .text "{}".toList else serialize parsed.config

theorem legacyInput_eq_ok_iff_fields {document : Json} :
    legacyInput document = .ok payload ↔
      ∃ parsed, Input.fromValue document = .ok parsed ∧ IsLegacyJob parsed ∧
        payload = fieldsPayload parsed := by
  unfold legacyInput
  rw [bind_eq_ok_iff]
  refine exists_congr fun parsed => and_congr_right fun _ => ?_
  constructor
  · intro checked
    by_cases unknown : (!(["execute".toList, "estimate".toList].any
        (Text.eqIgnoreAsciiCase parsed.jobType))) = true
    · rw [if_pos unknown] at checked
      cases checked
    by_cases unfit : (!parsed.config.isNull && !parsed.config.isObject &&
        !parsed.config.isString) = true
    · rw [if_neg unknown, if_pos unfit] at checked
      cases checked
    by_cases refused : parsed.qubits = 0 ∨ (!parsed.input.isString) = true
    · rw [if_neg unknown, if_neg unfit, if_pos refused] at checked
      cases checked
    rw [if_neg unknown, if_neg unfit, if_neg refused] at checked
    cases checked
    rw [Bool.not_eq_true, Bool.not_eq_false'] at unknown
    have input : parsed.input.isString = true := by
      by_contra other
      exact refused (.inr (by simp [other]))
    have config : parsed.config.isNull ∨ parsed.config.isObject ∨ parsed.config.isString := by
      by_contra other
      push Not at other
      exact unfit (by simp [other])
    exact ⟨⟨unknown, input, fun zero => refused (.inl zero), config⟩, rfl⟩
  · rintro ⟨⟨kind, input, qubits, config⟩, rfl⟩
    have known : ¬ (!(["execute".toList, "estimate".toList].any
        (Text.eqIgnoreAsciiCase parsed.jobType))) = true := by
      rw [kind]
      exact Bool.false_ne_true
    have fit : ¬ (!parsed.config.isNull && !parsed.config.isObject &&
        !parsed.config.isString) = true := by
      rcases config with config | config | config <;> simp [config]
    have taken : ¬ (parsed.qubits = 0 ∨ (!parsed.input.isString) = true) := by
      simp [qubits, input]
    rw [if_neg known, if_neg fit, if_neg taken]
    rfl

/-- The runner takes the legacy jobs that write their zeros without a sign. -/
theorem legacyInput_eq_ok_iff :
    legacyInput (value.serde doubles) = .ok payload ↔
      ∃ job, LegacyJob value job ∧ UnsignedZeros value ∧
        payload = fieldsPayload (serdeFields doubles job) := by
  rw [legacyInput_eq_ok_iff_fields]
  constructor
  · rintro ⟨parsed, read, checked, rfl⟩
    obtain ⟨job, fields, zeros, -, rfl⟩ := fromValue_serde_iff.mp read
    exact ⟨job, ⟨fields, isLegacyJob_serdeFields_iff.mp checked⟩, zeros, rfl⟩
  · rintro ⟨job, ⟨fields, legacy⟩, zeros, rfl⟩
    refine ⟨serdeFields doubles job, fromValue_serde_iff.mpr
      ⟨job, fields, zeros, ne_negativeZero_of_pos fields.qubits legacy.qubits, rfl⟩,
      isLegacyJob_serdeFields_iff.mpr legacy, rfl⟩

/-- The payload that the package makes of a legacy job. -/
def pythonPayload (job : Input) : MaestroPayload where
  input := serialize job.input
  jobType := job.jobType
  qubits := job.qubits
  simulatorType := job.simulatorType
  simulationMethod := job.simulationMethod
  observables := job.observables
  config := if job.config.isNull then .document (.object []) else serialize job.config.python

theorem get_python {field : String} :
    value.python.get field = ((value.member? field).getD .null).python := by
  rw [Json.get_eq_getD, Json.member?_mapNumbers, mapNumbers_getD_null]

theorem legacyInteger_get_iff {field : String} {minimum : Int} {number : UInt32}
    (nonnegative : 0 ≤ minimum) :
    legacyInteger field minimum (value.python.get field) = .ok number ↔
      Numeral number (value.member? field) ∧ minimum ≤ number.toNat := by
  rw [get_python]
  cases value.member? field with
  | none =>
      refine ⟨fun read => ?_, fun numeral => ?_⟩
      · cases read
      · cases numeral.1
  | some member => exact legacyInteger_python_iff nonnegative

theorem dumps_eq_ok_iff {document : Json} {text : PayloadText} :
    dumps doubles document = .ok text ↔
      document.isFinite doubles = true ∧ text = .document document := by
  unfold dumps
  by_cases finite : document.isFinite doubles = true
  · rw [if_pos finite]
    constructor
    · intro equal
      exact ⟨finite, (Except.ok.inj equal).symm⟩
    · rintro ⟨-, rfl⟩
      rfl
  · rw [if_neg finite]
    simp [finite]

/-- The configurations that the package takes, and what it makes of them. -/
theorem legacyConfig_eq_ok_iff {config : Json} {text : PayloadText} :
    legacyConfig doubles config = .ok text ↔
      (config.isNull ∨ config.isObject ∨ config.isString) ∧ config.isFinite doubles = true ∧
        text = if config.isNull then .document (.object []) else serialize config := by
  cases config with
  | null =>
      refine dumps_eq_ok_iff.trans ?_
      simp [Json.isNull, Json.isFinite, Json.isFiniteEntries]
  | string content =>
      refine ⟨fun equal => ?_, ?_⟩
      · cases equal
        exact ⟨.inr (.inr rfl), by simp [Json.isFinite], rfl⟩
      · rintro ⟨-, -, rfl⟩
        rfl
  | object entries =>
      refine dumps_eq_ok_iff.trans ?_
      simp [Json.isNull, Json.isObject, serialize, Json.asString]
  | _ => simp [legacyConfig, Json.isNull, Json.isObject, Json.isString]

theorem asString_get_python_iff {field : String} {content : Text} :
    (value.python.get field).asString = some content ↔
      value.member? field = some (.string content) := by
  rw [get_python, Json.asString_mapNumbers]
  cases value.member? field with
  | none => simp [Json.asString]
  | some member => cases member <;> simp [Json.asString]

theorem one_le_toNat_iff {number : UInt32} : (1 : Int) ≤ number.toNat ↔ number ≠ 0 := by
  constructor
  · rintro least rfl
    exact absurd least (by decide)
  · intro positive
    have nonzero : number.toNat ≠ 0 := fun zero => positive (UInt32.toNat_inj.mp zero)
    omega

theorem exists_of_isString {document : Json} (text : document.isString) :
    ∃ content, document = .string content := by
  cases document with
  | string content => exact ⟨content, rfl⟩
  | _ => cases text

theorem Numeral.isSome {member : Option Json} {number : UInt32}
    (numeral : Numeral number member) : member.isNone = false := by
  cases numeral <;> rfl

/-- The package takes every legacy job with a finite configuration. -/
theorem legacyPayload_eq_ok_iff
    (given : (value.member? "job_type").bind Json.asString = some jobType)
    (kind : ["execute".toList, "estimate".toList].any (Text.eqIgnoreAsciiCase jobType) = true) :
    legacyPayload doubles value.python jobType = .ok payload ↔
      ∃ job, LegacyJob value job ∧ job.config.python.isFinite doubles = true ∧
        payload = pythonPayload job := by
  unfold legacyPayload
  dsimp only
  constructor
  · intro taken
    by_cases missing : (["input", "qubits", "simulator_type", "simulation_method"].filter
        fun field => (value.python.member? field).isNone) ≠ []
    · rw [if_pos missing] at taken
      cases taken
    rw [if_neg missing] at taken
    cases text : (value.python.get "input").asString with
    | none =>
        rw [text] at taken
        cases taken
    | some input =>
        rw [text] at taken
        simp only [bind_eq_ok_iff] at taken
        obtain ⟨qubits, first, simulatorType, second, simulationMethod, third, config, fourth,
          rest⟩ := taken
        obtain ⟨numeral, positive⟩ := (legacyInteger_get_iff (by decide)).mp first
        rw [get_python, legacyConfig_eq_ok_iff] at fourth
        obtain ⟨configKind, finite, rfl⟩ := fourth
        rw [Json.member?_mapNumbers] at rest
        cases noted : ((value.member? "observables").getD (.string [])).asString with
        | none =>
            rw [asString_mapNumbers_getD, noted] at rest
            cases rest
        | some observables =>
            rw [asString_mapNumbers_getD, noted] at rest
            cases rest
            let job : Input :=
              { input := .string input
                jobType := jobType
                qubits := qubits
                simulatorType := simulatorType
                simulationMethod := simulationMethod
                observables := observables
                config := (value.member? "config").getD .null }
            have fields : LegacyFields value job :=
              ⟨asString_get_python_iff.mp text, given, numeral,
                ((legacyInteger_get_iff (by decide)).mp second).1,
                ((legacyInteger_get_iff (by decide)).mp third).1, noted, rfl⟩
            have legacy : IsLegacyJob job :=
              ⟨kind, rfl, one_le_toNat_iff.mp positive, by simpa [job] using configKind⟩
            refine ⟨job, ⟨fields, legacy⟩, finite, ?_⟩
            simp [pythonPayload, job, serialize, Json.asString]
  · rintro ⟨job, ⟨fields, legacy⟩, finite, rfl⟩
    obtain rfl : job.jobType = jobType := Option.some.inj (fields.jobType.symm.trans given)
    obtain ⟨content, input⟩ := exists_of_isString legacy.input
    have complete : ¬ (["input", "qubits", "simulator_type", "simulation_method"].filter
        fun field => (value.python.member? field).isNone) ≠ [] := by
      simp [fields.input, fields.qubits.isSome, fields.simulatorType.isSome,
        fields.simulationMethod.isSome]
    have text : (value.python.get "input").asString = some content :=
      asString_get_python_iff.mpr (input ▸ fields.input)
    have config : legacyConfig doubles (value.python.get "config") =
        .ok (pythonPayload job).config := by
      rw [get_python, fields.config, legacyConfig_eq_ok_iff]
      exact ⟨by simpa using legacy.config, finite, by simp [pythonPayload]⟩
    rw [if_neg complete, text]
    simp only [bind_eq_ok_iff]
    refine ⟨job.qubits, (legacyInteger_get_iff (by decide)).mpr
        ⟨fields.qubits, one_le_toNat_iff.mpr legacy.qubits⟩,
      job.simulatorType, (legacyInteger_get_iff (by decide)).mpr
        ⟨fields.simulatorType, by omega⟩,
      job.simulationMethod, (legacyInteger_get_iff (by decide)).mpr
        ⟨fields.simulationMethod, by omega⟩, _, config, ?_⟩
    rw [Json.member?_mapNumbers, asString_mapNumbers_getD, fields.observables]
    simp [pythonPayload, input, serialize, Json.asString, pure, Except.pure]

end Jobs
/-- A legacy job on which the readers agree: its zeros have no sign, and its
configuration keeps its numbers. -/
def LegacyAlike (doubles : Doubles) (value : Json) : Prop :=
  ∀ job, LegacyJob value job → UnsignedZeros value ∧
    (job.config.isObject → Json.Same doubles (job.config.serde doubles) job.config.python)

section LegacyAgreement

variable {doubles : Doubles} {value : Json} {jobType : Text} {job : Input}

theorem sameText_config_iff
    (kind : job.config.isNull ∨ job.config.isObject ∨ job.config.isString) :
    SameText doubles (fieldsPayload (serdeFields doubles job)).config
        (pythonPayload job).config ↔
      (job.config.isObject → Json.Same doubles (job.config.serde doubles) job.config.python) := by
  unfold fieldsPayload serdeFields pythonPayload serialize
  simp only [Json.isNull_mapNumbers, Json.asString_mapNumbers]
  generalize job.config = config at kind ⊢
  cases config with
  | null => exact ⟨fun _ => nofun, fun _ => .emptyObject⟩
  | string content => exact ⟨fun _ => nofun, fun _ => .text content⟩
  | object entries =>
      constructor
      · intro same _
        cases same with
        | document same => exact same
      · intro same
        exact .document (same rfl)
  | _ => rcases kind with kind | kind | kind <;> cases kind

theorem samePayload_legacy_iff (legacy : IsLegacyJob job) :
    SamePayload doubles (fieldsPayload (serdeFields doubles job)) (pythonPayload job) ↔
      (job.config.isObject → Json.Same doubles (job.config.serde doubles) job.config.python) := by
  rw [← sameText_config_iff legacy.config]
  constructor
  · exact SamePayload.config
  · intro same
    obtain ⟨content, input⟩ := exists_of_isString legacy.input
    refine ⟨?_, rfl, rfl, rfl, rfl, rfl, same⟩
    simp only [fieldsPayload, serdeFields, pythonPayload]
    rw [Json.serde, Json.mapNumbers_of_isString legacy.input, input]
    exact .text content

theorem isFinite_config (finite : value.isFinite doubles = true) (fields : LegacyFields value job) :
    job.config.python.isFinite doubles = true := by
  rw [Json.isFinite_python, ← fields.config]
  cases found : value.member? "config" with
  | none => simp [Json.isFinite]
  | some member => exact Json.isFinite_of_member? finite found

theorem legacy_agree_iff (finite : value.isFinite doubles = true)
    (given : (value.member? "job_type").bind Json.asString = some jobType)
    (kind : ["execute".toList, "estimate".toList].any (Text.eqIgnoreAsciiCase jobType) = true) :
    Agree doubles (legacyInput (value.serde doubles)) (legacyPayload doubles value.python jobType) ↔
      LegacyAlike doubles value := by
  constructor
  · intro agree job legacy
    have finite : job.config.python.isFinite doubles = true := isFinite_config finite legacy.fields
    have taken : legacyPayload doubles value.python jobType = .ok (pythonPayload job) :=
      (legacyPayload_eq_ok_iff given kind).mpr ⟨job, legacy, finite, rfl⟩
    obtain ⟨payload, accepted, same⟩ := agree.mirrored _ taken
    obtain ⟨other, described, zeros, rfl⟩ := legacyInput_eq_ok_iff.mp accepted
    have config : other.config = job.config :=
      described.fields.config.symm.trans legacy.fields.config
    refine ⟨zeros, ?_⟩
    rw [← sameText_config_iff legacy.job.config]
    have sameConfig := same.config
    simp only [fieldsPayload, serdeFields, config] at sameConfig ⊢
    exact sameConfig
  · intro alike
    constructor
    · intro payload accepted
      obtain ⟨job, legacy, zeros, rfl⟩ := legacyInput_eq_ok_iff.mp accepted
      have finite : job.config.python.isFinite doubles = true :=
        isFinite_config finite legacy.fields
      refine ⟨pythonPayload job, (legacyPayload_eq_ok_iff given kind).mpr
        ⟨job, legacy, finite, rfl⟩, ?_⟩
      exact (samePayload_legacy_iff legacy.job).mpr (alike job legacy).2
    · intro other taken
      obtain ⟨job, legacy, -, rfl⟩ := (legacyPayload_eq_ok_iff given kind).mp taken
      refine ⟨fieldsPayload (serdeFields doubles job), legacyInput_eq_ok_iff.mpr
        ⟨job, legacy, (alike job legacy).1, rfl⟩, ?_⟩
      exact (samePayload_legacy_iff legacy.job).mpr (alike job legacy).2

end LegacyAgreement

/-! ## Native requests -/

/-- The document of a request, which may be serialised. -/
def requestDocument (read : Text → Except String Json) (request : Json) : Option Json :=
  match request.asString with
  | some serialized => (read serialized).toOption
  | none => some request

/-- A document of the native interface, whichever number its version is written as. -/
structure IsRequest (doubles : Doubles) (document : Json) : Prop where
  object : document.isObject
  version : (document.member? "schema_version").any (equalsInteger doubles 2)
  keys : ∀ key ∈ document.keys, key ∉ foreignFields ∧ key ≠ "request".toList ∧
    (key ∈ legacyFields → key = "observables".toList)

/-- The version is written as an integer. -/
def IntegerVersion (document : Json) : Prop :=
  document.member? "schema_version" = some (.number (.unsigned 2))

/-- A request on which the readers agree: a native document that one JSON library
reads is read by the other as the same value, and its version is an integer. -/
structure RequestAlike (doubles : Doubles) (rust python : Option Json) : Prop where
  mirrored : ∀ document, python = some document → document.isFinite doubles = true →
    IsRequest doubles document →
      ∃ other, rust = some other ∧ IntegerVersion other ∧ Json.Same doubles other document
  accepted : ∀ document, rust = some document → IntegerVersion document →
    IsRequest doubles document →
      ∃ other, python = some other ∧ other.isFinite doubles = true ∧
        Json.Same doubles document other

section Native

variable {doubles : Doubles} {fromStr loads : Text → Except String Json}
variable {request document : Json} {payload : MaestroPayload}

theorem integerVersion_iff :
    (document.get "schema_version").asU64 = some 2 ↔ IntegerVersion document := by
  rw [Json.get_eq_getD, IntegerVersion]
  constructor
  · intro read
    cases found : document.member? "schema_version" with
    | none =>
        rw [found] at read
        cases read
    | some version =>
        rw [found, Option.getD_some] at read
        unfold Json.asU64 at read
        split at read
        · split at read
          · rw [Option.some.inj read]
          · cases read
        · cases read
  · intro version
    rw [version]
    rfl

theorem IntegerVersion.equalsInteger (integer : IntegerVersion document) :
    (document.member? "schema_version").any (equalsInteger doubles 2) := by
  rw [integer]
  simp [MaestroInput.equalsInteger, JsonNumber.value]

/-- However the readers ask for the keys of other envelopes. -/
theorem not_any_iff_keys {foreign : Text → Prop} [DecidablePred foreign]
    (asks : ∀ key, ¬ foreign key ↔ key ∉ foreignFields ∧ key ≠ "request".toList ∧
      (key ∈ legacyFields → key = "observables".toList)) :
    ¬ document.keys.any (fun key => foreign key) = true ↔
      ∀ key ∈ document.keys, key ∉ foreignFields ∧ key ≠ "request".toList ∧
        (key ∈ legacyFields → key = "observables".toList) := by
  rw [Bool.not_eq_true, List.any_eq_false]
  refine forall₂_congr fun key _ => ?_
  rw [decide_eq_true_eq]
  exact asks key

theorem deserialized_eq_ok_iff {ε : Type} {read : Text → Except String Json}
    {wrap : String → ε} :
    deserialized read wrap request = .ok document ↔
      requestDocument read request = some document := by
  unfold deserialized requestDocument
  cases request.asString with
  | none => simp
  | some serialized =>
      dsimp only
      cases read serialized <;> simp [Except.mapError, Except.toOption]

variable (doubles) in
/-- The runner takes the requests with an integer version. -/
theorem nativeInput_eq_ok_iff :
    nativeInput fromStr request = .ok payload ↔
      ∃ document, requestDocument fromStr request = some document ∧
        IntegerVersion document ∧ IsRequest doubles document ∧
        payload = requestPayload document := by
  unfold nativeInput
  rw [bind_eq_ok_iff]
  refine exists_congr fun document => and_congr deserialized_eq_ok_iff ?_
  constructor
  · intro taken
    by_cases versioned : (!document.isObject) = true ∨
        (document.get "schema_version").asU64 ≠ some 2
    · rw [if_pos versioned] at taken
      cases taken
    rw [if_neg versioned] at taken
    push Not at versioned
    split at taken
    · cases taken
    · rename_i clean
      cases taken
      have integer : IntegerVersion document := integerVersion_iff.mp versioned.2
      exact ⟨integer, ⟨by simpa using versioned.1, integer.equalsInteger,
        (not_any_iff_keys fun _ => by tauto).mp clean⟩, rfl⟩
  · rintro ⟨integer, native, rfl⟩
    have versioned : ¬ ((!document.isObject) = true ∨
        (document.get "schema_version").asU64 ≠ some 2) := by
      simp [native.object, integerVersion_iff.mpr integer]
    rw [if_neg versioned, if_neg ((not_any_iff_keys fun _ => by tauto).mpr native.keys)]

/-- The package takes the finite requests. -/
theorem pythonRequestPayload_eq_ok_iff :
    pythonRequestPayload doubles loads request = .ok payload ↔
      ∃ document, requestDocument loads request = some document ∧
        document.isFinite doubles = true ∧ IsRequest doubles document ∧
        payload = requestPayload document := by
  unfold pythonRequestPayload nativeDocument
  simp only [bind_eq_ok_iff]
  constructor
  · rintro ⟨document, ⟨found, read, checked⟩, input, written, equal⟩
    by_cases versioned : (!found.isObject) = true ∨
        ¬ (found.member? "schema_version").any (equalsInteger doubles 2)
    · rw [if_pos versioned] at checked
      cases checked
    rw [if_neg versioned] at checked
    push Not at versioned
    split at checked
    · cases checked
    · rename_i clean
      cases checked
      obtain ⟨finite, rfl⟩ := dumps_eq_ok_iff.mp written
      cases equal
      exact ⟨document, deserialized_eq_ok_iff.mp read, finite,
        ⟨by simpa using versioned.1, versioned.2,
          (not_any_iff_keys fun _ => by tauto).mp clean⟩, rfl⟩
  · rintro ⟨document, read, finite, native, rfl⟩
    refine ⟨document, ⟨document, deserialized_eq_ok_iff.mpr read, ?_⟩, _,
      dumps_eq_ok_iff.mpr ⟨finite, rfl⟩, rfl⟩
    have versioned : ¬ ((!document.isObject) = true ∨
        ¬ (document.member? "schema_version").any (equalsInteger doubles 2)) := by
      simp [native.object, native.version]
    rw [if_neg versioned, if_neg ((not_any_iff_keys fun _ => by tauto).mpr native.keys)]

theorem equalsInteger_of_same {first second : Json} {number : Int}
    (same : Json.Same doubles first second) :
    equalsInteger doubles number first = equalsInteger doubles number second := by
  cases same with
  | number value => rw [equalsInteger, equalsInteger, value]
  | _ => rfl

theorem any_equalsInteger_of_rel {first second : Option Json} {number : Int}
    (related : Option.Rel (Json.Same doubles) first second) :
    first.any (equalsInteger doubles number) = second.any (equalsInteger doubles number) := by
  cases related with
  | some same => exact equalsInteger_of_same same
  | none => rfl

/-- Documents of one value are native together. -/
theorem isRequest_iff_of_same {first second : Json} (same : Json.Same doubles first second) :
    IsRequest doubles first ↔ IsRequest doubles second := by
  have object : first.isObject = second.isObject := same.isObject
  have version : (first.member? "schema_version").any (equalsInteger doubles 2) =
      (second.member? "schema_version").any (equalsInteger doubles 2) :=
    any_equalsInteger_of_rel (same.member? "schema_version")
  constructor
  · intro native
    exact ⟨object ▸ native.object, version ▸ native.version,
      fun key member => native.keys key ((same.mem_keys_iff key).mpr member)⟩
  · intro native
    exact ⟨object ▸ native.object, version ▸ native.version,
      fun key member => native.keys key ((same.mem_keys_iff key).mp member)⟩

theorem samePayload_request_iff {first second : Json} :
    SamePayload doubles (requestPayload first) (requestPayload second) ↔
      Json.Same doubles first second := by
  constructor
  · intro same
    cases same.input with
    | document same => exact same
  · intro same
    exact ⟨.document same, rfl, rfl, rfl, rfl, rfl, .text _⟩

/-- The readers agree on a request, as each holds it. -/
theorem request_agree_iff {other : Json} :
    Agree doubles (nativeInput fromStr request) (pythonRequestPayload doubles loads other) ↔
      RequestAlike doubles (requestDocument fromStr request) (requestDocument loads other) := by
  constructor
  · intro agree
    constructor
    · intro document read finite native
      obtain ⟨_, accepted, same⟩ := agree.mirrored _
        (pythonRequestPayload_eq_ok_iff.mpr ⟨document, read, finite, native, rfl⟩)
      obtain ⟨found, held, integer, -, rfl⟩ := (nativeInput_eq_ok_iff doubles).mp accepted
      exact ⟨found, held, integer, samePayload_request_iff.mp same⟩
    · intro document read integer native
      obtain ⟨_, accepted, same⟩ := agree.accepted _
        ((nativeInput_eq_ok_iff doubles).mpr ⟨document, read, integer, native, rfl⟩)
      obtain ⟨found, held, finite, -, rfl⟩ := pythonRequestPayload_eq_ok_iff.mp accepted
      exact ⟨found, held, finite, samePayload_request_iff.mp same⟩
  · intro alike
    constructor
    · intro payload taken
      obtain ⟨document, read, integer, native, rfl⟩ :=
        (nativeInput_eq_ok_iff doubles).mp taken
      obtain ⟨found, held, finite, same⟩ := alike.accepted document read integer native
      exact ⟨_, pythonRequestPayload_eq_ok_iff.mpr
        ⟨found, held, finite, (isRequest_iff_of_same same).mp native, rfl⟩,
        samePayload_request_iff.mpr same⟩
    · intro payload taken
      obtain ⟨document, read, finite, native, rfl⟩ := pythonRequestPayload_eq_ok_iff.mp taken
      obtain ⟨found, held, integer, same⟩ := alike.mirrored document read finite native
      exact ⟨_, (nativeInput_eq_ok_iff doubles).mpr
        ⟨found, held, integer, (isRequest_iff_of_same same).mpr native, rfl⟩,
        samePayload_request_iff.mpr same⟩

end Native

/-! ## Kinds of payloads -/

/-- What a value is taken for. -/
inductive Envelope
  | refused
  | native (request : Json)
  | legacy (jobType : Text)

/-- The kind of a value, by its keys and the kind of its job. -/
def envelope (value : Json) : Envelope :=
  if !value.isObject ∨ value.keys.any (· ∈ foreignFields) then .refused
  else
    match value.member? "request" with
    | some request =>
        if value.keys.any (· ≠ "request".toList) then .refused else .native request
    | none =>
        if (value.member? "schema_version").isSome then .native value
        else if value.keys.any (· ∉ legacyFields) then .refused
        else
          match (value.member? "job_type").bind Json.asString with
          | none => .refused
          | some jobType =>
              if Text.eqIgnoreAsciiCase jobType "request".toList then
                match value.member? "input" with
                | some input => .native input
                | none => .refused
              else .legacy jobType

/-- Lowercasing of whole texts, as far as it concerns the letters a to z without k:
only ASCII letters become one of those. -/
def LowersLetters (lower : Text → Text) : Prop :=
  ∀ text word : Text, (∀ char ∈ word, char.isLower ∧ char ≠ 'k') →
    (lower text = word ↔ text.map Char.toLower = word)

section Kinds

variable {fromStr loads : Text → Except String Json} {change : JsonNumber → JsonNumber}
variable {doubles : Doubles} {lower : Text → Text} {value : Json}

theorem length_ne_one_iff {keys : List Text} {key : Text} (distinct : keys.Nodup)
    (member : key ∈ keys) : keys.length ≠ 1 ↔ keys.any (· ≠ key) = true := by
  cases keys with
  | nil => cases member
  | cons first rest =>
      cases rest with
      | nil =>
          obtain rfl := List.mem_singleton.mp member
          simp
      | cons second rest =>
          have different : first ≠ second := by
            rintro rfl
            simp at distinct
          have other : first ≠ key ∨ second ≠ key := by
            by_contra neither
            push Not at neither
            exact different (neither.1.trans neither.2.symm)
          rcases other with other | other <;> simp [other]

theorem member_of_some {key : String} {member : Json} (found : value.member? key = some member) :
    key.toList ∈ value.keys := by
  rw [← Json.member?_isSome_iff, found]
  rfl

theorem not_member_of_none {key : String} (missing : value.member? key = none) :
    key.toList ∉ value.keys := by
  rw [← Json.member?_isSome_iff, missing]
  exact Bool.false_ne_true

theorem toOption_legacyInput_of_untyped
    (untyped : (value.member? "job_type").bind Json.asString = none) :
    (legacyInput (value.mapNumbers change)).toOption = none := by
  cases taken : legacyInput (value.mapNumbers change) with
  | error error => rfl
  | ok payload =>
      obtain ⟨parsed, read, -, -⟩ := legacyInput_eq_ok_iff_fields.mp taken
      have jobType := (fromValue_eq_ok_iff.mp read).2.1
      rw [Json.member?_mapNumbers, bind_asString_mapNumbers, untyped] at jobType
      cases jobType

/-- The runner takes a value for what its envelope says. -/
theorem toOption_maestroInput (distinct : value.keys.Nodup) :
    (maestroInput fromStr (value.mapNumbers change)).toOption =
      match envelope value with
      | .refused => none
      | .native request => (nativeInput fromStr (request.mapNumbers change)).toOption
      | .legacy _ => (legacyInput (value.mapNumbers change)).toOption := by
  unfold maestroInput envelope nativeRequest
  rw [Json.isObject_mapNumbers, Json.keys_mapNumbers]
  cases object : value.isObject
  case false => rfl
  cases foreign : value.keys.any (· ∈ foreignFields)
  case true => rfl
  simp only [Bool.not_true, Bool.false_eq_true, if_false, or_self, Json.member?_mapNumbers]
  cases request : value.member? "request" with
  | some request =>
      have member : "request".toList ∈ value.keys := member_of_some request
      have only := length_ne_one_iff distinct member
      dsimp only
      cases extra : value.keys.any (· ≠ "request".toList)
      case true =>
        rw [if_pos ⟨member, only.mpr extra⟩]
        rfl
      have single : ¬ ("request".toList ∈ value.keys ∧ value.keys.length ≠ 1) :=
        fun refused => Bool.false_ne_true (extra.symm.trans (only.mp refused.2))
      rw [if_neg single, if_neg (fun refused => refused.1 member)]
      rfl
  | none =>
      have absent : "request".toList ∉ value.keys := not_member_of_none request
      rw [if_neg (fun refused => absent refused.1)]
      cases version : value.member? "schema_version" with
      | some _ =>
          have present : "schema_version".toList ∈ value.keys := member_of_some version
          rw [if_neg (fun refused => refused.2.1 present)]
          rfl
      | none =>
          have missing : "schema_version".toList ∉ value.keys := not_member_of_none version
          cases unknown : value.keys.any (· ∉ legacyFields)
          case true =>
            rw [if_pos ⟨absent, missing, rfl⟩]
            rfl
          rw [if_neg (fun refused => Bool.false_ne_true refused.2.2)]
          simp only [Option.isSome_none, Bool.false_eq_true, if_false, Option.map_none]
          rw [bind_asString_mapNumbers]
          cases kind : (value.member? "job_type").bind Json.asString with
          | none => exact toOption_legacyInput_of_untyped kind
          | some jobType =>
              dsimp only [Option.any_some]
              by_cases native : Text.eqIgnoreAsciiCase jobType "request".toList = true
              · rw [if_pos native, if_pos native]
                cases value.member? "input" <;> rfl
              · rw [if_neg native, if_neg native]
                rfl

theorem LowersLetters.eq_iff (lowers : LowersLetters lower) (text word : Text)
    (letters : word.all (fun char => char.isLower && char != 'k'))
    (lowered : word.map Char.toLower = word) :
    lower text = word ↔ Text.eqIgnoreAsciiCase text word = true := by
  have each : ∀ char ∈ word, char.isLower ∧ char ≠ 'k' := by
    intro char member
    have letter := List.all_eq_true.mp letters char member
    rwa [Bool.and_eq_true, bne_iff_ne] at letter
  rw [lowers text word each, Text.eqIgnoreAsciiCase, lowered, beq_iff_eq]

/-- The package takes a value for what its envelope says. -/
theorem toOption_payloadFromInput (lowers : LowersLetters lower) :
    (payloadFromInput doubles loads lower (value.mapNumbers change)).toOption =
      match envelope value with
      | .refused => none
      | .native request =>
          (pythonRequestPayload doubles loads (request.mapNumbers change)).toOption
      | .legacy jobType =>
          if ["execute".toList, "estimate".toList].any (Text.eqIgnoreAsciiCase jobType) then
            (legacyPayload doubles (value.mapNumbers change) jobType).toOption
          else none := by
  unfold payloadFromInput envelope
  rw [Json.isObject_mapNumbers, Json.keys_mapNumbers]
  cases object : value.isObject
  case false => rfl
  cases foreign : value.keys.any (· ∈ foreignFields)
  case true => rfl
  simp only [Bool.not_true, Bool.false_eq_true, if_false, or_self, Json.member?_mapNumbers]
  cases value.member? "request" with
  | some request =>
      dsimp only [Option.map_some]
      by_cases extra : value.keys.any (· ≠ "request".toList) = true
      · rw [if_pos extra, if_pos extra]
        rfl
      · rw [if_neg extra, if_neg extra]
  | none =>
      cases value.member? "schema_version" with
      | some _ => rfl
      | none =>
          dsimp only [Option.map_none, Option.isSome_none]
          simp only [Bool.false_eq_true, if_false]
          by_cases unknown : value.keys.any (· ∉ legacyFields) = true
          · rw [if_pos unknown, if_pos unknown]
            rfl
          rw [if_neg unknown, if_neg unknown, bind_asString_mapNumbers]
          cases (value.member? "job_type").bind Json.asString with
          | none => rfl
          | some jobType =>
              have isRequest := lowers.eq_iff jobType "request".toList (by decide) (by decide)
              have isExecute := lowers.eq_iff jobType "execute".toList (by decide) (by decide)
              have isEstimate := lowers.eq_iff jobType "estimate".toList (by decide) (by decide)
              dsimp only
              by_cases native : lower jobType = "request".toList
              · rw [if_pos native, if_pos (isRequest.mp native)]
                cases value.member? "input" <;> rfl
              rw [if_neg native, if_neg (mt isRequest.mpr native)]
              have kinds : lower jobType ∈ ["execute".toList, "estimate".toList] ↔
                  ["execute".toList, "estimate".toList].any
                    (Text.eqIgnoreAsciiCase jobType) = true := by
                rw [List.mem_pair, isExecute, isEstimate]
                simp only [List.any_cons, List.any_nil, Bool.or_false, Bool.or_eq_true]
              by_cases known : lower jobType ∈ ["execute".toList, "estimate".toList]
              · rw [if_neg (not_not.mpr known)]
                exact (if_pos (kinds.mp known)).symm
              · rw [if_pos known]
                exact (if_neg (mt kinds.mpr known)).symm

end Kinds

section Readers

variable {doubles : Doubles} {fromStr loads : Text → Except String Json}
variable {lower : Text → Text} {value : Json}

/-- What keeps the readers together, for each kind of payload. -/
def ReadAlike (doubles : Doubles) (fromStr loads : Text → Except String Json)
    (value : Json) : Prop :=
  match envelope value with
  | .refused => True
  | .native request =>
      RequestAlike doubles (requestDocument fromStr (request.serde doubles))
        (requestDocument loads request.python)
  | .legacy _ => LegacyAlike doubles value

theorem toOption_eq_some_iff {ε α : Type} {outcome : Except ε α} {content : α} :
    outcome.toOption = some content ↔ outcome = .ok content := by
  cases outcome <;> simp [Except.toOption]

theorem agree_congr {rust rust' : Except InputError MaestroPayload}
    {python python' : Except PayloadError MaestroPayload}
    (sameRust : rust.toOption = rust'.toOption)
    (samePython : python.toOption = python'.toOption) :
    Agree doubles rust python ↔ Agree doubles rust' python' := by
  have rustOk : ∀ payload, rust = .ok payload ↔ rust' = .ok payload := by
    intro payload
    rw [← toOption_eq_some_iff, sameRust, toOption_eq_some_iff]
  have pythonOk : ∀ payload, python = .ok payload ↔ python' = .ok payload := by
    intro payload
    rw [← toOption_eq_some_iff, samePython, toOption_eq_some_iff]
  constructor
  · rintro ⟨accepted, mirrored⟩
    simp only [rustOk, pythonOk] at accepted mirrored
    exact ⟨accepted, mirrored⟩
  · rintro ⟨accepted, mirrored⟩
    simp only [← rustOk, ← pythonOk] at accepted mirrored
    exact ⟨accepted, mirrored⟩

theorem agree_of_toOption_eq_none {rust : Except InputError MaestroPayload}
    {python : Except PayloadError MaestroPayload} (refused : rust.toOption = none)
    (rejected : python.toOption = none) : Agree doubles rust python := by
  constructor
  · rintro payload rfl
    cases refused
  · rintro payload rfl
    cases rejected

theorem jobType_of_envelope {jobType : Text} (kind : envelope value = .legacy jobType) :
    (value.member? "job_type").bind Json.asString = some jobType := by
  unfold envelope at kind
  split at kind
  · cases kind
  split at kind
  · split at kind <;> cases kind
  split at kind
  · cases kind
  split at kind
  · cases kind
  split at kind
  · cases kind
  · rename_i found
    split at kind
    · split at kind <;> cases kind
    · cases kind
      exact found

/-- A legacy job of an unknown kind is refused by both. -/
theorem not_legacyJob_of_kind {jobType : Text} {job : Input}
    (given : (value.member? "job_type").bind Json.asString = some jobType)
    (unknown : ¬ ["execute".toList, "estimate".toList].any
      (Text.eqIgnoreAsciiCase jobType) = true) : ¬ LegacyJob value job := by
  rintro ⟨fields, legacy⟩
  obtain rfl := Option.some.inj (fields.jobType.symm.trans given)
  exact unknown legacy.kind

/-- The two readers agree on a JSON value exactly when the two languages hold it
alike where the readers look. -/
theorem agree_iff (isValue : value.IsValue doubles) (lowers : LowersLetters lower) :
    Agree doubles (maestroInput fromStr (value.serde doubles))
        (payloadFromInput doubles loads lower value.python) ↔
      ReadAlike doubles fromStr loads value := by
  have rust : (maestroInput fromStr (value.serde doubles)).toOption = _ :=
    toOption_maestroInput isValue.distinct
  have python : (payloadFromInput doubles loads lower value.python).toOption = _ :=
    toOption_payloadFromInput lowers
  unfold ReadAlike
  cases kind : envelope value with
  | refused =>
      rw [kind] at rust python
      exact iff_of_true (agree_of_toOption_eq_none rust python) trivial
  | native request =>
      rw [kind] at rust python
      rw [agree_congr rust python]
      exact request_agree_iff
  | legacy jobType =>
      rw [kind] at rust python
      have given := jobType_of_envelope kind
      by_cases known : ["execute".toList, "estimate".toList].any
          (Text.eqIgnoreAsciiCase jobType) = true
      · dsimp only at python
        rw [if_pos known] at python
        rw [agree_congr rust python]
        exact legacy_agree_iff isValue.finite given known
      · dsimp only at python
        rw [if_neg known] at python
        have untaken : (legacyInput (value.serde doubles)).toOption = none := by
          cases taken : legacyInput (value.serde doubles) with
          | error error => rfl
          | ok payload =>
              obtain ⟨job, legacy, -⟩ := legacyInput_eq_ok_iff.mp taken
              exact absurd legacy (not_legacyJob_of_kind given known)
        exact iff_of_true (agree_of_toOption_eq_none (rust.trans untaken) python)
          fun job legacy => absurd legacy (not_legacyJob_of_kind given known)

end Readers

namespace FloatVersion

/-- One literal with a fraction is read. -/
def doubles : Doubles where
  value literal := if literal = ['2', '.', '0'] then some 2 else none
  serde literal := literal
  serdeInteger := Text.showInt

/-- A library that is asked for no text. -/
def unasked (_ : Text) : Except String Json :=
  .error "expected value"

def lower (text : Text) : Text :=
  text.map Char.toLower

/-- A native request whose version is written with a fraction. -/
def value : Json :=
  .object [("schema_version".toList, .number (.real ['2', '.', '0']))]

theorem isValue : value.IsValue doubles :=
  ⟨by decide, by decide⟩

theorem lowers : LowersLetters lower :=
  fun _ _ _ => Iff.rfl

theorem refused :
    ∃ error, maestroInput unasked (value.serde doubles) = .error error :=
  ⟨_, rfl⟩

theorem accepted :
    ∃ payload, payloadFromInput doubles unasked lower value.python = .ok payload :=
  ⟨_, rfl⟩

end FloatVersion

theorem agree_iff_floatVersion :
    Agree FloatVersion.doubles
        (maestroInput FloatVersion.unasked (FloatVersion.value.serde FloatVersion.doubles))
        (payloadFromInput FloatVersion.doubles FloatVersion.unasked FloatVersion.lower
          FloatVersion.value.python) ↔
      ReadAlike FloatVersion.doubles FloatVersion.unasked FloatVersion.unasked
        FloatVersion.value :=
  agree_iff FloatVersion.isValue FloatVersion.lowers

/-- A version that is written with a fraction is accepted by one reader only. -/
theorem exists_value_of_disagreement :
    ∃ (doubles : Doubles) (fromStr loads : Text → Except String Json)
      (lower : Text → Text) (value : Json), value.IsValue doubles ∧ LowersLetters lower ∧
        ¬ Agree doubles (maestroInput fromStr (value.serde doubles))
          (payloadFromInput doubles loads lower value.python) := by
  refine ⟨FloatVersion.doubles, FloatVersion.unasked, FloatVersion.unasked,
    FloatVersion.lower, FloatVersion.value, FloatVersion.isValue, FloatVersion.lowers, ?_⟩
  intro agree
  obtain ⟨payload, accepted⟩ := FloatVersion.accepted
  obtain ⟨other, taken, -⟩ := agree.mirrored payload accepted
  obtain ⟨error, refused⟩ := FloatVersion.refused
  cases refused.symm.trans taken

end MaestroInput
