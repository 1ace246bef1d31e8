import Qrmi.JsonLexer
import Qrmi.MaestroQasm
import Qrmi.MaestroSubmission
import Qrmi.Utf8

/-!
# The frames of a legacy submission

The text arguments of a legacy task are written into lines of the socket protocol.
Every line of a submission is one line, whatever the arguments contain, and two of
the arguments keep their meaning on it: the options as a JSON text, and the
observables as a list of segments.
-/

open Interaction

namespace Text

/-- One line: a line feed at the end and no other line break. -/
def IsLine (bytes : List UInt8) : Prop :=
  ∃ body, bytes = body ++ [10] ∧ 10 ∉ body ∧ 13 ∉ body

theorem isLine_utf8 {body : Text} (noFeed : '\n' ∉ body) (noReturn : '\r' ∉ body) :
    IsLine (utf8 (body ++ ['\n'])) := by
  have asciiFeed : '\n'.toNat < 128 := by decide
  have asciiReturn : '\r'.toNat < 128 := by decide
  refine ⟨utf8 body, utf8_append body ['\n'], ?_, ?_⟩
  · exact fun member => noFeed ((mem_utf8_iff asciiFeed).mp member)
  · exact fun member => noReturn ((mem_utf8_iff asciiReturn).mp member)

/-- The segments of a list, without the whitespace around them. -/
def segments (text : Text) : List Text :=
  (text.splitOn ';').map trim

theorem splitOn_cons (char : Char) (text : Text) :
    List.splitOn ';' (char :: text) =
      if char = ';' then [] :: text.splitOn ';'
      else (text.splitOn ';').modifyHead (char :: ·) := by
  rw [List.splitOn_eq_splitOnP, List.splitOnP_cons_eq_if_modifyHead]
  simp only [beq_iff_eq, List.splitOn_eq_splitOnP]

/-- A character behind a text goes into its last segment. -/
theorem splitOn_concat {char : Char} (inside : char ≠ ';') (text : Text) :
    ∃ front last, text.splitOn ';' = front ++ [last] ∧
      (text ++ [char]).splitOn ';' = front ++ [last ++ [char]] := by
  induction text with
  | nil =>
      refine ⟨[], [], rfl, ?_⟩
      rw [List.nil_append, splitOn_cons, if_neg inside]
      rfl
  | cons first text ih =>
      obtain ⟨front, last, whole, extended⟩ := ih
      rw [List.cons_append, splitOn_cons, splitOn_cons, whole, extended]
      by_cases separator : first = ';'
      · rw [if_pos separator, if_pos separator]
        exact ⟨[] :: front, last, rfl, rfl⟩
      · rw [if_neg separator, if_neg separator]
        cases front with
        | nil => exact ⟨[], first :: last, rfl, rfl⟩
        | cons head front => exact ⟨(first :: head) :: front, last, rfl, rfl⟩

theorem not_separator_of_isWhitespace {char : Char}
    (white : isWhitespace char = true) : char ≠ ';' := by
  rintro rfl
  cases white

theorem segments_dropWhile (text : Text) :
    segments (text.dropWhile isWhitespace) = segments text := by
  induction text with
  | nil => rfl
  | cons char text ih =>
      by_cases white : isWhitespace char = true
      · rw [List.dropWhile_cons_of_pos white, ih, segments, segments, splitOn_cons,
          if_neg (not_separator_of_isWhitespace white)]
        cases split : text.splitOn ';' with
        | nil => rfl
        | cons head rest =>
            rw [List.modifyHead_cons, List.map_cons, List.map_cons,
              trim_cons_of_isWhitespace white]
      · rw [List.dropWhile_cons_of_neg white]

theorem segments_rdropWhile (text : Text) :
    segments (text.rdropWhile isWhitespace) = segments text := by
  induction text using List.reverseRecOn with
  | nil => rfl
  | append_singleton text char ih =>
      by_cases white : isWhitespace char = true
      · obtain ⟨front, last, whole, extended⟩ :=
          splitOn_concat (not_separator_of_isWhitespace white) text
        rw [List.rdropWhile_concat_pos _ _ _ white, ih, segments, segments, whole,
          extended, List.map_append, List.map_append, List.map_singleton,
          List.map_singleton, trim_concat_of_isWhitespace white]
      · rw [List.rdropWhile_concat_neg _ _ _ white]

theorem splitOn_replaceLineBreaks (text : Text) :
    (replaceLineBreaks text).splitOn ';' =
      (text.splitOn ';').map replaceLineBreaks := by
  induction text with
  | nil => rfl
  | cons char text ih =>
      have kept : (if char = '\n' ∨ char = '\r' then ' ' else char) = ';' ↔
          char = ';' := by
        split
        · rename_i lineBreak
          rcases lineBreak with rfl | rfl <;> decide
        · rfl
      change List.splitOn ';' (_ :: replaceLineBreaks text) = _
      rw [splitOn_cons, splitOn_cons, ih]
      by_cases separator : char = ';'
      · rw [if_pos separator, if_pos (kept.mpr separator)]
        rfl
      · rw [if_neg separator, if_neg (mt kept.mp separator)]
        cases split : text.splitOn ';' with
        | nil => rfl
        | cons head rest => rfl

/-- On its line, a text has its own segments with line breaks read as spaces. -/
theorem segments_trim_replaceLineBreaks (text : Text) :
    segments (trim (replaceLineBreaks text)) =
      (text.splitOn ';').map fun segment => trim (replaceLineBreaks segment) := by
  rw [trim, segments_rdropWhile, segments_dropWhile, segments,
    splitOn_replaceLineBreaks, List.map_map]
  rfl

end Text

namespace JsonText

/-- Trimming cuts off margins of JSON texts only. -/
theorem isForeign_of_isWhitespace {char : Char}
    (white : Text.isWhitespace char = true) : IsForeign char := by
  have foreign : ∀ point ∈ Text.whitespacePoints,
      isStructural (Char.ofNat point) = false ∧ Char.ofNat point ≠ '"' ∧
        isWord (Char.ofNat point) = false := by
    decide
  obtain ⟨notStructural, notQuote, notWord⟩ :=
    foreign char.toNat (Text.toNat_mem_whitespacePoints white)
  rw [Char.ofNat_toNat] at notStructural notQuote notWord
  exact ⟨notStructural, notQuote, notWord⟩

theorem replaceLineBreaks_eq_flatten (text : Text) :
    Text.replaceLineBreaks text = flatten text := by
  unfold Text.replaceLineBreaks flatten
  congr 1
  funext char
  simp [isLineBreak]

/-- On its line, a JSON text has its own tokens. -/
theorem tokens_lineArgument {text : Text} {result : List Token}
    (lexed : tokens text = some result) :
    tokens (Maestro.Task.lineArgument text) = some result := by
  have margins : ∀ char, Text.isWhitespace char = true →
      lexer.IsMargin .blank char :=
    fun _ white => (isForeign_of_isWhitespace white).isMargin
  unfold Maestro.Task.lineArgument Text.trim
  rw [replaceLineBreaks_eq_flatten]
  apply Lexer.lexFrom_rdropWhile margins
  apply Lexer.lexFrom_dropWhile margins
  exact tokens_flatten lexed

/-- On its line, a JSON text has its own value. -/
theorem ReadsTokens.parse_lineArgument {Error Value : Type}
    {parse : List Char → Except Error Value} (reads : ReadsTokens parse)
    {text : Text} {value : Value} (parsed : parse text = .ok value) :
    parse (Maestro.Task.lineArgument text) = .ok value := by
  obtain ⟨result, lexed⟩ := reads.accepts parsed
  have same : tokens text = tokens (Maestro.Task.lineArgument text) := by
    rw [lexed, tokens_lineArgument lexed]
  exact reads.tokenwise same parsed

end JsonText

namespace Maestro

/-- The text that a task verb carries, if it carries one. -/
def TaskVerb.argument : TaskVerb → Option Text
  | .setObservables text | .setQasm text | .setOptions text => some text
  | .exists | .failed | .finished | .running | .execute | .cancel | .getResults
  | .setType _ | .setQubits _ | .setSimulatorType _ | .setSimulationMethod _ =>
      none

/-- The commands of a legacy submission, by the texts they were made of. -/
inductive Submits (input observables config : Text) : Command → Prop
  | create (session : UInt32) :
      Submits input observables config (.taskCreate session)
  | bare {verb : TaskVerb} (task : Task) (noArgument : verb.argument = none) :
      Submits input observables config (task.command verb)
  | observables (task : Task) :
      Submits input observables config
        (task.command (.setObservables (Task.lineArgument observables)))
  | qasm (task : Task) :
      Submits input observables config
        (task.command (.setQasm (Task.lineArgument input)))
  | options (task : Task) :
      Submits input observables config
        (task.command (.setOptions (Task.lineArgument config)))

/-- A text that stays on its line. -/
def OnLine (text : Text) : Prop :=
  '\n' ∉ text ∧ '\r' ∉ text

theorem OnLine.append {first second : Text} (inFirst : OnLine first)
    (inSecond : OnLine second) : OnLine (first ++ second) := by
  constructor
  · intro member
    exact (List.mem_append.mp member).elim inFirst.1 inSecond.1
  · intro member
    exact (List.mem_append.mp member).elim inFirst.2 inSecond.2

theorem OnLine.of_subset {part whole : Text} (subset : part ⊆ whole)
    (onLine : OnLine whole) : OnLine part :=
  ⟨fun member => onLine.1 (subset member), fun member => onLine.2 (subset member)⟩

theorem onLine_showU32 (number : UInt32) : OnLine (Text.showU32 number) := by
  have digits : ∀ char ∈ Text.showU32 number, char.isDigit = true := by
    intro char member
    exact Nat.isDigit_of_mem_toDigits (by decide) (by decide) member
  exact ⟨fun member => absurd (digits _ member) (by decide),
    fun member => absurd (digits _ member) (by decide)⟩

theorem onLine_replaceLineBreaks (text : Text) :
    OnLine (Text.replaceLineBreaks text) := by
  constructor
  all_goals
    intro member
    obtain ⟨char, -, equal⟩ := List.mem_map.mp member
    split at equal
    · exact absurd equal (by decide)
    · rename_i kept
      simp [equal] at kept

/-- An argument stays on its line. -/
theorem onLine_lineArgument (text : Text) : OnLine (Task.lineArgument text) := by
  apply OnLine.of_subset _ (onLine_replaceLineBreaks text)
  intro char member
  have kept := (List.rdropWhile_prefix _ _).subset member
  exact (List.dropWhile_sublist _).subset kept

theorem TaskVerb.onLine_render {verb : TaskVerb}
    (argument : ∀ text, verb.argument = some text → OnLine text) :
    OnLine verb.render := by
  have word : ∀ text : Text, (text.all fun char => char ≠ '\n' && char ≠ '\r') →
      OnLine text := by
    intro text all
    rw [List.all_eq_true] at all
    exact ⟨fun member => by simpa using all _ member,
      fun member => by simpa using all _ member⟩
  cases verb with
  | setType taskType => cases taskType <;> exact word _ (by decide)
  | setQubits qubits => exact (word _ (by decide)).append (onLine_showU32 _)
  | setSimulatorType number => exact (word _ (by decide)).append (onLine_showU32 _)
  | setSimulationMethod number => exact (word _ (by decide)).append (onLine_showU32 _)
  | setObservables text => exact (word _ (by decide)).append (argument text rfl)
  | setQasm text => exact (word _ (by decide)).append (argument text rfl)
  | setOptions text => exact (word _ (by decide)).append (argument text rfl)
  | «exists» => exact word _ (by decide)
  | failed => exact word _ (by decide)
  | finished => exact word _ (by decide)
  | running => exact word _ (by decide)
  | execute => exact word _ (by decide)
  | cancel => exact word _ (by decide)
  | getResults => exact word _ (by decide)

theorem Submits.isLine {input observables config : Text} {command : Command}
    (submits : Submits input observables config command) (json : JsonLibrary) :
    Text.IsLine (Text.utf8 (command.render json)) := by
  have word : ∀ {text : Text}, '\n' ∉ text → '\r' ∉ text → OnLine text := And.intro
  have line : ∀ {body : Text}, OnLine body → Text.IsLine (Text.utf8 (body ++ ['\n'])) :=
    fun onLine => Text.isLine_utf8 onLine.1 onLine.2
  have verbLine (task : Task) {verb : TaskVerb}
      (argument : ∀ text, verb.argument = some text → OnLine text) :
      Text.IsLine (Text.utf8 ((task.command verb).render json)) := by
    apply line
    refine OnLine.append ?_ (TaskVerb.onLine_render argument)
    refine (((word ?_ ?_).append (onLine_showU32 _)).append (word ?_ ?_)).append
      (onLine_showU32 _) |>.append (word ?_ ?_)
    all_goals decide
  have lineArgument (text : Text) :
      ∀ other, some (Task.lineArgument text) = some other → OnLine other := by
    rintro other ⟨⟩
    exact onLine_lineArgument text
  cases submits with
  | create session =>
      change Text.IsLine (Text.utf8 ("SESSION ".toList ++ Text.showU32 session ++
        (" TASK CREATE".toList ++ ['\n'])))
      rw [← List.append_assoc]
      apply line
      refine ((word ?_ ?_).append (onLine_showU32 _)).append (word ?_ ?_)
      all_goals decide
  | bare task noArgument =>
      refine verbLine task fun text carried => ?_
      rw [noArgument] at carried
      cases carried
  | observables task => exact verbLine task (lineArgument observables)
  | qasm task => exact verbLine task (lineArgument input)
  | options task => exact verbLine task (lineArgument config)

theorem Submits.options_eq {input observables config line : Text} {command : Command}
    {session id : UInt32} (submits : Submits input observables config command)
    (asked : command = .task session id (.setOptions line)) :
    line = Task.lineArgument config := by
  cases submits with
  | options task =>
      cases asked
      rfl
  | bare task noArgument =>
      cases asked
      cases noArgument
  | create session => cases asked
  | observables task => cases asked
  | qasm task => cases asked

theorem Submits.observables_eq {input observables config line : Text}
    {command : Command} {session id : UInt32}
    (submits : Submits input observables config command)
    (asked : command = .task session id (.setObservables line)) :
    line = Task.lineArgument observables := by
  cases submits with
  | observables task =>
      cases asked
      rfl
  | bare task noArgument =>
      cases asked
      cases noArgument
  | create session => cases asked
  | options task => cases asked
  | qasm task => cases asked

namespace MaestroLocal

section Emission

variable {input observables config : Text}

theorem emits_acknowledge {socket failure unexpected : String} {command : Command}
    (submits : Submits input observables config command) :
    (acknowledge socket command failure unexpected).Emits fun event =>
      Submits input observables config event.1 := by
  intro trace response runs event member
  obtain ⟨reply, rfl, -⟩ := asks_acknowledge runs
  rw [List.mem_singleton.mp member]
  exact submits

theorem emits_configure {operation socket failure unexpected : String}
    {command : Command} (submits : Submits input observables config command) :
    (configure operation (acknowledge socket command failure unexpected)).Emits
      fun event => Submits input observables config event.1 :=
  (Method.emits_lift (emits_acknowledge submits)).bind fun _ =>
    Method.emits_ofExcept _

theorem emits_configureTask (job : LegacySubmission) (task : Task) (socket : String) :
    (configureTask job task socket).Emits fun event =>
      Submits job.input job.observables job.config event.1 := by
  have rest : Method.Emits (do
      configure "set qubits" (task.setQubitsAt job.qubits socket)
      configure "set simulator type"
        (task.setSimulatorTypeAt job.simulatorType socket)
      configure "set simulation method"
        (task.setSimulationMethodAt job.simulationMethod socket)
      configure "set QASM" (task.setQasmAt job.input socket)
      configure "set options JSON" (task.setOptionsJsonAt job.config socket)
      configure "execute task" (task.executeAt socket))
      (fun event => Submits job.input job.observables job.config event.1) := by
    apply Method.Emits.bind (emits_configure (.bare task rfl)) fun _ => ?_
    apply Method.Emits.bind (emits_configure (.bare task rfl)) fun _ => ?_
    apply Method.Emits.bind (emits_configure (.bare task rfl)) fun _ => ?_
    apply Method.Emits.bind (emits_configure (.qasm task)) fun _ => ?_
    apply Method.Emits.bind (emits_configure (.options task)) fun _ => ?_
    exact emits_configure (.bare task rfl)
  unfold configureTask
  apply Method.Emits.bind (emits_configure (.bare task rfl)) fun _ => ?_
  by_cases estimates : job.taskType = .estimate
  · rw [if_pos estimates]
    exact (emits_configure (.observables task)).bind fun _ => rest
  · rw [if_neg estimates]
    exact rest

theorem emits_submitLegacy (job : LegacySubmission) (socket : String) :
    (submitLegacy job socket).Emits fun event =>
      Submits job.input job.observables job.config event.1 := by
  have creates : ((Session.mk job.sessionId).createTaskAt socket).Emits fun event =>
      Submits job.input job.observables job.config event.1 := by
    intro trace result runs event member
    obtain ⟨reply, rfl, -⟩ := runs_createTaskAt runs
    rw [List.mem_singleton.mp member]
    exact .create job.sessionId
  unfold submitLegacy
  refine (Method.emits_lift creates).bind fun created => ?_
  cases created with
  | error message => exact Method.emits_throw _
  | ok task =>
      refine (emits_configureTask job task socket).attempt.bind fun outcome => ?_
      cases outcome with
      | ok nothing => exact Method.emits_pure _
      | error error =>
          have cancels : (task.cancelAt socket).Emits fun event =>
              Submits job.input job.observables job.config event.1 :=
            emits_acknowledge (.bare task rfl)
          exact (Method.emits_lift cancels).bind fun _ => Method.emits_throw _

variable {codecs : Codecs} {jobType : Text}
variable {qubits simulatorType simulationMethod : UInt32}

theorem emits_startLegacy :
    (startLegacy codecs input jobType qubits simulatorType simulationMethod
      observables config).Emits fun event =>
        Submits input observables config event.1 := by
  unfold startLegacy
  refine (Method.emits_ofExcept _).bind fun taskType => ?_
  refine (Method.emits_ofExcept _).bind fun _ => ?_
  refine Method.emits_self.bind fun resource => ?_
  refine (Method.emits_ofExcept _).bind fun session => ?_
  refine (emits_submitLegacy _ _).zoom.bind fun task => ?_
  exact (Method.emits_modify _).bind fun _ => Method.emits_pure _

variable {before after : MaestroLocal} {trace : List Exchange}
variable {result : Except QrmiError Text}

/-- Nothing is sent before the payload has passed its checks. -/
theorem checkLegacyPayload_of_startLegacy {event : Exchange}
    (executes : (startLegacy codecs input jobType qubits simulatorType
      simulationMethod observables config).Executes before trace result after)
    (sent : event ∈ trace) : checkLegacyPayload codecs input config qubits = .ok () := by
  unfold startLegacy at executes
  cases typed : legacyTaskType jobType observables with
  | error error =>
      rw [typed, Method.executes_ofExcept_bind_error_iff] at executes
      rw [executes.1] at sent
      cases sent
  | ok taskType =>
      rw [typed, Method.executes_ofExcept_bind_ok_iff] at executes
      cases checked : checkLegacyPayload codecs input config qubits with
      | error error =>
          rw [checked, Method.executes_ofExcept_bind_error_iff] at executes
          rw [executes.1] at sent
          cases sent
      | ok nothing => rfl

theorem parse_config_of_checkLegacyPayload
    (checked : checkLegacyPayload codecs input config qubits = .ok ()) :
    ∃ options, codecs.serde.parse config = .ok options ∧ options.isObject = true := by
  unfold checkLegacyPayload at checked
  split at checked
  · cases checked
  · cases parsed : codecs.serde.parse config with
    | error error =>
        rw [parsed] at checked
        cases checked
    | ok options =>
        refine ⟨options, rfl, ?_⟩
        rw [parsed] at checked
        cases isObject : options.isObject with
        | true => rfl
        | false =>
            simp [isObject] at checked

/-- Every command of a legacy submission is one line, its options have the value
of the accepted config, and its observables have the segments of the accepted
ones. -/
theorem taskStart_frames (reads : JsonText.ReadsTokens codecs.serde.parse)
    (legacy : Text.eqIgnoreAsciiCase jobType "request".toList = false)
    (executes : (taskStart codecs (.maestroLocal input jobType qubits simulatorType
      simulationMethod observables config)).Executes before trace result after) :
    ∀ event ∈ trace,
      Text.IsLine (Text.utf8 (event.1.render codecs.json)) ∧
      (∀ session id line, event.1 = .task session id (.setOptions line) →
        ∃ options, codecs.serde.parse config = .ok options ∧
          options.isObject = true ∧ codecs.serde.parse line = .ok options) ∧
      (∀ session id line, event.1 = .task session id (.setObservables line) →
        Text.segments line = (observables.splitOn ';').map fun segment =>
          Text.trim (Text.replaceLineBreaks segment)) := by
  rw [taskStart, legacy, if_neg Bool.false_ne_true] at executes
  intro event sent
  have submits := emits_startLegacy.event_of_executes executes event sent
  refine ⟨submits.isLine codecs.json, fun session id line asked => ?_,
    fun session id line asked => ?_⟩
  · have checked := checkLegacyPayload_of_startLegacy executes sent
    obtain ⟨options, parsed, isObject⟩ := parse_config_of_checkLegacyPayload checked
    obtain rfl := submits.options_eq asked
    exact ⟨options, parsed, isObject, reads.parse_lineArgument parsed⟩
  · obtain rfl := submits.observables_eq asked
    exact Text.segments_trim_replaceLineBreaks observables

end Emission

namespace Estimation

/-- A library that knows the empty object only, however it is written. -/
def serde : JsonLibrary where
  parse text :=
    if JsonText.tokens text = some [.structural '\x7b', .structural '\x7d'] then
      .ok (.object [])
    else .error "expected value"
  dump := Json.render

theorem readsTokens : JsonText.ReadsTokens serde.parse where
  accepts := by
    intro text value parsed
    change (if _ then _ else _) = _ at parsed
    split at parsed
    · rename_i lexed
      exact ⟨_, lexed⟩
    · cases parsed
  tokenwise := by
    intro first second value same parsed
    change (if JsonText.tokens second = _ then _ else _) = _
    rw [← same]
    exact parsed

def codecs : Codecs where
  json := .ofTable []
  serde := serde

def observables : Text :=
  "Z0;\nX0 ".toList

def config : Text :=
  ['\x7b', '\n', '\x7d']

def trace : List Exchange :=
  [⟨.taskCreate 7, .ok "OK 1".toList⟩,
    ⟨.task 7 1 (.setType .estimate), .ok "OK".toList⟩,
    ⟨.task 7 1 (.setObservables "Z0; X0".toList), .ok "OK".toList⟩,
    ⟨.task 7 1 (.setQubits 1), .ok "OK".toList⟩,
    ⟨.task 7 1 (.setSimulatorType 0), .ok "OK".toList⟩,
    ⟨.task 7 1 (.setSimulationMethod 0), .ok "OK".toList⟩,
    ⟨.task 7 1 (.setQasm "qreg q[1];".toList), .ok "OK".toList⟩,
    ⟨.task 7 1 (.setOptions ['\x7b', ' ', '\x7d']), .ok "OK".toList⟩,
    ⟨.task 7 1 .execute, .ok "OK".toList⟩]

def resource : MaestroLocal :=
  fresh "maestro".toList (some 7) "/run/maestro.sock"

theorem executes :
    (taskStart codecs (.maestroLocal "qreg q[1];".toList "estimate".toList 1 0 0
      observables config)).Executes resource trace (.ok (Text.showU32 1))
        (resource.forget (7, 1)) :=
  .ask (.ask (.ask (.ask (.ask (.ask (.ask (.ask (.ask (.done _)))))))))

end Estimation

theorem taskStart_frames_estimation :
    Text.eqIgnoreAsciiCase "estimate".toList "request".toList = false ∧
      ∀ event ∈ Estimation.trace,
        Text.IsLine (Text.utf8 (event.1.render Estimation.codecs.json)) ∧
        (∀ session id line, event.1 = .task session id (.setOptions line) →
          ∃ options, Estimation.serde.parse Estimation.config = .ok options ∧
            options.isObject = true ∧ Estimation.serde.parse line = .ok options) ∧
        (∀ session id line, event.1 = .task session id (.setObservables line) →
          Text.segments line =
            (Estimation.observables.splitOn ';').map fun segment =>
              Text.trim (Text.replaceLineBreaks segment)) :=
  ⟨by decide, taskStart_frames Estimation.readsTokens (by decide) Estimation.executes⟩

end MaestroLocal

end Maestro
