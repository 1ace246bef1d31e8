import Qrmi.KeyedStore
import Qrmi.QuantumComputeProvider
import Qrmi.QuantumSystemProvider
import Mathlib.Logic.Relation

/-!
# The segments of a filter

A filter is read segment by segment, and a later segment of a key replaces an earlier
one.  What is read is therefore a function of the last value of each key, and a segment
is refused by itself, wherever it stands.
-/

namespace BackendFilter

/-- The key and the value of a segment, without the whitespace around them. -/
def segmentEntry (segment : Text) : Option (Text × Text) :=
  (Text.splitOnce '=' segment.trim).map fun (key, value) => (key.trim, value.trim)

section Segments

variable (glob : GlobLibrary) (qubitBound : Nat)

/-- A value that its key allows.  A key that is not recognised allows every value. -/
@[mk_iff]
structure Valid (key value : Text) : Prop where
  numQubits : key = "num_qubits".toList →
    ∃ number, Text.parseUnsigned qubitBound value = some number
  maxShots : key = "max_shots".toList →
    ∃ number, Text.parseUnsigned (2 ^ 64) value = some number
  name : key = "name".toList → ∃ pattern, glob.compile value = .ok pattern
  isSimulator : key = "is_simulator".toList →
    value = "true".toList ∨ value = "false".toList
  status : key = "status".toList → value = "online".toList

/-- A segment that is blank, or has a key with a value that it allows. -/
def Accepted (segment : Text) : Prop :=
  segment.trim ≠ [] → '=' ∈ segment.trim ∧
    ∀ entry ∈ segmentEntry segment, Valid glob qubitBound entry.1 entry.2

def recognisedKeys : List String :=
  ["num_qubits", "max_shots", "name", "is_simulator", "status"]

/-- The filter for the values of the recognised keys. -/
def ofValues (value : String → Option Text) : BackendFilter where
  numQubits := (value "num_qubits").bind (Text.parseUnsigned qubitBound)
  maxShots := (value "max_shots").bind (Text.parseUnsigned (2 ^ 64))
  namePattern := (value "name").bind fun text => (glob.compile text).toOption
  isSimulator := value "is_simulator" = some "true".toList
  status := if value "status" = some "online".toList then .online else .any

/-- The entries of a list of segments in their order. -/
def entries (segments : List Text) : List (Text × Text) :=
  segments.filterMap segmentEntry

/-- The value of the last segment with a key. -/
def lastValue (segments : List Text) (key : String) : Option Text :=
  (entries segments).reverse.lookup key.toList

variable {glob qubitBound}

/-- The equals sign of a segment is not trimmed away. -/
theorem equals_mem_trim {segment : Text} (member : '=' ∈ segment) : '=' ∈ segment.trim := by
  obtain ⟨lead, tail, white, whiteTail, padded⟩ := Text.exists_padding segment
  have notWhite : ¬ Text.isWhitespace '=' = true := by decide
  rw [padded, List.mem_append, List.mem_append] at member
  rcases member with (inLead | inside) | inTail
  · exact absurd (white _ inLead) notWhite
  · exact inside
  · exact absurd (whiteTail _ inTail) notWhite

theorem segmentEntry_append {key : Text} (absent : '=' ∉ key) (value : Text) :
    segmentEntry (key ++ '=' :: value) = some (key.trim, value.trim) := by
  obtain ⟨lead, tail, white, whiteTail, padded⟩ := Text.exists_padding (key ++ '=' :: value)
  have present : '=' ∈ (key ++ '=' :: value).trim :=
    equals_mem_trim (List.mem_append_right _ (List.mem_cons_self ..))
  obtain ⟨name, content, inside, first⟩ := List.eq_append_cons_of_mem present
  have absentLead : '=' ∉ lead ++ name := by
    rw [List.mem_append, not_or]
    exact ⟨fun member => absurd (white _ member) (by decide), first⟩
  -- The same text splits at the same sign with and without its padding.
  have same : some (key, value) = some (lead ++ name, content ++ tail) := by
    rw [← Text.splitOnce_append absent, ← Text.splitOnce_append absentLead, padded, inside]
    simp only [List.append_assoc, List.cons_append]
  obtain ⟨rfl, rfl⟩ := Prod.mk.inj (Option.some.inj same)
  have keyTrimmed : Text.trim (lead ++ name) = Text.trim name := by
    have trimmed := Text.trim_padded white (List.forall_mem_nil _) name
    rwa [List.append_nil] at trimmed
  have valueTrimmed : Text.trim (content ++ tail) = Text.trim content :=
    Text.trim_padded (List.forall_mem_nil _) whiteTail content
  rw [segmentEntry, inside, Text.splitOnce_append first, keyTrimmed, valueTrimmed]
  rfl

theorem segmentEntry_eq_none {segment : Text} (absent : '=' ∉ segment.trim) :
    segmentEntry segment = none := by
  rw [segmentEntry, Text.splitOnce_eq_none absent]
  rfl

/-- The values after one more entry. -/
def assigned (value : String → Option Text) (key text : Text) (asked : String) :
    Option Text :=
  if key = asked.toList then some text else value asked

section Assigning

variable {value : String → Option Text} {text : Text}

/-- An entry is refused, or its value becomes the last one of its key. -/
theorem assign_cases (key : Text) :
    (¬ Valid glob qubitBound key text.trim ∧
        ∃ error, assign glob qubitBound (ofValues glob qubitBound value) key text =
          .error error) ∨
      (Valid glob qubitBound key text.trim ∧
        assign glob qubitBound (ofValues glob qubitBound value) key text =
          .ok (ofValues glob qubitBound (assigned value key text.trim))) := by
  unfold assign
  split_ifs with numQubits maxShots name isSimulator isTrue isFalse status isOnline
  · subst numQubits
    rw [parseNumber]
    cases parsed : Text.parseUnsigned qubitBound text.trim with
    | none =>
        refine .inl ⟨fun valid => ?_, _, rfl⟩
        obtain ⟨number, parses⟩ := valid.numQubits rfl
        rw [parsed] at parses
        cases parses
    | some number =>
        refine .inr ⟨⟨fun _ => ⟨number, parsed⟩, ?_, ?_, ?_, ?_⟩, ?_⟩
        iterate 4 exact fun same => absurd same (by decide)
        refine congrArg Except.ok ?_
        rw [← parsed]
        rfl
  · subst maxShots
    rw [parseNumber]
    cases parsed : Text.parseUnsigned (2 ^ 64) text.trim with
    | none =>
        refine .inl ⟨fun valid => ?_, _, rfl⟩
        obtain ⟨number, parses⟩ := valid.maxShots rfl
        rw [parsed] at parses
        cases parses
    | some number =>
        refine .inr ⟨⟨?_, fun _ => ⟨number, parsed⟩, ?_, ?_, ?_⟩, ?_⟩
        iterate 4 exact fun same => absurd same (by decide)
        refine congrArg Except.ok ?_
        rw [← parsed]
        rfl
  · subst name
    cases compiled : glob.compile text.trim with
    | error message =>
        refine .inl ⟨fun valid => ?_, _, rfl⟩
        obtain ⟨pattern, compiles⟩ := valid.name rfl
        rw [compiled] at compiles
        cases compiles
    | ok pattern =>
        refine .inr ⟨⟨?_, ?_, fun _ => ⟨pattern, compiled⟩, ?_, ?_⟩, ?_⟩
        iterate 4 exact fun same => absurd same (by decide)
        have held : some pattern = (glob.compile text.trim).toOption := by
          rw [compiled]
          rfl
        dsimp only
        rw [held]
        rfl
  · subst isSimulator
    rw [isTrue]
    refine .inr ⟨⟨?_, ?_, ?_, fun _ => .inl rfl, ?_⟩, rfl⟩
    iterate 4 exact fun same => absurd same (by decide)
  · subst isSimulator
    rw [isFalse]
    refine .inr ⟨⟨?_, ?_, ?_, fun _ => .inr rfl, ?_⟩, rfl⟩
    iterate 4 exact fun same => absurd same (by decide)
  · subst isSimulator
    refine .inl ⟨fun valid => ?_, _, rfl⟩
    exact (valid.isSimulator rfl).elim isTrue isFalse
  · subst status
    rw [isOnline]
    refine .inr ⟨⟨?_, ?_, ?_, ?_, fun _ => rfl⟩, rfl⟩
    iterate 4 exact fun same => absurd same (by decide)
  · subst status
    exact .inl ⟨fun valid => isOnline (valid.status rfl), _, rfl⟩
  · refine .inr ⟨⟨fun same => absurd same numQubits, fun same => absurd same maxShots,
      fun same => absurd same name, fun same => absurd same isSimulator,
      fun same => absurd same status⟩, ?_⟩
    simp only [ofValues, assigned, numQubits, maxShots, name, isSimulator, status, if_false]

end Assigning

theorem lastValue_append (first second : List Text) (key : String) :
    lastValue (first ++ second) key = (lastValue second key).or (lastValue first key) := by
  rw [lastValue, entries, List.filterMap_append, List.reverse_append, List.lookup_append]
  rfl

theorem lastValue_singleton {segment key text : Text}
    (read : segmentEntry segment = some (key, text)) (asked : String) :
    lastValue [segment] asked = if key = asked.toList then some text else none := by
  rw [lastValue, entries, List.filterMap_cons_some read]
  by_cases same : key = asked.toList
  · rw [if_pos same, same]
    exact List.lookup_cons_self
  · have differs : (asked.toList == key) = false := beq_false_of_ne (Ne.symm same)
    rw [if_neg same, List.filterMap_nil, List.reverse_singleton, List.lookup_cons, differs]
    rfl

theorem lastValue_of_segmentEntry_eq_none {segment : Text}
    (read : segmentEntry segment = none) (asked : String) :
    lastValue [segment] asked = none := by
  rw [lastValue, entries, List.filterMap_cons_none read]
  rfl

section Reading

variable {value : String → Option Text}

/-- A segment is refused, or the values of its key become the last ones. -/
theorem readSegment_cases (segment : Text) :
    (¬ Accepted glob qubitBound segment ∧
        ∃ error, readSegment glob qubitBound (ofValues glob qubitBound value) segment =
          .error error) ∨
      (Accepted glob qubitBound segment ∧
        readSegment glob qubitBound (ofValues glob qubitBound value) segment =
          .ok (ofValues glob qubitBound fun key =>
            (lastValue [segment] key).or (value key))) := by
  rw [readSegment]
  by_cases blank : segment.trim = []
  · have silent : segmentEntry segment = none :=
      segmentEntry_eq_none (by rw [blank]; exact List.not_mem_nil)
    rw [if_pos blank]
    refine .inr ⟨fun nonempty => absurd blank nonempty, ?_⟩
    simp only [lastValue_of_segmentEntry_eq_none silent, Option.none_or]
  rw [if_neg blank]
  by_cases member : '=' ∈ segment.trim
  · obtain ⟨key, text, inside, absent⟩ := List.eq_append_cons_of_mem member
    have split : Text.splitOnce '=' segment.trim = some (key, text) := by
      rw [inside, Text.splitOnce_append absent]
    have read : segmentEntry segment = some (Text.trim key, Text.trim text) := by
      rw [segmentEntry, split]
      rfl
    have values : (fun asked => (lastValue [segment] asked).or (value asked)) =
        assigned value (Text.trim key) (Text.trim text) := by
      funext asked
      rw [lastValue_singleton read, assigned]
      split <;> rfl
    rw [split, values]
    rcases assign_cases (Text.trim key) with ⟨invalid, refused⟩ | ⟨valid, assigns⟩
    · refine .inl ⟨fun accepted => invalid ?_, refused⟩
      exact (accepted blank).2 _ read
    · refine .inr ⟨fun _ => ⟨member, fun entry found => ?_⟩, assigns⟩
      cases read.symm.trans found
      exact valid
  · rw [Text.splitOnce_eq_none member]
    exact .inl ⟨fun accepted => member (accepted blank).1, _, rfl⟩

/-- The loop is refused by one of its segments, or it ends with the last values. -/
theorem foldlM_cases (segments : List Text) :
    ((¬ ∀ segment ∈ segments, Accepted glob qubitBound segment) ∧
        ∃ error, segments.foldlM (readSegment glob qubitBound)
          (ofValues glob qubitBound value) = .error error) ∨
      ((∀ segment ∈ segments, Accepted glob qubitBound segment) ∧
        segments.foldlM (readSegment glob qubitBound) (ofValues glob qubitBound value) =
          .ok (ofValues glob qubitBound fun key =>
            (lastValue segments key).or (value key))) := by
  induction segments generalizing value with
  | nil => exact .inr ⟨List.forall_mem_nil _, rfl⟩
  | cons segment segments ih =>
      rw [List.forall_mem_cons, List.foldlM_cons]
      rcases readSegment_cases segment with ⟨rejected, error, refused⟩ | ⟨accepted, read⟩
      · rw [refused]
        exact .inl ⟨fun ⟨first, _⟩ => rejected first, error, rfl⟩
      · rw [read]
        have values : (fun key => (lastValue (segment :: segments) key).or (value key)) =
            fun key => (lastValue segments key).or
              ((lastValue [segment] key).or (value key)) := by
          funext key
          rw [← Option.or_assoc, ← lastValue_append]
          rfl
        rw [values]
        rcases ih with ⟨rejected, refused⟩ | ⟨others, reads⟩
        · exact .inl ⟨fun ⟨_, rest⟩ => rejected rest, refused⟩
        · exact .inr ⟨⟨accepted, others⟩, reads⟩

end Reading

/-- A filter is accepted segment by segment, and only the last values are left. -/
theorem parseWith_eq_ok_iff {filters : Text} {filter : BackendFilter} :
    parseWith glob qubitBound filters = .ok filter ↔
      (∀ segment ∈ filters.splitOn '&', Accepted glob qubitBound segment) ∧
        filter = ofValues glob qubitBound (lastValue (filters.splitOn '&')) := by
  have initial : default = ofValues glob qubitBound fun _ => none := rfl
  rw [parseWith, initial]
  rcases foldlM_cases (filters.splitOn '&') with ⟨rejected, error, refused⟩ | ⟨accepted, read⟩
  · rw [refused]
    exact ⟨fun equal => (nomatch equal), fun ⟨accepted, _⟩ => absurd accepted rejected⟩
  · rw [read]
    simp only [Option.or_none]
    exact ⟨fun equal => ⟨accepted, (Except.ok.inj equal).symm⟩,
      fun ⟨_, equal⟩ => congrArg Except.ok equal.symm⟩

/-- Texts that read the same last values and refuse the same segments give the same
filter. -/
theorem parseWith_congr {first second : Text}
    (accepted : (∀ segment ∈ first.splitOn '&', Accepted glob qubitBound segment) ↔
      ∀ segment ∈ second.splitOn '&', Accepted glob qubitBound segment)
    (values : ∀ key ∈ recognisedKeys,
      lastValue (first.splitOn '&') key = lastValue (second.splitOn '&') key) :
    (parseWith glob qubitBound first).toOption =
      (parseWith glob qubitBound second).toOption := by
  have sameValues : ofValues glob qubitBound (lastValue (first.splitOn '&')) =
      ofValues glob qubitBound (lastValue (second.splitOn '&')) := by
    simp only [recognisedKeys, List.forall_mem_cons] at values
    obtain ⟨numQubits, maxShots, name, isSimulator, status, -⟩ := values
    simp only [ofValues, numQubits, maxShots, name, isSimulator, status]
  have sameResult : ∀ filter, parseWith glob qubitBound first = .ok filter ↔
      parseWith glob qubitBound second = .ok filter := by
    intro filter
    rw [parseWith_eq_ok_iff, parseWith_eq_ok_iff, accepted, sameValues]
  cases outcome : parseWith glob qubitBound first with
  | ok filter => rw [(sameResult filter).mp outcome]
  | error error =>
      cases other : parseWith glob qubitBound second with
      | error _ => rfl
      | ok filter =>
          rw [(sameResult filter).mpr other] at outcome
          cases outcome

end Segments

/-- Whitespace only. -/
def Blank (text : Text) : Prop :=
  ∀ char ∈ text, Text.isWhitespace char = true

/-- A change to some of the segments of a filter that should not matter. -/
inductive Edit : List Text → List Text → Prop
  | permute {front back first second : List Text} (perm : first.Perm second)
      (distinct : ((entries first).map Prod.fst).Nodup) :
      Edit (front ++ first ++ back) (front ++ second ++ back)
  | insertEmpty {front back : List Text} {segment : Text} (blank : Blank segment) :
      Edit (front ++ back) (front ++ segment :: back)
  | pad {front back : List Text}
      {key value beforeKey afterKey beforeValue afterValue : Text} (absent : '=' ∉ key)
      (blankBefore : Blank beforeKey) (blankAfter : Blank afterKey)
      (blankBeforeValue : Blank beforeValue) (blankAfterValue : Blank afterValue) :
      Edit (front ++ (key ++ '=' :: value) :: back)
        (front ++ (beforeKey ++ key ++ afterKey ++
          '=' :: (beforeValue ++ value ++ afterValue)) :: back)
  | insertUnrecognised {front back : List Text} {key value : Text} (absent : '=' ∉ key)
      (unrecognised : ∀ known ∈ recognisedKeys, key.trim ≠ known.toList) :
      Edit (front ++ back) (front ++ (key ++ '=' :: value) :: back)

section Edits

variable {glob : GlobLibrary} {qubitBound : Nat} {first second : List Text}

theorem trim_blank {text : Text} (blank : Blank text) : text.trim = [] := by
  have trimmed := Text.trim_padded blank (List.forall_mem_nil _) []
  rwa [List.append_nil, List.append_nil] at trimmed

theorem equals_not_mem_blank {text : Text} (blank : Blank text) : '=' ∉ text :=
  fun member => absurd (blank _ member) (by decide)

theorem accepted_append_iff {key value : Text} (absent : '=' ∉ key) :
    Accepted glob qubitBound (key ++ '=' :: value) ↔
      Valid glob qubitBound key.trim value.trim := by
  have present : '=' ∈ (key ++ '=' :: value).trim :=
    equals_mem_trim (List.mem_append_right _ (List.mem_cons_self ..))
  have read := segmentEntry_append absent value
  constructor
  · intro accepted
    exact (accepted (List.ne_nil_of_mem present)).2 _ read
  · intro valid _
    refine ⟨present, fun entry found => ?_⟩
    cases read.symm.trans found
    exact valid

/-- A middle part whose segments are refused in the same cases. -/
theorem forall_accepted_middle {front middle other back : List Text}
    (same : (∀ segment ∈ middle, Accepted glob qubitBound segment) ↔
      ∀ segment ∈ other, Accepted glob qubitBound segment) :
    (∀ segment ∈ front ++ middle ++ back, Accepted glob qubitBound segment) ↔
      ∀ segment ∈ front ++ other ++ back, Accepted glob qubitBound segment := by
  simp only [List.forall_mem_append, same]

/-- A middle part with the same last value of a key. -/
theorem lastValue_middle {front middle other back : List Text} {key : String}
    (same : lastValue middle key = lastValue other key) :
    lastValue (front ++ middle ++ back) key = lastValue (front ++ other ++ back) key := by
  simp only [lastValue_append, same]

theorem lastValue_perm (perm : first.Perm second)
    (distinct : ((entries first).map Prod.fst).Nodup) (key : String) :
    lastValue first key = lastValue second key := by
  have reversed : (entries first).reverse.Perm (entries second).reverse :=
    (List.reverse_perm _).trans ((perm.filterMap _).trans (List.reverse_perm _).symm)
  have reversedDistinct : ((entries first).reverse.map Prod.fst).Nodup :=
    ((List.reverse_perm (entries first)).map Prod.fst).nodup_iff.mpr distinct
  exact congrFun (KeyedStore.ofEntries_perm reversed reversedDistinct) key.toList

theorem padded_absent {before key after : Text} (blankBefore : Blank before)
    (absent : '=' ∉ key) (blankAfter : Blank after) : '=' ∉ before ++ key ++ after := by
  simp only [List.mem_append, not_or]
  exact ⟨⟨equals_not_mem_blank blankBefore, absent⟩, equals_not_mem_blank blankAfter⟩

theorem Edit.accepted_iff (edit : Edit first second) :
    (∀ segment ∈ first, Accepted glob qubitBound segment) ↔
      ∀ segment ∈ second, Accepted glob qubitBound segment := by
  cases edit with
  | permute perm distinct =>
      apply forall_accepted_middle
      simp only [perm.mem_iff]
  | @insertEmpty front back segment blank =>
      have accepted : Accepted glob qubitBound segment :=
        fun nonempty => absurd (trim_blank blank) nonempty
      simp only [List.forall_mem_append, List.forall_mem_cons, accepted, true_and]
  | @pad front back key value beforeKey afterKey beforeValue afterValue absent blankBefore
      blankAfter blankBeforeValue blankAfterValue =>
      have same : Accepted glob qubitBound (key ++ '=' :: value) ↔
          Accepted glob qubitBound (beforeKey ++ key ++ afterKey ++
            '=' :: (beforeValue ++ value ++ afterValue)) := by
        rw [accepted_append_iff absent,
          accepted_append_iff (padded_absent blankBefore absent blankAfter),
          Text.trim_padded blankBefore blankAfter,
          Text.trim_padded blankBeforeValue blankAfterValue]
      simp only [List.forall_mem_append, List.forall_mem_cons, same]
  | @insertUnrecognised front back key value absent unrecognised =>
      have accepted : Accepted glob qubitBound (key ++ '=' :: value) := by
        rw [accepted_append_iff absent]
        simp only [recognisedKeys, List.forall_mem_cons] at unrecognised
        obtain ⟨numQubits, maxShots, name, isSimulator, status, -⟩ := unrecognised
        exact ⟨fun same => absurd same numQubits, fun same => absurd same maxShots,
          fun same => absurd same name, fun same => absurd same isSimulator,
          fun same => absurd same status⟩
      simp only [List.forall_mem_append, List.forall_mem_cons, accepted, true_and]

theorem Edit.lastValue_eq (edit : Edit first second) {key : String}
    (recognised : key ∈ recognisedKeys) : lastValue first key = lastValue second key := by
  cases edit with
  | permute perm distinct => exact lastValue_middle (lastValue_perm perm distinct key)
  | @insertEmpty front back segment blank =>
      have silent : lastValue [segment] key = none := by
        apply lastValue_of_segmentEntry_eq_none
        exact segmentEntry_eq_none (by rw [trim_blank blank]; exact List.not_mem_nil)
      rw [← List.singleton_append, lastValue_append, lastValue_append, lastValue_append,
        silent, Option.or_none]
  | @pad front back key value beforeKey afterKey beforeValue afterValue absent blankBefore
      blankAfter blankBeforeValue blankAfterValue =>
      have same : segmentEntry (key ++ '=' :: value) =
          segmentEntry (beforeKey ++ key ++ afterKey ++
            '=' :: (beforeValue ++ value ++ afterValue)) := by
        rw [segmentEntry_append absent,
          segmentEntry_append (padded_absent blankBefore absent blankAfter),
          Text.trim_padded blankBefore blankAfter,
          Text.trim_padded blankBeforeValue blankAfterValue]
      simp only [lastValue, entries, List.filterMap_append, List.filterMap_cons, same]
  | @insertUnrecognised front back name value absent unrecognised =>
      have silent : lastValue [name ++ '=' :: value] key = none := by
        rw [lastValue_singleton (segmentEntry_append absent value),
          if_neg (unrecognised key recognised)]
      rw [← List.singleton_append, lastValue_append, lastValue_append, lastValue_append,
        silent, Option.or_none]

/-- Edited segments are refused in the same cases and have the same last values. -/
theorem read_of_edited (glob : GlobLibrary) (qubitBound : Nat)
    (edited : Relation.EqvGen Edit first second) :
    ((∀ segment ∈ first, Accepted glob qubitBound segment) ↔
        ∀ segment ∈ second, Accepted glob qubitBound segment) ∧
      ∀ key ∈ recognisedKeys, lastValue first key = lastValue second key := by
  induction edited with
  | rel _ _ edit => exact ⟨edit.accepted_iff, fun _ recognised => edit.lastValue_eq recognised⟩
  | refl _ => exact ⟨Iff.rfl, fun _ _ => rfl⟩
  | symm _ _ _ ih =>
      exact ⟨ih.1.symm, fun key recognised => (ih.2 key recognised).symm⟩
  | trans _ _ _ _ _ firstIh secondIh =>
      exact ⟨firstIh.1.trans secondIh.1, fun key recognised =>
        (firstIh.2 key recognised).trans (secondIh.2 key recognised)⟩

end Edits

/-- A parser that accepts a filter segment by segment, reads the last value of each
recognised key, and does not notice the edits. -/
structure ExactParser (glob : GlobLibrary) (qubitBound : Nat)
    (parse : Text → Except QrmiError BackendFilter) : Prop where
  succeeds : ∀ filters, (∃ filter, parse filters = .ok filter) ↔
    ∀ segment ∈ filters.splitOn '&', Accepted glob qubitBound segment
  lastValues : ∀ filters filter, parse filters = .ok filter →
    filter = ofValues glob qubitBound (lastValue (filters.splitOn '&'))
  edits : ∀ first second : Text,
    Relation.EqvGen Edit (first.splitOn '&') (second.splitOn '&') →
      (parse first).toOption = (parse second).toOption

theorem parseWith_exact (glob : GlobLibrary) (qubitBound : Nat) :
    ExactParser glob qubitBound (parseWith glob qubitBound) where
  succeeds filters := by
    simp only [parseWith_eq_ok_iff]
    exact ⟨fun ⟨_, accepted, _⟩ => accepted, fun accepted => ⟨_, accepted, rfl⟩⟩
  lastValues filters filter read := (parseWith_eq_ok_iff.mp read).2
  edits first second edited := by
    have same := read_of_edited glob qubitBound edited
    exact parseWith_congr same.1 same.2

/-- The parsers of the compute service and of the quantum system read filters
exactly. -/
theorem parseFilter_exact (glob : GlobLibrary) :
    ExactParser glob (2 ^ 32) (IBMQuantumComputeServiceProvider.parseFilter glob) ∧
      ExactParser glob (2 ^ 64) (IBMQuantumSystemProvider.parseFilter glob) :=
  ⟨parseWith_exact glob (2 ^ 32), parseWith_exact glob (2 ^ 64)⟩

end BackendFilter
