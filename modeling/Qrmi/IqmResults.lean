import Qrmi.ResourceSettings

/-!
# Measurement results of the IQM backend

The server returns one column of values for each measured bit.  The columns are
gathered into one array for each classical register, and every shot is printed from
the rows of the arrays.
-/

namespace IqmResults

/-- What the client library reads from the key of a column. -/
structure MeasurementKey where
  name : Text
  cregLen : Nat
  cregIdx : Nat
  clbitIdx : Nat

/-- `MeasurementKey.from_string` and `MeasurementKey.__str__`. -/
structure MeasurementKeyLibrary where
  fromString : Text → Except String MeasurementKey
  print : MeasurementKey → String

/-- An exception raised while results are formatted. -/
inductive FormatError
  | indexError (message : String)
  | valueError (message : String)
  | overflowError (message : String)

/-- One entry of a measurement dictionary: a key and the rows of its column. -/
abbrev MeasurementEntry : Type :=
  Text × List (List Int)

/-- An array of integers: its shape, and its rows where it has two dimensions. -/
structure NdArray where
  shape : List Nat
  rows : List (List Int)

/-- What the formatting has from numpy: `np.array(v, dtype=int)`, `res[:, 0]`, `np.zeros`,
`creg[:, index] = column` and `creg[shot, :]`. -/
structure Numpy where
  array : List (List Int) → Except FormatError NdArray
  firstColumn : NdArray → List Int
  zeros : Nat → Nat → NdArray
  setColumn : NdArray → Nat → List Int → Except FormatError NdArray
  row : NdArray → Nat → Except FormatError (List Int)

/-- The integers of an array of the default integer type. -/
def fitsInt64 (value : Int) : Bool :=
  -(2 ^ 63) ≤ value && value < 2 ^ 63

/-- A column with these values. -/
def columnArray (values : List Int) : NdArray where
  shape := [values.length, 1]
  rows := values.map fun value => [value]

/-- What numpy promises of it, for arrays of matching shapes. -/
structure Numpy.Lawful (numpy : Numpy) : Prop where
  array_nil : numpy.array [] = .ok ⟨[0], []⟩
  array_column : ∀ values, values ≠ [] → values.all fitsInt64 = true →
    numpy.array (values.map fun value => [value]) = .ok (columnArray values)
  firstColumn_column : ∀ values, numpy.firstColumn (columnArray values) = values
  zeros_eq : ∀ height width,
    numpy.zeros height width = ⟨[height, width], List.replicate height (List.replicate width 0)⟩
  setColumn_eq : ∀ array height width index column, array.shape = [height, width] →
    index < width → column.length = height → array.rows.length = height →
      numpy.setColumn array index column = .ok
        ⟨array.shape, List.zipWith (fun row value => row.set index value) array.rows column⟩
  row_eq : ∀ array shot row, array.rows[shot]? = some row → numpy.row array shot = .ok row
  row_outside : ∀ array shot, array.rows.length ≤ shot →
    ∃ message, numpy.row array shot = .error (.indexError message)

/-- The arrays by the indices of their registers, in the order of their insertion. -/
abbrev Formatted : Type :=
  List (Nat × NdArray)

/-- A shape is shown as a tuple. -/
def showShape : List Nat → String
  | [size] => s!"({size},)"
  | sizes => "(" ++ String.intercalate ", " (sizes.map toString) ++ ")"

section Formatting

variable (numpy : Numpy) (library : MeasurementKeyLibrary)

/-- A column as an array, the check of its shape, and its values. -/
def readColumn (key : MeasurementKey) (rows : List (List Int)) :
    Except FormatError (List Int) := do
  let array ← numpy.array rows
  match array.shape[1]? with
  | none => throw (.indexError "tuple index out of range")
  | some width =>
      if width ≠ 1 then
        throw (.valueError
          (s!"Unexpected result shape {showShape array.shape} " ++
            s!"for key {library.print key}"))
      else return numpy.firstColumn array

/-- Write a column to the array of its register, which is made for its first column. -/
def placeColumn (formatted : Formatted) (key : MeasurementKey) (column : List Int) :
    Except FormatError Formatted :=
  match formatted.lookup key.cregIdx with
  | some register => do
      let register ← numpy.setColumn register key.clbitIdx column
      return formatted.map fun entry =>
        if entry.1 = key.cregIdx then (entry.1, register) else entry
  | none => do
      let register ← numpy.setColumn (numpy.zeros column.length key.cregLen) key.clbitIdx column
      return formatted ++ [(key.cregIdx, register)]

/-- The body of the loop over the dictionary. -/
def readEntry (formatted : Formatted) (entry : MeasurementEntry) :
    Except FormatError Formatted := do
  let key ← (library.fromString entry.1).mapError .valueError
  let column ← readColumn numpy library key entry.2
  placeColumn numpy formatted key column

/-- `formatted[idx][s, :]`, printed. -/
def printRow (register : NdArray) (shot : Nat) : Except FormatError Text := do
  let row ← numpy.row register shot
  return row.flatMap Text.showInt

/-- The bitstring of one shot. -/
def printShot (formatted : Formatted) (shot : Nat) : Except FormatError Text := do
  let sorted := formatted.mergeSort fun first second => first.1 ≤ second.1
  let registers ← sorted.mapM fun entry => printRow numpy entry.2 shot
  return (List.intercalate [' '] registers).reverse

/-- `_format_single_circuit_results`. -/
def formatSingleCircuitResults (measurementResults : List MeasurementEntry)
    (requestedShots : Int) : Except FormatError (List Text) := do
  let formatted ← measurementResults.foldlM (readEntry numpy library) []
  (List.range requestedShots.toNat).mapM (printShot numpy formatted)

end Formatting

/-- A circuit of a batch: one with a name, or a program of another kind. -/
inductive BatchCircuit
  | circuit (name : Text)
  | other

def BatchCircuit.resultName (index : Nat) : BatchCircuit → Text
  | circuit name => name
  | other => "circuit_".toList ++ Text.showUnsigned index

section Batch

variable {Counts : Type} (numpy : Numpy) (library : MeasurementKeyLibrary)
variable (countsOf : List Text → Counts) (requestedShots : Int)

/-- The body of the loop over the circuits. -/
def formatCircuit (item : (BatchCircuit × List MeasurementEntry) × Nat) :
    Except FormatError (Text × List Text × Counts) := do
  let bitstrings ← formatSingleCircuitResults numpy library item.1.2 requestedShots
  return (item.1.1.resultName item.2, bitstrings, countsOf bitstrings)

/-- `_format_results`, with the counts of a list of bitstrings. -/
def formatResults (measurements : List (List MeasurementEntry))
    (circuits : List BatchCircuit) :
    Except FormatError (List (Text × List Text × Counts)) :=
  (circuits.zip measurements).zipIdx.mapM (formatCircuit numpy library countsOf requestedShots)

end Batch

/-! ## Measurements -/

/-- A measured bit with its value in every shot. -/
structure Column where
  key : MeasurementKey
  values : List Int

/-- What was measured: each bit of a register once, in every shot that was returned. -/
structure Measurement where
  columns : List Column
  shots : Nat
  length_values : ∀ column ∈ columns, column.values.length = shots
  fits : ∀ column ∈ columns, column.values.all fitsInt64 = true
  inside : ∀ column ∈ columns, column.key.clbitIdx < column.key.cregLen
  sameLength : ∀ first ∈ columns, ∀ second ∈ columns,
    first.key.cregIdx = second.key.cregIdx → first.key.cregLen = second.key.cregLen
  distinct : columns.Pairwise fun first second =>
    first.key.cregIdx = second.key.cregIdx → first.key.clbitIdx ≠ second.key.clbitIdx

/-- The entry of a dictionary that holds a column. -/
def Column.Encodes (library : MeasurementKeyLibrary) (entry : MeasurementEntry)
    (column : Column) : Prop :=
  library.fromString entry.1 = .ok column.key ∧
    entry.2 = column.values.map fun value => [value]

namespace Column

def isAt (register bit : Nat) (column : Column) : Bool :=
  column.key.cregIdx = register && column.key.clbitIdx = bit

end Column

/-- The value of a bit in a shot.  A bit that was not measured is zero. -/
def valueAt (columns : List Column) (register bit shot : Nat) : Int :=
  match columns.find? (·.isAt register bit) with
  | some column => column.values.getD shot 0
  | none => 0

/-- The registers with a measured bit, by their first columns. -/
def registersOf (columns : List Column) : List Nat :=
  (columns.map (·.key.cregIdx)).eraseDups

namespace Measurement

variable (measurement : Measurement)

def lengthOf (register : Nat) : Nat :=
  ((measurement.columns.find? (·.key.cregIdx = register)).map (·.key.cregLen)).getD 0

/-- The registers in the order of their indices. -/
def registers : List Nat :=
  (registersOf measurement.columns).mergeSort

/-- A register from its highest bit to its lowest, each with its digits reversed. -/
def registerText (shot register : Nat) : Text :=
  (List.range (measurement.lengthOf register)).reverse.flatMap fun bit =>
    (Text.showInt (valueAt measurement.columns register bit shot)).reverse

/-- The bitstring of a shot: the highest register first, with spaces between them. -/
def bitstring (shot : Nat) : Text :=
  List.intercalate [' '] (measurement.registers.reverse.map (measurement.registerText shot))

def bitstrings : List Text :=
  (List.range measurement.shots).map measurement.bitstring

def Encodes (library : MeasurementKeyLibrary) (entries : List MeasurementEntry) : Prop :=
  List.Forall₂ (Column.Encodes library) entries measurement.columns

/-- The array of a register while the given columns have been read. -/
def registerArray (columns : List Column) (register : Nat) : NdArray where
  shape := [measurement.shots, measurement.lengthOf register]
  rows := (List.range measurement.shots).map fun shot =>
    (List.range (measurement.lengthOf register)).map fun bit =>
      valueAt columns register bit shot

def formattedOf (columns : List Column) : Formatted :=
  (registersOf columns).map fun register =>
    (register, measurement.registerArray columns register)

end Measurement

/-- A bit of a bitstring is a single digit. -/
example : ((Text.showInt 0).reverse, (Text.showInt 1).reverse) = (['0'], ['1']) := by
  decide

section Reading

variable {numpy : Numpy} {library : MeasurementKeyLibrary} {measurement : Measurement}
variable {columns : List Column} {column : Column}

/-- Nothing was read yet for the bit of a column. -/
def Fresh (columns : List Column) (column : Column) : Prop :=
  ∀ other ∈ columns, other.key.cregIdx = column.key.cregIdx →
    other.key.clbitIdx ≠ column.key.clbitIdx

theorem valueAt_concat (fresh : Fresh columns column) (register bit shot : Nat) :
    valueAt (columns ++ [column]) register bit shot =
      if column.isAt register bit then column.values.getD shot 0
      else valueAt columns register bit shot := by
  rw [valueAt, List.find?_append]
  by_cases isAt : column.isAt register bit
  · have unread : columns.find? (·.isAt register bit) = none := by
      refine List.find?_eq_none.mpr fun other member otherIsAt => ?_
      simp only [Column.isAt, Bool.and_eq_true, decide_eq_true_eq] at isAt otherIsAt
      exact fresh other member (otherIsAt.1.trans isAt.1.symm)
        (otherIsAt.2.trans isAt.2.symm)
    rw [if_pos isAt, unread, List.find?_cons_of_pos isAt]
    rfl
  · rw [if_neg isAt, List.find?_cons_of_neg isAt, List.find?_nil, Option.or_none]
    rfl

theorem setColumn_registerArray (lawful : numpy.Lawful) (fresh : Fresh columns column)
    (inside : column.key.clbitIdx < measurement.lengthOf column.key.cregIdx)
    (complete : column.values.length = measurement.shots) :
    numpy.setColumn (measurement.registerArray columns column.key.cregIdx) column.key.clbitIdx
        column.values =
      .ok (measurement.registerArray (columns ++ [column]) column.key.cregIdx) := by
  have height : (measurement.registerArray columns column.key.cregIdx).rows.length =
      measurement.shots := by
    simp only [Measurement.registerArray, List.length_map, List.length_range]
  rw [lawful.setColumn_eq _ _ _ _ _ rfl inside complete height]
  refine congrArg (fun rows => Except.ok (NdArray.mk _ rows)) ?_
  apply List.ext_getElem
  · simp only [Measurement.registerArray, List.length_zipWith, List.length_map,
      List.length_range, complete, min_self]
  · intro shot shotLt _
    simp only [Measurement.registerArray, List.getElem_zipWith, List.getElem_map,
      List.getElem_range]
    apply List.ext_getElem
    · simp only [List.length_set, List.length_map, List.length_range]
    · intro bit bitLt _
      have inColumn : shot < column.values.length := by
        simp only [List.length_zipWith] at shotLt
        omega
      rw [List.getElem_map, List.getElem_range, valueAt_concat fresh, List.getElem_set]
      by_cases same : column.key.clbitIdx = bit
      · simp [same, Column.isAt, inColumn]
      · simp [same, Column.isAt]

theorem registerArray_concat_of_ne {register : Nat} (fresh : Fresh columns column)
    (other : column.key.cregIdx ≠ register) :
    measurement.registerArray (columns ++ [column]) register =
      measurement.registerArray columns register := by
  have elsewhere : ∀ bit, ¬ column.isAt register bit := by
    simp [Column.isAt, other]
  simp only [Measurement.registerArray, valueAt_concat fresh, if_neg (elsewhere _)]

theorem zeros_eq_registerArray (lawful : numpy.Lawful) {register : Nat}
    (absent : register ∉ registersOf columns) :
    numpy.zeros measurement.shots (measurement.lengthOf register) =
      measurement.registerArray columns register := by
  have unread : ∀ bit, columns.find? (·.isAt register bit) = none := by
    refine fun bit => List.find?_eq_none.mpr fun other member isAt => absent ?_
    simp only [Column.isAt, Bool.and_eq_true, decide_eq_true_eq] at isAt
    rw [registersOf, List.mem_eraseDups]
    exact List.mem_map.mpr ⟨other, member, isAt.1⟩
  have zero : ∀ bit shot, valueAt columns register bit shot = 0 := fun bit shot => by
    rw [valueAt, unread]
  rw [lawful.zeros_eq]
  simp only [Measurement.registerArray, zero, List.map_const', List.length_range]

theorem lookup_formattedOf (register : Nat) :
    (measurement.formattedOf columns).lookup register =
      if register ∈ registersOf columns then
        some (measurement.registerArray columns register) else none := by
  rw [Measurement.formattedOf]
  induction registersOf columns with
  | nil => rfl
  | cons first registers ih =>
      rw [List.map_cons, List.lookup_cons, ih]
      by_cases same : register = first
      · simp [same]
      · have differs : (register == first) = false := beq_false_of_ne same
        simp [same, differs]

theorem eraseDups_concat {indices : List Nat} {index : Nat} :
    (indices ++ [index]).eraseDups =
      if index ∈ indices.eraseDups then indices.eraseDups
      else indices.eraseDups ++ [index] := by
  rw [List.eraseDups_append]
  by_cases member : index ∈ indices
  · simp [List.removeAll, member]
  · simp [List.removeAll, member, List.eraseDups_cons]

theorem registersOf_concat :
    registersOf (columns ++ [column]) =
      if column.key.cregIdx ∈ registersOf columns then registersOf columns
      else registersOf columns ++ [column.key.cregIdx] := by
  rw [registersOf, List.map_append]
  exact eraseDups_concat

theorem placeColumn_formattedOf (lawful : numpy.Lawful) (fresh : Fresh columns column)
    (inside : column.key.clbitIdx < measurement.lengthOf column.key.cregIdx)
    (complete : column.values.length = measurement.shots)
    (sameLength : column.key.cregLen = measurement.lengthOf column.key.cregIdx) :
    placeColumn numpy (measurement.formattedOf columns) column.key column.values =
      .ok (measurement.formattedOf (columns ++ [column])) := by
  rw [placeColumn, lookup_formattedOf]
  have placed := setColumn_registerArray lawful fresh inside complete
  by_cases member : column.key.cregIdx ∈ registersOf columns
  · rw [if_pos member]
    dsimp only
    rw [placed, Measurement.formattedOf, Measurement.formattedOf, registersOf_concat,
      if_pos member]
    refine congrArg Except.ok ?_
    rw [List.map_map]
    refine List.map_congr_left fun register _ => ?_
    by_cases same : register = column.key.cregIdx
    · simp [same]
    · simp [same, registerArray_concat_of_ne fresh (Ne.symm same)]
  · rw [if_neg member]
    dsimp only
    rw [complete, sameLength, zeros_eq_registerArray lawful member, placed,
      Measurement.formattedOf, Measurement.formattedOf, registersOf_concat, if_neg member,
      List.map_append]
    refine congrArg (fun others => Except.ok (others ++ _)) ?_
    refine List.map_congr_left fun register registered => ?_
    have other : column.key.cregIdx ≠ register := fun same => member (same ▸ registered)
    rw [registerArray_concat_of_ne fresh other]

theorem Measurement.lengthOf_eq (measurement : Measurement)
    (member : column ∈ measurement.columns) :
    column.key.cregLen = measurement.lengthOf column.key.cregIdx := by
  rw [Measurement.lengthOf]
  cases found : measurement.columns.find? (·.key.cregIdx = column.key.cregIdx) with
  | none =>
      have differs := List.find?_eq_none.mp found column member
      simp at differs
  | some first =>
      have same : first.key.cregIdx = column.key.cregIdx := by
        simpa using List.find?_some found
      exact measurement.sameLength column member first (List.mem_of_find?_eq_some found)
        same.symm

theorem Measurement.fresh {rest : List Column}
    (split : measurement.columns = columns ++ column :: rest) : Fresh columns column := by
  have distinct := measurement.distinct
  rw [split, List.pairwise_append] at distinct
  exact fun other member => distinct.2.2 other member column (List.mem_cons_self ..)

/-- Columns of values are read as they are, unless there are none. -/
theorem readColumn_singletons (lawful : numpy.Lawful) {key : MeasurementKey} {values : List Int}
    (fits : values.all fitsInt64 = true) (nonempty : values ≠ []) :
    readColumn numpy library key (values.map fun value => [value]) = .ok values := by
  rw [readColumn, lawful.array_column values nonempty fits]
  change Except.ok (numpy.firstColumn (columnArray values)) = _
  rw [lawful.firstColumn_column]

theorem readEntry_formattedOf (lawful : numpy.Lawful) {entry : MeasurementEntry}
    {rest : List Column}
    (encodes : column.Encodes library entry)
    (split : measurement.columns = columns ++ column :: rest)
    (positive : measurement.shots ≠ 0) :
    readEntry numpy library (measurement.formattedOf columns) entry =
      .ok (measurement.formattedOf (columns ++ [column])) := by
  obtain ⟨parsed, rows⟩ := encodes
  have member : column ∈ measurement.columns := by
    rw [split]
    exact List.mem_append_right _ (List.mem_cons_self ..)
  have complete := measurement.length_values column member
  have nonempty : column.values ≠ [] := by
    intro empty
    rw [empty] at complete
    exact positive complete.symm
  have sameLength := measurement.lengthOf_eq member
  have inside : column.key.clbitIdx < measurement.lengthOf column.key.cregIdx := by
    rw [← sameLength]
    exact measurement.inside column member
  rw [readEntry, parsed, rows]
  dsimp only [Except.mapError, bind, Except.bind]
  rw [readColumn_singletons lawful (measurement.fits column member) nonempty]
  exact placeColumn_formattedOf lawful (measurement.fresh split) inside complete sameLength

/-- The loop over the dictionary gathers all columns. -/
theorem foldlM_readEntry (lawful : numpy.Lawful) {entries : List MeasurementEntry}
    {rest : List Column}
    (encodes : List.Forall₂ (Column.Encodes library) entries rest)
    (split : measurement.columns = columns ++ rest) (positive : measurement.shots ≠ 0) :
    entries.foldlM (readEntry numpy library) (measurement.formattedOf columns) =
      .ok (measurement.formattedOf measurement.columns) := by
  induction encodes generalizing columns with
  | nil =>
      rw [List.append_nil] at split
      rw [split]
      rfl
  | cons first _ ih =>
      rw [List.foldlM_cons, readEntry_formattedOf lawful first split positive]
      apply ih
      rw [split, List.append_assoc]
      rfl

/-- A dictionary without rows is refused at its first column. -/
theorem foldlM_readEntry_noShots (lawful : numpy.Lawful) {entry : MeasurementEntry}
    {entries : List MeasurementEntry} {formatted : Formatted}
    (encodes : column.Encodes library entry) (empty : column.values = []) :
    (entry :: entries).foldlM (readEntry numpy library) formatted =
      .error (.indexError "tuple index out of range") := by
  obtain ⟨parsed, rows⟩ := encodes
  have unread : readColumn numpy library column.key [] =
      .error (.indexError "tuple index out of range") := by
    rw [readColumn, lawful.array_nil]
    rfl
  rw [List.foldlM_cons, readEntry, parsed, rows, empty]
  change ((readColumn numpy library column.key [] >>= _) >>= _) = _
  rw [unread]
  rfl

end Reading

/-! ## Printing the shots -/

theorem mapM_eq_ok_map {α β ε : Type} {step : α → Except ε β} {value : α → β}
    {items : List α} (each : ∀ item ∈ items, step item = .ok (value item)) :
    items.mapM step = .ok (items.map value) := by
  induction items with
  | nil => rfl
  | cons item items ih =>
      obtain ⟨first, others⟩ := List.forall_mem_cons.mp each
      rw [List.mapM_cons, first, ih others]
      rfl

theorem exists_mapM_eq_error {α β ε : Type} {step : α → Except ε β} {items : List α}
    {item : α} {error : ε} (member : item ∈ items) (fails : step item = .error error) :
    ∃ error, items.mapM step = .error error := by
  induction items with
  | nil => cases member
  | cons first items ih =>
      rw [List.mapM_cons]
      cases outcome : step first with
      | error error => exact ⟨error, rfl⟩
      | ok value =>
          rcases List.mem_cons.mp member with rfl | inRest
          · rw [outcome] at fails
            cases fails
          · obtain ⟨error, failed⟩ := ih inRest
            rw [failed]
            exact ⟨error, rfl⟩

theorem exists_of_mapM_eq_error {α β ε : Type} {step : α → Except ε β} {items : List α}
    {error : ε} (failed : items.mapM step = .error error) :
    ∃ item ∈ items, step item = .error error := by
  by_contra succeeds
  push Not at succeeds
  induction items with
  | nil => cases failed
  | cons first items ih =>
      rw [List.mapM_cons] at failed
      have others := List.forall_mem_cons.mp succeeds
      cases outcome : step first with
      | error other =>
          rw [outcome] at failed
          cases failed
          exact others.1 outcome
      | ok value =>
          rw [outcome] at failed
          cases rest : items.mapM step with
          | error other =>
              rw [rest] at failed
              cases failed
              exact ih rest others.2
          | ok values =>
              rw [rest] at failed
              cases failed

theorem intercalate_concat {α : Type} (separator last : List α) {parts : List (List α)}
    (nonempty : parts ≠ []) :
    List.intercalate separator (parts ++ [last]) =
      List.intercalate separator parts ++ separator ++ last := by
  induction parts with
  | nil => exact absurd rfl nonempty
  | cons part parts ih =>
      cases parts with
      | nil => simp
      | cons next parts =>
          have rest := ih (List.cons_ne_nil next parts)
          rw [List.cons_append, List.cons_append, List.intercalate_cons_cons,
            ← List.cons_append, rest, List.intercalate_cons_cons]
          simp only [List.append_assoc]

/-- A joined text is reversed piece by piece. -/
theorem reverse_intercalate {α : Type} (separator : List α) (parts : List (List α)) :
    (List.intercalate separator parts).reverse =
      List.intercalate separator.reverse (parts.reverse.map List.reverse) := by
  induction parts with
  | nil => rfl
  | cons part parts ih =>
      cases parts with
      | nil => simp
      | cons next parts =>
          have nonempty : (next :: parts).reverse.map List.reverse ≠ [] := by simp
          have reversed : (part :: next :: parts).reverse.map List.reverse =
              (next :: parts).reverse.map List.reverse ++ [part.reverse] := by
            rw [List.reverse_cons, List.map_append, List.map_singleton]
          rw [reversed, intercalate_concat _ _ nonempty, ← ih, List.intercalate_cons_cons,
            List.reverse_append, List.reverse_append, List.append_assoc]

section Printing

variable {numpy : Numpy} {library : MeasurementKeyLibrary} {measurement : Measurement}
variable {columns : List Column} {column : Column}

theorem printRow_registerArray (lawful : numpy.Lawful) {shot : Nat}
    (isShot : shot < measurement.shots) (register : Nat) :
    printRow numpy (measurement.registerArray columns register) shot =
      .ok ((List.range (measurement.lengthOf register)).flatMap fun bit =>
        Text.showInt (valueAt columns register bit shot)) := by
  have row : (measurement.registerArray columns register).rows[shot]? =
      some ((List.range (measurement.lengthOf register)).map fun bit =>
        valueAt columns register bit shot) := by
    simp [Measurement.registerArray, isShot]
  rw [printRow, lawful.row_eq _ _ _ row]
  change Except.ok _ = _
  rw [List.flatMap_map]

theorem printRow_noShot (lawful : numpy.Lawful) {shot : Nat} (noShot : measurement.shots ≤ shot)
    (register : Nat) :
    ∃ error, printRow numpy (measurement.registerArray columns register) shot =
      .error error := by
  have outside : (measurement.registerArray columns register).rows.length ≤ shot := by
    simpa [Measurement.registerArray] using noShot
  obtain ⟨message, raised⟩ := lawful.row_outside _ shot outside
  rw [printRow, raised]
  exact ⟨_, rfl⟩

/-- The arrays are printed in the order of their registers. -/
theorem mapM_printRow (shot : Nat) :
    ((measurement.formattedOf columns).mergeSort
        fun first second => decide (first.1 ≤ second.1)).mapM
          (fun entry => printRow numpy entry.2 shot) =
      (registersOf columns).mergeSort.mapM fun register =>
        printRow numpy (measurement.registerArray columns register) shot := by
  have sorted : (measurement.formattedOf columns).mergeSort
      (fun first second => decide (first.1 ≤ second.1)) =
        (registersOf columns).mergeSort.map fun register =>
          (register, measurement.registerArray columns register) :=
    (List.map_mergeSort (by intros; rfl)).symm
  rw [sorted, List.mapM_map]
  rfl

/-- The text of the registers in order, reversed as a whole, is the bitstring. -/
theorem printShot_formattedOf (lawful : numpy.Lawful) {shot : Nat}
    (isShot : shot < measurement.shots) :
    printShot numpy (measurement.formattedOf measurement.columns) shot =
      .ok (measurement.bitstring shot) := by
  have printed : measurement.registers.mapM (fun register =>
      printRow numpy (measurement.registerArray measurement.columns register) shot) =
        .ok (measurement.registers.map fun register =>
          (List.range (measurement.lengthOf register)).flatMap fun bit =>
            Text.showInt (valueAt measurement.columns register bit shot)) :=
    mapM_eq_ok_map fun register _ => printRow_registerArray lawful isShot register
  rw [Measurement.registers] at printed
  rw [printShot, mapM_printRow, printed]
  refine congrArg Except.ok ?_
  rw [reverse_intercalate, Measurement.bitstring, Measurement.registers, List.reverse_singleton,
    ← List.map_reverse, List.map_map]
  refine congrArg (List.intercalate [' ']) (List.map_congr_left fun register _ => ?_)
  exact List.reverse_flatMap

theorem printShot_noShot (lawful : numpy.Lawful) {shot register : Nat}
    (noShot : measurement.shots ≤ shot) (registered : register ∈ registersOf columns) :
    ∃ error, printShot numpy (measurement.formattedOf columns) shot = .error error := by
  have sorted : register ∈ (registersOf columns).mergeSort :=
    List.mem_mergeSort.mpr registered
  have unprinted : ∃ error, printRow numpy (measurement.registerArray columns register) shot =
      .error error := printRow_noShot lawful noShot register
  obtain ⟨error, failed⟩ : ∃ error, (registersOf columns).mergeSort.mapM (fun register =>
      printRow numpy (measurement.registerArray columns register) shot) = .error error :=
    unprinted.elim fun _ fails => exists_mapM_eq_error sorted fails
  rw [printShot, mapM_printRow, failed]
  exact ⟨error, rfl⟩

/-- Printing a shot raises no other exception. -/
theorem isIndexError_of_printShot (lawful : numpy.Lawful) {formatted : Formatted} {shot : Nat}
    {error : FormatError} (failed : printShot numpy formatted shot = .error error) :
    ∃ message, error = .indexError message := by
  rw [printShot] at failed
  cases printed : (formatted.mergeSort fun first second => decide (first.1 ≤ second.1)).mapM
      (fun entry => printRow numpy entry.2 shot) with
  | ok texts =>
      rw [printed] at failed
      cases failed
  | error other =>
      rw [printed] at failed
      cases failed
      obtain ⟨entry, -, unprinted⟩ := exists_of_mapM_eq_error printed
      rcases Nat.lt_or_ge shot entry.2.rows.length with inside | outside
      · rw [printRow, lawful.row_eq _ _ _ (List.getElem?_eq_getElem inside)] at unprinted
        cases unprinted
      · obtain ⟨message, raised⟩ := lawful.row_outside _ shot outside
        rw [printRow, raised] at unprinted
        cases unprinted
        exact ⟨_, rfl⟩

end Printing

section Results

variable {numpy : Numpy} {library : MeasurementKeyLibrary} {measurement : Measurement}
variable {entries : List MeasurementEntry} {requestedShots : Int}

/-- The texts of two ranges of shots agree only if the ranges do. -/
theorem map_range_eq_iff {α : Type} {text : Nat → α} {first second : Nat} :
    (List.range first).map text = (List.range second).map text ↔ first = second := by
  constructor
  · intro same
    have lengths := congrArg List.length same
    rwa [List.length_map, List.length_map, List.length_range, List.length_range] at lengths
  · rintro rfl
    rfl

/-- Without columns there is an empty text for each requested shot. -/
theorem formatSingleCircuitResults_noColumns (noColumns : measurement.columns = []) :
    formatSingleCircuitResults numpy library [] requestedShots =
      .ok ((List.range requestedShots.toNat).map measurement.bitstring) := by
  have registers : measurement.registers = [] := by
    rw [Measurement.registers, noColumns]
    exact List.mergeSort_nil
  refine mapM_eq_ok_map fun shot _ => ?_
  rw [Measurement.bitstring, registers, printShot, List.mergeSort_nil]
  rfl

/-- A measured bit with fewer rows than requested, or without any, is an index
error. -/
theorem indexError_of_fewer (lawful : numpy.Lawful)
    (encodes : measurement.Encodes library entries)
    (measured : measurement.columns ≠ [])
    (fewer : measurement.shots = 0 ∨ measurement.shots < requestedShots.toNat) :
    ∃ message, formatSingleCircuitResults numpy library entries requestedShots =
      .error (.indexError message) := by
  obtain ⟨column, others, split⟩ := List.exists_cons_of_ne_nil measured
  have member : column ∈ measurement.columns := by
    rw [split]
    exact List.mem_cons_self ..
  rw [Measurement.Encodes, split] at encodes
  cases encodes with
  | @cons entry _ entries _ first rest =>
    by_cases noShots : measurement.shots = 0
    · have empty : column.values = [] := by
        rw [← List.length_eq_zero_iff, measurement.length_values column member, noShots]
      rw [formatSingleCircuitResults, foldlM_readEntry_noShots lawful first empty]
      exact ⟨_, rfl⟩
    have gathered : (entry :: entries).foldlM (readEntry numpy library) [] =
        .ok (measurement.formattedOf measurement.columns) :=
      @foldlM_readEntry numpy library measurement [] lawful _ _ (.cons first rest) split noShots
    have registered : column.key.cregIdx ∈ registersOf measurement.columns := by
      rw [registersOf, List.mem_eraseDups]
      exact List.mem_map_of_mem member
    obtain ⟨error, fails⟩ := printShot_noShot lawful (Nat.le_refl _) registered
    obtain ⟨error, failed⟩ := exists_mapM_eq_error
      (List.mem_range.mpr (fewer.resolve_left noShots)) fails
    obtain ⟨shot, -, unprinted⟩ := exists_of_mapM_eq_error failed
    obtain ⟨message, rfl⟩ := isIndexError_of_printShot lawful unprinted
    rw [formatSingleCircuitResults, gathered]
    exact ⟨message, failed⟩

theorem formatSingleCircuitResults_eq_ok_iff (lawful : numpy.Lawful)
    (encodes : measurement.Encodes library entries) :
    formatSingleCircuitResults numpy library entries requestedShots =
        .ok measurement.bitstrings ↔
      requestedShots.toNat = measurement.shots ∧
        (measurement.shots ≠ 0 ∨ measurement.columns = []) := by
  by_cases measured : measurement.columns = []
  · rw [Measurement.Encodes, measured] at encodes
    cases encodes
    rw [formatSingleCircuitResults_noColumns measured, Except.ok.injEq,
      Measurement.bitstrings, map_range_eq_iff]
    simp [measured]
  by_cases fewer : measurement.shots = 0 ∨ measurement.shots < requestedShots.toNat
  · obtain ⟨message, failed⟩ := indexError_of_fewer lawful encodes measured fewer
    rw [failed]
    refine ⟨fun equal => (nomatch equal), fun ⟨same, positive⟩ => ?_⟩
    have present := positive.resolve_right measured
    omega
  · rw [not_or] at fewer
    have gathered : entries.foldlM (readEntry numpy library) [] =
        .ok (measurement.formattedOf measurement.columns) :=
      @foldlM_readEntry numpy library measurement [] lawful _ _ encodes rfl fewer.1
    have printed : (List.range requestedShots.toNat).mapM
        (printShot numpy (measurement.formattedOf measurement.columns)) =
          .ok ((List.range requestedShots.toNat).map measurement.bitstring) := by
      apply mapM_eq_ok_map
      intro shot isRequested
      apply printShot_formattedOf lawful
      have below := List.mem_range.mp isRequested
      omega
    rw [formatSingleCircuitResults, gathered]
    change List.mapM _ _ = _ ↔ _
    rw [printed, Except.ok.injEq, Measurement.bitstrings, map_range_eq_iff]
    simp [fewer.1]

/-- The results of a batch, in the numbering of its circuits from some index on. -/
theorem mapM_formatCircuit_iff (lawful : numpy.Lawful) {Counts : Type}
    {countsOf : List Text → Counts} {circuits : List BatchCircuit} {measurements : List (List MeasurementEntry)}
    {batch : List Measurement} {index : Nat}
    (encodes : List.Forall₂ (fun entries measurement =>
      measurement.Encodes library entries) measurements batch) :
    (∃ results, ((circuits.zip measurements).zipIdx index).mapM
        (formatCircuit numpy library countsOf requestedShots) = .ok results ∧
      results.map (·.2.1) = (circuits.zip batch).map (·.2.bitstrings)) ↔
    ∀ pair ∈ circuits.zip batch, requestedShots.toNat = pair.2.shots ∧
      (pair.2.shots ≠ 0 ∨ pair.2.columns = []) := by
  induction encodes generalizing circuits index with
  | nil =>
      rw [List.zip_nil_right, List.zip_nil_right]
      exact ⟨fun _ => List.forall_mem_nil _, fun _ => ⟨[], rfl, rfl⟩⟩
  | @cons entries measurement measurements batch first _ ih =>
      cases circuits with
      | nil => exact ⟨fun _ => List.forall_mem_nil _, fun _ => ⟨[], rfl, rfl⟩⟩
      | cons circuit circuits =>
          rw [List.zip_cons_cons, List.zip_cons_cons, List.zipIdx_cons, List.mapM_cons,
            List.forall_mem_cons, ← @ih circuits (index + 1),
            ← formatSingleCircuitResults_eq_ok_iff lawful first, List.map_cons, formatCircuit]
          dsimp only
          constructor
          · rintro ⟨results, formatted, same⟩
            obtain ⟨_, outcome, rest⟩ := Except.bind_eq_ok_iff.mp formatted
            obtain ⟨others, reads, built⟩ := Except.bind_eq_ok_iff.mp rest
            obtain ⟨bitstrings, reading, named⟩ := Except.bind_eq_ok_iff.mp outcome
            cases named
            cases built
            obtain ⟨rfl, tail⟩ := List.cons.inj same
            exact ⟨reading, others, reads, tail⟩
          · rintro ⟨formatted, results, rest, same⟩
            rw [formatted, rest]
            refine ⟨(_, measurement.bitstrings, _) :: results, rfl, ?_⟩
            rw [List.map_cons, same]

/-- The results of a batch hold one bitstring for each returned shot exactly if the
requested number of shots was returned for every circuit, and not as no rows at all. -/
theorem formatResults_aligned_iff (lawful : numpy.Lawful) {Counts : Type}
    {countsOf : List Text → Counts} {circuits : List BatchCircuit} {measurements : List (List MeasurementEntry)}
    {batch : List Measurement}
    (encodes : List.Forall₂ (fun entries measurement =>
      measurement.Encodes library entries) measurements batch) :
    (∃ results, formatResults numpy library countsOf requestedShots measurements circuits =
        .ok results ∧
      results.map (·.2.1) = (circuits.zip batch).map (·.2.bitstrings)) ↔
    ∀ pair ∈ circuits.zip batch, requestedShots.toNat = pair.2.shots ∧
      (pair.2.shots ≠ 0 ∨ pair.2.columns = []) :=
  mapM_formatCircuit_iff lawful encodes

end Results

namespace OneBit

/-- Arrays of integers, with the exceptions that numpy raises. -/
def numpy : Numpy where
  array
    | [] => .ok ⟨[0], []⟩
    | row :: others =>
        if others.any fun other => other.length ≠ row.length then
          .error (.valueError
            ("setting an array element with a sequence. The requested array has an " ++
              "inhomogeneous shape after 1 dimensions. The detected shape was " ++
              s!"({others.length + 1},) + inhomogeneous part."))
        else if (row :: others).all fun row => row.all fitsInt64 then
          .ok ⟨[others.length + 1, row.length], row :: others⟩
        else .error (.overflowError "Python int too large to convert to C long")
  firstColumn array := array.rows.map fun row => row.headD 0
  zeros height width := ⟨[height, width], List.replicate height (List.replicate width 0)⟩
  setColumn array index column :=
    let width := array.shape.getD 1 0
    if width ≤ index then
      .error (.indexError s!"index {index} is out of bounds for axis 1 with size {width}")
    else if column.length = array.rows.length then
      .ok ⟨array.shape,
        List.zipWith (fun row value => row.set index value) array.rows column⟩
    else
      match column with
      | [value] => .ok ⟨array.shape, array.rows.map fun row => row.set index value⟩
      | _ => .error (.valueError
          (s!"could not broadcast input array from shape ({column.length},) " ++
            s!"into shape ({array.rows.length},)"))
  row array shot :=
    match array.rows[shot]? with
    | some row => .ok row
    | none => .error (.indexError
        s!"index {shot} is out of bounds for axis 0 with size {array.rows.length}")

theorem lawful : numpy.Lawful where
  array_nil := rfl
  array_column := by
    rintro (_ | ⟨value, others⟩) nonempty fits
    · exact absurd rfl nonempty
    have even : ¬ ((others.map fun value => [value]).any
        fun other => other.length ≠ [value].length) = true := by
      simp
    have inRange : (([value] :: others.map fun value => [value]).all
        fun row => row.all fitsInt64) = true := by
      simpa [List.all_map] using fits
    refine (if_neg even).trans ((if_pos inRange).trans ?_)
    simp [columnArray]
  firstColumn_column values := by
    simp [numpy, columnArray, Function.comp_def]
  zeros_eq _ _ := rfl
  setColumn_eq := by
    intro array height width index column shape inside complete rows
    have reached : ¬ array.shape.getD 1 0 ≤ index := by
      rw [shape]
      exact Nat.not_le.mpr inside
    exact (if_neg reached).trans (if_pos (complete.trans rows.symm))
  row_eq := by
    intro array shot row found
    simp only [numpy, found]
  row_outside := by
    intro array shot outside
    simp only [numpy, List.getElem?_eq_none outside]
    exact ⟨_, rfl⟩

def key : MeasurementKey :=
  ⟨"m".toList, 1, 0, 0⟩

/-- A library that knows the key of the bit. -/
def library : MeasurementKeyLibrary where
  fromString text :=
    if text = "m_1_0_0".toList then .ok key else .error "Invalid measurement key"
  print _ := "m_1_0_0"

/-- Two shots of the bit. -/
def measurement : Measurement where
  columns := [⟨key, [0, 1]⟩]
  shots := 2
  length_values := by simp
  fits := by simp [fitsInt64]
  inside := by simp [key]
  sameLength := by simp
  distinct := List.pairwise_singleton _ _

def entries : List MeasurementEntry :=
  [("m_1_0_0".toList, [[0], [1]])]

theorem encodes : measurement.Encodes library entries :=
  .cons ⟨rfl, rfl⟩ .nil

end OneBit

/-- A circuit without measured bits, which was run as often. -/
def OneBit.unmeasured : Measurement where
  columns := []
  shots := 2
  length_values := by simp
  fits := by simp
  inside := by simp
  sameLength := by simp
  distinct := .nil

theorem OneBit.encodes_unmeasured : unmeasured.Encodes library [] :=
  .nil

theorem formatResults_aligned_twoCircuits :
    ∃ results, formatResults OneBit.numpy OneBit.library List.length 2 [OneBit.entries, []]
        [.circuit "c".toList, .circuit "d".toList] = .ok results ∧
      results.map (·.2.1) = ([BatchCircuit.circuit "c".toList, .circuit "d".toList].zip
        [OneBit.measurement, OneBit.unmeasured]).map (·.2.bitstrings) := by
  apply (formatResults_aligned_iff OneBit.lawful
    (.cons OneBit.encodes (.cons OneBit.encodes_unmeasured .nil))).mpr
  intro pair member
  rcases List.mem_pair.mp member with rfl | rfl
  · exact ⟨rfl, .inl (by decide)⟩
  · exact ⟨rfl, .inr rfl⟩

/-- Fewer shots than requested are an index error. -/
theorem exists_indexError :
    ∃ (numpy : Numpy) (library : MeasurementKeyLibrary) (measurement : Measurement)
      (entries : List MeasurementEntry) (requestedShots : Int),
      numpy.Lawful ∧ measurement.Encodes library entries ∧
        (∃ message, formatResults numpy library List.length requestedShots [entries]
          [.circuit "c".toList] = .error (.indexError message)) ∧
        ¬ ∃ results, formatResults numpy library List.length requestedShots [entries]
            [.circuit "c".toList] = .ok results ∧
          results.map (·.2.1) = [measurement.bitstrings] := by
  have fewer : OneBit.measurement.shots < (3 : Int).toNat := by decide
  obtain ⟨message, failed⟩ := indexError_of_fewer OneBit.lawful OneBit.encodes
    (List.cons_ne_nil _ _) (.inr fewer)
  have raised : formatResults OneBit.numpy OneBit.library List.length 3 [OneBit.entries]
      [.circuit "c".toList] = .error (.indexError message) := by
    rw [formatResults, List.zip_cons_cons, List.zipIdx_cons, List.mapM_cons, formatCircuit,
      failed]
    rfl
  refine ⟨OneBit.numpy, OneBit.library, OneBit.measurement, OneBit.entries, 3, OneBit.lawful,
    OneBit.encodes, ⟨message, raised⟩, ?_⟩
  rintro ⟨results, formatted, -⟩
  rw [raised] at formatted
  cases formatted

end IqmResults
