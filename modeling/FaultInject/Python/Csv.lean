import Mathlib.Data.List.Basic

/-
This file models the reader and the writer of `csv` with their default format.
-/

namespace FaultInject.Python.Csv

/-- A field with one of these characters is written in quotes. -/
def isSpecial (character : Char) : Bool := character ∈ [',', '"', '\r', '\n']

/-- Quotes inside of a field are doubled. -/
def escaped (field : List Char) : List Char :=
  field.flatMap fun character => if character = '"' then ['"', '"'] else [character]

def quoted (field : List Char) : List Char := '"' :: escaped field ++ ['"']

def fieldText (field : String) : List Char :=
  if field.toList.any isSpecial then quoted field.toList else field.toList

/-- A row of one empty field has quotes. -/
def rowText (row : List String) : List Char :=
  (if row = [""] then quoted [] else [','].intercalate (row.map fieldText)) ++ ['\r', '\n']

/-- This is `writer.writerows(rows)`. -/
def write (rows : List (List String)) : String := String.ofList (rows.flatMap rowText)

/-- These are the states of the reader. -/
inductive State where
  | startRecord
  /-- The row ended with a carriage return. -/
  | returned
  | startField
  | inField
  | inQuotedField
  | quoteInQuotedField
  deriving DecidableEq

structure Reader where
  state : State := .startRecord
  field : List Char := []
  fields : List String := []
  rows : List (List String) := []

namespace Reader

def add (reader : Reader) (character : Char) (state : State) : Reader :=
  { reader with field := reader.field ++ [character], state := state }

def saveField (reader : Reader) (state : State) : Reader :=
  { reader with fields := reader.fields ++ [String.ofList reader.field], field := [], state := state }

/-- The row ends behind its last field. -/
def endRow (reader : Reader) (state : State) : Reader :=
  { rows := reader.rows ++ [reader.fields], state := state }

/-- A field ends with the delimiter or with the line. -/
def closeField (reader : Reader) (character : Char) : Option Reader :=
  if character = ',' then some (reader.saveField .startField)
  else if character = '\r' then some ((reader.saveField .startRecord).endRow .returned)
  else if character = '\n' then some ((reader.saveField .startRecord).endRow .startRecord)
  else none

def stepField (reader : Reader) (character : Char) : Reader :=
  (reader.closeField character).getD
    (if character = '"' then { reader with state := .inQuotedField }
      else reader.add character .inField)

def stepRecord (reader : Reader) (character : Char) : Reader :=
  if character = '\r' then reader.endRow .returned
  else if character = '\n' then reader.endRow .startRecord
  else reader.stepField character

def step (reader : Reader) (character : Char) : Reader :=
  match reader.state with
  | .startRecord => reader.stepRecord character
  | .returned =>
      if character = '\n' then { reader with state := .startRecord }
      else reader.stepRecord character
  | .startField => reader.stepField character
  | .inField => (reader.closeField character).getD (reader.add character .inField)
  | .inQuotedField =>
      if character = '"' then { reader with state := .quoteInQuotedField }
      else reader.add character .inQuotedField
  | .quoteInQuotedField =>
      if character = '"' then reader.add character .inQuotedField
      else (reader.closeField character).getD (reader.add character .inField)

/-- The last row can end with the text. -/
def finish (reader : Reader) : List (List String) :=
  match reader.state with
  | .startRecord | .returned => reader.rows
  | _ => ((reader.saveField .startRecord).endRow .startRecord).rows

end Reader

/-- This is `list(csv.reader(file))` for a file without newline translation. -/
def read (text : String) : List (List String) := (text.toList.foldl Reader.step {}).finish

section RoundTrip
open Reader

/-- Characters without a meaning are added to an open field. -/
theorem foldl_inField {characters : List Char} (plain : ¬characters.any isSpecial)
    (reader : Reader) (inside : reader.state = .inField) :
    characters.foldl step reader = { reader with field := reader.field ++ characters } := by
  induction characters generalizing reader with
  | nil => rw [List.foldl_nil, List.append_nil]
  | cons character characters ih =>
      rw [List.any_cons, Bool.or_eq_true, not_or] at plain
      have free : reader.closeField character = none := by
        have known := plain.1
        simp only [isSpecial, List.mem_cons, decide_eq_true_eq, not_or] at known
        rw [closeField, if_neg known.1, if_neg known.2.2.1, if_neg known.2.2.2.1]
      have next : reader.step character = reader.add character .inField := by
        rw [step, inside]
        dsimp only
        rw [free, Option.getD_none]
      rw [List.foldl_cons, next, ih plain.2 _ rfl, add]
      simp only [List.append_assoc, List.singleton_append, inside]

/-- Doubled quotes are read as quotes inside of a quoted field. -/
theorem foldl_escaped (characters : List Char) (reader : Reader)
    (inside : reader.state = .inQuotedField) :
    (escaped characters).foldl step reader =
      { reader with field := reader.field ++ characters } := by
  induction characters generalizing reader with
  | nil =>
      show reader = _
      rw [List.append_nil]
  | cons character characters ih =>
      rw [escaped, List.flatMap_cons, List.foldl_append, ← escaped]
      have next : (if character = '"' then ['"', '"'] else [character]).foldl step reader =
          reader.add character .inQuotedField := by
        by_cases quote : character = '"'
        · rw [if_pos quote, quote, List.foldl_cons, List.foldl_cons, List.foldl_nil]
          simp [step, inside, add]
        · rw [if_neg quote, List.foldl_cons, List.foldl_nil]
          simp [step, inside, quote]
      rw [next, ih _ rfl, add]
      simp only [List.append_assoc, List.singleton_append, inside]

/-- The reader stands before a field. -/
structure AtField (reader : Reader) : Prop where
  state : reader.state ∈ [State.startRecord, .returned, .startField]
  field : reader.field = []

/-- This is the reader behind the end of a field. -/
def closed (reader : Reader) (field : String) (character : Char) : Reader :=
  if character = ',' then
    { reader with fields := reader.fields ++ [field], field := [], state := .startField }
  else { rows := reader.rows ++ [reader.fields ++ [field]], state := .returned }

/-- The end of a field saves its characters. -/
theorem closeField_eq {reader : Reader} {field : String} {character : Char}
    (ends : character ∈ [',', '\r']) (whole : reader.field = field.toList) :
    reader.closeField character = some (closed reader field character) := by
  rw [List.mem_cons, List.mem_singleton] at ends
  rcases ends with rfl | rfl
  · simp [closeField, closed, saveField, whole]
  · simp [closeField, closed, saveField, endRow, whole]

/-- The first character of a field opens it. -/
theorem step_atField {reader : Reader} (start : AtField reader) {character : Char}
    (text : character ≠ '\r' ∧ character ≠ '\n') :
    reader.step character = reader.stepField character := by
  have states := start.state
  simp only [List.mem_cons, List.not_mem_nil, or_false] at states
  rcases states with state | state | state <;>
    simp [step, state, stepRecord, text.1, text.2]

/-- The end of a quoted field closes it. -/
theorem foldl_quoted {reader : Reader} (start : AtField reader) (field : String) {character : Char}
    (ends : character ∈ [',', '\r']) :
    (quoted field.toList ++ [character]).foldl step reader = closed reader field character := by
  have opened : reader.step '"' = { reader with state := .inQuotedField } := by
    rw [step_atField start (by decide)]
    rfl
  have other : character ≠ '"' := by
    rw [List.mem_cons, List.mem_singleton] at ends
    rcases ends with rfl | rfl <;> decide
  rw [quoted, List.append_assoc, List.cons_append, List.foldl_cons, List.foldl_append, opened,
    foldl_escaped _ _ rfl, start.field, List.nil_append, List.singleton_append, List.foldl_cons,
    List.foldl_cons, List.foldl_nil]
  have left : step { reader with field := field.toList, state := .inQuotedField } '"' =
      { reader with field := field.toList, state := .quoteInQuotedField } := rfl
  rw [left, step]
  dsimp only
  rw [if_neg other, closeField_eq ends rfl, Option.getD_some]
  rfl

/-- A written field and its end are read as the field, except for an empty line. -/
theorem foldl_fieldText {reader : Reader} (start : AtField reader) {field : String}
    {character : Char} (ends : character ∈ [',', '\r'])
    (visible : character = ',' ∨ field ≠ "" ∨ reader.state = .startField) :
    (fieldText field ++ [character]).foldl step reader = closed reader field character := by
  unfold fieldText
  split
  · exact foldl_quoted start field ends
  · rename_i plain
    cases letters : field.toList with
    | nil =>
        have empty : field = "" := String.toList_injective letters
        rw [List.nil_append, List.foldl_cons, List.foldl_nil]
        have whole : reader.field = field.toList := by rw [start.field, letters]
        have closes : reader.stepField character = closed reader field character := by
          rw [stepField, closeField_eq ends whole, Option.getD_some]
        rcases visible with comma | filled | state
        · rw [step_atField start (by rw [comma]; decide), closes]
        · exact absurd empty filled
        · rw [step, state]
          exact closes
    | cons first rest =>
        rw [letters, List.any_cons, Bool.or_eq_true, not_or] at plain
        have known := plain.1
        simp only [isSpecial, List.mem_cons, decide_eq_true_eq, not_or] at known
        have opened : reader.step first = reader.add first .inField := by
          rw [step_atField start ⟨known.2.2.1, known.2.2.2.1⟩, stepField, closeField,
            if_neg known.1, if_neg known.2.2.1, if_neg known.2.2.2.1, Option.getD_none,
            if_neg known.2.1]
        rw [List.cons_append, List.foldl_cons, List.foldl_append, opened,
          foldl_inField plain.2 _ rfl, List.foldl_cons, List.foldl_nil, add, start.field, step]
        dsimp only
        rw [closeField_eq ends (by rw [letters]; rfl), Option.getD_some]
        rfl

/-- The fields of a row are read up to its end. -/
theorem foldl_fields {fields : List String} (some : fields ≠ []) {reader : Reader}
    (start : AtField reader) (visible : fields ≠ [""] ∨ reader.state = .startField) :
    ([','].intercalate (fields.map fieldText) ++ ['\r']).foldl step reader =
      { rows := reader.rows ++ [reader.fields ++ fields], state := .returned } := by
  induction fields generalizing reader with
  | nil => exact absurd rfl some
  | cons field fields ih =>
      cases fields with
      | nil =>
          have filled : '\r' = ',' ∨ field ≠ "" ∨ reader.state = .startField := by
            rcases visible with other | state
            · exact .inr (.inl fun empty => other (by rw [empty]))
            · exact .inr (.inr state)
          rw [List.map_singleton, List.intercalate_singleton,
            foldl_fieldText start (by decide) filled]
          rfl
      | cons other fields =>
          have next : AtField (closed reader field ',') :=
            ⟨List.mem_cons_of_mem _ (List.mem_cons_of_mem _ List.mem_cons_self), rfl⟩
          rw [List.map_cons, List.map_cons, List.intercalate_cons_cons, ← List.map_cons,
            List.append_assoc, List.foldl_append,
            foldl_fieldText start List.mem_cons_self (.inl rfl),
            ih (List.cons_ne_nil _ _) next (.inr rfl)]
          simp [closed]

/-- A written row is read as the row. -/
theorem foldl_rowText (row : List String) (rows : List (List String)) :
    (rowText row).foldl step { rows := rows } = { rows := rows ++ [row] } := by
  have start : AtField { rows := rows } := ⟨List.mem_cons_self, rfl⟩
  have whole : (if row = [""] then quoted [] else [','].intercalate (row.map fieldText)) ++
      ['\r', '\n'] = ((if row = [""] then quoted [] else [','].intercalate (row.map fieldText)) ++
        ['\r']) ++ ['\n'] := by simp
  have ended : (((if row = [""] then quoted [] else [','].intercalate (row.map fieldText)) ++
      ['\r']).foldl step { rows := rows }) = { rows := rows ++ [row], state := .returned } := by
    by_cases empty : row = [""]
    · rw [if_pos empty, empty]
      exact foldl_quoted start "" (by decide)
    · rw [if_neg empty]
      by_cases none : row = []
      · rw [none]
        rfl
      · exact foldl_fields none start (.inl empty)
  rw [rowText, whole, List.foldl_append, ended]
  rfl

/-- The reader gives back the written rows. -/
theorem read_write (rows : List (List String)) : read (write rows) = rows := by
  have each (before : List (List String)) :
      (rows.flatMap rowText).foldl step { rows := before } = { rows := before ++ rows } := by
    induction rows generalizing before with
    | nil => rw [List.append_nil]; rfl
    | cons row rows ih =>
        rw [List.flatMap_cons, List.foldl_append, foldl_rowText, ih]
        simp
  rw [read, write, String.toList_ofList, each, List.nil_append]
  rfl

end RoundTrip

end FaultInject.Python.Csv
