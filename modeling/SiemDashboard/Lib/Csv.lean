import Mathlib.Data.List.Basic

/-!
# Rows of comma-separated values

The first row that `csv.reader` of Python reads of a text, in its default dialect: fields are
separated by commas, and a field in double quotes may hold commas, newlines and doubled quotes.
-/

namespace Csv

/-- The states of the reader. -/
inductive State where
  | startRecord
  | startField
  | inField
  | inQuotedField
  | quoteInQuotedField
  | eatCrnl
deriving DecidableEq, Repr

/-- The reader: its state, the fields before, and the field it reads, last character first. -/
structure Reader where
  state : State
  fields : List String
  field : List Char

namespace Reader

/-- The field is complete. -/
def save (r : Reader) (state : State) : Reader :=
  ⟨state, r.fields ++ [String.ofList r.field.reverse], []⟩

/-- The character belongs to the field. -/
def add (r : Reader) (c : Char) (state : State) : Reader := ⟨state, r.fields, c :: r.field⟩

/-- The first character of a field. -/
def first (r : Reader) (c : Char) : Reader :=
  if c = '"' then { r with state := .inQuotedField }
  else if c = ',' then r.save .startField
  else r.add c .inField

/-- The next character; none where the reader raises. -/
def next (r : Reader) (c : Char) : Option Reader :=
  let newline := c = '\n' ∨ c = '\r'
  match r.state with
  | .startRecord => some (if newline then { r with state := .eatCrnl } else r.first c)
  | .startField => some (if newline then r.save .eatCrnl else r.first c)
  | .inField =>
    some (if newline then r.save .eatCrnl
      else if c = ',' then r.save .startField
      else r.add c .inField)
  | .inQuotedField =>
    some (if c = '"' then { r with state := .quoteInQuotedField } else r.add c .inQuotedField)
  | .quoteInQuotedField =>
    some (if c = '"' then r.add c .inQuotedField
      else if c = ',' then r.save .startField
      else if newline then r.save .eatCrnl
      else r.add c .inField)
  | .eatCrnl => if newline then some r else none

def endLine (r : Reader) : Reader :=
  match r.state with
  | .startRecord | .inQuotedField => r
  | .startField | .inField | .quoteInQuotedField => r.save .startRecord
  | .eatCrnl => { r with state := .startRecord }

/-- The fields at the end of the text, where a quote may be open. -/
def finish (r : Reader) : List String :=
  if r.state = .inQuotedField then (r.save .startRecord).fields else r.fields

end Reader

/-- The row of a text from a state of the reader on. -/
def rowFrom : Reader → List Char → Option (List String)
  | r, [] => some r.endLine.finish
  | r, c :: cs =>
    match r.next c with
    | none => none
    | some r =>
      if c = '\n' then
        if r.endLine.state = .startRecord then some r.endLine.fields
        else if cs.isEmpty then some r.endLine.finish
        else rowFrom r.endLine cs
      else rowFrom r cs

/-- The first row of a text, none where the reader raises. -/
def firstRow (text : String) : Option (List String) :=
  rowFrom ⟨.startRecord, [], []⟩ text.toList

example : firstRow "5,,\"a,\"\"b\"\"\",x" = some ["5", "", "a,\"b\"", "x"] := by decide +kernel

end Csv
