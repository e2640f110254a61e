import InlineMarkup.Fields
import InlineMarkup.Toml.Scalar

/-!
# Dates and times as tables

A date or time may also be written as a table: the first key of the table is a mark, and its value
is the text of the date or time. Keys behind it have no meaning. `Value.withDates?` replaces such
tables by what they stand for, and refuses tables that have the mark in front of anything else.
-/

namespace InlineMarkup.Toml

/-- The key that marks a table as a date or time. -/
def dateMark : String := "$__toml_private_datetime"

/-- Does a table with the given fields stand for a date or time? -/
def isDateTable (fields : Fields Value) : Bool := fields.head?.any fun f => f.1 == dateMark

/-- The date or time that a value gives by its text. -/
def Value.dateTime? : Value → Option DateTime
  | .string s => DateTime.ofText? s
  | _ => none

mutual

/-- **A value with dates and times in place of the tables that stand for them;** absent if there is
a table with the mark that stands for none. -/
def Value.withDates? : Value → Option Value
  | .array items => (itemsWithDates? items).map .array
  | .table [] => some (.table [])
  | .table ((name, v) :: fields) =>
    if name = dateMark then v.dateTime?.map .dateTime
    else do
      let first ← v.withDates?
      let others ← fieldsWithDates? fields
      return .table ((name, first) :: others)
  | v => some v

/-- The same for all items of an array. -/
def itemsWithDates? : List Value → Option (List Value)
  | [] => some []
  | v :: vs => do
    let first ← v.withDates?
    let others ← itemsWithDates? vs
    return first :: others

/-- The same for all fields of a table. -/
def fieldsWithDates? : List (String × Value) → Option (List (String × Value))
  | [] => some []
  | (name, v) :: fields => do
    let first ← v.withDates?
    let others ← fieldsWithDates? fields
    return (name, first) :: others

end

end InlineMarkup.Toml
