import JsonClasses.Toml.DateTime
import JsonClasses.Toml.Number
import JsonClasses.Toml.Value

/-! # Sound values

A value that is well formed may still stand for nothing: an integer may not fit 64 bits, a float be
too large, and a table that is to carry a date may carry something else. -/
namespace JsonClasses.Toml

/-- The key under which a table carries a date. -/
def dateKey : String := "$__toml_private_datetime"

/-- What a table carries, in place of its entries: a table whose least key is that of a date. -/
def Table.carried? (table : Table) : Option Value :=
  if leastKey? (table.map (·.1)) = some dateKey then table.lookup dateKey else none

def Value.isDateText : Value → Bool
  | .text s => DateTime.isValid s.toList
  | _ => false

mutual

/-- Whether a value stands for something. What stands beside a carried date is not looked at. -/
def sound : Value → Bool
  | .integer n => Number.isInRange n
  | .float spelling => Number.fitsDouble spelling.toList
  | .array elements => elementsSound elements
  | .table _ entries =>
      match Table.carried? entries with
      | some value => value.isDateText
      | none => entriesSound entries
  | .tables closed last =>
      tablesSound closed &&
        match Table.carried? last with
        | some value => value.isDateText
        | none => entriesSound last
  | .text _ | .boolean _ | .dateTime _ => true

def elementsSound : List Value → Bool
  | [] => true
  | value :: rest => sound value && elementsSound rest

def entriesSound : List (String × Value) → Bool
  | [] => true
  | (_, value) :: rest => sound value && entriesSound rest

def tablesSound : List (List (String × Value)) → Bool
  | [] => true
  | table :: rest =>
      (match Table.carried? table with
        | some value => value.isDateText
        | none => entriesSound table) && tablesSound rest

end

end JsonClasses.Toml
