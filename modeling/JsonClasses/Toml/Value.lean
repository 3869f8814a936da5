/-! # TOML values

Floats and dates keep their spelling. -/
namespace JsonClasses.Toml

/-- How a table came to be, which decides who may add to it. -/
inductive Origin
  /-- Written in braces; closed. -/
  | inline
  /-- The parent of a table that has a header. -/
  | implied
  /-- The parent of a dotted key. -/
  | dotted
  /-- Opened by its own header. -/
  | header
  deriving DecidableEq, Repr

inductive Value
  | text (s : String)
  | boolean (b : Bool)
  | integer (n : Int)
  | float (spelling : String)
  | dateTime (spelling : String)
  | array (elements : List Value)
  | table (origin : Origin) (entries : List (String × Value))
  /-- The tables of a repeated header `[[…]]`, the open one apart. -/
  | tables (closed : List (List (String × Value))) (last : List (String × Value))

/-- Entries have distinct keys. -/
abbrev Table := List (String × Value)

namespace Table

/-- The least of some keys. -/
def leastKey? : List String → Option String
  | [] => none
  | key :: rest =>
      match leastKey? rest with
      | none => some key
      | some least => some (if least < key then least else key)

def replace (table : Table) (key : String) (value : Value) : Table :=
  table.map fun (k, v) => if k = key then (k, value) else (k, v)

def append (table : Table) (key : String) (value : Value) : Table := table ++ [(key, value)]

/-! ## Headers -/

/-- Changes the table that the path of a header leads to; tables on the way come into being. -/
def alongHeader (change : Table → Option Table) (table : Table) : List String → Option Table
  | [] => change table
  | key :: path =>
      match table.lookup key with
      | none =>
          (alongHeader change [] path).map fun inner => table.append key (.table .implied inner)
      | some (.table .inline _) => none
      | some (.table origin inner) =>
          (alongHeader change inner path).map fun inner => table.replace key (.table origin inner)
      | some (.tables closed last) =>
          (alongHeader change last path).map fun last => table.replace key (.tables closed last)
      | some _ => none

/-- Opens the table of a header `[…]`; only a table that was merely implied may be there. -/
def openTable (key : String) (table : Table) : Option Table :=
  match table.lookup key with
  | none => some (table.append key (.table .header []))
  | some (.table .implied inner) => some (table.replace key (.table .header inner))
  | some _ => none

/-- Opens the next table of a header `[[…]]`. -/
def openNext (key : String) (table : Table) : Option Table :=
  match table.lookup key with
  | none => some (table.append key (.tables [] []))
  | some (.tables closed last) => some (table.replace key (.tables (closed ++ [last]) []))
  | some _ => none

/-! ## Entries -/

/-- Puts a value at a dotted key, given as its path and its last part. Tables with a header of
their own are not entered, and only one that dotted keys made takes the value. -/
def putDotted (key : String) (value : Value) (takes : Bool) (table : Table) :
    List String → Option Table
  | [] => if takes && (table.lookup key).isNone then some (table.append key value) else none
  | k :: path =>
      match table.lookup k with
      | none =>
          (putDotted key value true [] path).map fun inner => table.append k (.table .dotted inner)
      | some (.table .dotted inner) =>
          (putDotted key value true inner path).map fun inner =>
            table.replace k (.table .dotted inner)
      -- made by a header below it: passed through, but it takes nothing
      | some (.table .implied inner) =>
          (putDotted key value false inner path).map fun inner =>
            table.replace k (.table .implied inner)
      | some (.tables closed last) =>
          (putDotted key value false last path).map fun last =>
            table.replace k (.tables closed last)
      | some _ => none

end Table
end JsonClasses.Toml
