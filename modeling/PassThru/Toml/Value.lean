import PassThru.Decimal.Binary64

/-!
# Values and tables

A TOML document is a table. A table may be defined only once, and what counts as its definition
depends on how it came about; so every table keeps its `Origin`.

* `Fields.define` gives a dotted key its value inside one table.
* `Fields.atHeader` goes to the table of a header.
* `Fields.openTable` and `Fields.openItem` are the headers `[a.b]` and `[[a.b]]`.

Each of them is `none` where the document defines something twice.
-/

namespace PassThru.Toml

/-- How a table came about. -/
inductive Origin where
  /-- By a header of its own. -/
  | header
  /-- By a header of a table inside it; its own header may still follow. -/
  | implied
  /-- By a dotted key; further dotted keys may add to it. -/
  | dotted
  /-- Written between braces; nothing can be added. -/
  | inline
  deriving DecidableEq, Repr

/-- A TOML value. -/
inductive Value where
  | text (text : String)
  | integer (value : Int)
  | decimal (value : Binary64)
  | boolean (value : Bool)
  /-- A date, a time or both, in normal form. -/
  | moment (text : String)
  | array (items : List Value)
  | table (origin : Origin) (fields : List (String × Value))
  /-- Tables that were defined one by one under the same header. -/
  | tables (items : List (List (String × Value)))
  deriving Repr, Inhabited

/-- The keys of a table with their values. -/
abbrev Fields : Type := List (String × Value)

namespace Fields

/-- Give a key a value in place, or at the end if it is new. -/
def set (fields : Fields) (key : String) (value : Value) : Fields :=
  match fields with
  | [] => [(key, value)]
  | (name, old) :: rest =>
    if name = key then (key, value) :: rest else (name, old) :: set rest key value

/-- Add a key that must be new. -/
def add (fields : Fields) (key : String) (value : Value) : Option Fields :=
  if (fields.lookup key).isSome then none else some (fields ++ [(key, value)])

/-- Give the key at the end of a path its value. The keys before it may go through tables that have
no header of their own and through the last of several tables, but the table that gets the key is
one that dotted keys made; `inDotted` tells whether this one is. -/
def defineFrom (inDotted : Bool) (value : Value) : Fields → List String → Option Fields
  | _, [] => none
  | fields, [key] => if inDotted then fields.add key value else none
  | fields, key :: path =>
    match fields.lookup key with
    | none => do
      let inner ← defineFrom true value [] path
      return fields.set key (.table .dotted inner)
    | some (.table .dotted inner) => do
      let inner ← defineFrom true value inner path
      return fields.set key (.table .dotted inner)
    | some (.table .implied inner) => do
      let inner ← defineFrom false value inner path
      return fields.set key (.table .implied inner)
    | some (.tables items) => do
      let last ← items.getLast?
      let last ← defineFrom false value last path
      return fields.set key (.tables (items.dropLast ++ [last]))
    | some _ => none

/-- Give a dotted key its value. -/
def define (fields : Fields) (path : List String) (value : Value) : Option Fields :=
  defineFrom true value fields path

/-- Change the table of a header. Tables on the way that do not exist are implied; of tables that
share a header the last one is meant. -/
def atHeader (change : Fields → Option Fields) : Fields → List String → Option Fields
  | fields, [] => change fields
  | fields, key :: path =>
    match fields.lookup key with
    | none => do
      let inner ← atHeader change [] path
      return fields.set key (.table .implied inner)
    | some (.table origin inner) => do
      if origin = .inline then none
      let inner ← atHeader change inner path
      return fields.set key (.table origin inner)
    | some (.tables items) => do
      let last ← items.getLast?
      let last ← atHeader change last path
      return fields.set key (.tables (items.dropLast ++ [last]))
    | some _ => none

/-- The header of a table: it must not have been defined yet, only implied. Its place among the keys
is that of its header. -/
def openTable (fields : Fields) (path : List String) : Option Fields := do
  let key ← path.getLast?
  fields.atHeader (change key) path.dropLast
where
  change (key : String) (parent : Fields) : Option Fields :=
    match parent.lookup key with
    | none => some (parent.set key (.table .header []))
    | some (.table .implied inner) =>
      some (parent.filter (fun field => field.1 != key) ++ [(key, .table .header inner)])
    | some _ => none

/-- The header of one more of several tables. -/
def openItem (fields : Fields) (path : List String) : Option Fields := do
  let key ← path.getLast?
  fields.atHeader (change key) path.dropLast
where
  change (key : String) (parent : Fields) : Option Fields :=
    match parent.lookup key with
    | none => some (parent.set key (.tables [[]]))
    | some (.tables items) => some (parent.set key (.tables (items ++ [[]])))
    | some _ => none

end Fields

end PassThru.Toml
