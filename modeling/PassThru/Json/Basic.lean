/-!
# JSON values

A JSON value as a tree. A whole number and a number with a fraction are different things here: only
the former can be read as a number of a model.

* `Json.record` is the object of a record, its fields in order.
* `Json.record?` takes a record apart again. It accepts an object, whose other fields it ignores,
  and an array of exactly the fields in order.
* `Json.partialRecord?` does so for a record whose fields may be missing.
-/

namespace PassThru

/-- A JSON value. -/
inductive Json where
  | null
  | bool (value : Bool)
  | int (value : Int)
  /-- A number that is not written as a whole number. -/
  | fraction (mantissa : Int) (exponent : Int)
  | string (text : String)
  | array (items : List Json)
  | object (fields : List (String × Json))
  deriving Repr, BEq, Inhabited

namespace Json

/-- The object of a record. -/
def record (names : List String) (values : List Json) : Json := object (names.zip values)

/-- The fields of a record in order; none of them may be missing. -/
def record? (names : List String) : Json → Option (List Json)
  | object fields => names.mapM fun name => fields.lookup name
  | array items => if items.length = names.length then some items else none
  | _ => none

/-- The fields of a record in order, as far as they are there. An array may end early. -/
def partialRecord? (names : List String) : Json → Option (List (Option Json))
  | object fields => some (names.map fun name => fields.lookup name)
  | array items =>
    if items.length ≤ names.length then
      some (items.map some ++ List.replicate (names.length - items.length) none)
    else none
  | _ => none

/-- The name of a constant: a text, or an object with that one name and nothing under it. -/
def constant? : Json → Option String
  | string text => some text
  | object [(name, null)] => some name
  | _ => none

end Json

end PassThru
