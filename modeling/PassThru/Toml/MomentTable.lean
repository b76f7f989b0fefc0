import PassThru.Toml.Moment
import PassThru.Toml.Value

/-!
# Tables that stand for moments

A table whose first key is `momentKey` stands for a moment: the key holds its text, and what else
the table has is of no account. `Value.resolve?` puts the moments in the place of these tables, and
is `none` where the key holds anything but the text of a moment.
-/

namespace PassThru.Toml

/-- The key that makes a table a moment if it comes first. -/
def momentKey : String := "$__toml_private_datetime"

/-- The moment in the value of `momentKey`. -/
def Value.heldMoment? : Value → Option Value
  | .text s => (moment? .text s.toList).map fun moment => .moment (String.ofList moment)
  | _ => none

mutual

/-- A value with moments in the place of the tables that stand for them. -/
def Value.resolve? : Value → Option Value
  | .array items => (resolveItems? items).map .array
  | .table origin fields => resolveTable? origin fields
  | .tables items => (resolveTables? items).map .array
  | value => some value

/-- A table with moments, or a moment itself. -/
def resolveTable? (origin : Origin) : Fields → Option Value
  | [] => some (.table origin [])
  | (key, value) :: rest =>
    if key = momentKey then value.heldMoment?
    else do
      let value ← value.resolve?
      let rest ← resolveFields? rest
      return .table origin ((key, value) :: rest)

/-- The keys of a table with moments in their values. -/
def resolveFields? : Fields → Option Fields
  | [] => some []
  | (key, value) :: rest => do
    let value ← value.resolve?
    let rest ← resolveFields? rest
    return (key, value) :: rest

/-- The items of an array with moments. -/
def resolveItems? : List Value → Option (List Value)
  | [] => some []
  | item :: rest => do
    let item ← item.resolve?
    let rest ← resolveItems? rest
    return item :: rest

/-- Tables that share a header, with moments. -/
def resolveTables? : List Fields → Option (List Value)
  | [] => some []
  | fields :: rest => do
    let item ← resolveTable? .header fields
    let rest ← resolveTables? rest
    return item :: rest

end

/-- The keys of a document with moments in their values; the document itself is no moment. -/
def Fields.resolve? (fields : Fields) : Option Fields :=
  match resolveTable? .header fields with
  | some (.table _ fields) => some fields
  | _ => none

end PassThru.Toml
