import PassThru.Decimal.Literal
import PassThru.Decimal.Shortest
import PassThru.Toml.Value

/-!
# Setting values

What a settings file or an environment variable gives a setting is a text, a number or a boolean.
Each setting reads it as what it needs: a path takes anything as text, a number takes also a
boolean, a fraction and the text of a number.
-/

namespace PassThru

/-- What a setting was given. -/
inductive SettingValue where
  | text (text : String)
  | integer (value : Int)
  | decimal (value : Binary64)
  | boolean (value : Bool)
  /-- An array or a table, which no setting takes. -/
  | composite
  /-- A table without keys, which leaves what it is assigned to as it was. -/
  | emptyTable
  deriving DecidableEq, Repr

namespace SettingValue

/-- The value of an environment variable: a boolean, an integer or a decimal if it reads as one. -/
def ofVariable (text : String) : SettingValue :=
  match String.ofList (text.toList.map Char.toLower) with
  | "true" => boolean true
  | "false" => boolean false
  | _ =>
    match Literal.int64? text.toList with
    | some value => integer value
    | none =>
      match Literal.binary64? text.toList with
      | some value => decimal value
      | none => .text text

def ofToml : Toml.Value → SettingValue
  | .text s => .text s
  | .integer value => integer value
  | .decimal value => decimal value
  | .boolean value => boolean value
  | .moment s => .text s
  | .table _ [] => emptyTable
  | .array _ | .table _ _ | .tables _ => composite

def toText? : SettingValue → Option String
  | .text s => some s
  | integer value => some (toString value)
  | decimal value => some value.text
  | boolean value => some (if value then "true" else "false")
  | composite | emptyTable => none

/-- The greatest number a setting can have. -/
def maxNat : Nat := UInt64.size - 1

/-- The number in a text; some words mean one and zero. -/
def natOfText? (text : String) : Option Nat :=
  match String.ofList (text.toList.map Char.toLower) with
  | "true" | "on" | "yes" => some 1
  | "false" | "off" | "no" => some 0
  | _ => Literal.unsigned? text.toList

/-- The value as a natural number of 64 bits. A decimal is rounded, and moved to the nearest such
number if it is none. -/
def toNat? (value : SettingValue) : Option Nat :=
  let number? :=
    match value with
    | .text s => natOfText? s
    | integer value => if 0 ≤ value then some value.toNat else none
    | decimal value => some (min maxNat (value.roundToNat.getD maxNat))
    | boolean value => some (if value then 1 else 0)
    | composite | emptyTable => none
  number?.filter (· ≤ maxNat)

end SettingValue

end PassThru
