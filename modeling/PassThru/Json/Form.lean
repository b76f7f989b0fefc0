import PassThru.Json.Basic
import PassThru.Standard.Coded

/-!
# JSON forms

The JSON form of numbers, texts, lists and named constants. A number is read only if it fits its
type.
-/

namespace PassThru

/-- A type with a JSON form. -/
class JsonForm (α : Type) where
  toJson : α → Json
  ofJson? : Json → Option α

export JsonForm (toJson ofJson?)

namespace Json

/-- A whole number below a bound. -/
def natBelow? (bound : Nat) : Json → Option Nat
  | int value => if 0 ≤ value ∧ value < bound then some value.toNat else none
  | _ => none

def items? : Json → Option (List Json)
  | array items => some items
  | _ => none

def text? : Json → Option String
  | string text => some text
  | _ => none

end Json

instance : JsonForm UInt8 where
  toJson n := .int n.toNat
  ofJson? j := (j.natBelow? UInt8.size).map UInt8.ofNat

instance : JsonForm UInt32 where
  toJson n := .int n.toNat
  ofJson? j := (j.natBelow? UInt32.size).map UInt32.ofNat

instance : JsonForm UInt64 where
  toJson n := .int n.toNat
  ofJson? j := (j.natBelow? UInt64.size).map UInt64.ofNat

instance : JsonForm String where
  toJson := .string
  ofJson? := Json.text?

instance {α : Type} [JsonForm α] : JsonForm (List α) where
  toJson list := .array (list.map toJson)
  ofJson? j := j.items?.bind fun items => items.mapM ofJson?

instance {α : Type} [JsonForm α] : JsonForm (Option α) where
  toJson
    | some a => toJson a
    | none => .null
  ofJson?
    | .null => some none
    | j => (ofJson? j).map some

/-- A value of an enumeration is the name of it. -/
@[reducible] def Coded.jsonForm {α : Type} [Coded α] : JsonForm α where
  toJson a := .string (Coded.name a)
  ofJson? j := j.constant?.bind Coded.ofName?

/-- A field that has a default for when it is missing. -/
def ofJsonOr? {α : Type} [JsonForm α] (default : α) : Option Json → Option α
  | none => some default
  | some j => ofJson? j

end PassThru
