/-!
# Coded enumerations

An enumeration of the standard gives each of its values a native number and a name. A name is looked
up in the list of the values; an enumeration whose numbers are read has a table of its own for that.
-/

namespace PassThru

/-- An enumeration whose values have a native number and a name each. -/
class Coded (α : Type) where
  /-- Every value, in the order of the standard. -/
  all : List α
  /-- The native number of a value. -/
  code : α → UInt32
  /-- The name of a value. -/
  name : α → String

namespace Coded

variable {α : Type} [Coded α]

/-- The value with a given name. -/
def ofName? (s : String) : Option α := (all : List α).find? fun a => name a == s

end Coded

end PassThru
