import PassThru.Settings.Value
import PassThru.Toml.Reader

/-!
# Sources of settings

A source assigns values to keys, one after the other; a later assignment of a key replaces an
earlier one, whatever the case of the letters. A key can also be a path into a value, such as
`a.b` or `a[0]`: that makes a table or an array of its first part.

Environment variables are a source too: those whose name starts with `J2534_`, in any case.
-/

namespace PassThru

/-- A key with the value it is given. -/
structure Assignment where
  key : String
  value : SettingValue
  deriving DecidableEq, Repr

namespace Assignment

/-- A letter in lower case. The Kelvin sign is a capital K. -/
def lowerChar (c : Char) : Char := if c = '\u212A' then 'k' else c.toLower

def lower (cs : List Char) : String := String.ofList (cs.map lowerChar)

def isNameChar (c : Char) : Bool := c.isAlphanum || c = ' ' || c = '_' || c = '-'

/-- Whether a text is an index of an array: an integer without a plus sign, perhaps between
blanks. -/
def isIndex (cs : List Char) : Bool :=
  let cs := ((Toml.skipBlanks cs).reverse.dropWhile Toml.isBlank).reverse
  cs.head? != some '+' && (Literal.int64? cs).isSome

/-- Whether a path goes on properly after a name. -/
def isPathTail : Nat → List Char → Bool
  | _, [] => true
  | 0, _ => false
  | limit + 1, '.' :: rest =>
    let (name, rest) := rest.span isNameChar
    !name.isEmpty && isPathTail limit rest
  | limit + 1, '[' :: rest =>
    let (index, rest) := rest.span (· != ']')
    isIndex index && !rest.isEmpty && isPathTail limit rest.tail
  | _, _ => false

/-- The setting that an assignment changes, and what becomes of it. -/
def target (a : Assignment) : String × SettingValue :=
  let (name, rest) := a.key.toList.span isNameChar
  if !name.isEmpty && !rest.isEmpty && isPathTail rest.length rest then (lower name, .composite)
  else (lower a.key.toList, a.value)

/-- What the setting of a name is given by a list of assignments: the last value. A table without
keys counts only where there is no other value. -/
def valueOf? (assignments : List Assignment) (name : String) : Option SettingValue :=
  let values := (assignments.map target).filterMap fun (key, value) =>
    if key = name then some value else none
  (values.filter (· != .emptyTable)).getLast? <|> values.getLast?

end Assignment

/-- What the names of the environment variables with settings start with. -/
def variablePrefix : String := "j2534_"

/-- The assignments of environment variables. -/
def variableAssignments (environment : List (String × String)) : List Assignment :=
  environment.filterMap fun (name, text) =>
    let name := (Assignment.lower name.toList).toList
    if variablePrefix.toList.isPrefixOf name then
      some ⟨String.ofList (name.drop variablePrefix.length), .ofVariable text⟩
    else none

def documentAssignments (fields : Toml.Fields) : List Assignment :=
  fields.map fun (key, value) => ⟨key, .ofToml value⟩

end PassThru
