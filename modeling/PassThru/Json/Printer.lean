import PassThru.Json.Basic
import PassThru.Text.Hex

/-!
# JSON texts

Two written forms of a JSON value. `Json.compact` has no blanks at all; `Json.pretty` has one item
per line, indented by two blanks a level. In a text only quotes, backslashes and control characters
are escaped.
-/

namespace PassThru.Json

/-! ## Texts -/

/-- A character inside a quoted text. -/
def escapeChar (c : Char) : List Char :=
  if c = '"' then ['\\', '"']
  else if c = '\\' then ['\\', '\\']
  else if c = '\n' then ['\\', 'n']
  else if c = '\r' then ['\\', 'r']
  else if c = '\t' then ['\\', 't']
  else if c.toNat = 8 then ['\\', 'b']
  else if c.toNat = 12 then ['\\', 'f']
  else if c.toNat < 32 then ['\\', 'u', '0', '0'] ++ Hex.lower (UInt8.ofNat c.toNat)
  else [c]

def quote (text : String) : String :=
  String.ofList ('"' :: text.toList.flatMap escapeChar ++ ['"'])

/-- A number with a fraction: its mantissa and its exponent. -/
def fractionText (mantissa exponent : Int) : String :=
  toString mantissa ++ "e" ++ toString exponent

/-- Items between brackets. -/
def bracket (left right : Char) (content : String) : String :=
  String.singleton left ++ content ++ String.singleton right

/-! ## Without blanks -/

mutual

/-- A value without blanks. -/
def compact : Json → String
  | null => "null"
  | bool value => if value then "true" else "false"
  | int value => toString value
  | fraction mantissa exponent => fractionText mantissa exponent
  | string text => quote text
  | array items => bracket '[' ']' (",".intercalate (compactItems items))
  | object fields => bracket '{' '}' (",".intercalate (compactFields fields))

def compactItems : List Json → List String
  | [] => []
  | item :: rest => item.compact :: compactItems rest

def compactFields : List (String × Json) → List String
  | [] => []
  | (name, value) :: rest => (quote name ++ ":" ++ value.compact) :: compactFields rest

end

/-! ## Over several lines -/

/-- The start of a line at a level. -/
def newline (level : Nat) : String := String.ofList ('\n' :: List.replicate (2 * level) ' ')

/-- Lines between brackets; the brackets stand at `level`. -/
def block (left right : Char) (level : Nat) (lines : List String) : String :=
  if lines.isEmpty then bracket left right ""
  else
    bracket left right
      (newline (level + 1) ++ ("," ++ newline (level + 1)).intercalate lines ++ newline level)

mutual

/-- A value that starts at a level. -/
def prettyFrom (level : Nat) : Json → String
  | null => "null"
  | bool value => if value then "true" else "false"
  | int value => toString value
  | fraction mantissa exponent => fractionText mantissa exponent
  | string text => quote text
  | array items => block '[' ']' level (prettyItems (level + 1) items)
  | object fields => block '{' '}' level (prettyFields (level + 1) fields)

/-- The items of an array, each on lines of its own. -/
def prettyItems (level : Nat) : List Json → List String
  | [] => []
  | item :: rest => item.prettyFrom level :: prettyItems level rest

/-- The fields of an object, each on lines of its own. -/
def prettyFields (level : Nat) : List (String × Json) → List String
  | [] => []
  | (name, value) :: rest =>
    (quote name ++ ": " ++ value.prettyFrom level) :: prettyFields level rest

end

/-- A value over several lines. -/
def pretty (j : Json) : String := j.prettyFrom 0

end PassThru.Json
