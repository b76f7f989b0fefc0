/-!
# Readers

A reader takes what it reads from the front of the input and answers it with the rest, or `none`.
`many` repeats a reader as long as it succeeds and takes something, so it ends with the input.

Blanks are spaces and tabs; a line ends with a line feed, which a carriage return may precede, or
with the input.
-/

namespace PassThru.Toml

/-- Reads from the front of the input. -/
abbrev Reader (α : Type) : Type := List Char → Option (α × List Char)

/-- As many items as there are. -/
def many {α : Type} (item : Reader α) (input : List Char) : List α × List Char :=
  match item input with
  | none => ([], input)
  | some (a, rest) =>
    if rest.length < input.length then
      let (items, rest) := many item rest
      (a :: items, rest)
    else ([], input)
termination_by input.length

def isBlank (c : Char) : Bool := c = ' ' || c = '\t'

def skipBlanks (input : List Char) : List Char := input.dropWhile isBlank

/-- Whether a character may stand in a comment or a literal text. -/
def isPlain (c : Char) : Bool := c = '\t' || (32 ≤ c.toNat && c.toNat != 127)

def newline : Reader Unit
  | '\n' :: rest => some ((), rest)
  | '\r' :: '\n' :: rest => some ((), rest)
  | _ => none

/-- A comment, without the end of its line. -/
def skipComment : List Char → List Char
  | '#' :: rest => rest.dropWhile isPlain
  | input => input

/-- What may follow a statement on its line: blanks, a comment, and the end of the line or of the
input. -/
def lineEnd (input : List Char) : Option (List Char) :=
  match skipComment (skipBlanks input) with
  | [] => some []
  | rest => (newline rest).map (·.2)

/-- Blanks, comments and ends of lines in an array; a comment takes the end of its line too. -/
def blankLine : Reader Unit
  | [] => none
  | '#' :: rest => newline (rest.dropWhile isPlain)
  | c :: rest => if isBlank c then some ((), rest) else newline (c :: rest)

/-- The input after blanks, comments and ends of lines. -/
def skipLines (input : List Char) : List Char := (many blankLine input).2

end PassThru.Toml
