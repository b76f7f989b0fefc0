import PassThru.Toml.Reader

/-!
# Quoted texts

A text stands between quotation marks, where a backslash escapes, or between apostrophes, where
nothing does. Between three of either it may span lines: the line end directly behind the opening
is dropped, a carriage return before a line feed too, and up to two quotes may stand in front of
the closing ones. A backslash at the end of a line removes the blanks and lines that follow.
-/

namespace PassThru.Toml

/-- The character of an escape that is one letter. -/
def escape? : Char → Option Char
  | 'b' => some '\x08'
  | 't' => some '\t'
  | 'n' => some '\n'
  | 'f' => some '\x0c'
  | 'r' => some '\r'
  | '"' => some '"'
  | '\\' => some '\\'
  | _ => none

def hexValue? (c : Char) : Option Nat :=
  if c.isDigit then some (c.toNat - 48)
  else if 'a' ≤ c.toLower && c.toLower ≤ 'f' then some (c.toLower.toNat - 87)
  else none

/-- The character of a code in hexadecimal digits. -/
def codeChar? (digits : List Char) : Option Char := do
  let values ← digits.mapM hexValue?
  let code := values.foldl (fun n d => n * 16 + d) 0
  if code.isValidChar then some (Char.ofNat code) else none

/-- Put a character in front of a text that was read. -/
def prepend (c : Option Char) (read : Option (List Char × List Char)) :
    Option (List Char × List Char) := do
  let c ← c
  let (text, rest) ← read
  return (c :: text, rest)

/-- The rest of a text between quotation marks. -/
def basicText : Reader (List Char)
  | '"' :: rest => some ([], rest)
  | '\\' :: 'u' :: a :: b :: c :: d :: rest => prepend (codeChar? [a, b, c, d]) (basicText rest)
  | '\\' :: 'U' :: a :: b :: c :: d :: e :: f :: g :: h :: rest =>
    prepend (codeChar? [a, b, c, d, e, f, g, h]) (basicText rest)
  | '\\' :: c :: rest => prepend (escape? c) (basicText rest)
  | c :: rest => if isPlain c then prepend (some c) (basicText rest) else none
  | [] => none

/-- The rest of a text between apostrophes. -/
def literalText : Reader (List Char)
  | '\'' :: rest => some ([], rest)
  | c :: rest => if isPlain c then prepend (some c) (literalText rest) else none
  | [] => none

/-- Where a text over several lines is: in its characters, behind a backslash that ends a line, or
in the blank lines after that. -/
inductive Position where
  | inText
  | atLineEnd
  | inGap
  deriving DecidableEq, Repr

/-- The rest of a text between three quotation marks. -/
def basicLines : Position → Reader (List Char)
  | .atLineEnd, '\n' :: rest => basicLines .inGap rest
  | .atLineEnd, '\r' :: '\n' :: rest => basicLines .inGap rest
  | .atLineEnd, c :: rest => if isBlank c then basicLines .atLineEnd rest else none
  | .inGap, '\n' :: rest => basicLines .inGap rest
  | .inGap, '\r' :: '\n' :: rest => basicLines .inGap rest
  | .inGap, ' ' :: rest => basicLines .inGap rest
  | .inGap, '\t' :: rest => basicLines .inGap rest
  | _, '"' :: '"' :: '"' :: '"' :: '"' :: rest => some (['"', '"'], rest)
  | _, '"' :: '"' :: '"' :: '"' :: rest => some (['"'], rest)
  | _, '"' :: '"' :: '"' :: rest => some ([], rest)
  | _, '\n' :: rest => prepend (some '\n') (basicLines .inText rest)
  | _, '\r' :: '\n' :: rest => prepend (some '\n') (basicLines .inText rest)
  | _, '\\' :: 'u' :: a :: b :: c :: d :: rest =>
    prepend (codeChar? [a, b, c, d]) (basicLines .inText rest)
  | _, '\\' :: 'U' :: a :: b :: c :: d :: e :: f :: g :: h :: rest =>
    prepend (codeChar? [a, b, c, d, e, f, g, h]) (basicLines .inText rest)
  | _, '\\' :: '\n' :: rest => basicLines .inGap rest
  | _, '\\' :: '\r' :: '\n' :: rest => basicLines .inGap rest
  | _, '\\' :: c :: rest =>
    if isBlank c then basicLines .atLineEnd rest
    else prepend (escape? c) (basicLines .inText rest)
  | _, c :: rest => if isPlain c then prepend (some c) (basicLines .inText rest) else none
  | _, [] => none

/-- The rest of a text between three apostrophes. -/
def literalLines : Reader (List Char)
  | '\'' :: '\'' :: '\'' :: '\'' :: '\'' :: rest => some (['\'', '\''], rest)
  | '\'' :: '\'' :: '\'' :: '\'' :: rest => some (['\''], rest)
  | '\'' :: '\'' :: '\'' :: rest => some ([], rest)
  | '\n' :: rest => prepend (some '\n') (literalLines rest)
  | '\r' :: '\n' :: rest => prepend (some '\n') (literalLines rest)
  | c :: rest => if isPlain c then prepend (some c) (literalLines rest) else none
  | [] => none

/-- The input after the end of a line, if it starts with one. -/
def dropNewline (input : List Char) : List Char := ((newline input).map (·.2)).getD input

def lineText : Reader String
  | '"' :: rest => (basicText rest).map fun (text, rest) => (String.ofList text, rest)
  | '\'' :: rest => (literalText rest).map fun (text, rest) => (String.ofList text, rest)
  | _ => none

/-- A text of any of the four kinds. -/
def anyText : Reader String
  | '"' :: '"' :: '"' :: rest =>
    (basicLines .inText (dropNewline rest)).map fun (text, rest) => (String.ofList text, rest)
  | '\'' :: '\'' :: '\'' :: rest =>
    (literalLines (dropNewline rest)).map fun (text, rest) => (String.ofList text, rest)
  | input => lineText input

end PassThru.Toml
