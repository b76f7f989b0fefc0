import PassThru.Toml.Moment
import PassThru.Toml.Value

/-!
# Bare words

Every value that is no text, array or table is one word without blanks, but for a date and a time
with a space between them. A word is a boolean, a number or a moment. Underscores may stand between
two digits of a number.
-/

namespace PassThru.Toml

def isWordChar (c : Char) : Bool :=
  c.isAlphanum || c = '_' || c = '+' || c = '-' || c = '.' || c = ':'

/-- Digits with underscores between them, without the underscores. -/
def joined? (isDigit : Char → Bool) : List Char → Option (List Char)
  | [] => none
  | [c] => if isDigit c then some [c] else none
  | c :: '_' :: rest => if isDigit c then (joined? isDigit rest).map (c :: ·) else none
  | c :: rest => if isDigit c then (joined? isDigit rest).map (c :: ·) else none

/-- The digits of a decimal integer; only zero itself starts with a zero. -/
def wholeDigits? (cs : List Char) : Option (List Char) := do
  let digits ← joined? Char.isDigit cs
  if digits.length = 1 ∨ digits.head? ≠ some '0' then some digits else none

def isHexDigit (c : Char) : Bool := c.isDigit || ('a' ≤ c.toLower && c.toLower ≤ 'f')

def int64? (value : Int) : Option Value :=
  if Int64.minValue.toInt ≤ value ∧ value ≤ Int64.maxValue.toInt then some (.integer value)
  else none

/-- An integer, in decimal or behind the mark of another base. -/
def integer? (cs : List Char) : Option Value :=
  let based (base : Nat) (isDigit : Char → Bool) (digits : List Char) : Option Value := do
    let digits ← joined? isDigit digits
    int64? (Literal.ofDigits base digits)
  match cs with
  | '0' :: 'x' :: digits => based 16 isHexDigit digits
  | '0' :: 'o' :: digits => based 8 (fun c => '0' ≤ c && c ≤ '7') digits
  | '0' :: 'b' :: digits => based 2 (fun c => c = '0' || c = '1') digits
  | cs => do
    let (negative, digits) := Literal.sign cs
    let n := Literal.ofDigits 10 (← wholeDigits? digits)
    int64? (if negative then -n else n)

def isExponentMark (c : Char) : Bool := c = 'e' || c = 'E'

/-- The exponent of a decimal; there is none if nothing is left. -/
def exponentDigits? : List Char → Option (List Char)
  | [] => some []
  | mark :: rest => do
    let (negative, digits) := Literal.sign rest
    let digits ← joined? Char.isDigit digits
    return mark :: (if negative then '-' :: digits else digits)

/-- A decimal: a whole part, and a fraction or an exponent or both. One beyond all finite numbers
is refused unless it is negative. -/
def decimal? (cs : List Char) : Option Value := do
  let (negative, magnitude) := Literal.sign cs
  let (whole, rest) := magnitude.span fun c => c != '.' && !isExponentMark c
  let whole ← wholeDigits? whole
  let (places, rest) ←
    match rest with
    | '.' :: rest =>
      let (places, rest) := rest.span fun c => !isExponentMark c
      (joined? Char.isDigit places).map fun places => ('.' :: places, rest)
    | [] => none
    | rest => some ([], rest)
  let exponent ← exponentDigits? rest
  let value ← Literal.decimal? negative (whole ++ places ++ exponent)
  if value = .infinite false then none else some (.decimal value)

/-- An infinity or NaN by name. -/
def special? (cs : List Char) : Option Value :=
  let (negative, name) := Literal.sign cs
  if name = "inf".toList then some (.decimal (.infinite negative))
  else if name = "nan".toList then some (.decimal .nan)
  else none

def boolean? (cs : List Char) : Option Value :=
  if cs = "true".toList then some (.boolean true)
  else if cs = "false".toList then some (.boolean false)
  else none

/-- The value of a word. -/
def wordValue? (word : List Char) : Option Value :=
  boolean? word <|> special? word
    <|> (moment? .word word).map (fun text => .moment (String.ofList text))
    <|> decimal? word <|> integer? word

/-- A word in front of the input; a date takes the time after one space with it. -/
def takeWord (input : List Char) : List Char × List Char :=
  let (word, rest) := input.span isWordChar
  match rest with
  | ' ' :: c :: more =>
    if c.isDigit && (date? word).any (·.2.isEmpty) then
      let (time, rest) := (c :: more).span isWordChar
      (word ++ ' ' :: time, rest)
    else (word, rest)
  | rest => (word, rest)

end PassThru.Toml
