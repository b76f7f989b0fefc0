import PassThru.Decimal.Literal

/-!
# Dates and times

A date, a time of day, or a date with a time and perhaps an offset from universal time. The normal
form has a `T` between date and time, `Z` for no offset, no needless zeros behind the seconds, and
an offset whose minutes are less than an hour.

A moment is written as a word of its own or, with wider `Limits`, inside a text.
-/

namespace PassThru.Toml

/-- How far the parts of a time and of an offset may go. -/
structure Limits where
  hour : Nat
  offsetHours : Nat
  offsetMinutes : Nat

/-- The limits of a moment that is a word of a document. -/
def Limits.word : Limits := ⟨23, 23, 59⟩

/-- The limits of a moment inside a text. -/
def Limits.text : Limits := ⟨24, 99, 99⟩

/-- An offset is at most a day. -/
def offsetLimit : Nat := 24 * 60

/-- Exactly `n` digits in front, as a number. -/
def digits? (n : Nat) (cs : List Char) : Option (Nat × List Char) :=
  let digits := cs.take n
  if digits.length = n then (Literal.nat? digits).map fun value => (value, cs.drop n) else none

/-- A number of two digits between two bounds. -/
def twoDigits? (low high : Nat) (cs : List Char) : Option (Nat × List Char) := do
  let (value, rest) ← digits? 2 cs
  if low ≤ value ∧ value ≤ high then some (value, rest) else none

/-- The input after a given character. -/
def after? (c : Char) : List Char → Option (List Char)
  | d :: rest => if d = c then some rest else none
  | [] => none

def daysIn (year month : Nat) : Nat :=
  if month = 2 then
    if year % 4 = 0 ∧ (year % 100 ≠ 0 ∨ year % 400 = 0) then 29 else 28
  else if [4, 6, 9, 11].contains month then 30
  else 31

def date? (cs : List Char) : Option (List Char × List Char) := do
  let (year, rest) ← digits? 4 cs
  let rest ← after? '-' rest
  let (month, rest) ← twoDigits? 1 12 rest
  let rest ← after? '-' rest
  let (day, rest) ← twoDigits? 1 31 rest
  if day ≤ daysIn year month then some (cs.take 10, rest) else none

/-- Digits of a second, without what is beyond a nanosecond and without zeros at the end. -/
def fraction (digits : List Char) : List Char :=
  let kept := ((digits.take 9).reverse.dropWhile (· == '0')).reverse
  if kept.isEmpty then [] else '.' :: kept

/-- A time of day in front of the input. -/
def time? (limits : Limits) (cs : List Char) : Option (List Char × List Char) := do
  let (_, rest) ← twoDigits? 0 limits.hour cs
  let rest ← after? ':' rest
  let (_, rest) ← twoDigits? 0 59 rest
  let rest ← after? ':' rest
  let (_, rest) ← twoDigits? 0 60 rest
  match rest with
  | '.' :: rest =>
    let (digits, rest) := rest.span Char.isDigit
    if digits.isEmpty then none else some (cs.take 8 ++ fraction digits, rest)
  | rest => some (cs.take 8, rest)

def twoDigits (n : Nat) : List Char := [Nat.digitChar (n / 10), Nat.digitChar (n % 10)]

/-- An offset of some minutes. None at all is positive. -/
def offset (negative : Bool) (minutes : Nat) : List Char :=
  (if negative && minutes != 0 then '-' else '+')
    :: twoDigits (minutes / 60) ++ ':' :: twoDigits (minutes % 60)

/-- An offset, which ends the input. -/
def offset? (limits : Limits) : List Char → Option (List Char)
  | [] => some []
  | ['Z'] => some ['Z']
  | ['z'] => some ['Z']
  | sign :: rest => do
    if sign ≠ '+' ∧ sign ≠ '-' then none
    let (hours, tail) ← twoDigits? 0 limits.offsetHours rest
    let tail ← after? ':' tail
    let (minutes, tail) ← twoDigits? 0 limits.offsetMinutes tail
    let total := hours * 60 + minutes
    if tail.isEmpty ∧ total ≤ offsetLimit then some (offset (sign = '-') total) else none

/-- A time of day with an offset. -/
def offsetTime? (limits : Limits) (cs : List Char) : Option (List Char) := do
  let (time, rest) ← time? limits cs
  let offset ← offset? limits rest
  return time ++ offset

/-- A moment in normal form. -/
def moment? (limits : Limits) (cs : List Char) : Option (List Char) :=
  match date? cs with
  | some (date, []) => some date
  | some (date, c :: rest) =>
    if c = 'T' ∨ c = 't' ∨ c = ' ' then
      (offsetTime? limits rest).map fun time => date ++ 'T' :: time
    else none
  | none =>
    match time? limits cs with
    | some (time, []) => some time
    | _ => none

end PassThru.Toml
