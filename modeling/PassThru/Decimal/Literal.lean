import PassThru.Decimal.Binary64

/-!
# Number literals

How a number is written in an environment variable or inside a text: decimal digits, a sign in
front, and for a binary number also a point, an exponent, or the name of an infinity or of NaN in
any case.
-/

namespace PassThru.Literal

/-- Whether a literal is negative, and what follows its sign. -/
def sign : List Char → Bool × List Char
  | '-' :: rest => (true, rest)
  | '+' :: rest => (false, rest)
  | cs => (false, cs)

/-- The number that digits stand for. -/
def ofDigits (base : Nat) (digits : List Char) : Nat :=
  digits.foldl (fun n c => n * base + (if c.isDigit then c.toNat - 48 else c.toLower.toNat - 87)) 0

/-- A natural number: decimal digits, at least one. -/
def nat? (cs : List Char) : Option Nat :=
  if !cs.isEmpty && cs.all Char.isDigit then some (ofDigits 10 cs) else none

/-- A natural number with an optional plus sign. -/
def unsigned? : List Char → Option Nat
  | '+' :: rest => nat? rest
  | cs => nat? cs

def int64? (cs : List Char) : Option Int := do
  let (negative, digits) := sign cs
  let n ← nat? digits
  let value : Int := if negative then -n else n
  if Int64.minValue.toInt ≤ value ∧ value ≤ Int64.maxValue.toInt then some value else none

/-- What stands behind the digits of a number: nothing, or an exponent. -/
def exponent? : List Char → Option Int
  | [] => some 0
  | c :: rest =>
    if c = 'e' ∨ c = 'E' then
      let (negative, digits) := sign rest
      (nat? digits).map fun n => if negative then -(n : Int) else n
    else none

/-- A decimal with a point and an exponent, each of them optional. -/
def decimal? (negative : Bool) (cs : List Char) : Option Binary64 := do
  let (whole, rest) := cs.span Char.isDigit
  let (places, rest) :=
    match rest with
    | '.' :: rest => rest.span Char.isDigit
    | rest => ([], rest)
  let digits ← nat? (whole ++ places)
  let exponent ← exponent? rest
  return .ofDecimal negative digits (exponent - places.length)

/-- A binary number. -/
def binary64? (cs : List Char) : Option Binary64 :=
  let (negative, magnitude) := sign cs
  match String.ofList (magnitude.map Char.toLower) with
  | "inf" | "infinity" => some (.infinite negative)
  | "nan" => some .nan
  | _ => decimal? negative magnitude

end PassThru.Literal
