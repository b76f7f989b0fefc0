import PassThru.Decimal.Binary64

/-!
# Shortest decimals

A binary number is written with the fewest digits that read back as the same number, and of the
decimals with so few digits the nearest one, the greater of two equally near ones. The digits stand
around a decimal point at its place; there is no exponent, however many zeros that takes.
-/

namespace PassThru.Binary64

/-- A positive decimal: `digits * 10 ^ exponent`. -/
structure Decimal where
  digits : Nat
  exponent : Int
  deriving DecidableEq, Repr

namespace Decimal

def quotient (d : Decimal) : Nat × Nat :=
  (d.digits * Nat.pow 10 d.exponent.toNat, Nat.pow 10 (-d.exponent).toNat)

/-- A decimal without zeros at its end. -/
def trim (d : Decimal) : Decimal :=
  let zeros := ((Nat.toDigits 10 d.digits).reverse.takeWhile (· == '0')).length
  ⟨d.digits / Nat.pow 10 zeros, d.exponent + zeros⟩

/-- A decimal with its point at its place. -/
def text (d : Decimal) : String :=
  let digits := Nat.toDigits 10 d.digits
  let wholeDigits : Int := digits.length + d.exponent
  if 0 ≤ d.exponent then String.ofList (digits ++ List.replicate d.exponent.toNat '0')
  else if 0 < wholeDigits then
    String.ofList (digits.take wholeDigits.toNat ++ '.' :: digits.drop wholeDigits.toNat)
  else String.ofList ('0' :: '.' :: List.replicate (-wholeDigits).toNat '0' ++ digits)

end Decimal

/-- Whether a decimal reads back as the positive number `significand * 2 ^ exponent`. -/
def readsBack (significand : Nat) (exponent : Int) (d : Decimal) : Bool :=
  d.digits != 0 && ofDecimal false d.digits d.exponent == finite false significand exponent

/-- The exponent of the first decimal digit of a positive quotient. -/
def decimalExponent (num den : Nat) : Int :=
  if den ≤ num then digitCount (num / den) - 1
  else -(digitCount ((den - 1) / num) : Int)

/-- The decimals of `n` digits on either side of a positive number, the nearer one first. -/
def neighbours (significand : Nat) (exponent : Int) (n : Nat) : List Decimal :=
  let (num, den) := scale significand 1 exponent
  let last := decimalExponent num den - (n - 1 : Nat)
  let scaledNum := num * Nat.pow 10 (-last).toNat
  let scaledDen := den * Nat.pow 10 last.toNat
  let below : Decimal := ⟨scaledNum / scaledDen, last⟩
  let above : Decimal := ⟨scaledNum / scaledDen + 1, last⟩
  if 2 * (scaledNum % scaledDen) < scaledDen then [below, above] else [above, below]

/-- Seventeen digits tell any two numbers apart. -/
def maxDigits : Nat := 17

/-- The shortest decimal that reads back as a positive number. -/
def shortest (significand : Nat) (exponent : Int) : Decimal :=
  let candidates := (List.range' 1 maxDigits).flatMap (neighbours significand exponent)
  ((candidates.find? (readsBack significand exponent)).getD ⟨significand, 0⟩).trim

/-- A number in words: its shortest decimal behind its sign. -/
def text : Binary64 → String
  | nan => "NaN"
  | infinite negative => if negative then "-inf" else "inf"
  | finite negative significand exponent =>
    let magnitude := if significand = 0 then "0" else (shortest significand exponent).text
    if negative then "-" ++ magnitude else magnitude

end PassThru.Binary64
