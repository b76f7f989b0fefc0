/-!
# Binary floating point

A number of the IEEE binary64 format as an exact value: a sign, and a natural significand times a
power of two.

* `Binary64.ofDecimal` is the nearest number to a decimal, and of two equally near ones the one
  with the even significand.
* `Binary64.roundToNat` is the nearest natural number, a half rounded up; nothing is below zero.
-/

namespace PassThru

/-- A number of the binary64 format. -/
inductive Binary64 where
  | nan
  | infinite (negative : Bool)
  /-- The number `significand * 2 ^ exponent`; zero has a sign too. -/
  | finite (negative : Bool) (significand : Nat) (exponent : Int)
  deriving DecidableEq, Repr

namespace Binary64

def minExponent : Int := -1074

def maxExponent : Int := 971

/-- Significands are below this; from half of it on they are normal. -/
def significandLimit : Nat := 1 <<< 53

/-- A quotient rounded to the nearest natural number, a half to the even one. -/
def divideToEven (num den : Nat) : Nat :=
  let quotient := num / den
  let twice := 2 * (num % den)
  if twice < den then quotient
  else if den < twice then quotient + 1
  else quotient + quotient % 2

/-- The numerator and denominator of `num / den` scaled by a power of two. -/
def scale (num den : Nat) (power : Int) : Nat × Nat :=
  (num <<< power.toNat, den <<< (-power).toNat)

/-- The exponent under which a positive quotient has a normal significand, unless it is too small
for one. -/
def exponentOf (num den : Nat) : Int :=
  let guess : Int := (Nat.log2 num : Int) - Nat.log2 den - 52
  let scaled := scale num den (-guess)
  let exact := if scaled.1 < significandLimit / 2 * scaled.2 then guess - 1 else guess
  max minExponent exact

/-- The nearest number to a positive quotient. -/
def ofQuotient (negative : Bool) (num den : Nat) : Binary64 :=
  let exponent := exponentOf num den
  let scaled := scale num den (-exponent)
  let significand := divideToEven scaled.1 scaled.2
  let (significand, exponent) :=
    if significand = significandLimit then (significand / 2, exponent + 1)
    else (significand, exponent)
  if maxExponent < exponent then infinite negative else finite negative significand exponent

def digitCount (n : Nat) : Nat := (Nat.toDigits 10 n).length

/-- The nearest number to `digits * 10 ^ exponent`. -/
def ofDecimal (negative : Bool) (digits : Nat) (exponent : Int) : Binary64 :=
  let magnitude := digitCount digits + exponent
  if digits = 0 ∨ magnitude < -400 then finite negative 0 minExponent
  else if 400 < magnitude then infinite negative
  else ofQuotient negative (digits * Nat.pow 10 exponent.toNat) (Nat.pow 10 (-exponent).toNat)

/-- The nearest natural number; `none` for an infinite number. -/
def roundToNat : Binary64 → Option Nat
  | nan => some 0
  | infinite negative => if negative then some 0 else none
  | finite negative significand exponent =>
    if negative then some 0
    else
      let scaled := scale significand 1 exponent
      some ((2 * scaled.1 + scaled.2) / (2 * scaled.2))

end Binary64

end PassThru
