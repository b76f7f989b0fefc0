import PassThru.Error
import PassThru.Text.Utf8

/-!
# Text fields

A native text field is a run of bytes that ends at its first NUL, or with the field.

* `Field.encode` fills a whole field and refuses a text that does not fit.
* `Field.decode` reads a field as far as its first NUL.
* `Field.write` copies as much of a text as fits between two characters.
-/

namespace PassThru.Field

/-- Bytes of a name, version or error text field. -/
def size : Nat := 80

/-- The bytes in front of the first NUL. -/
def content (field : List UInt8) : List UInt8 := field.takeWhile (· != 0)

/-- A text as a field of its own, padded with NULs; at least one of them ends the text. -/
def encode (name : String) (text : String) : Answer (List UInt8) :=
  let bytes := Utf8.encode text
  if bytes.contains 0 then .error (.interiorNul name)
  else if size ≤ bytes.length then .error (.valueTooLarge name (size - 1) bytes.length)
  else .ok (bytes ++ List.replicate (size - bytes.length) 0)

def decode (field : List UInt8) : String := Utf8.decodeLossy (content field)

/-- Whether `bytes`, which are whole characters, can be cut before position `n`. -/
def isBoundary (bytes : List UInt8) (n : Nat) : Bool :=
  match bytes[n]? with
  | none => true
  | some b => !Utf8.isContinuation b

/-- The last position up to `n` at which the bytes can be cut. -/
def boundaryBefore (bytes : List UInt8) : Nat → Nat
  | 0 => 0
  | n + 1 => if isBoundary bytes (n + 1) then n + 1 else boundaryBefore bytes n

/-- The bytes of a text that are written into a field. -/
def truncate (text : String) : List UInt8 :=
  let bytes := Utf8.encode text
  bytes.take (boundaryBefore bytes (min bytes.length (size - 1)))

/-- A field after a text was copied to its start and ended by a NUL. -/
def write (field : List UInt8) (text : String) : List UInt8 :=
  let bytes := truncate text
  bytes ++ 0 :: field.drop (bytes.length + 1)

def blank : List UInt8 := List.replicate size 0

end PassThru.Field
