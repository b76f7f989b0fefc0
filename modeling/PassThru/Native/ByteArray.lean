import PassThru.Native.Number

/-!
# The byte array structure

`SBYTE_ARRAY`: counted bytes.
-/

namespace PassThru

/-- Bytes in native form; `bytes` is `none` for a null pointer. -/
structure NativeByteArray (w : Width) where
  count : Word w
  bytes : Option (List UInt8)
  deriving DecidableEq

namespace NativeByteArray

variable {w : Width}

def encode (bytes : List UInt8) : Answer (NativeByteArray w) := do
  let count ← Word.count "num_of_bytes" bytes.length
  return { count, bytes := pointerTo bytes }

/-- Zeros for the library to fill. -/
def withCapacity (capacity : Nat) : Answer (NativeByteArray w) :=
  encode (List.replicate capacity 0)

def decode (array : NativeByteArray w) : Answer (List UInt8) := do
  let count ← array.count.read "num_of_bytes"
  return (array.bytes.getD []).take count.toNat

/-- The caller's structure after the library has written to it. -/
def received (own written : NativeByteArray w) : NativeByteArray w where
  count := written.count
  bytes := own.bytes.map fun bytes => overwrite bytes (written.bytes.getD [])

end NativeByteArray

end PassThru
