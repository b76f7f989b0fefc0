/-!
# Logical channel addressing
-/

namespace PassThru

/-- An address of a logical channel: a CAN identifier and an extension byte. -/
abbrev Address : Type := { bytes : List UInt8 // bytes.length = 5 }

namespace Address

def size : Nat := 5

def zero : Address := ⟨[0, 0, 0, 0, 0], rfl⟩

/-- Five bytes as an address. -/
def ofList? (bytes : List UInt8) : Option Address :=
  if h : bytes.length = 5 then some ⟨bytes, h⟩ else none

end Address

/-- The two ends of a logical channel. -/
structure Descriptor where
  localTxFlags : UInt32
  remoteTxFlags : UInt32
  localAddress : Address
  remoteAddress : Address
  deriving DecidableEq, Repr

end PassThru
