/-!
# Hexadecimal bytes
-/

namespace PassThru.Hex

def lower (b : UInt8) : List Char := [Nat.digitChar (b.toNat / 16), Nat.digitChar (b.toNat % 16)]

def upper (b : UInt8) : List Char := (lower b).map Char.toUpper

end PassThru.Hex
