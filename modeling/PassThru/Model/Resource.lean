import PassThru.Standard.Constants

/-!
# Connector pins
-/

namespace PassThru

/-- Pins of a connector, for a channel or a programming voltage. -/
structure Resource where
  connector : UInt32
  pins : List UInt32
  deriving DecidableEq, Repr

/-- Pins of the diagnostic connector. -/
def Resource.j1962 (pins : List UInt32) : Resource := ⟨Connector.j1962, pins⟩

end PassThru
