import PassThru.Model.Handle

/-!
# Channel sets
-/

namespace PassThru

/-- Channels that a select looks at, and how many of them have to be ready. -/
structure ChannelSet where
  threshold : UInt32
  channels : List ChannelId
  deriving DecidableEq, Repr

end PassThru
