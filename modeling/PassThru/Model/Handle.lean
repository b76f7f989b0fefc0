/-!
# Handles

A library names an open device, a channel, a filter and a periodic message by a 32-bit number each.
The four kinds are types of their own, so that one cannot stand for another.
-/

namespace PassThru

/-- Names an open device. -/
structure DeviceId where
  raw : UInt32
  deriving DecidableEq, Repr

/-- Names a physical or logical channel. -/
structure ChannelId where
  raw : UInt32
  deriving DecidableEq, Repr

/-- Names a message filter of a channel. -/
structure FilterId where
  raw : UInt32
  deriving DecidableEq, Repr

/-- Names a periodic message of a channel. -/
structure PeriodicMsgId where
  raw : UInt32
  deriving DecidableEq, Repr

instance : ToString DeviceId := ⟨fun id => toString id.raw⟩
instance : ToString ChannelId := ⟨fun id => toString id.raw⟩
instance : ToString FilterId := ⟨fun id => toString id.raw⟩
instance : ToString PeriodicMsgId := ⟨fun id => toString id.raw⟩

end PassThru
