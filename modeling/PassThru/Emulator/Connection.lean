import PassThru.Emulator.Argument
import PassThru.Emulator.State

/-!
# Connecting channels

A physical channel takes pins of its device for itself: a pin belongs to one channel of a device,
and to none while something is applied to it. A logical channel stands on a physical CAN channel
and goes with it.
-/

namespace PassThru.Emulator

namespace State

/-- The protocol of a physical channel. -/
def physicalProtocol (protocolId : UInt32) : Attempt Protocol :=
  match Protocol.ofCode? protocolId with
  | some protocol => if protocol.isLogical then .error .protocolIdNotSupported else .ok protocol
  | none => .error .protocolIdNotSupported

/-- Whether a pin belongs to a channel of a device. -/
def pinInUse (s : State) (device pin : UInt32) : Bool :=
  (s.channelsOf device).any fun ch => ch.pins.contains pin

/-- Open a channel that was not there, and answer its handle. -/
def addChannel (s : State) (ch : Channel) : UInt32 × State :=
  let id := nextHandle s.issued.channels
  (id,
    { s.setChannel id ch with
      issued := { s.issued with channels := s.issued.channels + 1 } })

/-- A physical channel as it is connected: its bit rate is set, loopback is off, and what the
vehicle sends on its protocol is on the bus. -/
def physicalChannel (s : State) (deviceId : UInt32) (device : OpenDevice) (protocol : Protocol)
    (baud : UInt32) (pins : List UInt32) : Channel where
  device := deviceId
  protocol := protocol
  attachment := .physical pins
  settings := (Table.empty.insert Parameter.dataRate baud).insert Parameter.loopback 0
  bus :=
    match s.registry.find? device.name with
    | some interface => interface.traffic.filter fun frame => frame.protocolId == protocol.code
    | none => []

/-- Connect a physical channel. -/
def connect (s : State) (deviceId protocolId flags baud : UInt32) (request : PinRequest)
    (hasOutput : Bool) : Attempt (UInt32 × State) := do
  let device ← s.device deviceId
  Attempt.require hasOutput .nullParameter
  let protocol ← physicalProtocol protocolId
  Attempt.require (connectFlags.defines flags) .flagNotSupported
  Attempt.require (baud != 0) .baudrateNotSupported
  let pins ← request.pins
  Attempt.require
    (request.connector == Connector.j1962 && !pins.isEmpty && pins.all isPin) .pinNotSupported
  Attempt.require (!pins.any (s.pinInUse deviceId)) .resourceConflict
  Attempt.require (!pins.any device.pins.contains) .pinInUse
  return s.addChannel (s.physicalChannel deviceId device protocol baud pins)

def disconnect (s : State) (id : UInt32) : Attempt State := do
  let ch ← s.channel id
  Attempt.require ch.parent?.isNone .invalidChannelId
  return { s with
    channels := (s.channels.erase id).filter fun _ ch => ch.parent? != some id }

def logicalChannelsOn (s : State) (parent : UInt32) : List Channel :=
  s.channels.values.filter fun ch => ch.parent? == some parent

def logicalConnect (s : State) (physical protocolId : UInt32)
    (localAddress remoteAddress : Address) : Attempt (UInt32 × State) := do
  let parent ← s.channel physical
  Attempt.require (parent.parent?.isNone && parent.protocol == .can) .logChanNotAllowed
  Attempt.require (Protocol.ofCode? protocolId == some .iso15765Logical) .protocolIdNotSupported
  let siblings := s.logicalChannelsOn physical
  Attempt.require (!siblings.any fun ch => ch.addresses? == some (localAddress, remoteAddress))
    .notUnique
  Attempt.require (siblings.length < maxLogicalChannels) .exceededLimit
  return s.addChannel
    { device := parent.device
      protocol := .iso15765Logical
      attachment := .logical physical localAddress remoteAddress }

def logicalDisconnect (s : State) (id : UInt32) : Attempt State := do
  let ch ← s.channel id
  Attempt.require ch.parent?.isSome .invalidChannelId
  return { s with channels := s.channels.erase id }

end State

end PassThru.Emulator
