import PassThru.Standard.Flags
import PassThru.Standard.Protocol

/-!
# Messages

One frame of a vehicle network, sent or received.
-/

namespace PassThru

/-- A protocol frame. -/
structure Message where
  protocolId : UInt32 := 0
  msgHandle : UInt32 := 0
  rxStatus : UInt32 := 0
  txFlags : UInt32 := 0
  /-- Time of reception in microseconds. -/
  timestamp : UInt32 := 0
  extraDataIndex : UInt32 := 0
  data : List UInt8 := []
  /-- Room for data on the native side. -/
  bufferSize : UInt32 := 0
  deriving DecidableEq, Repr

namespace Message

/-- An outgoing frame whose buffer is exactly its data. -/
def outgoing (protocol : Protocol) (data : List UInt8) : Message where
  protocolId := protocol.code
  data := data
  bufferSize := UInt32.ofNat data.length
  extraDataIndex := UInt32.ofNat data.length

/-- An empty frame with room for `capacity` bytes. -/
def withCapacity (protocolId capacity : UInt32) : Message where
  protocolId := protocolId
  bufferSize := capacity

/-- The protocol, if its number names one. -/
def protocol? (m : Message) : Option Protocol := Protocol.ofCode? m.protocolId

/-- Whether the frame is the echo of a transmitted one. -/
def isEcho (m : Message) : Bool := FlagSet.sets m.rxStatus txMsgType

/-- Whether the data fit the buffer, as they do in every message that can be handed over. -/
def Fits (m : Message) : Prop := m.data.length ≤ m.bufferSize.toNat

instance (m : Message) : Decidable m.Fits := inferInstanceAs (Decidable (_ ≤ _))

end Message

end PassThru
