import PassThru.Client.Request

/-!
# Control requests of a client

`Request.ioctl` checks the shape of its input before anything else. The requests after it are the
control requests with the type of their output; that output always has the right shape, since its
shape follows from the request.
-/

namespace PassThru

namespace ControlOutput

/-- The error of an output of an unexpected shape. -/
def unexpected {α : Type} (expected : Ioctl.Shape) (output : ControlOutput) : Answer α :=
  .error (.wrongShape expected output.shape)

def toSettings : ControlOutput → Answer (List Setting)
  | settings list => .ok list
  | other => other.unexpected .configList

def toBytes : ControlOutput → Answer (List UInt8)
  | bytes list => .ok list
  | other => other.unexpected .bytes

def toMessage : ControlOutput → Answer Message
  | message m => .ok m
  | other => other.unexpected .message

/-- The voltage of an output. -/
def toMillivolts : ControlOutput → Answer UInt32
  | millivolts value => .ok value
  | other => other.unexpected .voltage

end ControlOutput

namespace Request

variable {w : Width}

/-- A control request; `target` names a device or a channel, as the request has it. A message that
it answers has room for `bufferSize` bytes. -/
def ioctl (bufferSize target : UInt32) (id : Ioctl) (input : ControlInput) :
    Request w ControlOutput :=
  if input.shape ≠ id.inputShape then
    settled (.error (.wrongShape id.inputShape input.shape))
  else
    prepared do
      let own ← input.encode
      let room ← ControlOutput.room id bufferSize
      return afterSuccess (.ioctl (.of32 target) (.of32 id.code) own room) fun memory =>
        ControlOutput.decode id (own.received memory.input) (room.received memory.output)

def getConfig (bufferSize : UInt32) (channel : ChannelId) (parameters : List UInt32) :
    Request w (List Setting) :=
  (ioctl bufferSize channel.raw .getConfig
    (.settings (parameters.map fun parameter => ⟨parameter, 0⟩))).andThen ControlOutput.toSettings

def setConfig (bufferSize : UInt32) (channel : ChannelId) (settings : List Setting) :
    Request w Unit :=
  (ioctl bufferSize channel.raw .setConfig (.settings settings)).andThen fun _ => .ok ()

/-- The voltage on a pin, in millivolts. -/
def readVoltage (bufferSize : UInt32) (device : DeviceId) (pin : Resource) : Request w UInt32 :=
  (ioctl bufferSize device.raw .readPinVoltage (.resource pin)).andThen ControlOutput.toMillivolts

/-- The programming voltage that is applied, in millivolts. -/
def readProgVoltage (bufferSize : UInt32) (device : DeviceId) : Request w UInt32 :=
  (ioctl bufferSize device.raw .readProgVoltage .none).andThen ControlOutput.toMillivolts

/-- Five-baud initialization of a controller; answers its key bytes. -/
def fiveBaudInit (bufferSize : UInt32) (channel : ChannelId) (address : UInt8) :
    Request w (List UInt8) :=
  (ioctl bufferSize channel.raw .fiveBaudInit (.bytes [address])).andThen ControlOutput.toBytes

/-- Fast initialization of a controller; answers its response. -/
def fastInit (bufferSize : UInt32) (channel : ChannelId) (message : Message) :
    Request w Message :=
  (ioctl bufferSize channel.raw .fastInit (.message message)).andThen ControlOutput.toMessage

/-- A control request without arguments. -/
def clear (bufferSize : UInt32) (channel : ChannelId) (id : Ioctl) : Request w Unit :=
  (ioctl bufferSize channel.raw id .none).andThen fun _ => .ok ()

end Request

end PassThru
