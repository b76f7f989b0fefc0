import PassThru.Client.Request
import PassThru.Standard.FilterType

/-!
# Requests by entry point

One request for each entry point but the control requests: how its arguments are encoded, and how
what the library wrote is decoded. Two of them can be settled without a call although nothing is
wrong: a read of no messages, and queueing none.
-/

namespace PassThru.Request

variable {w : Width}

/-! ## Devices -/

/-- Scan for devices, and answer how many there are. -/
def scanForDevices : Request w UInt32 :=
  afterSuccess (.scanForDevices (some .zero)) (readOutput "device_count")

def getNextDevice : Request w Device :=
  afterSuccess (.getNextDevice (some .blank)) fun device => Device.decode (device.getD .blank)

def deviceName (name : String) : Answer (List UInt8) :=
  let bytes := Utf8.encode name
  if bytes.contains 0 then .error (.interiorNul "name") else .ok bytes

/-- Open the device of a name; `none` hands over a null pointer. -/
def openDevice (name : Option String) : Request w DeviceId :=
  prepared do
    let name ← name.mapM deviceName
    return afterSuccess (.openDevice name (some .zero)) fun device =>
      (readOutput "device_id" device).map DeviceId.mk

def closeDevice (device : DeviceId) : Request w Unit :=
  afterSuccess (.closeDevice (.of32 device.raw)) .ok

/-- The versions of a device and its library. -/
def readVersion (device : DeviceId) : Request w VersionInfo :=
  afterSuccess
    (.readVersion (.of32 device.raw) (some Field.blank) (some Field.blank) (some Field.blank))
    fun memory => .ok {
      firmware := Field.decode (memory.firmware.getD [])
      dll := Field.decode (memory.dll.getD [])
      api := Field.decode (memory.api.getD []) }

/-- What the library says about its last failure. -/
def getLastError : Request w String :=
  afterSuccess (.getLastError (some Field.blank)) fun text => .ok (Field.decode (text.getD []))

/-- Apply a voltage, or one of its special values, to a pin. -/
def setProgrammingVoltage (device : DeviceId) (pin : Resource) (voltage : UInt32) :
    Request w Unit :=
  prepared do
    let pin ← pin.encode
    return afterSuccess (.setProgrammingVoltage (.of32 device.raw) pin (.of32 voltage)) .ok

/-! ## Channels -/

/-- Connect a channel by the number of its protocol. -/
def connectRaw (device : DeviceId) (protocolId flags baud : UInt32) (resource : Resource) :
    Request w ChannelId :=
  prepared do
    let resource ← resource.encode
    return afterSuccess
      (.connect (.of32 device.raw) (.of32 protocolId) (.of32 flags) (.of32 baud) resource
        (some .zero))
      fun channel => (readOutput "channel_id" channel).map ChannelId.mk

def connect (device : DeviceId) (protocol : Protocol) (flags baud : UInt32)
    (resource : Resource) : Request w ChannelId :=
  connectRaw device protocol.code flags baud resource

def disconnect (channel : ChannelId) : Request w Unit :=
  afterSuccess (.disconnect (.of32 channel.raw)) .ok

/-- Connect a logical channel on top of a physical one. -/
def logicalConnect (physical : ChannelId) (protocol : Protocol) (flags : UInt32)
    (descriptor : Descriptor) : Request w ChannelId :=
  afterSuccess
    (.logicalConnect (.of32 physical.raw) (.of32 protocol.code) (.of32 flags)
      (some descriptor.encode) (some .zero))
    fun channel => (readOutput "channel_id" channel).map ChannelId.mk

def logicalDisconnect (channel : ChannelId) : Request w Unit :=
  afterSuccess (.logicalDisconnect (.of32 channel.raw)) .ok

/-- Wait until enough channels are ready, and answer which of them are. -/
def select (set : ChannelSet) (kind : SelectType) (timeout : UInt32) : Request w ChannelSet :=
  prepared do
    let native ← set.encode
    return afterSuccess (.select (some native) (.of32 (Coded.code kind)) (.of32 timeout))
      fun written => ChannelSet.decode ((written.map native.received).getD native)

/-! ## Messages -/

/-- What the reply to a read means. A library that runs out of time after some messages reports a
timeout and says how many there were; these are the answer then. -/
def finishRead (slots : List (NativeMessage w)) (status : Status) (memory : MessageMemory w) :
    Answer (List Message) := do
  let count := min (memory.count.getD .zero).toNat slots.length
  unless status = ErrorCode.timeout.asStatus ∧ 0 < count do
    ErrorCode.check status
  Message.decodeFirst count
    (NativeMessage.receivedAll (slots.take count) (memory.slots.getD []))

/-- Read at most `max` messages, each with room for `bufferSize` bytes. -/
def readMsgs (bufferSize : UInt32) (channel : ChannelId) (max : Nat) (timeout : UInt32) :
    Request w (List Message) :=
  if max = 0 then settled (.ok [])
  else
    prepared do
      let count ← Word.count "num_msgs" max
      let slots ← Message.receiveSlots max 0 bufferSize
      return ask (.readMsgs (.of32 channel.raw) (some slots) (some count) (.of32 timeout))
        fun reply => finishRead slots reply.status reply.memory

/-- Queue messages for transmission, and answer how many were taken. -/
def queueMsgs (channel : ChannelId) (messages : List Message) : Request w Nat :=
  if messages.isEmpty then settled (.ok 0)
  else
    prepared do
      let native ← Message.encodeAll messages
      let count := .of32 (UInt32.ofNat native.length)
      return afterSuccess (.queueMsgs (.of32 channel.raw) (some native) (some count))
        fun memory => (readOutput "num_msgs" memory.count).map UInt32.toNat

/-- Send a message every `interval` milliseconds. -/
def startPeriodicMsg (channel : ChannelId) (message : Message) (interval : UInt32) :
    Request w PeriodicMsgId :=
  prepared do
    let native ← message.encode
    return afterSuccess
      (.startPeriodicMsg (.of32 channel.raw) (some native) (some .zero) (.of32 interval))
      fun id => (readOutput "msg_id" id).map PeriodicMsgId.mk

def stopPeriodicMsg (channel : ChannelId) (id : PeriodicMsgId) : Request w Unit :=
  afterSuccess (.stopPeriodicMsg (.of32 channel.raw) (.of32 id.raw)) .ok

def startMsgFilter (channel : ChannelId) (kind : FilterType) (mask pattern : Message) :
    Request w FilterId :=
  prepared do
    let mask ← mask.encode
    let pattern ← pattern.encode
    return afterSuccess
      (.startMsgFilter (.of32 channel.raw) (.of32 (Coded.code kind)) (some mask) (some pattern)
        (some .zero))
      fun id => (readOutput "filter_id" id).map FilterId.mk

def stopMsgFilter (channel : ChannelId) (id : FilterId) : Request w Unit :=
  afterSuccess (.stopMsgFilter (.of32 channel.raw) (.of32 id.raw)) .ok

end PassThru.Request
