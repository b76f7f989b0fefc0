import PassThru.Client

/-!
# The operations of a client

`Operation` lists what a client can be asked for by one request: every entry point, the control
requests with typed arguments, and a read as the settings say. `Operation.perform` does it by the
client's own functions, and `perform_eq_ask` says which request that is.
-/

namespace PassThru

/-- An operation of a client that puts at most one request to its driver. -/
inductive Operation where
  | scanForDevices
  | getNextDevice
  | openDevice (name : Option String)
  | closeDevice (device : DeviceId)
  | readVersion (device : DeviceId)
  | getLastError
  | setProgrammingVoltage (device : DeviceId) (pin : Resource) (voltage : UInt32)
  | connect (device : DeviceId) (protocol : Protocol) (flags baud : UInt32) (resource : Resource)
  | connectRaw (device : DeviceId) (protocolId flags baud : UInt32) (resource : Resource)
  | disconnect (channel : ChannelId)
  | logicalConnect (physical : ChannelId) (protocol : Protocol) (flags : UInt32)
      (descriptor : Descriptor)
  | logicalDisconnect (channel : ChannelId)
  | select (set : ChannelSet) (kind : SelectType) (timeout : UInt32)
  | readMsgs (channel : ChannelId) (max : Nat) (timeout : UInt32)
  | readBatch (channel : ChannelId)
  | queueMsgs (channel : ChannelId) (messages : List Message)
  | startPeriodicMsg (channel : ChannelId) (message : Message) (interval : UInt32)
  | stopPeriodicMsg (channel : ChannelId) (id : PeriodicMsgId)
  | startMsgFilter (channel : ChannelId) (kind : FilterType) (mask pattern : Message)
  | stopMsgFilter (channel : ChannelId) (id : FilterId)
  | ioctl (target : UInt32) (id : Ioctl) (input : ControlInput)
  | getConfig (channel : ChannelId) (parameters : List UInt32)
  | setConfig (channel : ChannelId) (settings : List Setting)
  | readVoltage (device : DeviceId) (pin : Resource)
  | readProgVoltage (device : DeviceId)
  | fiveBaudInit (channel : ChannelId) (address : UInt8)
  | fastInit (channel : ChannelId) (message : Message)
  | clear (channel : ChannelId) (id : Ioctl)

namespace Operation

variable {w : Width} {σ : Type}

/-- What an operation answers. -/
abbrev Value : Operation → Type
  | scanForDevices => UInt32
  | getNextDevice => Device
  | openDevice _ => DeviceId
  | readVersion _ => VersionInfo
  | getLastError => String
  | connect .. | connectRaw .. | logicalConnect .. => ChannelId
  | select .. => ChannelSet
  | readMsgs .. | readBatch _ => List Message
  | queueMsgs .. => Nat
  | startPeriodicMsg .. => PeriodicMsgId
  | startMsgFilter .. => FilterId
  | ioctl .. => ControlOutput
  | getConfig .. => List Setting
  | readVoltage .. | readProgVoltage _ => UInt32
  | fiveBaudInit .. => List UInt8
  | fastInit .. => Message
  | closeDevice _ | setProgrammingVoltage .. | disconnect _ | logicalDisconnect _
  | stopPeriodicMsg .. | stopMsgFilter .. | setConfig .. | clear .. => Unit

/-- Do an operation by the functions of a client. -/
def perform (c : Client w σ) : (o : Operation) → σ → Answer o.Value × σ
  | scanForDevices => c.ask .scanForDevices
  | getNextDevice => c.ask .getNextDevice
  | openDevice name => c.ask (.openDevice name)
  | closeDevice device => c.ask (.closeDevice device)
  | readVersion device => c.ask (.readVersion device)
  | getLastError => c.ask .getLastError
  | setProgrammingVoltage device pin voltage => c.ask (.setProgrammingVoltage device pin voltage)
  | connect device protocol flags baud resource =>
    c.ask (.connect device protocol flags baud resource)
  | connectRaw device protocolId flags baud resource =>
    c.ask (.connectRaw device protocolId flags baud resource)
  | disconnect channel => c.ask (.disconnect channel)
  | logicalConnect physical protocol flags descriptor =>
    c.ask (.logicalConnect physical protocol flags descriptor)
  | logicalDisconnect channel => c.ask (.logicalDisconnect channel)
  | select set kind timeout => c.ask (.select set kind timeout)
  | readMsgs channel max timeout => c.readMsgs channel max timeout
  | readBatch channel => c.readBatch channel
  | queueMsgs channel messages => c.ask (.queueMsgs channel messages)
  | startPeriodicMsg channel message interval =>
    c.ask (.startPeriodicMsg channel message interval)
  | stopPeriodicMsg channel id => c.ask (.stopPeriodicMsg channel id)
  | startMsgFilter channel kind mask pattern => c.ask (.startMsgFilter channel kind mask pattern)
  | stopMsgFilter channel id => c.ask (.stopMsgFilter channel id)
  | ioctl target id input => c.ioctl target id input
  | getConfig channel parameters => c.getConfig channel parameters
  | setConfig channel settings => c.setConfig channel settings
  | readVoltage device pin => c.readVoltage device pin
  | readProgVoltage device => c.readProgVoltage device
  | fiveBaudInit channel address => c.fiveBaudInit channel address
  | fastInit channel message => c.fastInit channel message
  | clear channel id => c.clear channel id

/-- The request of an operation, for a client with the given settings. -/
def request (settings : Settings) : (o : Operation) → Request w o.Value
  | scanForDevices => .scanForDevices
  | getNextDevice => .getNextDevice
  | openDevice name => .openDevice name
  | closeDevice device => .closeDevice device
  | readVersion device => .readVersion device
  | getLastError => .getLastError
  | setProgrammingVoltage device pin voltage => .setProgrammingVoltage device pin voltage
  | connect device protocol flags baud resource => .connect device protocol flags baud resource
  | connectRaw device protocolId flags baud resource =>
    .connectRaw device protocolId flags baud resource
  | disconnect channel => .disconnect channel
  | logicalConnect physical protocol flags descriptor =>
    .logicalConnect physical protocol flags descriptor
  | logicalDisconnect channel => .logicalDisconnect channel
  | select set kind timeout => .select set kind timeout
  | readMsgs channel max timeout => .readMsgs settings.rxBufferSize channel max timeout
  | readBatch channel =>
    .readMsgs settings.rxBufferSize channel settings.readBatchSize.toNat settings.defaultTimeoutMs
  | queueMsgs channel messages => .queueMsgs channel messages
  | startPeriodicMsg channel message interval => .startPeriodicMsg channel message interval
  | stopPeriodicMsg channel id => .stopPeriodicMsg channel id
  | startMsgFilter channel kind mask pattern => .startMsgFilter channel kind mask pattern
  | stopMsgFilter channel id => .stopMsgFilter channel id
  | ioctl target id input => .ioctl settings.rxBufferSize target id input
  | getConfig channel parameters => .getConfig settings.rxBufferSize channel parameters
  | setConfig channel entries => .setConfig settings.rxBufferSize channel entries
  | readVoltage device pin => .readVoltage settings.rxBufferSize device pin
  | readProgVoltage device => .readProgVoltage settings.rxBufferSize device
  | fiveBaudInit channel address => .fiveBaudInit settings.rxBufferSize channel address
  | fastInit channel message => .fastInit settings.rxBufferSize channel message
  | clear channel id => .clear settings.rxBufferSize channel id

/-- An operation is its request, put to the driver once. -/
theorem perform_eq_ask (c : Client w σ) (o : Operation) (state : σ) :
    o.perform c state = c.ask (o.request c.settings) state := by
  cases o <;> rfl

end Operation

end PassThru
