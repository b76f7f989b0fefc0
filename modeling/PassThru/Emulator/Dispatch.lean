import PassThru.Driver
import PassThru.Emulator.Control
import PassThru.Emulator.Devices
import PassThru.Emulator.Schedule
import PassThru.Emulator.Traffic

/-!
# The emulated library as a driver

`perform` answers each call: it narrows the numbers, refuses null pointers, does the operation, and
writes the answer into the memory that came with the call. `Emulator.driver` is the driver that
results; it also remembers the last failure, which `PassThruGetLastError` reports.
-/

namespace PassThru.Emulator

variable {w : Width}

/-- How a call ended: its failure if it failed, the memory it was handed, and the state. -/
structure Outcome (μ : Type) where
  failure? : Option ErrorCode
  memory : μ
  state : State

namespace Outcome

/-- The outcome of an operation that changes nothing when it fails. -/
def ofAttempt {μ : Type} (state : State) (memory : μ) : Attempt (μ × State) → Outcome μ
  | .ok (memory, state) => ⟨none, memory, state⟩
  | .error code => ⟨some code, memory, state⟩

/-- The native status. -/
def status {μ : Type} (outcome : Outcome μ) : Status :=
  match outcome.failure? with
  | none => Status.noError
  | some code => code.asStatus

end Outcome

/-- The outcome of an operation that issues a handle. -/
def issue (s : State) (output : Option (Word w)) (attempt : Attempt (UInt32 × State)) :
    Outcome (Option (Word w)) :=
  .ofAttempt s output <| attempt.map fun (handle, s) => (output.map fun _ => .of32 handle, s)

/-- The outcome of an operation that answers nothing but its status. -/
def change (s : State) (attempt : Attempt State) : Outcome Unit :=
  .ofAttempt s () <| attempt.map fun s => ((), s)

/-- The outcome of a control request that changes the state only. -/
def controlChange (s : State) (memory : ControlMemory w) (attempt : Attempt State) :
    Outcome (ControlMemory w) :=
  .ofAttempt s memory <| attempt.map fun s => (memory, s)

/-- The outcome of a control request that writes its output only. -/
def controlQuery (s : State) (memory : ControlMemory w) (attempt : Attempt (NativeControl w)) :
    Outcome (ControlMemory w) :=
  .ofAttempt s memory <| attempt.map fun output => ({ memory with output }, s)

def performScan (s : State) (count : Option (Word w)) : Outcome (Option (Word w)) :=
  .ofAttempt s count do
    let _ ← Attempt.present count
    let (found, s) := s.scanForDevices
    return (some (.of32 found), s)

def performNextDevice (s : State) (out : Option (NativeDevice w)) :
    Outcome (Option (NativeDevice w)) :=
  .ofAttempt s out do
    let _ ← Attempt.present out
    let device ← s.nextDevice
    match device.encode with
    | .ok native => return (some native, { s with cursor := s.cursor + 1 })
    | .error _ => .error .failed

/-- Opening a device; the name is a C string. -/
def performOpen (s : State) (name : Option (List UInt8)) (device : Option (Word w)) :
    Outcome (Option (Word w)) :=
  issue s device do
    let name ← Attempt.present name
    let _ ← Attempt.present device
    s.openDevice (Field.decode name)

def performLogicalConnect (s : State) (physical protocol : Word w)
    (descriptor : Option (NativeDescriptor w)) (channel : Option (Word w)) :
    Outcome (Option (Word w)) :=
  issue s channel do
    let descriptor ← Attempt.present descriptor
    let _ ← Attempt.present channel
    s.logicalConnect physical.narrow protocol.narrow descriptor.localAddress
      descriptor.remoteAddress

def performSelect (s : State) (set : Option (NativeChannelSet w)) (kind : Word w) :
    Outcome (Option (NativeChannelSet w)) :=
  match selectArguments set kind.narrow with
  | .error code => ⟨some code, set, s⟩
  | .ok (native, ids) =>
    match State.readyAmong ids s with
    | (.error code, s) => ⟨some code, set, s⟩
    | (.ok ready, s) =>
      if ready.length < native.threshold.narrow.toNat then ⟨some .timeout, set, s⟩
      else ⟨none, some (answerSelect native ready), s⟩

def performRead (s : State) (channel : Word w) (memory : MessageMemory w) (timeout : Word w) :
    Outcome (MessageMemory w) :=
  match memory with
  | ⟨some slots, some count⟩ =>
    match s.pump channel.narrow with
    | .error code => ⟨some code, ⟨some slots, some .zero⟩, s⟩
    | .ok (ch, s) =>
      let requested := count.narrow.toNat
      let delivery := deliver requested ch.rx slots
      ⟨delivery.failure? requested timeout.narrow,
        ⟨some delivery.slots, some (.of32 (UInt32.ofNat delivery.count))⟩,
        s.setChannel channel.narrow { ch with rx := delivery.left }⟩
  | memory => ⟨some .nullParameter, memory, s⟩

def performQueue (s : State) (channel : Word w) (memory : MessageMemory w) :
    Outcome (MessageMemory w) :=
  match memory with
  | ⟨some messages, some count⟩ =>
    match s.channel channel.narrow with
    | .error code => ⟨some code, ⟨some messages, some .zero⟩, s⟩
    | .ok ch =>
      let (frames, failure?) := accept ch.protocol (messages.take count.narrow.toNat)
      ⟨failure?, ⟨some messages, some (.of32 (UInt32.ofNat frames.length))⟩,
        s.setChannel channel.narrow (ch.transmit frames)⟩
  | memory => ⟨some .nullParameter, memory, s⟩

def performStartPeriodicMsg (s : State) (channel : Word w) (message : Option (NativeMessage w))
    (id : Option (Word w)) (interval : Word w) : Outcome (Option (Word w)) :=
  issue s id do
    let message ← Attempt.present message
    let _ ← Attempt.present id
    s.startPeriodicMsg channel.narrow message interval.narrow

def performStartMsgFilter (s : State) (channel kind : Word w)
    (mask pattern : Option (NativeMessage w)) (id : Option (Word w)) : Outcome (Option (Word w)) :=
  issue s id do
    let mask ← Attempt.present mask
    let pattern ← Attempt.present pattern
    let _ ← Attempt.present id
    s.startMsgFilter channel.narrow kind.narrow mask pattern

def performReadVersion (s : State) (device : Word w) (memory : VersionMemory) :
    Outcome VersionMemory :=
  .ofAttempt s memory do
    let opened ← s.device device.narrow
    let firmware ← Attempt.present memory.firmware
    let dll ← Attempt.present memory.dll
    let api ← Attempt.present memory.api
    match s.registry.find? opened.name with
    | none => .error .deviceNotConnected
    | some interface =>
      return (
        { firmware := some (Field.write firmware interface.firmwareVersion)
          dll := some (Field.write dll interface.dllVersion)
          api := some (Field.write api interface.apiVersion) }, s)

/-- Reading the text about the last failure. -/
def performGetLastError (s : State) (text : Option (List UInt8)) : Outcome (Option (List UInt8)) :=
  .ofAttempt s text do
    let field ← Attempt.present text
    return (some (Field.write field s.lastError), s)

def performIoctl (s : State) (target id : Word w) (memory : ControlMemory w) :
    Outcome (ControlMemory w) :=
  let ⟨input, output⟩ := memory
  let target := target.narrow
  match Ioctl.ofCode? id.narrow with
  | none => ⟨some .ioctlIdNotSupported, memory, s⟩
  | some request =>
    match request with
    | .getConfig =>
      match s.getConfig target input output with
      | .error code => ⟨some code, memory, s⟩
      | .ok (input, failure?) => ⟨failure?, { memory with input }, s⟩
    | .setConfig => controlChange s memory (s.setConfig target input output)
    | .readPinVoltage => controlQuery s memory (s.readPinVoltage target input output)
    | .readProgVoltage => controlQuery s memory (s.readProgVoltage target input output)
    | .fiveBaudInit => controlQuery s memory (s.fiveBaudInit target input output)
    | .fastInit => controlQuery s memory (s.fastInit target input output)
    | .addToFunctMsgLookupTable =>
      controlChange s memory (s.changeFunctional addFunctional target input output)
    | .deleteFromFunctMsgLookupTable =>
      controlChange s memory (s.changeFunctional deleteFunctional target input output)
    | .clearTxQueue | .clearRxQueue | .clearPeriodicMsgs | .clearMsgFilters
    | .clearFunctMsgLookupTable | .busOn =>
      controlChange s memory (s.clear request target input output)

/-- Answer a call. -/
def perform (s : State) : (call : Call w) → Outcome call.Memory
  | .scanForDevices count => performScan s count
  | .getNextDevice device => performNextDevice s device
  | .openDevice name device => performOpen s name device
  | .closeDevice device => change s (s.closeDevice device.narrow)
  | .connect device protocol flags baud resource channel =>
    issue s channel
      (s.connect device.narrow protocol.narrow flags.narrow baud.narrow (.ofNative resource)
        channel.isSome)
  | .disconnect channel => change s (s.disconnect channel.narrow)
  | .logicalConnect physical protocol _ descriptor channel =>
    performLogicalConnect s physical protocol descriptor channel
  | .logicalDisconnect channel => change s (s.logicalDisconnect channel.narrow)
  | .select set kind _ => performSelect s set kind
  | .readMsgs channel slots count timeout => performRead s channel ⟨slots, count⟩ timeout
  | .queueMsgs channel messages count => performQueue s channel ⟨messages, count⟩
  | .startPeriodicMsg channel message id interval =>
    performStartPeriodicMsg s channel message id interval
  | .stopPeriodicMsg channel id => change s (s.stopPeriodicMsg channel.narrow id.narrow)
  | .startMsgFilter channel kind mask pattern id =>
    performStartMsgFilter s channel kind mask pattern id
  | .stopMsgFilter channel id => change s (s.stopMsgFilter channel.narrow id.narrow)
  | .setProgrammingVoltage device resource voltage =>
    change s (s.setProgrammingVoltage device.narrow (.ofNative resource) voltage.narrow)
  | .readVersion device firmware dll api => performReadVersion s device ⟨firmware, dll, api⟩
  | .getLastError text => performGetLastError s text
  | .ioctl target id input output => performIoctl s target id ⟨input, output⟩

/-- The state after a call: a failure is remembered, unless it is a failure to report one. -/
def remember (entry : EntryPoint) (failure? : Option ErrorCode) (s : State) : State :=
  match failure? with
  | none => s
  | some code =>
    if entry = .getLastError then s else { s with lastFailure := some ⟨entry, code⟩ }

/-- The emulated library. -/
def driver : Driver w State := fun call s =>
  let outcome := perform s call
  (⟨outcome.status, outcome.memory⟩, remember call.entry outcome.failure? outcome.state)

end PassThru.Emulator
