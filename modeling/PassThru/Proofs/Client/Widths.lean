import PassThru.Proofs.Client.Draining
import PassThru.Proofs.Client.Operations
import PassThru.Proofs.Emulator.Widening

/-!
# Clients at both widths

A client of an emulated library sees the same whether the library is built with 32-bit or with
64-bit numbers.

* `Request.Widens` relates a request at 32 bits to the same one at 64 bits: they are settled alike,
  or the call of the one is the widened call of the other and equal replies give equal answers.
* `Operation.request_widens`: every operation has related requests.
* `Action.perform_eq`: so every step of a run has the same answer, and leaves the same state.
* `observe_eq`: the same for whole runs.
-/

namespace PassThru

open Emulator (State Interface)

variable {α β β' : Type}

namespace Request

/-- Requests that mean the same at the two widths. -/
inductive Widens : Request .w32 α → Request .w64 α → Prop where
  | settled (answer : Answer α) : Widens (settled answer) (settled answer)
  | ask {call : Call .w32} {finish : Reply call → Answer α}
      {finish' : Reply call.widen → Answer α} (h : ∀ reply, finish' reply.widen = finish reply) :
      Widens (ask call finish) (ask call.widen finish')

theorem Widens.perform_eq {r : Request .w32 α} {r' : Request .w64 α} (h : Widens r r') (s : State) :
    r.perform Emulator.driver s = r'.perform Emulator.driver s := by
  cases h with
  | settled answer => rfl
  | @ask call finish finish' h =>
    show (finish (Emulator.driver call s).1, (Emulator.driver call s).2) =
      (finish' (Emulator.driver call.widen s).1, (Emulator.driver call.widen s).2)
    rw [Emulator.driver_widen, h]

theorem Widens.andThen {r : Request .w32 α} {r' : Request .w64 α} (h : Widens r r')
    (f : α → Answer β) : Widens (r.andThen f) (r'.andThen f) := by
  cases h with
  | settled answer => exact .settled _
  | ask h => exact .ask fun reply => congrArg (· >>= f) (h reply)

theorem widens_afterSuccess {call : Call .w32} {read : call.Memory → Answer α}
    {read' : call.widen.Memory → Answer α}
    (h : ∀ memory, read' (call.widenMemory memory) = read memory) :
    Widens (afterSuccess call read) (afterSuccess call.widen read') := by
  refine .ask fun reply => ?_
  show (ErrorCode.check reply.status >>= fun _ => read' (call.widenMemory reply.memory)) = _
  rw [h]

/-- An argument that is encoded at each width. -/
theorem widens_prepared {argument : Answer β} {argument' : Answer β'} {f : β → β'}
    {next : β → Answer (Request .w32 α)} {next' : β' → Answer (Request .w64 α)}
    (hargument : argument' = argument.map f)
    (h : ∀ b, Widens (prepared (next b)) (prepared (next' (f b)))) :
    Widens (prepared (argument >>= next)) (prepared (argument' >>= next')) := by
  rw [hargument]
  cases argument with
  | error e => exact .settled _
  | ok b => exact h b

theorem widens_call {call : Call .w32} {read : call.Memory → Answer α}
    {read' : call.widen.Memory → Answer α}
    (h : ∀ memory, read' (call.widenMemory memory) = read memory) :
    Widens (prepared (pure (afterSuccess call read)))
      (prepared (pure (afterSuccess call.widen read'))) :=
  widens_afterSuccess h

theorem readOutput_widen (field : String) (output : Option (Word .w32)) :
    readOutput field (output.map Word.widen) = readOutput field output := by
  cases output <;> rfl

/-- The same for a handle that is made of the number. -/
theorem map_readOutput_widen (field : String) (make : UInt32 → α) (output : Option (Word .w32)) :
    (readOutput field (output.map Word.widen)).map make = (readOutput field output).map make := by
  rw [readOutput_widen]

theorem scanForDevices_widens : Widens scanForDevices scanForDevices :=
  widens_afterSuccess (readOutput_widen _)

theorem getNextDevice_widens : Widens getNextDevice getNextDevice :=
  widens_afterSuccess fun device => by cases device <;> rfl

theorem openDevice_widens (name : Option String) : Widens (openDevice name) (openDevice name) := by
  apply widens_prepared (f := id)
  · cases name.mapM deviceName <;> rfl
  · intro name
    apply widens_call
    exact map_readOutput_widen _ _

theorem closeDevice_widens (device : DeviceId) : Widens (closeDevice device) (closeDevice device) :=
  widens_afterSuccess fun _ => rfl

theorem readVersion_widens (device : DeviceId) :
    Widens (readVersion device) (readVersion device) :=
  widens_afterSuccess fun _ => rfl

theorem getLastError_widens : Widens getLastError getLastError := widens_afterSuccess fun _ => rfl

theorem setProgrammingVoltage_widens (device : DeviceId) (pin : Resource) (voltage : UInt32) :
    Widens (setProgrammingVoltage device pin voltage)
      (setProgrammingVoltage device pin voltage) := by
  apply widens_prepared pin.encode_widen
  intro pin
  exact widens_call fun _ => rfl

theorem connectRaw_widens (device : DeviceId) (protocolId flags baud : UInt32)
    (resource : Resource) :
    Widens (connectRaw device protocolId flags baud resource)
      (connectRaw device protocolId flags baud resource) := by
  apply widens_prepared resource.encode_widen
  intro resource
  apply widens_call
  exact map_readOutput_widen _ _

theorem disconnect_widens (channel : ChannelId) :
    Widens (disconnect channel) (disconnect channel) :=
  widens_afterSuccess fun _ => rfl

theorem logicalConnect_widens (physical : ChannelId) (protocol : Protocol) (flags : UInt32)
    (descriptor : Descriptor) :
    Widens (logicalConnect physical protocol flags descriptor)
      (logicalConnect physical protocol flags descriptor) := by
  apply widens_afterSuccess
  exact map_readOutput_widen _ _

theorem logicalDisconnect_widens (channel : ChannelId) :
    Widens (logicalDisconnect channel) (logicalDisconnect channel) :=
  widens_afterSuccess fun _ => rfl

theorem select_widens (set : ChannelSet) (kind : SelectType) (timeout : UInt32) :
    Widens (select set kind timeout) (select set kind timeout) := by
  apply widens_prepared set.encode_widen
  intro own
  apply widens_call
  intro written
  cases written with
  | none => exact ChannelSet.decode_widen own
  | some written =>
    show ChannelSet.decode (own.widen.received written.widen) = ChannelSet.decode _
    rw [NativeChannelSet.received_widen, ChannelSet.decode_widen]
    rfl

theorem finishRead_widen (slots : List (NativeMessage .w32)) (status : Status)
    (memory : MessageMemory .w32) :
    finishRead (slots.map NativeMessage.widen) status memory.widen =
      finishRead slots status memory := by
  rcases memory with ⟨written, count⟩
  have hcount : ((count.map Word.widen).getD .zero).toNat = (count.getD .zero).toNat := by
    cases count <;> rfl
  unfold finishRead MessageMemory.widen
  dsimp only
  rw [hcount, List.length_map, getD_map_map, ← List.map_take, NativeMessage.receivedAll_widen,
    Message.decodeFirst_widen]

theorem readMsgs_widens (bufferSize : UInt32) (channel : ChannelId) (max : Nat)
    (timeout : UInt32) :
    Widens (readMsgs bufferSize channel max timeout)
      (readMsgs bufferSize channel max timeout) := by
  unfold readMsgs
  split
  · exact .settled _
  · apply widens_prepared (Word.count_widen _ _)
    intro count
    apply widens_prepared (Message.receiveSlots_widen _ _ _)
    intro slots
    -- a read that runs out of time may answer all the same, so its reply is looked at as a whole
    exact .ask fun reply => finishRead_widen slots reply.status reply.memory

theorem queueMsgs_widens (channel : ChannelId) (messages : List Message) :
    Widens (queueMsgs channel messages) (queueMsgs channel messages) := by
  unfold queueMsgs
  split
  · exact .settled _
  · apply widens_prepared (Message.encodeAll_widen messages)
    intro natives
    rw [List.length_map]
    apply widens_call
    intro memory
    exact map_readOutput_widen "num_msgs" UInt32.toNat memory.count

theorem startPeriodicMsg_widens (channel : ChannelId) (message : Message) (interval : UInt32) :
    Widens (startPeriodicMsg channel message interval)
      (startPeriodicMsg channel message interval) := by
  apply widens_prepared message.encode_widen
  intro native
  apply widens_call
  exact map_readOutput_widen _ _

theorem stopPeriodicMsg_widens (channel : ChannelId) (id : PeriodicMsgId) :
    Widens (stopPeriodicMsg channel id) (stopPeriodicMsg channel id) :=
  widens_afterSuccess fun _ => rfl

theorem startMsgFilter_widens (channel : ChannelId) (kind : FilterType) (mask pattern : Message) :
    Widens (startMsgFilter channel kind mask pattern)
      (startMsgFilter channel kind mask pattern) := by
  apply widens_prepared mask.encode_widen
  intro mask
  apply widens_prepared pattern.encode_widen
  intro pattern
  apply widens_call
  exact map_readOutput_widen _ _

theorem stopMsgFilter_widens (channel : ChannelId) (id : FilterId) :
    Widens (stopMsgFilter channel id) (stopMsgFilter channel id) :=
  widens_afterSuccess fun _ => rfl

theorem ioctl_widens (bufferSize target : UInt32) (id : Ioctl) (input : ControlInput) :
    Widens (ioctl bufferSize target id input) (ioctl bufferSize target id input) := by
  unfold ioctl
  split
  · exact .settled _
  · apply widens_prepared input.encode_widen
    intro own
    apply widens_prepared (ControlOutput.room_widen id bufferSize)
    intro room
    apply widens_call
    intro memory
    show ControlOutput.decode id (own.widen.received memory.input.widen)
      (room.widen.received memory.output.widen) = _
    rw [NativeControl.received_widen, NativeControl.received_widen, ControlOutput.decode_widen]

end Request

theorem Operation.request_widens (settings : Settings) (o : Operation) :
    Request.Widens (o.request settings) (o.request settings) := by
  have ioctl (id : Ioctl) (target : UInt32) (input : ControlInput) :=
    Request.ioctl_widens settings.rxBufferSize target id input
  cases o with
  | scanForDevices => exact Request.scanForDevices_widens
  | getNextDevice => exact Request.getNextDevice_widens
  | openDevice name => exact Request.openDevice_widens name
  | closeDevice device => exact Request.closeDevice_widens device
  | readVersion device => exact Request.readVersion_widens device
  | getLastError => exact Request.getLastError_widens
  | setProgrammingVoltage device pin voltage =>
    exact Request.setProgrammingVoltage_widens device pin voltage
  | connect device protocol flags baud resource =>
    exact Request.connectRaw_widens device protocol.code flags baud resource
  | connectRaw device protocolId flags baud resource =>
    exact Request.connectRaw_widens device protocolId flags baud resource
  | disconnect channel => exact Request.disconnect_widens channel
  | logicalConnect physical protocol flags descriptor =>
    exact Request.logicalConnect_widens physical protocol flags descriptor
  | logicalDisconnect channel => exact Request.logicalDisconnect_widens channel
  | select set kind timeout => exact Request.select_widens set kind timeout
  | readMsgs channel max timeout => exact Request.readMsgs_widens _ channel max timeout
  | readBatch channel => exact Request.readMsgs_widens _ channel _ _
  | queueMsgs channel messages => exact Request.queueMsgs_widens channel messages
  | startPeriodicMsg channel message interval =>
    exact Request.startPeriodicMsg_widens channel message interval
  | stopPeriodicMsg channel id => exact Request.stopPeriodicMsg_widens channel id
  | startMsgFilter channel kind mask pattern =>
    exact Request.startMsgFilter_widens channel kind mask pattern
  | stopMsgFilter channel id => exact Request.stopMsgFilter_widens channel id
  | ioctl target id input => exact ioctl id target input
  | getConfig channel parameters =>
    exact (ioctl .getConfig channel.raw _).andThen ControlOutput.toSettings
  | setConfig channel entries => exact (ioctl .setConfig channel.raw _).andThen _
  | readVoltage device pin =>
    exact (ioctl .readPinVoltage device.raw _).andThen ControlOutput.toMillivolts
  | readProgVoltage device =>
    exact (ioctl .readProgVoltage device.raw .none).andThen ControlOutput.toMillivolts
  | fiveBaudInit channel address =>
    exact (ioctl .fiveBaudInit channel.raw (.bytes [address])).andThen ControlOutput.toBytes
  | fastInit channel message =>
    exact (ioctl .fastInit channel.raw _).andThen ControlOutput.toMessage
  | clear channel id => exact (ioctl id channel.raw _).andThen _

/-! ## Runs -/

/-- What can happen to an emulated library with one client: an operation of that client, a scan for
all devices, or what the owner of the emulation may do. -/
inductive Action where
  | operate (operation : Operation)
  | scanDevices
  | register (interface : Interface)
  | unplug (name : String)
  | inject (channel : ChannelId) (frame : Message)

namespace Action

/-- What an action answers. -/
abbrev Value : Action → Type
  | operate operation => operation.Value
  | scanDevices => List Device
  | register _ => Unit
  | unplug _ | inject .. => Bool

/-- The answer to an action, and the state it leaves. An interface whose name does not fit is not
registered; unplugging and injecting answer whether there is such an interface or channel. -/
def perform {w : Width} (c : Client w State) : (a : Action) → State → Answer a.Value × State
  | operate operation, s => operation.perform c s
  | scanDevices, s => c.scanDevices s
  | register interface, s =>
    match s.register interface with
    | .ok s' => (.ok (), s')
    | .error e => (.error e, s)
  | unplug name, s => (.ok (s.registry.find? name).isSome, s.unplug name)
  | inject channel frame, s =>
    (.ok (s.channels.contains channel.raw), s.inject channel.raw frame)

end Action

/-- What is seen of an action: its answer, and the state it leaves. -/
structure Observation where
  action : Action
  answer : Answer action.Value
  state : State

/-- A client of the emulated library at a width. -/
def emulatedClient (w : Width) (settings : Settings) : Client w State :=
  ⟨Emulator.driver, settings⟩

/-- What is seen of a run. -/
def observe {w : Width} (c : Client w State) : List Action → State → List Observation
  | [], _ => []
  | action :: rest, s =>
    let (answer, s) := action.perform c s
    ⟨action, answer, s⟩ :: observe c rest s

section Runs

variable (settings : Settings)

theorem ask_eq {r : Request .w32 α} {r' : Request .w64 α} (h : Request.Widens r r') (s : State) :
    (emulatedClient .w32 settings).ask r s = (emulatedClient .w64 settings).ask r' s :=
  h.perform_eq s

theorem Operation.perform_eq (o : Operation) (s : State) :
    o.perform (emulatedClient .w32 settings) s = o.perform (emulatedClient .w64 settings) s := by
  rw [perform_eq_ask, perform_eq_ask]
  exact ask_eq settings (o.request_widens settings) s

theorem scanDevices_eq (s : State) :
    (emulatedClient .w32 settings).scanDevices s =
      (emulatedClient .w64 settings).scanDevices s := by
  unfold Client.scanDevices
  rw [ask_eq settings Request.scanForDevices_widens s]
  simp only [Client.drain_congr (ask_eq settings Request.getNextDevice_widens)]

theorem Action.perform_eq (a : Action) (s : State) :
    a.perform (emulatedClient .w32 settings) s = a.perform (emulatedClient .w64 settings) s := by
  cases a with
  | operate operation => exact operation.perform_eq settings s
  | scanDevices => exact scanDevices_eq settings s
  | _ => rfl

theorem observe_eq (actions : List Action) (s : State) :
    observe (emulatedClient .w32 settings) actions s =
      observe (emulatedClient .w64 settings) actions s := by
  induction actions generalizing s with
  | nil => rfl
  | cons action rest ih =>
    unfold observe
    rw [action.perform_eq settings s]
    exact congrArg (_ :: ·) (ih _)

end Runs

/-- **Width independence.** Whatever interfaces there are at first, whatever the settings of the
client and whatever is done: each step of the run has the same answer and leaves the same state with
a 32-bit library as with a 64-bit one. -/
theorem width_independent (registry : Emulator.Registry) (settings : Settings)
    (actions : List Action) :
    observe (emulatedClient .w32 settings) actions (.initial registry) =
      observe (emulatedClient .w64 settings) actions (.initial registry) :=
  observe_eq settings actions (.initial registry)

end PassThru
