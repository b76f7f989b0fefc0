import PassThru.Proofs.Client.Arguments
import PassThru.Proofs.Client.Operations
import PassThru.Proofs.Client.Outputs

/-!
# The call protocol of a client

Whatever library a client talks to, each of its operations goes one of three ways: an argument that
cannot be handed over is refused, an operation with nothing to do is answered of itself, and any
other is one call. A client looks at what the library wrote only if the status says so, and refuses
it only if a number that it reads is too large for a model.

* `Operation.refusal?`, `Operation.given?`: which operations are not to be put to the library.
* `Operation.Uncounted`: the operations that are to be refused and are not.
* `Operation.value?`: what an operation answers, by what the memory of its call reads as.
* `Request.Keeps`: the three ways; one lemma for each request, by the arguments that it encodes.
* `Operation.keeps`: every operation goes one of the three ways.
* `call_protocol`: what that means for the calls that a library receives, and which operations keep
  to it.
-/

namespace PassThru

variable {w : Width} {σ α β : Type}

/-! ## The operations -/

namespace Operation

/-- The entry point that an operation is a call of. -/
def entry : Operation → EntryPoint
  | scanForDevices => .scanForDevices
  | getNextDevice => .getNextDevice
  | openDevice _ => .openDevice
  | closeDevice _ => .closeDevice
  | readVersion _ => .readVersion
  | getLastError => .getLastError
  | setProgrammingVoltage .. => .setProgrammingVoltage
  | connect .. | connectRaw .. => .connect
  | disconnect _ => .disconnect
  | logicalConnect .. => .logicalConnect
  | logicalDisconnect _ => .logicalDisconnect
  | select .. => .select
  | readMsgs .. | readBatch _ => .readMsgs
  | queueMsgs .. => .queueMsgs
  | startPeriodicMsg .. => .startPeriodicMsg
  | stopPeriodicMsg .. => .stopPeriodicMsg
  | startMsgFilter .. => .startMsgFilter
  | stopMsgFilter .. => .stopMsgFilter
  | ioctl .. | getConfig .. | setConfig .. | readVoltage .. | readProgVoltage _ | fiveBaudInit ..
  | fastInit .. | clear .. => .ioctl

/-- Why the arguments of an operation cannot be encoded, if they cannot. -/
def unencodable? (settings : Settings) : Operation → Option Error
  | openDevice name => name.bind nameRefusal?
  | setProgrammingVoltage _ pin _ => pin.refusal?
  | connect _ _ _ _ resource | connectRaw _ _ _ _ resource => resource.refusal?
  | select set _ _ => lengthRefusal? "channel_count" set.channels.length
  | readMsgs _ max _ => lengthRefusal? "num_msgs" max
  | readBatch _ => lengthRefusal? "num_msgs" settings.readBatchSize.toNat
  | queueMsgs _ messages => messages.findSome? Message.refusal?
  | startPeriodicMsg _ message _ => message.refusal?
  | startMsgFilter _ _ mask pattern => mask.refusal?.or pattern.refusal?
  | ioctl _ id input => id.refusal? input
  | getConfig _ parameters => lengthRefusal? "num_of_params" parameters.length
  | setConfig _ entries => lengthRefusal? "num_of_params" entries.length
  | readVoltage _ pin => pin.refusal?
  | fastInit _ message => message.refusal?
  | clear _ id => id.refusal? .none
  | scanForDevices | getNextDevice | closeDevice _ | readVersion _ | getLastError | disconnect _
  | logicalConnect .. | logicalDisconnect _ | stopPeriodicMsg .. | stopMsgFilter ..
  | readProgVoltage _ | fiveBaudInit .. => none

/-- Why an operation is to be refused, if it is: its arguments cannot be encoded, or there are more
messages to queue than can be counted. -/
def refusal? (settings : Settings) (o : Operation) : Option Error :=
  match o with
  | queueMsgs _ messages =>
    (o.unencodable? settings).or (lengthRefusal? "num_msgs" messages.length)
  | o => o.unencodable? settings

/-- More messages to queue than can be counted, each of which can be encoded. -/
def Uncounted : Operation → Prop
  | queueMsgs _ messages => ¬ Counts messages.length ∧ ∀ m ∈ messages, m.Fits
  | _ => False

/-- What cannot be encoded is refused with an error of the client's own. -/
theorem isRefusal_of_unencodable? {settings : Settings} {o : Operation} {e : Error}
    (h : o.unencodable? settings = some e) : e.IsRefusal := by
  cases o with
  | openDevice name =>
    obtain ⟨name, -, hname⟩ := Option.bind_eq_some_iff.1 h
    exact isRefusal_of_name hname
  | setProgrammingVoltage | connect | connectRaw | select | readMsgs | readBatch | getConfig
  | setConfig | readVoltage => exact isRefusal_of_length h
  | queueMsgs channel messages =>
    obtain ⟨m, -, hm⟩ := List.exists_of_findSome?_eq_some h
    exact isRefusal_of_message hm
  | startPeriodicMsg | fastInit => exact isRefusal_of_message h
  | startMsgFilter channel kind mask pattern =>
    rcases Option.or_eq_some_iff.1 h with hmask | ⟨-, hpattern⟩
    · exact isRefusal_of_message hmask
    · exact isRefusal_of_message hpattern
  | ioctl | clear => exact isRefusal_of_ioctl h
  | _ => cases h

theorem refusal?_of_uncounted (settings : Settings) {channel : ChannelId} {messages : List Message}
    (h : (queueMsgs channel messages).Uncounted) :
    (queueMsgs channel messages).unencodable? settings = none ∧
      (queueMsgs channel messages).refusal? settings =
        some (.valueTooLarge "num_msgs" maxNumber messages.length) := by
  obtain ⟨hcount, hfit⟩ := h
  have hnone := (findSome?_refusal messages).1.2 hfit
  refine ⟨hnone, ?_⟩
  show (messages.findSome? Message.refusal?).or _ = _
  rw [hnone]
  exact if_neg hcount

/-- With this exception, an operation is to be refused if its arguments cannot be encoded. -/
theorem unencodable?_eq_refusal? (settings : Settings) {o : Operation} (h : ¬ o.Uncounted) :
    o.unencodable? settings = o.refusal? settings := by
  cases o with
  | queueMsgs channel messages =>
    show messages.findSome? Message.refusal? = (messages.findSome? Message.refusal?).or _
    cases hrefusal : messages.findSome? Message.refusal? with
    | some e => rfl
    | none =>
      have hcount : Counts messages.length := Decidable.byContradiction fun hcount =>
        h ⟨hcount, (findSome?_refusal messages).1.1 hrefusal⟩
      exact (if_pos hcount).symm
  | _ => rfl

/-- What an operation answers of itself: there is nothing to read, or nothing to queue. -/
def given? (settings : Settings) : (o : Operation) → Option o.Value
  | readMsgs _ max _ => if max = 0 then some [] else none
  | readBatch _ => if settings.readBatchSize.toNat = 0 then some [] else none
  | queueMsgs _ messages => if messages = [] then some (0 : Nat) else none
  | _ => none

/-- The answer of an operation, picked from the outputs of its call. -/
def value? : (o : Operation) → Content → Option o.Value
  | scanForDevices, content => content.number?
  | getNextDevice, .device device => some device
  | openDevice _, content => content.number?.map DeviceId.mk
  | readVersion _, .versions info => some info
  | getLastError, .text text => some text
  | connect .., content => content.number?.map ChannelId.mk
  | connectRaw .., content => content.number?.map ChannelId.mk
  | logicalConnect .., content => content.number?.map ChannelId.mk
  | select .., .channels set => some set
  | readMsgs .., content => content.messages?
  | readBatch _, content => content.messages?
  | queueMsgs .., content => content.number?.map UInt32.toNat
  | startPeriodicMsg .., content => content.number?.map PeriodicMsgId.mk
  | startMsgFilter .., content => content.number?.map FilterId.mk
  | ioctl _ id _, content => content.control? id
  | getConfig .., .control (.settings list) => some list
  | readVoltage .., .control (.millivolts value) => some value
  | readProgVoltage _, .control (.millivolts value) => some value
  | fiveBaudInit .., .control (.bytes bytes) => some bytes
  | fastInit .., .control (.message message) => some message
  | setConfig .., content => (content.control? .setConfig).map fun _ => ()
  | clear _ id, content => (content.control? id).map fun _ => ()
  | closeDevice _, content => content.nothing?
  | setProgrammingVoltage .., content => content.nothing?
  | disconnect _, content => content.nothing?
  | logicalDisconnect _, content => content.nothing?
  | stopPeriodicMsg .., content => content.nothing?
  | stopMsgFilter .., content => content.nothing?
  | _, _ => none

end Operation

/-! ## Requests that keep the protocol -/

namespace Request

/-- A request that is refused, answered of itself, or one call of an entry point whose reply settles
it. -/
inductive Keeps (refusal : Option Error) (given : Option α) (entry : EntryPoint)
    (value? : Content → Option α) : Request w α → Prop where
  | refused {e : Error} (h : refusal = some e) :
    Keeps refusal given entry value? (settled (.error e))
  | given {a : α} (hfit : refusal = none) (h : given = some a) :
    Keeps refusal given entry value? (settled (.ok a))
  | called {call : Call w} {finish : Reply call → Answer α} (hfit : refusal = none)
      (hnone : given = none) (hentry : call.entry = entry)
      (hsettles : ∀ reply : Reply call, reply.Settles value? (finish reply)) :
    Keeps refusal given entry value? (ask call finish)

variable {refusal refusal' : Option Error} {given : Option α} {entry : EntryPoint}
  {value? : Content → Option α}

/-! ## Keeping the protocol -/

/-- A request goes on with an argument that was encoded for it. -/
theorem Keeps.encoded {encoded : Answer β} {next : β → Answer (Request w α)}
    (hencodes : Encodes refusal encoded)
    (h : ∀ native, encoded = .ok native → Keeps none given entry value? (prepared (next native))) :
    Keeps refusal given entry value? (prepared (encoded >>= next)) := by
  cases hencodes with
  | error e => exact .refused rfl
  | ok native => exact h native rfl

/-- A request that goes on with two arguments is refused for the first of them that is refused. -/
theorem Keeps.encoded_or {encoded : Answer β} {next : β → Answer (Request w α)}
    (hencodes : Encodes refusal encoded)
    (h : ∀ native, Keeps refusal' given entry value? (prepared (next native))) :
    Keeps (refusal.or refusal') given entry value? (prepared (encoded >>= next)) := by
  cases hencodes with
  | error e => exact .refused rfl
  | ok native => exact h native

theorem Keeps.call {request : Request w α} (h : Keeps none given entry value? request) :
    Keeps none given entry value? (prepared (pure request)) := h

/-- A call whose memory is read after success, as `r` says. -/
theorem keeps_afterSuccess {call : Call w} {read : call.Memory → Answer α}
    (r : call.Memory → Reading w α) (hentry : call.entry = entry)
    (hreported : ∀ memory, call.reported memory = 0)
    (hread : ∀ memory, read memory = (r memory).answer)
    (hnumbers : ∀ memory, (call.reading memory).numbers = (r memory).numbers)
    (hvalue : ∀ memory, value? (call.reading memory).value = some (r memory).value) :
    Keeps none none entry value? (afterSuccess call read) := by
  refine .called rfl rfl hentry fun reply => ?_
  refine Reply.settles_of_reading (hnumbers _) (hvalue _) (fun _ e hcode => ?_) fun hdelivers => ?_
  · show (ErrorCode.check reply.status >>= fun _ => read reply.memory) = _
    rw [ErrorCode.check_of_ofStatus hcode]
    rfl
  · have hstatus : reply.status = Status.noError := by
      refine hdelivers.resolve_right fun h => ?_
      rw [hreported] at h
      exact Nat.lt_irrefl 0 h.2
    show (ErrorCode.check reply.status >>= fun _ => read reply.memory) = _
    rw [hstatus, ← hread]
    rfl

theorem Keeps.andThen {request : Request w α} {value?' : Content → Option β} {f : α → Answer β}
    (h : Keeps refusal none entry value? request)
    (hf : ∀ content a, value? content = some a → ∃ b, f a = .ok b ∧ value?' content = some b) :
    Keeps refusal none entry value?' (request.andThen f) := by
  cases h with
  | refused h => exact .refused h
  | given _ h => cases h
  | called hfit _ hentry hsettles =>
    exact .called hfit rfl hentry fun reply => (hsettles reply).andThen hf

theorem keeps_command {value? : Content → Option Unit} {call : Call w}
    {read : call.Memory → Answer Unit} (hentry : call.entry = entry)
    (hreported : ∀ memory, call.reported memory = 0)
    (hreading : ∀ memory, call.reading memory = .done .nothing)
    (hread : ∀ memory, read memory = .ok ()) (hvalue : value? .nothing = some ()) :
    Keeps none none entry value? (afterSuccess call read) := by
  refine keeps_afterSuccess (fun _ => .done ()) hentry hreported hread (fun memory => ?_)
    fun memory => ?_
  · rw [hreading]
    rfl
  · rw [hreading]
    exact hvalue

/-- A call that brings one number, of which an answer is made. -/
theorem keeps_number {call : Call w} {field : String} {make : UInt32 → α}
    {output : call.Memory → Option (Word w)} (hentry : call.entry = entry)
    (hreported : ∀ memory, call.reported memory = 0)
    (hreading : ∀ memory, call.reading memory = Call.readingOfOutput field (output memory))
    (hvalue : ∀ n, value? (.number n) = some (make n)) :
    Keeps none none entry value?
      (afterSuccess call fun memory => (readOutput field (output memory)).map make) := by
  refine keeps_afterSuccess
    (fun memory => (Reading.number field ((output memory).getD .zero)).map make)
    hentry hreported (fun memory => ?_) (fun memory => ?_) fun memory => ?_
  · rw [Reading.answer_map, Reading.answer_number]
    rfl
  · rw [hreading]
    rfl
  · rw [hreading]
    exact hvalue _

/-! ## Requests by entry point -/

theorem scanForDevices_keeps :
    Keeps none none .scanForDevices Content.number? (scanForDevices (w := w)) := by
  refine keeps_afterSuccess (fun count => Reading.number "device_count" (count.getD .zero)) rfl
    (fun _ => rfl) (fun count => ?_) (fun _ => rfl) fun _ => rfl
  exact (Reading.answer_number _ _).symm

theorem getNextDevice_keeps :
    Keeps none none .getNextDevice (Operation.value? .getNextDevice) (getNextDevice (w := w)) :=
  keeps_afterSuccess (fun device => (device.getD .blank).reading) rfl (fun _ => rfl)
    (fun _ => Device.decode_eq _) (fun _ => rfl) fun _ => rfl

theorem openDevice_keeps (name : Option String) :
    Keeps (name.bind nameRefusal?) none .openDevice (Operation.value? (.openDevice name))
      (openDevice (w := w) name) :=
  .encoded (encodes_name name) fun _ _ =>
    .call (keeps_number rfl (fun _ => rfl) (fun _ => rfl) fun _ => rfl)

theorem readVersion_keeps (device : DeviceId) :
    Keeps none none .readVersion (Operation.value? (.readVersion device))
      (readVersion (w := w) device) :=
  keeps_afterSuccess (fun _ => .done _) rfl (fun _ => rfl) (fun _ => rfl) (fun _ => rfl)
    fun _ => rfl

theorem getLastError_keeps :
    Keeps none none .getLastError (Operation.value? .getLastError) (getLastError (w := w)) :=
  keeps_afterSuccess (fun _ => .done _) rfl (fun _ => rfl) (fun _ => rfl) (fun _ => rfl)
    fun _ => rfl

theorem closeDevice_keeps (device : DeviceId) :
    Keeps none none .closeDevice Content.nothing? (closeDevice (w := w) device) :=
  keeps_command rfl (fun _ => rfl) (fun _ => rfl) (fun _ => rfl) rfl

theorem setProgrammingVoltage_keeps (device : DeviceId) (pin : Resource) (voltage : UInt32) :
    Keeps pin.refusal? none .setProgrammingVoltage Content.nothing?
      (setProgrammingVoltage (w := w) device pin voltage) :=
  .encoded (encodes_resource pin) fun _ _ =>
    .call (keeps_command rfl (fun _ => rfl) (fun _ => rfl) (fun _ => rfl) rfl)

theorem connectRaw_keeps (device : DeviceId) (protocolId flags baud : UInt32)
    (resource : Resource) :
    Keeps resource.refusal? none .connect (fun content => content.number?.map ChannelId.mk)
      (connectRaw (w := w) device protocolId flags baud resource) :=
  .encoded (encodes_resource resource) fun _ _ =>
    .call (keeps_number rfl (fun _ => rfl) (fun _ => rfl) fun _ => rfl)

theorem disconnect_keeps (channel : ChannelId) :
    Keeps none none .disconnect Content.nothing? (disconnect (w := w) channel) :=
  keeps_command rfl (fun _ => rfl) (fun _ => rfl) (fun _ => rfl) rfl

theorem logicalConnect_keeps (physical : ChannelId) (protocol : Protocol) (flags : UInt32)
    (descriptor : Descriptor) :
    Keeps none none .logicalConnect (fun content => content.number?.map ChannelId.mk)
      (logicalConnect (w := w) physical protocol flags descriptor) :=
  keeps_number rfl (fun _ => rfl) (fun _ => rfl) fun _ => rfl

theorem logicalDisconnect_keeps (channel : ChannelId) :
    Keeps none none .logicalDisconnect Content.nothing? (logicalDisconnect (w := w) channel) :=
  keeps_command rfl (fun _ => rfl) (fun _ => rfl) (fun _ => rfl) rfl

theorem select_keeps (set : ChannelSet) (kind : SelectType) (timeout : UInt32) :
    Keeps (lengthRefusal? "channel_count" set.channels.length) none .select
      (Operation.value? (.select set kind timeout)) (select (w := w) set kind timeout) := by
  refine .encoded (encodes_channelSet set) fun native _ => .call ?_
  exact keeps_afterSuccess (fun written => ((written.map native.received).getD native).reading) rfl
    (fun _ => rfl) (fun _ => ChannelSet.decode_eq _) (fun _ => rfl) fun _ => rfl

theorem queueMsgs_keeps (channel : ChannelId) (messages : List Message) :
    Keeps (messages.findSome? Message.refusal?) (if messages = [] then some 0 else none) .queueMsgs
      (fun content => content.number?.map UInt32.toNat) (queueMsgs (w := w) channel messages) := by
  unfold queueMsgs
  by_cases hnil : messages = []
  · rw [if_pos hnil, if_pos (List.isEmpty_iff.2 hnil), hnil]
    exact .given rfl rfl
  · rw [if_neg hnil, if_neg fun h => hnil (List.isEmpty_iff.1 h)]
    refine .encoded (encodes_messages messages) fun native _ => .call ?_
    exact keeps_number rfl (fun _ => rfl) (fun _ => rfl) fun _ => rfl

theorem startPeriodicMsg_keeps (channel : ChannelId) (message : Message) (interval : UInt32) :
    Keeps message.refusal? none .startPeriodicMsg
      (fun content => content.number?.map PeriodicMsgId.mk)
      (startPeriodicMsg (w := w) channel message interval) :=
  .encoded (encodes_message message) fun _ _ =>
    .call (keeps_number rfl (fun _ => rfl) (fun _ => rfl) fun _ => rfl)

theorem stopPeriodicMsg_keeps (channel : ChannelId) (id : PeriodicMsgId) :
    Keeps none none .stopPeriodicMsg Content.nothing? (stopPeriodicMsg (w := w) channel id) :=
  keeps_command rfl (fun _ => rfl) (fun _ => rfl) (fun _ => rfl) rfl

theorem startMsgFilter_keeps (channel : ChannelId) (kind : FilterType) (mask pattern : Message) :
    Keeps (mask.refusal?.or pattern.refusal?) none .startMsgFilter
      (fun content => content.number?.map FilterId.mk)
      (startMsgFilter (w := w) channel kind mask pattern) :=
  .encoded_or (encodes_message mask) fun _ => .encoded (encodes_message pattern) fun _ _ =>
    .call (keeps_number rfl (fun _ => rfl) (fun _ => rfl) fun _ => rfl)

theorem stopMsgFilter_keeps (channel : ChannelId) (id : FilterId) :
    Keeps none none .stopMsgFilter Content.nothing? (stopMsgFilter (w := w) channel id) :=
  keeps_command rfl (fun _ => rfl) (fun _ => rfl) (fun _ => rfl) rfl

/-! ## Reads -/

theorem finishRead_settles {channel timeout : Word w} {slots : List (NativeMessage w)}
    {count : Option (Word w)} (hslots : 0 < slots.length)
    (reply : Reply (.readMsgs channel (some slots) count timeout)) :
    reply.Settles Content.messages? (finishRead slots reply.status reply.memory) := by
  obtain ⟨status, memory⟩ := reply
  unfold finishRead
  dsimp only
  have hpartial : (status = ErrorCode.timeout.asStatus ∧
        0 < min (memory.count.getD .zero).toNat slots.length) ↔
      (status = ErrorCode.timeout.asStatus ∧ 0 < (memory.count.getD .zero).toNat) := by
    rw [Nat.lt_min, and_iff_left hslots]
  refine Reply.settles_of_reading (r := Reading.ofList NativeMessage.reading
    (NativeMessage.receivedAll (slots.take (memory.count.getD .zero).toNat)
      (memory.slots.getD []))) rfl rfl (fun hfail e hcode => ?_) fun hdelivers => ?_
  · rw [if_neg fun h => hfail (.inr (hpartial.1 h))]
    show (ErrorCode.check status >>= fun _ => _) = _
    rw [ErrorCode.check_of_ofStatus hcode]
    rfl
  · rw [← decodeFirst_eq]
    by_cases h : status = ErrorCode.timeout.asStatus ∧
        0 < min (memory.count.getD .zero).toNat slots.length
    · rw [if_pos h]
    · obtain rfl : status = Status.noError := hdelivers.resolve_right fun h' => h (hpartial.2 h')
      rw [if_neg h]
      rfl

theorem readMsgs_keeps (size : UInt32) (channel : ChannelId) (max : Nat) (timeout : UInt32) :
    Keeps (lengthRefusal? "num_msgs" max) (if max = 0 then some [] else none) .readMsgs
      Content.messages? (readMsgs (w := w) size channel max timeout) := by
  unfold readMsgs
  by_cases hzero : max = 0
  · rw [if_pos hzero, if_pos hzero, hzero]
    exact .given rfl rfl
  · rw [if_neg hzero, if_neg hzero]
    refine .encoded (encodes_count "num_msgs" max) fun count _ => ?_
    -- an empty slot has no data that could be too long for it
    have hslot := encodes_message (w := w) (Message.withCapacity 0 size)
    have hfits : (Message.withCapacity 0 size).refusal? = none := if_pos (Nat.zero_le _)
    rw [hfits] at hslot
    unfold Message.receiveSlots
    generalize (Message.withCapacity 0 size).encode = slot at hslot ⊢
    cases hslot with
    | ok native =>
      refine .called rfl rfl rfl fun reply => finishRead_settles ?_ reply
      rw [List.length_replicate]
      exact Nat.pos_of_ne_zero hzero

/-! ## Control requests -/

end Request

namespace Request

variable {refusal : Option Error} {value? : Content → Option α}

theorem ioctl_keeps (size target : UInt32) (id : Ioctl) (input : ControlInput) :
    Keeps (id.refusal? input) none .ioctl (Content.control? id)
      (ioctl (w := w) size target id input) := by
  unfold ioctl Ioctl.refusal?
  by_cases hshape : input.shape = id.inputShape
  · rw [if_pos hshape, if_neg (not_not_intro hshape)]
    refine .encoded (encodes_controlInput input) fun own hown => ?_
    obtain ⟨room, hroom, hroomShape⟩ := ControlOutput.exists_room (w := w) id size
    rw [hroom]
    refine .call (keeps_afterSuccess (fun memory =>
      ControlOutput.reading id (own.received memory.input) (room.received memory.output)) rfl
      (fun _ => rfl) (fun _ => ControlOutput.decode_eq _ _ _) (fun memory => ?_) fun memory => ?_)
    all_goals
      unfold Call.reading
      dsimp only
      rw [Word.narrow_of32, Ioctl.ofCode?_code]
    · rfl
    · refine if_pos (ControlOutput.shape_reading ?_ ?_)
      · rw [NativeControl.shape_received, ControlInput.shape_of_encode hown, hshape]
      · rw [NativeControl.shape_received, hroomShape]
  · rw [if_neg hshape, if_pos hshape]
    exact .refused rfl

/-- A control request whose output is read as a value of its own type. -/
theorem Keeps.typed {request : Request w ControlOutput} {id : Ioctl} {f : ControlOutput → Answer α}
    (h : Keeps refusal none .ioctl (Content.control? id) request)
    (hf : ∀ output, output.shape = id.outputShape →
      ∃ a, f output = .ok a ∧ value? (.control output) = some a) :
    Keeps refusal none .ioctl value? (request.andThen f) :=
  h.andThen fun content output houtput => by
    obtain ⟨rfl, hshape⟩ := Content.control?_eq_some houtput
    exact hf output hshape

theorem exists_toMillivolts {output : ControlOutput} (h : output.shape = .voltage) :
    ∃ value, output.toMillivolts = .ok value ∧ output = .millivolts value := by
  cases output with
  | millivolts value => exact ⟨value, rfl, rfl⟩
  | _ => cases h

theorem readVoltage_keeps (size : UInt32) (device : DeviceId) (pin : Resource) :
    Keeps pin.refusal? none .ioctl (Operation.value? (.readVoltage device pin))
      (readVoltage (w := w) size device pin) :=
  (ioctl_keeps size device.raw .readPinVoltage (.resource pin)).typed fun output hshape => by
    obtain ⟨value, hvalue, rfl⟩ := exists_toMillivolts hshape
    exact ⟨value, hvalue, rfl⟩

theorem readProgVoltage_keeps (size : UInt32) (device : DeviceId) :
    Keeps none none .ioctl (Operation.value? (.readProgVoltage device))
      (readProgVoltage (w := w) size device) :=
  (ioctl_keeps size device.raw .readProgVoltage .none).typed fun output hshape => by
    obtain ⟨value, hvalue, rfl⟩ := exists_toMillivolts hshape
    exact ⟨value, hvalue, rfl⟩

theorem getConfig_keeps (size : UInt32) (channel : ChannelId) (parameters : List UInt32) :
    Keeps (lengthRefusal? "num_of_params" parameters.length) none .ioctl
      (Operation.value? (.getConfig channel parameters))
      (getConfig (w := w) size channel parameters) := by
  have h := ioctl_keeps (w := w) size channel.raw .getConfig
    (.settings (parameters.map fun parameter => ⟨parameter, 0⟩))
  rw [show Ioctl.refusal? .getConfig (.settings (parameters.map _)) =
    lengthRefusal? "num_of_params" (parameters.map _).length from rfl, List.length_map] at h
  refine h.typed fun output hshape => ?_
  cases output with
  | settings list => exact ⟨list, rfl, rfl⟩
  | _ => cases hshape

theorem setConfig_keeps (size : UInt32) (channel : ChannelId) (entries : List Setting) :
    Keeps (lengthRefusal? "num_of_params" entries.length) none .ioctl
      (Operation.value? (.setConfig channel entries)) (setConfig (w := w) size channel entries) :=
  (ioctl_keeps size channel.raw .setConfig (.settings entries)).andThen fun _ _ h =>
    ⟨(), rfl, congrArg (Option.map fun _ => ()) h⟩

theorem fiveBaudInit_keeps (size : UInt32) (channel : ChannelId) (address : UInt8) :
    Keeps none none .ioctl (Operation.value? (.fiveBaudInit channel address))
      (fiveBaudInit (w := w) size channel address) :=
  (ioctl_keeps size channel.raw .fiveBaudInit (.bytes [address])).typed fun output hshape => by
    cases output with
    | bytes list => exact ⟨list, rfl, rfl⟩
    | _ => cases hshape

theorem fastInit_keeps (size : UInt32) (channel : ChannelId) (message : Message) :
    Keeps message.refusal? none .ioctl (Operation.value? (.fastInit channel message))
      (fastInit (w := w) size channel message) :=
  (ioctl_keeps size channel.raw .fastInit (.message message)).typed fun output hshape => by
    cases output with
    | message m => exact ⟨m, rfl, rfl⟩
    | _ => cases hshape

theorem clear_keeps (size : UInt32) (channel : ChannelId) (id : Ioctl) :
    Keeps (id.refusal? .none) none .ioctl (Operation.value? (.clear channel id))
      (clear (w := w) size channel id) :=
  (ioctl_keeps size channel.raw id .none).andThen fun _ _ h =>
    ⟨(), rfl, congrArg (Option.map fun _ => ()) h⟩

end Request

theorem Operation.keeps (settings : Settings) (o : Operation) :
    Request.Keeps (o.unencodable? settings) (o.given? settings) o.entry o.value?
      (o.request settings : Request w o.Value) := by
  cases o with
  | scanForDevices => exact Request.scanForDevices_keeps
  | getNextDevice => exact Request.getNextDevice_keeps
  | openDevice name => exact Request.openDevice_keeps name
  | closeDevice device => exact Request.closeDevice_keeps device
  | readVersion device => exact Request.readVersion_keeps device
  | getLastError => exact Request.getLastError_keeps
  | setProgrammingVoltage device pin voltage =>
    exact Request.setProgrammingVoltage_keeps device pin voltage
  | connect device protocol flags baud resource =>
    exact Request.connectRaw_keeps device protocol.code flags baud resource
  | connectRaw device protocolId flags baud resource =>
    exact Request.connectRaw_keeps device protocolId flags baud resource
  | disconnect channel => exact Request.disconnect_keeps channel
  | logicalConnect physical protocol flags descriptor =>
    exact Request.logicalConnect_keeps physical protocol flags descriptor
  | logicalDisconnect channel => exact Request.logicalDisconnect_keeps channel
  | select set kind timeout => exact Request.select_keeps set kind timeout
  | readMsgs channel max timeout =>
    exact Request.readMsgs_keeps settings.rxBufferSize channel max timeout
  | readBatch channel =>
    exact Request.readMsgs_keeps settings.rxBufferSize channel settings.readBatchSize.toNat
      settings.defaultTimeoutMs
  | queueMsgs channel messages => exact Request.queueMsgs_keeps channel messages
  | startPeriodicMsg channel message interval =>
    exact Request.startPeriodicMsg_keeps channel message interval
  | stopPeriodicMsg channel id => exact Request.stopPeriodicMsg_keeps channel id
  | startMsgFilter channel kind mask pattern =>
    exact Request.startMsgFilter_keeps channel kind mask pattern
  | stopMsgFilter channel id => exact Request.stopMsgFilter_keeps channel id
  | ioctl target id input => exact Request.ioctl_keeps settings.rxBufferSize target id input
  | getConfig channel parameters =>
    exact Request.getConfig_keeps settings.rxBufferSize channel parameters
  | setConfig channel entries => exact Request.setConfig_keeps settings.rxBufferSize channel entries
  | readVoltage device pin => exact Request.readVoltage_keeps settings.rxBufferSize device pin
  | readProgVoltage device => exact Request.readProgVoltage_keeps settings.rxBufferSize device
  | fiveBaudInit channel address =>
    exact Request.fiveBaudInit_keeps settings.rxBufferSize channel address
  | fastInit channel message => exact Request.fastInit_keeps settings.rxBufferSize channel message
  | clear channel id => exact Request.clear_keeps settings.rxBufferSize channel id

/-! ## What a library receives -/

namespace Request

variable {refusal : Option Error} {given : Option α} {entry : EntryPoint}
  {value? : Content → Option α} {request : Request w α}

theorem Keeps.eq_refused (h : Keeps refusal given entry value? request) {e : Error}
    (he : refusal = some e) : request = settled (.error e) := by
  cases h with
  | refused h => rw [Option.some.inj (he.symm.trans h)]
  | given hfit _ | called hfit _ _ _ => cases he.symm.trans hfit

theorem Keeps.eq_given (h : Keeps refusal given entry value? request) (hfit : refusal = none)
    {a : α} (ha : given = some a) : request = settled (.ok a) := by
  cases h with
  | refused h => cases hfit.symm.trans h
  | given _ h => rw [Option.some.inj (ha.symm.trans h)]
  | called _ hnone _ _ => cases ha.symm.trans hnone

theorem Keeps.exists_call (h : Keeps refusal given entry value? request) (hfit : refusal = none)
    (hnone : given = none) : ∃ (call : Call w) (finish : Reply call → Answer α),
      request = ask call finish ∧ call.entry = entry ∧
        ∀ reply : Reply call, reply.Settles value? (finish reply) := by
  cases h with
  | refused h => cases hfit.symm.trans h
  | given _ h => cases hnone.symm.trans h
  | @called call finish _ _ hentry hsettles => exact ⟨call, finish, rfl, hentry, hsettles⟩

end Request

namespace Operation

/-- Put to any library, in any state, an operation makes this one call and changes the state as the
call does. A status that is not zero is then the answer and nothing is read, unless a read ran out
of time with messages. Otherwise the memory of the call is read, and the answer is what it holds; it
is refused exactly if a number in it is too large for a model. -/
def MakesCall (settings : Settings) (o : Operation) (call : Call w) : Prop :=
  ∀ {σ : Type} (driver : Driver w σ) (s : σ) (calls : List (Call w)),
    let reply := (driver call s).1
    let outputs := call.reading reply.memory
    let delivers := reply.status = 0 ∨
      reply.status = ErrorCode.timeout.code ∧ 0 < call.reported reply.memory
    ∃ answer, o.perform ⟨driver.recording, settings⟩ (s, calls) =
        (answer, (driver call s).2, calls ++ [call]) ∧
      (¬ delivers → ∃ e : ErrorCode, ErrorCode.ofStatus reply.status = some e ∧
        e.code = reply.status ∧ answer = .error (.vendor e)) ∧
      (delivers →
        ((∃ field max actual, answer = .error (.valueTooLarge field max actual)) ↔
          ∃ n ∈ outputs.numbers, UInt32.size - 1 < n.2.toNat)) ∧
      (delivers → (∀ n ∈ outputs.numbers, n.2.toNat ≤ UInt32.size - 1) →
        ∃ a, o.value? outputs.value = some a ∧ answer = .ok a)

/-- The call protocol. Put to any library, in any state, an operation is refused without a call; or
answered without a call, if there is nothing to read or to queue; or it makes one call, which
depends on neither the library nor its state. -/
structure CallProtocol (w : Width) (settings : Settings) (o : Operation) : Prop where
  refused : ∀ e, o.refusal? settings = some e →
    ∀ {σ : Type} (driver : Driver w σ) (s : σ) (calls : List (Call w)),
      o.perform ⟨driver.recording, settings⟩ (s, calls) = (.error e, s, calls)
  given : ∀ a, o.refusal? settings = none → o.given? settings = some a →
    ∀ {σ : Type} (driver : Driver w σ) (s : σ) (calls : List (Call w)),
      o.perform ⟨driver.recording, settings⟩ (s, calls) = (.ok a, s, calls)
  called : o.refusal? settings = none → o.given? settings = none →
    ∃ call : Call w, call.entry = o.entry ∧ o.MakesCall settings call

variable {settings : Settings} {o : Operation}

theorem makesCall_of_ask {call : Call w} {finish : Reply call → Answer o.Value}
    (hrequest : o.request settings = .ask call finish)
    (hsettles : ∀ reply : Reply call, reply.Settles o.value? (finish reply)) :
    o.MakesCall settings call := by
  intro σ driver s calls
  refine ⟨finish (driver call s).1, ?_, (hsettles _).fails, (hsettles _).tooLarge_iff,
    (hsettles _).ok_of_narrow⟩
  rw [perform_eq_ask]
  show Request.perform _ (o.request settings) _ = _
  rw [hrequest]
  rfl

theorem perform_of_settled {answer : Answer o.Value}
    (hrequest : (o.request settings : Request w o.Value) = .settled answer) {σ : Type}
    (driver : Driver w σ) (s : σ) (calls : List (Call w)) :
    o.perform ⟨driver.recording, settings⟩ (s, calls) = (answer, s, calls) := by
  rw [perform_eq_ask]
  show Request.perform _ (o.request settings) _ = _
  rw [hrequest]
  rfl

/-- A call that is made is seen by the library. -/
theorem MakesCall.perform_ne {call : Call w} (h : o.MakesCall settings call)
    (answer : Answer o.Value) :
    ∃ driver : Driver w Unit, o.perform ⟨driver.recording, settings⟩ ((), []) ≠
      (answer, (), []) := by
  refine ⟨fun call s => (.untouched call Status.noError, s), fun hperform => ?_⟩
  obtain ⟨_, hcalled, -⟩ := h (fun call s => (.untouched call Status.noError, s)) () []
  cases hcalled.symm.trans hperform

theorem callProtocol (h : ¬ o.Uncounted) : o.CallProtocol w settings := by
  have hkeeps := o.keeps (w := w) settings
  rw [unencodable?_eq_refusal? settings h] at hkeeps
  refine ⟨fun e he => ?_, fun a hfit ha => ?_, fun hfit hnone => ?_⟩
  · exact perform_of_settled (hkeeps.eq_refused he)
  · exact perform_of_settled (hkeeps.eq_given hfit ha)
  · obtain ⟨call, finish, hrequest, hentry, hsettles⟩ := hkeeps.exists_call hfit hnone
    exact ⟨call, hentry, makesCall_of_ask hrequest hsettles⟩

/-- Messages that cannot be counted are queued nevertheless, and the library is told the last 32
bits of how many there are. -/
theorem makesCall_of_uncounted (settings : Settings) {channel : ChannelId}
    {messages : List Message}
    (h : (queueMsgs channel messages).Uncounted) :
    ∃ native : List (NativeMessage w), Message.encodeAll messages = .ok native ∧
      (queueMsgs channel messages).MakesCall settings
        (.queueMsgs (.of32 channel.raw) (some native)
          (some (.of32 (UInt32.ofNat messages.length)))) := by
  obtain ⟨native, hencode, hlength, -⟩ := Message.encodeAll_fits (w := w) h.2
  have hne : messages ≠ [] := by
    rintro rfl
    exact h.1 (Nat.zero_le _)
  have hkeeps := Request.queueMsgs_keeps (w := w) channel messages
  obtain ⟨call, finish, hrequest, -, hsettles⟩ :=
    hkeeps.exists_call ((findSome?_refusal messages).1.2 h.2) (if_neg hne)
  obtain rfl : call = .queueMsgs (.of32 channel.raw) (some native)
      (some (.of32 (UInt32.ofNat messages.length))) := by
    unfold Request.queueMsgs at hrequest
    rw [if_neg fun hempty => hne (List.isEmpty_iff.1 hempty), hencode] at hrequest
    rw [← hlength]
    exact (Request.ask.inj hrequest).1.symm
  exact ⟨native, hencode, makesCall_of_ask (o := .queueMsgs channel messages) hrequest hsettles⟩

/-- Such an operation is to be refused without a call, and makes one. -/
theorem Uncounted.not_callProtocol (h : o.Uncounted) : ¬ o.CallProtocol w settings := by
  cases o with
  | queueMsgs channel messages =>
    intro hprotocol
    obtain ⟨native, -, hcall⟩ := makesCall_of_uncounted (w := w) settings h
    obtain ⟨driver, hne⟩ := hcall.perform_ne (.error (.valueTooLarge _ _ _))
    exact hne (hprotocol.refused _ (refusal?_of_uncounted settings h).2 driver () [])
  | _ => exact h.elim

end Operation

/-- **The call protocol.** Every operation keeps the protocol but one: more messages to queue than a
native count can hold, all of which can be encoded. Instead of being refused these are handed over
in one call like any other, with the last 32 bits of their number for a count. -/
theorem call_protocol (w : Width) (settings : Settings) (o : Operation) :
    (o.CallProtocol w settings ↔ ¬ o.Uncounted) ∧
    ∀ channel messages, o = .queueMsgs channel messages → o.Uncounted →
      o.refusal? settings = some (.valueTooLarge "num_msgs" (UInt32.size - 1) messages.length) ∧
      ∃ native : List (NativeMessage w), Message.encodeAll messages = .ok native ∧
        o.MakesCall settings (.queueMsgs (.of32 channel.raw) (some native)
          (some (.of32 (UInt32.ofNat messages.length)))) := by
  refine ⟨⟨fun h huncounted => huncounted.not_callProtocol h, Operation.callProtocol⟩, ?_⟩
  rintro channel messages rfl h
  exact ⟨(Operation.refusal?_of_uncounted _ h).2, Operation.makesCall_of_uncounted _ h⟩

/-- One message more than can be counted: the library is told of none. -/
theorem messages_uncounted :
    let o := Operation.queueMsgs ⟨1⟩ (List.replicate UInt32.size {})
    o.refusal? {} = some (.valueTooLarge "num_msgs" (UInt32.size - 1) UInt32.size) ∧
    ¬ o.CallProtocol .w64 {} ∧
    ∃ native : List (NativeMessage .w64),
      Message.encodeAll (List.replicate UInt32.size {}) = .ok native ∧
        o.MakesCall {} (.queueMsgs (.of32 1) (some native) (some .zero)) := by
  have h : (Operation.queueMsgs ⟨1⟩ (List.replicate UInt32.size {})).Uncounted := by
    refine ⟨?_, fun m hm => ?_⟩
    · rw [List.length_replicate]
      decide
    · obtain rfl := List.eq_of_mem_replicate hm
      exact Nat.zero_le _
  have hrefusal := (Operation.refusal?_of_uncounted {} h).2
  obtain ⟨native, hencode, hcall⟩ := Operation.makesCall_of_uncounted (w := .w64) {} h
  rw [List.length_replicate] at hrefusal hcall
  exact ⟨hrefusal, h.not_callProtocol, native, hencode, hcall⟩

end PassThru
