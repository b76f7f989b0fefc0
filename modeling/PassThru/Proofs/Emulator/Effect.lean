import PassThru.Proofs.Emulator.Reception

/-!
# What a call does

`Effect` lists what a call can do to the state: nothing, whether it fails or only answers, or one
operation at the narrowed arguments. Three calls may do something and fail: a select pumps the
channels in front of one that is unknown, a read takes the frames in front of one that is too long,
and messages are queued up to the first that is wrong.

`perform_effect` is the only place that takes a call apart.
-/

namespace PassThru.Emulator

variable {w : Width}

/-- What a call does to the state, and how it fails if it does. -/
inductive Effect (s : State) : Call w → Option ErrorCode → State → Prop
  | refused (call : Call w) (code : ErrorCode) : Effect s call (some code) s
  | answered (call : Call w) : Effect s call none s
  | scanned (count : Word w) : Effect s (.scanForDevices (some count)) none s.scanForDevices.2
  | delivered (device : NativeDevice w) :
      Effect s (.getNextDevice (some device)) none { s with cursor := s.cursor + 1 }
  | opened (name : List UInt8) (device : Word w) (id : UInt32) (s' : State)
      (ok : s.openDevice (Field.decode name) = .ok (id, s')) :
      Effect s (.openDevice (some name) (some device)) none s'
  | closed (device : Word w) (s' : State) (ok : s.closeDevice device.narrow = .ok s') :
      Effect s (.closeDevice device) none s'
  | connected (device protocol flags baud : Word w) (resource : NativeResource w)
      (channel : Word w) (id : UInt32) (s' : State)
      (ok : s.connect device.narrow protocol.narrow flags.narrow baud.narrow (.ofNative resource)
        true = .ok (id, s')) :
      Effect s (.connect device protocol flags baud resource (some channel)) none s'
  | disconnected (channel : Word w) (s' : State) (ok : s.disconnect channel.narrow = .ok s') :
      Effect s (.disconnect channel) none s'
  | logicalConnected (physical protocol flags : Word w) (descriptor : NativeDescriptor w)
      (channel : Word w) (id : UInt32) (s' : State)
      (ok : s.logicalConnect physical.narrow protocol.narrow descriptor.localAddress
        descriptor.remoteAddress = .ok (id, s')) :
      Effect s (.logicalConnect physical protocol flags (some descriptor) (some channel)) none s'
  | logicalDisconnected (channel : Word w) (s' : State)
      (ok : s.logicalDisconnect channel.narrow = .ok s') :
      Effect s (.logicalDisconnect channel) none s'
  | selected (set native : NativeChannelSet w) (kind timeout : Word w) (ids : List UInt32)
      (failure? : Option ErrorCode)
      (arguments : selectArguments (some set) kind.narrow = .ok (native, ids)) :
      Effect s (.select (some set) kind timeout) failure? (State.readyAmong ids s).2
  | read (channel : Word w) (slots : List (NativeMessage w)) (count timeout : Word w)
      (ch : Channel) (found : s.channels.get? channel.narrow = some ch) (delivery : Delivery w)
      (delivery_eq : delivery = deliver count.narrow.toNat (ch.pending s.clock) slots) :
      Effect s (.readMsgs channel (some slots) (some count) timeout)
        (delivery.failure? count.narrow.toNat timeout.narrow)
        (s.afterRead channel.narrow ch delivery.count)
  | queued (channel : Word w) (messages : List (NativeMessage w)) (count : Word w) (ch : Channel)
      (found : s.channels.get? channel.narrow = some ch) (frames : List Message)
      (failure? : Option ErrorCode)
      (accepted : accept ch.protocol (messages.take count.narrow.toNat) = (frames, failure?)) :
      Effect s (.queueMsgs channel (some messages) (some count)) failure?
        (s.setChannel channel.narrow (ch.transmit frames))
  | periodicStarted (channel : Word w) (message : NativeMessage w) (id interval : Word w)
      (handle : UInt32) (s' : State)
      (ok : s.startPeriodicMsg channel.narrow message interval.narrow = .ok (handle, s')) :
      Effect s (.startPeriodicMsg channel (some message) (some id) interval) none s'
  | periodicStopped (channel id : Word w) (s' : State)
      (ok : s.stopPeriodicMsg channel.narrow id.narrow = .ok s') :
      Effect s (.stopPeriodicMsg channel id) none s'
  | filterStarted (channel kind : Word w) (mask pattern : NativeMessage w) (id : Word w)
      (handle : UInt32) (s' : State)
      (ok : s.startMsgFilter channel.narrow kind.narrow mask pattern = .ok (handle, s')) :
      Effect s (.startMsgFilter channel kind (some mask) (some pattern) (some id)) none s'
  | filterStopped (channel id : Word w) (s' : State)
      (ok : s.stopMsgFilter channel.narrow id.narrow = .ok s') :
      Effect s (.stopMsgFilter channel id) none s'
  | powered (device : Word w) (resource : NativeResource w) (voltage : Word w) (s' : State)
      (ok : s.setProgrammingVoltage device.narrow (.ofNative resource) voltage.narrow = .ok s') :
      Effect s (.setProgrammingVoltage device resource voltage) none s'
  | configured (target id : Word w) (input output : NativeControl w) (s' : State)
      (request : Ioctl.ofCode? id.narrow = some .setConfig)
      (ok : s.setConfig target.narrow input output = .ok s') :
      Effect s (.ioctl target id input output) none s'
  | functionalChanged (target id : Word w) (input output : NativeControl w)
      (change : List UInt8 → UInt8 → List UInt8) (s' : State)
      (ok : s.changeFunctional change target.narrow input output = .ok s') :
      Effect s (.ioctl target id input output) none s'
  | cleared (target id : Word w) (input output : NativeControl w) (request : Ioctl) (s' : State)
      (request_eq : Ioctl.ofCode? id.narrow = some request)
      (ok : s.clear request target.narrow input output = .ok s') :
      Effect s (.ioctl target id input output) none s'

variable {s : State} {call : Call w}

/-! ## Operations that change nothing when they fail -/

theorem effect_ofAttempt {μ : Type} {memory : μ} {attempt : Attempt (μ × State)}
    (h : ∀ memory' s', attempt = .ok (memory', s') → Effect s call none s') :
    Effect s call (Outcome.ofAttempt s memory attempt).failure?
      (Outcome.ofAttempt s memory attempt).state := by
  cases attempt with
  | error code => exact .refused call code
  | ok result => exact h result.1 result.2 rfl

theorem effect_issue {output : Option (Word w)} {attempt : Attempt (UInt32 × State)}
    (h : ∀ id s', attempt = .ok (id, s') → Effect s call none s') :
    Effect s call (issue s output attempt).failure? (issue s output attempt).state := by
  cases attempt with
  | error code => exact .refused call code
  | ok result => exact h result.1 result.2 rfl

theorem effect_change {attempt : Attempt State} (h : ∀ s', attempt = .ok s' → Effect s call none s') :
    Effect s call (change s attempt).failure? (change s attempt).state := by
  cases attempt with
  | error code => exact .refused call code
  | ok s' => exact h s' rfl

theorem effect_controlChange {memory : ControlMemory w} {attempt : Attempt State}
    (h : ∀ s', attempt = .ok s' → Effect s call none s') :
    Effect s call (controlChange s memory attempt).failure?
      (controlChange s memory attempt).state := by
  cases attempt with
  | error code => exact .refused call code
  | ok s' => exact h s' rfl

theorem effect_controlQuery {memory : ControlMemory w} {attempt : Attempt (NativeControl w)} :
    Effect s call (controlQuery s memory attempt).failure? (controlQuery s memory attempt).state := by
  cases attempt with
  | error code => exact .refused call code
  | ok output => exact .answered call

/-- Whether it fails or not, what leaves the state alone is no effect. -/
theorem effect_same (failure? : Option ErrorCode) : Effect s call failure? s := by
  cases failure? with
  | none => exact .answered call
  | some code => exact .refused call code

/-! ## Operations that may do something and fail -/

theorem effect_performSelect (s : State) (set : Option (NativeChannelSet w)) (kind timeout : Word w) :
    Effect s (.select set kind timeout) (performSelect s set kind).failure?
      (performSelect s set kind).state := by
  rw [performSelect_state]
  cases set with
  | none => exact effect_same _
  | some set =>
    cases harguments : selectArguments (some set) kind.narrow with
    | error code => exact effect_same _
    | ok arguments =>
      obtain ⟨native, ids⟩ := arguments
      exact .selected set native kind timeout ids _ harguments

theorem effect_performRead (s : State) (channel : Word w) (slots : Option (List (NativeMessage w)))
    (count : Option (Word w)) (timeout : Word w) :
    Effect s (.readMsgs channel slots count timeout)
      (performRead s channel ⟨slots, count⟩ timeout).failure?
      (performRead s channel ⟨slots, count⟩ timeout).state := by
  cases slots with
  | none => exact .refused _ .nullParameter
  | some slots =>
    cases count with
    | none => exact .refused _ .nullParameter
    | some count =>
      cases hfound : s.channels.get? channel.narrow with
      | none =>
        rw [performRead_closed hfound]
        exact .refused _ .invalidChannelId
      | some ch =>
        rw [performRead_eq hfound]
        exact .read channel slots count timeout ch hfound _ rfl

theorem effect_performQueue (s : State) (channel : Word w)
    (messages : Option (List (NativeMessage w))) (count : Option (Word w)) :
    Effect s (.queueMsgs channel messages count)
      (performQueue s channel ⟨messages, count⟩).failure?
      (performQueue s channel ⟨messages, count⟩).state := by
  cases messages with
  | none => exact .refused _ .nullParameter
  | some messages =>
    cases count with
    | none => exact .refused _ .nullParameter
    | some count =>
      cases hfound : s.channels.get? channel.narrow with
      | none =>
        rw [performQueue_closed hfound]
        exact .refused _ .invalidChannelId
      | some ch =>
        rw [performQueue_eq hfound]
        exact .queued channel messages count ch hfound _ _ rfl

theorem effect_performIoctl (s : State) (target id : Word w) (input output : NativeControl w) :
    Effect s (.ioctl target id input output)
      (performIoctl s target id ⟨input, output⟩).failure?
      (performIoctl s target id ⟨input, output⟩).state := by
  unfold performIoctl
  dsimp only
  cases hid : Ioctl.ofCode? id.narrow with
  | none => exact .refused _ .ioctlIdNotSupported
  | some request =>
    cases request with
    | getConfig =>
      dsimp only
      cases s.getConfig target.narrow input output with
      | error code => exact .refused _ code
      | ok answer => exact effect_same answer.2
    | setConfig => exact effect_controlChange fun s' => .configured target id input output s' hid
    | readPinVoltage | readProgVoltage | fiveBaudInit | fastInit => exact effect_controlQuery
    | addToFunctMsgLookupTable | deleteFromFunctMsgLookupTable =>
      exact effect_controlChange fun s' => .functionalChanged target id input output _ s'
    | clearTxQueue | clearRxQueue | clearPeriodicMsgs | clearMsgFilters
    | clearFunctMsgLookupTable | busOn =>
      exact effect_controlChange fun s' => .cleared target id input output _ s' hid

/-! ## Any call -/

theorem perform_effect (s : State) (call : Call w) :
    Effect s call (perform s call).failure? (perform s call).state := by
  cases call with
  | scanForDevices count =>
    refine effect_ofAttempt fun memory s' h => ?_
    simp only [Attempt.bind_eq_ok_iff, Attempt.present_eq_ok_iff, Attempt.pure_eq_ok_iff,
      Prod.mk.injEq] at h
    obtain ⟨count, rfl, -, rfl⟩ := h
    exact .scanned count
  | getNextDevice device =>
    refine effect_ofAttempt fun memory s' h => ?_
    simp only [Attempt.bind_eq_ok_iff, Attempt.present_eq_ok_iff] at h
    obtain ⟨out, rfl, device, -, h⟩ := h
    split at h
    · obtain ⟨-, rfl⟩ := Prod.mk.inj (Attempt.pure_eq_ok_iff.1 h)
      exact .delivered out
    · cases h
  | openDevice name device =>
    refine effect_issue fun id s' h => ?_
    simp only [Attempt.bind_eq_ok_iff, Attempt.present_eq_ok_iff] at h
    obtain ⟨name, rfl, device, rfl, h⟩ := h
    exact .opened name device id s' h
  | closeDevice device => exact effect_change fun s' => .closed device s'
  | connect device protocol flags baud resource channel =>
    refine effect_issue fun id s' h => ?_
    obtain ⟨channel, rfl⟩ := Option.isSome_iff_exists.1 (State.connectRequest_of_connect h).1
    exact .connected device protocol flags baud resource channel id s' h
  | disconnect channel => exact effect_change fun s' => .disconnected channel s'
  | logicalConnect physical protocol flags descriptor channel =>
    refine effect_issue fun id s' h => ?_
    simp only [Attempt.bind_eq_ok_iff, Attempt.present_eq_ok_iff] at h
    obtain ⟨descriptor, rfl, channel, rfl, h⟩ := h
    exact .logicalConnected physical protocol flags descriptor channel id s' h
  | logicalDisconnect channel => exact effect_change fun s' => .logicalDisconnected channel s'
  | select set kind timeout => exact effect_performSelect s set kind timeout
  | readMsgs channel slots count timeout => exact effect_performRead s channel slots count timeout
  | queueMsgs channel messages count => exact effect_performQueue s channel messages count
  | startPeriodicMsg channel message id interval =>
    refine effect_issue fun handle s' h => ?_
    simp only [Attempt.bind_eq_ok_iff, Attempt.present_eq_ok_iff] at h
    obtain ⟨message, rfl, id, rfl, h⟩ := h
    exact .periodicStarted channel message id interval handle s' h
  | stopPeriodicMsg channel id => exact effect_change fun s' => .periodicStopped channel id s'
  | startMsgFilter channel kind mask pattern id =>
    refine effect_issue fun handle s' h => ?_
    simp only [Attempt.bind_eq_ok_iff, Attempt.present_eq_ok_iff] at h
    obtain ⟨mask, rfl, pattern, rfl, id, rfl, h⟩ := h
    exact .filterStarted channel kind mask pattern id handle s' h
  | stopMsgFilter channel id => exact effect_change fun s' => .filterStopped channel id s'
  | setProgrammingVoltage device resource voltage =>
    exact effect_change fun s' => .powered device resource voltage s'
  | readVersion device firmware dll api =>
    refine effect_ofAttempt fun memory s' h => ?_
    simp only [Attempt.bind_eq_ok_iff] at h
    obtain ⟨opened, -, _, -, _, -, _, -, h⟩ := h
    split at h
    · cases h
    · obtain ⟨-, rfl⟩ := Prod.mk.inj (Attempt.pure_eq_ok_iff.1 h)
      exact .answered _
  | getLastError text =>
    refine effect_ofAttempt fun memory s' h => ?_
    simp only [Attempt.bind_eq_ok_iff, Attempt.pure_eq_ok_iff, Prod.mk.injEq] at h
    obtain ⟨_, -, -, rfl⟩ := h
    exact .answered _
  | ioctl target id input output => exact effect_performIoctl s target id input output

end PassThru.Emulator
