import PassThru.Proofs.Emulator.Failures

/-!
# Calls to devices and to channels

A call to a device is refused for its handle exactly if the device is not open, and a call to
channels whose arguments can be read exactly if one of the channels is not. What else may be wrong
with a call is reported by other codes.

* `AddressesDevice` and `Addresses`: the devices and channels that a call is to.
* `device_answered_iff` and `channels_answered_iff`: when it is refused for their handles.
* `closeDevice_accepted_iff` and so on: the calls that take a handle back.
-/

namespace PassThru.Emulator

open Attempt

variable {w : Width}

/-- The call is to a device. -/
inductive AddressesDevice : Call w → UInt32 → Prop
  | connect (device protocol flags baud : Word w) (resource : NativeResource w)
      (channel : Option (Word w)) :
      AddressesDevice (.connect device protocol flags baud resource channel) device.narrow
  | setProgrammingVoltage (device : Word w) (resource : NativeResource w) (voltage : Word w) :
      AddressesDevice (.setProgrammingVoltage device resource voltage) device.narrow
  | readVersion (device : Word w) (firmware dll api : Option (List UInt8)) :
      AddressesDevice (.readVersion device firmware dll api) device.narrow
  | ioctl (target id : Word w) (input output : NativeControl w) (request : Ioctl)
      (request_eq : Ioctl.ofCode? id.narrow = some request)
      (toDevice : request = .readPinVoltage ∨ request = .readProgVoltage) :
      AddressesDevice (.ioctl target id input output) target.narrow

/-- The call is to channels, and its pointers are as they have to be. -/
inductive Addresses : Call w → List UInt32 → Prop
  | logicalConnect (physical protocol flags : Word w) (descriptor : NativeDescriptor w)
      (channel : Word w) :
      Addresses (.logicalConnect physical protocol flags (some descriptor) (some channel))
        [physical.narrow]
  | select (set : Option (NativeChannelSet w)) (kind timeout : Word w) (native : NativeChannelSet w)
      (ids : List UInt32) (arguments : selectArguments set kind.narrow = .ok (native, ids)) :
      Addresses (.select set kind timeout) ids
  | readMsgs (channel : Word w) (slots : List (NativeMessage w)) (count timeout : Word w) :
      Addresses (.readMsgs channel (some slots) (some count) timeout) [channel.narrow]
  | queueMsgs (channel : Word w) (messages : List (NativeMessage w)) (count : Word w) :
      Addresses (.queueMsgs channel (some messages) (some count)) [channel.narrow]
  | startPeriodicMsg (channel : Word w) (message : NativeMessage w) (id interval : Word w) :
      Addresses (.startPeriodicMsg channel (some message) (some id) interval) [channel.narrow]
  | stopPeriodicMsg (channel id : Word w) :
      Addresses (.stopPeriodicMsg channel id) [channel.narrow]
  | startMsgFilter (channel kind : Word w) (mask pattern : NativeMessage w) (id : Word w) :
      Addresses (.startMsgFilter channel kind (some mask) (some pattern) (some id)) [channel.narrow]
  | stopMsgFilter (channel id : Word w) : Addresses (.stopMsgFilter channel id) [channel.narrow]
  | ioctl (target id : Word w) (input output : NativeControl w) (request : Ioctl)
      (request_eq : Ioctl.ofCode? id.narrow = some request)
      (toChannel : Ioctl.ToChannel request input output) :
      Addresses (.ioctl target id input output) [target.narrow]

variable {s : State} {call : Call w}

/-! ## Refusals -/

/-- If the refusals are told from the other codes by their numbers, a gate shows in the status. -/
theorem answered_iff {opened : Prop} {refusals codes : List ErrorCode}
    (h : GatedBy opened refusals codes (perform s call).verdict)
    (hzero : ∀ refusal ∈ refusals, refusal.asStatus ≠ Status.noError)
    (hother : ∀ refusal ∈ refusals, ∀ code ∈ codes, code.asStatus ≠ refusal.asStatus) :
    (∀ refusal ∈ refusals, (driver call s).1.status ≠ refusal.asStatus) ↔ opened := by
  show (∀ refusal ∈ refusals, (perform s call).status ≠ _) ↔ _
  unfold Outcome.status
  by_cases hopen : opened
  · refine iff_of_true (fun refusal hmem => ?_) hopen
    cases hfailure : (perform s call).failure? with
    | none => exact (hzero refusal hmem).symm
    | some code =>
      have hcode := h.passed hopen code (Outcome.verdict_eq_error_iff.2 hfailure)
      exact hother refusal hmem code hcode
  · obtain ⟨refusal, hmem, hverdict⟩ := h.refused hopen
    refine iff_of_false (fun hall => hall refusal hmem ?_) hopen
    rw [Outcome.verdict_eq_error_iff.1 hverdict]

/-- The codes that a call to a device fails with once the device is found. -/
def deviceCodes : List ErrorCode :=
  [.deviceNotConnected, .nullRequired, .nullParameter, .protocolIdNotSupported, .flagNotSupported,
    .baudrateNotSupported, .pinNotSupported, .resourceConflict, .pinInUse, .voltageInUse,
    .exceededLimit]

/-- The codes that a call to channels fails with once they are found. -/
def channelCodes : List ErrorCode :=
  [.logChanNotAllowed, .protocolIdNotSupported, .notUnique, .exceededLimit, .timeout,
    .bufferTooSmall, .bufferEmpty, .timeIntervalNotSupported, .invalidMsg, .msgProtocolId,
    .invalidMsgId, .filterTypeNotSupported, .invalidFilterId, .nullParameter,
    .ioctlParamIdNotSupported, .ioctlValueNotSupported, .ioctlIdNotSupported]

theorem gatedBy_deviceCall {d : UInt32} (h : AddressesDevice call d) :
    GatedBy (s.devices.contains d = true) [.deviceNotOpen, .invalidDeviceId] deviceCodes
      (perform s call).verdict := by
  cases h with
  | connect device protocol flags baud resource channel =>
    apply gatedBy_issue
    exact (gatedBy_connect s _ _ _ _ resource _).mono (by decide)
  | setProgrammingVoltage device resource voltage =>
    apply gatedBy_change
    exact (gatedBy_setProgrammingVoltage s _ _ resource).mono (by decide)
  | readVersion device firmware dll api =>
    exact (gatedBy_performReadVersion s device _).mono (by decide)
  | ioctl target id input output request hrequest htoDevice =>
    exact (gatedBy_deviceRequest s hrequest htoDevice).mono (by decide)

theorem gatedBy_channelCall {ids : List UInt32} (h : Addresses call ids) :
    GatedBy (∀ id ∈ ids, s.channels.contains id = true) [.invalidChannelId] channelCodes
      (perform s call).verdict := by
  cases h with
  | select set kind timeout native ids harguments =>
    exact (gatedBy_performSelect s harguments).mono (by decide)
  | logicalConnect physical protocol flags descriptor channel =>
    rw [List.forall_mem_singleton]
    apply gatedBy_issue
    exact (gatedBy_logicalConnect s _ _ _ _).mono (by decide)
  | readMsgs channel slots count timeout =>
    rw [List.forall_mem_singleton]
    exact (gatedBy_performRead s channel slots count timeout).mono (by decide)
  | queueMsgs channel messages count =>
    rw [List.forall_mem_singleton]
    exact (gatedBy_performQueue s channel messages count).mono (by decide)
  | startPeriodicMsg channel message id interval =>
    rw [List.forall_mem_singleton]
    apply gatedBy_issue
    exact (gatedBy_startPeriodicMsg s _ _ message).mono (by decide)
  | stopPeriodicMsg channel id =>
    rw [List.forall_mem_singleton]
    apply gatedBy_change
    exact (gatedBy_stopPeriodicMsg s _ _).mono (by decide)
  | startMsgFilter channel kind mask pattern id =>
    rw [List.forall_mem_singleton]
    apply gatedBy_issue
    exact (gatedBy_startMsgFilter s _ _ mask pattern).mono (by decide)
  | stopMsgFilter channel id =>
    rw [List.forall_mem_singleton]
    apply gatedBy_change
    exact (gatedBy_stopMsgFilter s _ _).mono (by decide)
  | ioctl target id input output request hrequest htoChannel =>
    rw [List.forall_mem_singleton]
    exact (gatedBy_channelRequest s hrequest htoChannel).mono (by decide)

theorem device_answered_iff {d : UInt32} (h : AddressesDevice call d) :
    ((driver call s).1.status ≠ ErrorCode.deviceNotOpen.asStatus ∧
        (driver call s).1.status ≠ ErrorCode.invalidDeviceId.asStatus) ↔
      s.devices.contains d = true := by
  rw [← answered_iff (gatedBy_deviceCall h) (by decide) (by decide)]
  simp

theorem channels_answered_iff {ids : List UInt32} (h : Addresses call ids) :
    (driver call s).1.status ≠ ErrorCode.invalidChannelId.asStatus ↔
      ∀ id ∈ ids, s.channels.contains id = true := by
  rw [← answered_iff (gatedBy_channelCall h) (by decide) (by decide)]
  simp

/-! ## Calls that take handles back -/

section Accepted

variable (s : State)

theorem change_accepted_iff {attempt : Attempt State} :
    (change s attempt).failure? = none ↔ ∃ s', attempt = .ok s' := by
  cases attempt <;> simp [change, Outcome.ofAttempt, Except.map]

theorem closeDevice_accepted_iff (device : Word w) :
    (driver (.closeDevice device) s).1.status = Status.noError ↔
      s.devices.contains device.narrow = true := by
  refine (status_eq_noError_iff s _).trans ((change_accepted_iff s).trans ?_)
  simp only [State.closeDevice_eq_ok_iff, exists_and_left, exists_eq, and_true]

theorem disconnect_accepted_iff (channel : Word w) :
    (driver (.disconnect channel) s).1.status = Status.noError ↔
      ∃ ch, s.channels.get? channel.narrow = some ch ∧ ch.parent? = none := by
  refine (status_eq_noError_iff s _).trans ((change_accepted_iff s).trans ?_)
  simp only [State.disconnect_eq_ok_iff]
  rw [exists_comm]
  simp only [exists_and_left, exists_eq, and_true]

theorem logicalDisconnect_accepted_iff (channel : Word w) :
    (driver (.logicalDisconnect channel) s).1.status = Status.noError ↔
      ∃ ch, s.channels.get? channel.narrow = some ch ∧ ch.parent?.isSome = true := by
  refine (status_eq_noError_iff s _).trans ((change_accepted_iff s).trans ?_)
  simp only [State.logicalDisconnect_eq_ok_iff]
  rw [exists_comm]
  simp only [exists_and_left, exists_eq, and_true]

theorem stopPeriodicMsg_accepted_iff (channel id : Word w) :
    (driver (.stopPeriodicMsg channel id) s).1.status = Status.noError ↔
      ∃ ch, s.channels.get? channel.narrow = some ch ∧ ch.periodic.contains id.narrow = true := by
  refine (status_eq_noError_iff s _).trans ((change_accepted_iff s).trans ?_)
  simp only [State.stopPeriodicMsg_eq_ok_iff]
  rw [exists_comm]
  simp only [exists_and_left, exists_eq, and_true]

theorem stopMsgFilter_accepted_iff (channel id : Word w) :
    (driver (.stopMsgFilter channel id) s).1.status = Status.noError ↔
      ∃ ch, s.channels.get? channel.narrow = some ch ∧ ch.filters.contains id.narrow = true := by
  refine (status_eq_noError_iff s _).trans ((change_accepted_iff s).trans ?_)
  simp only [State.stopMsgFilter_eq_ok_iff]
  rw [exists_comm]
  simp only [exists_and_left, exists_eq, and_true]

end Accepted

end PassThru.Emulator
