import PassThru.Emulator.Dispatch
import PassThru.Proofs.Native.Widening

/-!
# The emulated library at both widths

The emulated library narrows each number before it looks at it, and what it writes back fits 32
bits. So a call does the same at both widths: it fails or succeeds alike, the state afterwards is
the same, and the memory afterwards is the widened one.

Every operation that is handed native structures has a lemma here; `driver_widen` puts them
together.
-/

namespace PassThru.Emulator

variable {α β γ δ : Type}

/-! ## Attempts -/

theorem bind_eq_map_bind {x : Attempt α} {next : α → Attempt γ} {next' : α → Attempt δ} {g : γ → δ}
    (h : ∀ a, next' a = (next a).map g) : (x >>= next') = (x >>= next).map g := by
  cases x with
  | error code => rfl
  | ok a => exact h a

theorem map_bind_eq_bind {x : Attempt α} {f : α → β} {next : α → Attempt γ} {next' : β → Attempt γ}
    (h : ∀ a, next' (f a) = next a) : (x.map f >>= next') = (x >>= next) := by
  cases x with
  | error code => rfl
  | ok a => exact h a

theorem map_bind_eq_map_bind {x : Attempt α} {f : α → β} {next : α → Attempt γ}
    {next' : β → Attempt δ} {g : γ → δ} (h : ∀ a, next' (f a) = (next a).map g) :
    (x.map f >>= next') = (x >>= next).map g := by
  cases x with
  | error code => rfl
  | ok a => exact h a

theorem present_map (f : α → β) (pointer : Option α) :
    Attempt.present (pointer.map f) = (Attempt.present pointer).map f := by
  cases pointer <;> rfl

/-- Whether a pointer is null does not depend on what it points at. -/
theorem present_map_bind (f : α → β) (pointer : Option α) (next : Attempt γ) :
    (Attempt.present (pointer.map f) >>= fun _ => next) =
      (Attempt.present pointer >>= fun _ => next) := by
  rw [present_map]
  exact map_bind_eq_bind fun _ => rfl

/-! ## Arguments -/

theorem readList_widen (f : α → β) (count : Word .w32) (list : Option (List α)) :
    readList count.widen (list.map (List.map f)) = (readList count list).map (List.map f) := by
  unfold readList
  rw [Word.narrow_widen]
  split
  · rfl
  · cases list with
    | none => rfl
    | some list => exact congrArg Except.ok List.map_take.symm

theorem pinRequest_widen (r : NativeResource .w32) :
    PinRequest.ofNative r.widen = PinRequest.ofNative r := by
  unfold PinRequest.ofNative NativeResource.widen
  rw [readList_widen]
  cases readList r.count r.list with
  | error code => rfl
  | ok pins =>
    refine congrArg (fun pins => PinRequest.mk r.connector.narrow (.ok pins)) ?_
    exact List.map_map

theorem readSettings_widen (argument : NativeControl .w32) :
    readSettings argument.widen = (readSettings argument).map (List.map NativeSetting.widen) := by
  cases argument with
  | configList list => exact readList_widen _ list.count list.list
  | _ => rfl

theorem readBytes_widen (argument : NativeControl .w32) :
    readBytes argument.widen = readBytes argument := by
  cases argument <;> rfl

theorem readPins_widen (argument : NativeControl .w32) :
    readPins argument.widen = readPins argument := by
  cases argument with
  | resource r => exact congrArg Except.ok (pinRequest_widen r)
  | _ => rfl

theorem requireNull_widen (argument : NativeControl .w32) :
    requireNull argument.widen = requireNull argument := by
  unfold requireNull
  rw [NativeControl.isNull_widen]

theorem requirePresent_widen (argument : NativeControl .w32) :
    requirePresent argument.widen = requirePresent argument := by
  unfold requirePresent
  rw [NativeControl.isNull_widen]

/-! ## Outcomes -/

/-- The outcome with its memory in another form. -/
def Outcome.map (f : α → β) (outcome : Outcome α) : Outcome β :=
  ⟨outcome.failure?, f outcome.memory, outcome.state⟩

theorem ofAttempt_map (f : α → β) (s : State) (memory : α) (attempt : Attempt (α × State)) :
    Outcome.ofAttempt s (f memory) (attempt.map fun (memory, s) => (f memory, s)) =
      (Outcome.ofAttempt s memory attempt).map f := by
  cases attempt <;> rfl

theorem issue_widen (s : State) (output : Option (Word .w32)) (attempt : Attempt (UInt32 × State)) :
    issue s (output.map Word.widen) attempt =
      (issue s output attempt).map (Option.map Word.widen) := by
  cases attempt with
  | error code => rfl
  | ok issued => cases output <;> rfl

theorem controlChange_widen (s : State) (memory : ControlMemory .w32) (attempt : Attempt State) :
    controlChange s memory.widen attempt =
      (controlChange s memory attempt).map ControlMemory.widen := by
  cases attempt <;> rfl

theorem controlQuery_widen (s : State) (memory : ControlMemory .w32)
    (attempt : Attempt (NativeControl .w32)) :
    controlQuery s memory.widen (attempt.map NativeControl.widen) =
      (controlQuery s memory attempt).map ControlMemory.widen := by
  cases attempt <;> rfl

/-! ## Devices -/

theorem performScan_widen (s : State) (count : Option (Word .w32)) :
    performScan s (count.map Word.widen) = (performScan s count).map (Option.map Word.widen) := by
  cases count <;> rfl

theorem performNextDevice_widen (s : State) (out : Option (NativeDevice .w32)) :
    performNextDevice s (out.map NativeDevice.widen) =
      (performNextDevice s out).map (Option.map NativeDevice.widen) := by
  unfold performNextDevice
  rw [← ofAttempt_map, present_map_bind]
  refine congrArg (Outcome.ofAttempt s _) ?_
  refine bind_eq_map_bind fun _ => bind_eq_map_bind fun device => ?_
  rw [Device.encode_widen]
  cases device.encode <;> rfl

theorem performOpen_widen (s : State) (name : Option (List UInt8)) (device : Option (Word .w32)) :
    performOpen s name (device.map Word.widen) =
      (performOpen s name device).map (Option.map Word.widen) := by
  unfold performOpen
  simp only [present_map_bind]
  exact issue_widen s device _

theorem performLogicalConnect_widen (s : State) (physical protocol : Word .w32)
    (descriptor : Option (NativeDescriptor .w32)) (channel : Option (Word .w32)) :
    performLogicalConnect s physical.widen protocol.widen (descriptor.map NativeDescriptor.widen)
        (channel.map Word.widen) =
      (performLogicalConnect s physical protocol descriptor channel).map
        (Option.map Word.widen) := by
  unfold performLogicalConnect
  rw [← issue_widen, present_map]
  refine congrArg (issue s _) (map_bind_eq_bind fun descriptor => ?_)
  exact present_map_bind Word.widen channel _

/-! ## Selecting -/

theorem selectArguments_widen (set : Option (NativeChannelSet .w32)) (kind : UInt32) :
    selectArguments (set.map NativeChannelSet.widen) kind =
      (selectArguments set kind).map fun (set, ids) => (set.widen, ids) := by
  unfold selectArguments
  rw [present_map]
  refine map_bind_eq_map_bind fun set => bind_eq_map_bind fun _ => ?_
  have hlist := readList_widen Word.widen set.count set.list
  rw [show readList set.widen.count set.widen.list = _ from hlist]
  refine map_bind_eq_map_bind fun ids => ?_
  rw [List.isEmpty_map, List.length_map, List.map_map]
  exact bind_eq_map_bind fun _ => bind_eq_map_bind fun _ => rfl

theorem answerSelect_widen (set : NativeChannelSet .w32) (ready : List UInt32) :
    answerSelect set.widen ready = (answerSelect set ready).widen := by
  refine congrArg (NativeChannelSet.mk _ _) ?_
  show (set.list.map _).map _ = (set.list.map _).map _
  rw [Option.map_map, Option.map_map]
  refine congrArg (set.list.map ·) ?_
  funext list
  rw [Function.comp_apply, Function.comp_apply, List.map_append, List.map_drop, List.map_map]
  rfl

theorem performSelect_widen (s : State) (set : Option (NativeChannelSet .w32)) (kind : Word .w32) :
    performSelect s (set.map NativeChannelSet.widen) kind.widen =
      (performSelect s set kind).map (Option.map NativeChannelSet.widen) := by
  unfold performSelect
  rw [Word.narrow_widen, selectArguments_widen]
  rcases selectArguments set kind.narrow with code | ⟨native, ids⟩
  · rfl
  · dsimp only [Except.map]
    rcases State.readyAmong ids s with ⟨code | ready, s⟩
    · rfl
    · show (if ready.length < native.threshold.narrow.toNat then _ else _) = _
      dsimp only
      rw [answerSelect_widen]
      split <;> rfl

/-! ## Messages -/

/-- The delivery with its slots widened. -/
def Delivery.widen (delivery : Delivery .w32) : Delivery .w64 :=
  ⟨delivery.slots.map NativeMessage.widen, delivery.left, delivery.count, delivery.refused⟩

theorem deliver_widen (n : Nat) (frames : List Message) (slots : List (NativeMessage .w32)) :
    deliver n frames (slots.map NativeMessage.widen) = (deliver n frames slots).widen := by
  induction n generalizing frames slots with
  | zero => cases frames <;> cases slots <;> rfl
  | succ n ih =>
    cases frames with
    | nil => cases slots <;> rfl
    | cons frame frames =>
      cases slots with
      | nil => rfl
      | cons slot slots =>
        rw [List.map_cons, deliver, deliver, NativeMessage.write_widen]
        cases slot.write frame with
        | error e => rfl
        | ok filled =>
          dsimp only [Except.map]
          rw [ih frames slots]
          rfl

theorem accept_widen (protocol : Protocol) (messages : List (NativeMessage .w32)) :
    accept protocol (messages.map NativeMessage.widen) = accept protocol messages := by
  induction messages with
  | nil => rfl
  | cons m rest ih => rw [List.map_cons, accept, accept, NativeMessage.read_widen, ih]

theorem performRead_widen (s : State) (channel : Word .w32) (memory : MessageMemory .w32)
    (timeout : Word .w32) :
    performRead s channel.widen memory.widen timeout.widen =
      (performRead s channel memory timeout).map MessageMemory.widen := by
  rcases memory with ⟨_ | slots, _ | count⟩
  · rfl
  · rfl
  · rfl
  · unfold performRead
    dsimp only [MessageMemory.widen, Option.map_some, Word.narrow_widen]
    cases s.pump channel.narrow with
    | error code => rfl
    | ok pumped =>
      dsimp only
      rw [deliver_widen]
      rfl

theorem performQueue_widen (s : State) (channel : Word .w32) (memory : MessageMemory .w32) :
    performQueue s channel.widen memory.widen =
      (performQueue s channel memory).map MessageMemory.widen := by
  rcases memory with ⟨_ | messages, _ | count⟩
  · rfl
  · rfl
  · rfl
  · unfold performQueue
    dsimp only [MessageMemory.widen, Option.map_some, Word.narrow_widen]
    cases s.channel channel.narrow with
    | error code => rfl
    | ok ch =>
      dsimp only
      rw [← List.map_take, accept_widen]
      rfl

theorem performStartPeriodicMsg_widen (s : State) (channel : Word .w32)
    (message : Option (NativeMessage .w32)) (id : Option (Word .w32)) (interval : Word .w32) :
    performStartPeriodicMsg s channel.widen (message.map NativeMessage.widen) (id.map Word.widen)
        interval.widen =
      (performStartPeriodicMsg s channel message id interval).map (Option.map Word.widen) := by
  unfold performStartPeriodicMsg
  rw [← issue_widen, present_map]
  refine congrArg (issue s _) (map_bind_eq_bind fun message => ?_)
  exact present_map_bind Word.widen id _

theorem performStartMsgFilter_widen (s : State) (channel kind : Word .w32)
    (mask pattern : Option (NativeMessage .w32)) (id : Option (Word .w32)) :
    performStartMsgFilter s channel.widen kind.widen (mask.map NativeMessage.widen)
        (pattern.map NativeMessage.widen) (id.map Word.widen) =
      (performStartMsgFilter s channel kind mask pattern id).map (Option.map Word.widen) := by
  unfold performStartMsgFilter
  rw [← issue_widen, present_map, present_map]
  refine congrArg (issue s _) (map_bind_eq_bind fun mask => map_bind_eq_bind fun pattern => ?_)
  exact present_map_bind Word.widen id _

/-! ## Control requests -/

theorem fillSettings_widen (ch : Channel) (entries : List (NativeSetting .w32)) :
    fillSettings ch (entries.map NativeSetting.widen) =
      ((fillSettings ch entries).1.map NativeSetting.widen, (fillSettings ch entries).2) := by
  induction entries with
  | nil => rfl
  | cons entry rest ih =>
    have hparameter : entry.widen.parameter.narrow = entry.parameter.narrow := rfl
    rw [List.map_cons, fillSettings, fillSettings, hparameter]
    cases ch.setting entry.parameter.narrow with
    | error code => rfl
    | ok value =>
      dsimp only
      rw [ih]
      rfl

section Requests

variable (s : State) (target : UInt32) (input output : NativeControl .w32)

theorem getConfig_widen :
    s.getConfig target input.widen output.widen =
      (s.getConfig target input output).map fun (input, failure?) => (input.widen, failure?) := by
  unfold State.getConfig
  rw [requireNull_widen, readSettings_widen]
  refine bind_eq_map_bind fun _ => bind_eq_map_bind fun ch => map_bind_eq_map_bind fun entries => ?_
  rw [fillSettings_widen]
  exact congrArg (fun input => Except.ok (input, _)) (input.withSettings_widen _)

theorem setConfig_widen :
    s.setConfig target input.widen output.widen = s.setConfig target input output := by
  unfold State.setConfig
  rw [requireNull_widen, readSettings_widen]
  refine bind_congr fun _ => bind_congr fun ch => map_bind_eq_bind fun entries => ?_
  rw [List.map_map]
  rfl

theorem readPinVoltage_widen :
    s.readPinVoltage target input.widen output.widen =
      (s.readPinVoltage target input output).map NativeControl.widen := by
  unfold State.readPinVoltage
  rw [requirePresent_widen, requirePresent_widen, readPins_widen]
  refine bind_eq_map_bind fun device => bind_eq_map_bind fun _ => bind_eq_map_bind fun _ => ?_
  refine bind_eq_map_bind fun request => bind_eq_map_bind fun pin => ?_
  exact congrArg Except.ok (output.withNumber_widen _)

theorem readProgVoltage_widen :
    s.readProgVoltage target input.widen output.widen =
      (s.readProgVoltage target input output).map NativeControl.widen := by
  unfold State.readProgVoltage
  rw [requireNull_widen, requirePresent_widen]
  refine bind_eq_map_bind fun device => bind_eq_map_bind fun _ => bind_eq_map_bind fun _ => ?_
  exact congrArg Except.ok (output.withNumber_widen _)

theorem fiveBaudInit_widen :
    s.fiveBaudInit target input.widen output.widen =
      (s.fiveBaudInit target input output).map NativeControl.widen := by
  unfold State.fiveBaudInit
  rw [requirePresent_widen, readBytes_widen]
  refine bind_eq_map_bind fun ch => bind_eq_map_bind fun _ => bind_eq_map_bind fun _ => ?_
  refine bind_eq_map_bind fun address => bind_eq_map_bind fun _ => ?_
  cases output with
  | bytes array =>
    rcases array with ⟨count, _ | bytes⟩
    · rfl
    · exact bind_eq_map_bind fun _ => rfl
  | _ => rfl

theorem fastInit_widen :
    s.fastInit target input.widen output.widen =
      (s.fastInit target input output).map NativeControl.widen := by
  unfold State.fastInit
  rw [requirePresent_widen, requirePresent_widen]
  refine bind_eq_map_bind fun ch => bind_eq_map_bind fun _ => ?_
  refine bind_eq_map_bind fun _ => bind_eq_map_bind fun _ => ?_
  cases input with
  | message request =>
    cases output with
    | message slot =>
      refine bind_eq_map_bind fun request => bind_eq_map_bind fun _ => ?_
      rw [NativeMessage.write_widen]
      cases slot.write (fastInitResponse ch.protocol request.data) <;> rfl
    | _ => rfl
  | _ => rfl

theorem changeFunctional_widen (change : List UInt8 → UInt8 → List UInt8) :
    s.changeFunctional change target input.widen output.widen =
      s.changeFunctional change target input output := by
  unfold State.changeFunctional
  rw [requireNull_widen, readBytes_widen]

theorem clear_widen (request : Ioctl) :
    s.clear request target input.widen output.widen = s.clear request target input output := by
  unfold State.clear
  rw [requireNull_widen, requireNull_widen]

end Requests

theorem performIoctl_widen (s : State) (target id : Word .w32) (memory : ControlMemory .w32) :
    performIoctl s target.widen id.widen memory.widen =
      (performIoctl s target id memory).map ControlMemory.widen := by
  rcases memory with ⟨input, output⟩
  unfold performIoctl
  dsimp only [ControlMemory.widen]
  rw [Word.narrow_widen, Word.narrow_widen]
  cases Ioctl.ofCode? id.narrow with
  | none => rfl
  | some request =>
    cases request with
    | getConfig =>
      dsimp only
      rw [getConfig_widen]
      cases s.getConfig target.narrow input output <;> rfl
    | setConfig =>
      dsimp only
      rw [setConfig_widen]
      exact controlChange_widen s ⟨input, output⟩ _
    | readPinVoltage =>
      dsimp only
      rw [readPinVoltage_widen]
      exact controlQuery_widen s ⟨input, output⟩ _
    | readProgVoltage =>
      dsimp only
      rw [readProgVoltage_widen]
      exact controlQuery_widen s ⟨input, output⟩ _
    | fiveBaudInit =>
      dsimp only
      rw [fiveBaudInit_widen]
      exact controlQuery_widen s ⟨input, output⟩ _
    | fastInit =>
      dsimp only
      rw [fastInit_widen]
      exact controlQuery_widen s ⟨input, output⟩ _
    | addToFunctMsgLookupTable | deleteFromFunctMsgLookupTable =>
      dsimp only
      rw [changeFunctional_widen]
      exact controlChange_widen s ⟨input, output⟩ _
    | _ =>
      dsimp only
      rw [clear_widen]
      exact controlChange_widen s ⟨input, output⟩ _

/-! ## Calls -/

theorem perform_widen (s : State) (call : Call .w32) :
    perform s call.widen = (perform s call).map call.widenMemory := by
  cases call with
  | scanForDevices count => exact performScan_widen s count
  | getNextDevice device => exact performNextDevice_widen s device
  | openDevice name device => exact performOpen_widen s name device
  | connect device protocol flags baud resource channel =>
    show issue s _
      (s.connect _ _ _ _ (.ofNative resource.widen) (channel.map Word.widen).isSome) = _
    rw [pinRequest_widen, Option.isSome_map]
    exact issue_widen s channel _
  | logicalConnect physical protocol flags descriptor channel =>
    exact performLogicalConnect_widen s physical protocol descriptor channel
  | select set kind timeout => exact performSelect_widen s set kind
  | readMsgs channel slots count timeout =>
    exact performRead_widen s channel ⟨slots, count⟩ timeout
  | queueMsgs channel messages count => exact performQueue_widen s channel ⟨messages, count⟩
  | startPeriodicMsg channel message id interval =>
    exact performStartPeriodicMsg_widen s channel message id interval
  | startMsgFilter channel kind mask pattern id =>
    exact performStartMsgFilter_widen s channel kind mask pattern id
  | setProgrammingVoltage device resource voltage =>
    show change s (s.setProgrammingVoltage _ (.ofNative resource.widen) _) = _
    rw [pinRequest_widen]
    rfl
  | ioctl target id input output => exact performIoctl_widen s target id ⟨input, output⟩
  | _ => rfl

theorem driver_widen (call : Call .w32) (s : State) :
    driver call.widen s = ((driver call s).1.widen, (driver call s).2) := by
  unfold driver
  rw [perform_widen, Call.entry_widen]
  rfl

end PassThru.Emulator
