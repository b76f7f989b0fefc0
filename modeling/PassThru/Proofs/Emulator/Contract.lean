import PassThru.Proofs.Emulator.Failures
import PassThru.Proofs.Emulator.Names
import PassThru.Proofs.Native.Decoding

/-!
# The calling contract

Which pointers a call comes with is up to its caller. A call is *lawful* if it has memory for each
of its outputs, as many items in a list as its count says, and behind the untyped pointers of a
control request what that request reads and fills. The library answers a lawful call with none of
the codes for a wrong pointer, unless the call names no device to open or no channel to select, and
never with the code for a fault of its own.

* `Call.Lawful`: the pointers that a call has to come with.
* `Call.codes`: what a lawful call can fail with.
* `failsIn_lawful`: a lawful call fails with one of its codes.
-/

namespace PassThru

open Emulator (keyBytes)

variable {w : Width}

/-! ## Lawful calls -/

/-- A list that has as many items as its count says; a null pointer has none. -/
def Listed {α : Type} (count : Word w) (list : Option (List α)) : Prop :=
  count.narrow.toNat ≤ (list.getD []).length

/-- An argument of a control request whose list, if it has one, can be read. -/
def NativeControl.Listed : NativeControl w → Prop
  | configList list => PassThru.Listed list.count list.list
  | bytes array => PassThru.Listed array.count array.bytes
  | resource r => PassThru.Listed r.count r.list
  | null | message _ | number _ => True

/-- An output with room for the key bytes of a controller, if it is one for bytes. -/
def NativeControl.HoldsKeyBytes : NativeControl w → Prop
  | bytes array => array.bytes.isSome = true ∧ keyBytes.length ≤ array.count.narrow.toNat
  | null | configList _ | message _ | resource _ | number _ => True

/-- The shape of the output that a request is called with; a query of configuration parameters
answers in its input. -/
def Ioctl.roomShape (request : Ioctl) : Ioctl.Shape :=
  if request = .getConfig then .none else request.outputShape

/-- The arguments that a control request is to be called with. -/
structure Ioctl.Lawful (request : Ioctl) (input output : NativeControl w) : Prop where
  input_shape : input.shape = request.inputShape
  output_shape : output.shape = request.roomShape
  listed : input.Listed
  room : output.HoldsKeyBytes

namespace Call

/-- The pointers that a call has to come with. A name may be missing, since that is what its absence
is refused for. -/
def Lawful : Call w → Prop
  | scanForDevices count => count.isSome = true
  | getNextDevice device => device.isSome = true
  | openDevice _ device => device.isSome = true
  | connect _ _ _ _ resource channel => Listed resource.count resource.list ∧ channel.isSome = true
  | logicalConnect _ _ _ descriptor channel => descriptor.isSome = true ∧ channel.isSome = true
  | select set _ _ => ∃ native, set = some native ∧ Listed native.count native.list
  | readMsgs _ slots count _ => slots.isSome = true ∧ count.isSome = true
  | queueMsgs _ messages count => messages.isSome = true ∧ count.isSome = true
  | startPeriodicMsg _ message id _ => message.isSome = true ∧ id.isSome = true
  | startMsgFilter _ _ mask pattern id =>
    mask.isSome = true ∧ pattern.isSome = true ∧ id.isSome = true
  | setProgrammingVoltage _ resource _ => Listed resource.count resource.list
  | readVersion _ firmware dll api =>
    firmware.isSome = true ∧ dll.isSome = true ∧ api.isSome = true
  | getLastError text => text.isSome = true
  | ioctl _ id input output =>
    ∀ request, Ioctl.ofCode? id.narrow = some request → request.Lawful input output
  | closeDevice _ | disconnect _ | logicalDisconnect _ | stopPeriodicMsg _ _ | stopMsgFilter _ _ =>
    True

end Call

/-- What any lawful call may fail with. -/
def ErrorCode.lawful : List ErrorCode :=
  all.filter fun code => code ∉ [nullParameter, nullRequired, failed, bufferTooSmall]

/-- What a lawful call can fail with. It may name no device or no channel, or a message may not
fit. -/
def Call.codes : Call w → List ErrorCode
  | openDevice name _ =>
    if (name.map Field.decode).getD "" = "" then .nullParameter :: ErrorCode.lawful
    else ErrorCode.lawful
  | select set _ _ =>
    if (set.map fun native => native.count.narrow).getD 0 = 0 then
      .nullParameter :: ErrorCode.lawful
    else ErrorCode.lawful
  | readMsgs _ _ _ _ => .bufferTooSmall :: ErrorCode.lawful
  | ioctl _ id _ _ =>
    if Ioctl.ofCode? id.narrow = some .fastInit then .bufferTooSmall :: ErrorCode.lawful
    else ErrorCode.lawful
  | _ => ErrorCode.lawful

namespace Attempt

variable {codes : List ErrorCode}

theorem failsIn_present {α : Type} {o : Option α} (h : o.isSome = true) :
    FailsIn codes (present o) := by
  rw [failsIn_present_iff]
  rintro rfl
  cases h

theorem failsIn_require_bind {β : Type} {condition : Bool} {code : ErrorCode}
    {f : Unit → Attempt β} (hcode : code ∈ codes) (h : FailsIn codes (f ())) :
    FailsIn codes (require condition code >>= f) :=
  failsIn_bind_iff.2 ⟨failsIn_require_iff.2 fun _ => hcode, fun _ _ => h⟩

theorem failsIn_present_bind {α β : Type} {o : Option α} {f : α → Attempt β} (ho : o.isSome = true)
    (h : ∀ a, FailsIn codes (f a)) : FailsIn codes (present o >>= f) :=
  failsIn_bind_iff.2 ⟨failsIn_present ho, fun a _ => h a⟩

end Attempt

namespace Emulator

open Attempt ErrorCode

section Arguments

variable {codes : List ErrorCode}

theorem isSome_of_listed {α : Type} {count : Word w} {list : Option (List α)}
    (h : Listed count list) (hcount : count.narrow ≠ 0) : list.isSome = true := by
  cases list with
  | some _ => rfl
  | none =>
    have hzero : count.narrow.toNat = 0 := Nat.le_zero.1 h
    exact absurd (UInt32.toNat_inj.1 hzero) hcount

theorem failsIn_readList_of_listed {α : Type} {count : Word w} {list : Option (List α)}
    (h : Listed count list) : FailsIn codes (readList count list) := by
  unfold readList
  split
  · exact failsIn_ok _
  · next hcount =>
    rw [failsIn_map_iff]
    exact failsIn_present (isSome_of_listed h hcount)

theorem length_of_readList {α : Type} {count : Word w} {list : Option (List α)}
    (h : Listed count list) {items : List α} (hread : readList count list = .ok items) :
    items.length = count.narrow.toNat := by
  unfold readList at hread
  split at hread
  · next hzero =>
    cases hread
    rw [hzero]
    rfl
  · cases list with
    | none => cases hread
    | some list =>
      cases hread
      rw [List.length_take]
      exact Nat.min_eq_left h

theorem failsIn_pins_of_listed {resource : NativeResource w}
    (h : Listed resource.count resource.list) :
    FailsIn codes (PinRequest.ofNative resource).pins := by
  unfold PinRequest.ofNative
  rw [failsIn_map_iff]
  exact failsIn_readList_of_listed h

theorem failsIn_single_of_listed {resource : NativeResource w}
    (h : Listed resource.count resource.list) (hcodes : .pinNotSupported ∈ codes) :
    FailsIn codes (PinRequest.ofNative resource).single := by
  unfold PinRequest.single
  refine failsIn_bind_iff.2 ⟨failsIn_pins_of_listed h, fun pins _ => ?_⟩
  split
  · exact failsIn_pure _
  · exact failsIn_error_iff.2 hcodes

theorem failsIn_requireNull_of_shape {argument : NativeControl w} (h : argument.shape = .none) :
    FailsIn codes (requireNull argument) := by
  rw [requireNull_of_isNull (NativeControl.isNull_iff.2 h)]
  exact failsIn_ok _

theorem failsIn_requirePresent_of_shape {argument : NativeControl w} (h : argument.shape ≠ .none) :
    FailsIn codes (requirePresent argument) := by
  unfold requirePresent
  rw [failsIn_require_iff]
  intro hnull
  rw [Bool.not_eq_false'] at hnull
  exact absurd (NativeControl.isNull_iff.1 hnull) h

end Arguments

/-! ## Operations -/

section Operations

variable (s : State)

theorem failsIn_device (id : UInt32) : FailsIn lawful (s.device id) :=
  (gatedBy_device s id).failsIn.mono (by decide)

theorem failsIn_channel (id : UInt32) : FailsIn lawful (s.channel id) :=
  (gatedBy_channel s id).failsIn.mono (by decide)

theorem failsIn_connect_of_listed (id protocolId flags baud : UInt32) {resource : NativeResource w}
    (h : Listed resource.count resource.list) :
    FailsIn lawful (s.connect id protocolId flags baud (.ofNative resource) true) := by
  have hprotocol : FailsIn lawful (State.physicalProtocol protocolId) := by
    unfold State.physicalProtocol
    split
    · split
      · exact failsIn_error_iff.2 (by decide)
      · exact failsIn_ok _
    · exact failsIn_error_iff.2 (by decide)
  refine failsIn_bind_iff.2 ⟨failsIn_device s id, fun device _ => ?_⟩
  refine failsIn_bind_iff.2 ⟨failsIn_ok _, fun _ _ => ?_⟩
  refine failsIn_bind_iff.2 ⟨hprotocol, fun protocol _ => ?_⟩
  refine failsIn_require_bind (by decide) (failsIn_require_bind (by decide) ?_)
  refine failsIn_bind_iff.2 ⟨failsIn_pins_of_listed h, fun pins _ => ?_⟩
  refine failsIn_require_bind (by decide) (failsIn_require_bind (by decide) ?_)
  exact failsIn_require_bind (by decide) (failsIn_pure _)

theorem failsIn_setProgrammingVoltage_of_listed (id voltage : UInt32) {resource : NativeResource w}
    (h : Listed resource.count resource.list) :
    FailsIn lawful (s.setProgrammingVoltage id (.ofNative resource) voltage) := by
  refine failsIn_bind_iff.2 ⟨failsIn_device s id, fun device _ => ?_⟩
  refine failsIn_bind_iff.2 ⟨failsIn_single_of_listed h (by decide), fun pin _ => ?_⟩
  refine failsIn_require_bind (by decide) (failsIn_require_bind (by decide) ?_)
  exact failsIn_bind_iff.2
    ⟨(failsIn_applyVoltage _ pin voltage).mono (by decide), fun _ _ => failsIn_pure _⟩

theorem failsIn_performReadVersion (device : Word w) {memory : VersionMemory}
    (hfirmware : memory.firmware.isSome = true) (hdll : memory.dll.isSome = true)
    (hapi : memory.api.isSome = true) :
    FailsIn lawful (performReadVersion s device memory).verdict := by
  refine failsIn_ofAttempt (failsIn_bind_iff.2 ⟨failsIn_device s _, fun opened _ => ?_⟩)
  refine failsIn_present_bind hfirmware fun _ => ?_
  refine failsIn_present_bind hdll fun _ => ?_
  refine failsIn_present_bind hapi fun _ => ?_
  split
  · exact failsIn_error_iff.2 (by decide)
  · exact failsIn_pure _

end Operations

/-! ## Control requests -/

section Control

variable (s : State) (target : UInt32) {input output : NativeControl w}

theorem failsIn_readSettings_of_listed (hshape : input.shape = .configList) (h : input.Listed) :
    FailsIn lawful (readSettings input) := by
  cases input with
  | configList list => exact failsIn_readList_of_listed h
  | _ => cases hshape

theorem failsIn_readBytes_of_listed (hshape : input.shape = .bytes) (h : input.Listed) :
    FailsIn lawful (readBytes input) := by
  cases input with
  | bytes array => exact failsIn_readList_of_listed h
  | _ => cases hshape

theorem failsIn_getConfig_of_lawful (h : Ioctl.Lawful .getConfig input output) :
    FailsIn lawful (s.getConfig target input output) := by
  refine failsIn_bind_iff.2 ⟨failsIn_requireNull_of_shape h.output_shape, fun _ _ => ?_⟩
  refine failsIn_bind_iff.2 ⟨failsIn_channel s target, fun ch _ => ?_⟩
  exact failsIn_bind_iff.2
    ⟨failsIn_readSettings_of_listed h.input_shape h.listed, fun _ _ => failsIn_pure _⟩

theorem failsIn_setConfig_of_lawful (h : Ioctl.Lawful .setConfig input output) :
    FailsIn lawful (s.setConfig target input output) := by
  refine failsIn_bind_iff.2 ⟨failsIn_requireNull_of_shape h.output_shape, fun _ _ => ?_⟩
  refine failsIn_bind_iff.2 ⟨failsIn_channel s target, fun ch _ => ?_⟩
  refine failsIn_bind_iff.2
    ⟨failsIn_readSettings_of_listed h.input_shape h.listed, fun entries _ => ?_⟩
  exact failsIn_bind_iff.2 ⟨(failsIn_checkSettings _).mono (by decide), fun _ _ => failsIn_pure _⟩

theorem failsIn_readPinVoltage_of_lawful (h : Ioctl.Lawful .readPinVoltage input output) :
    FailsIn lawful (s.readPinVoltage target input output) := by
  obtain ⟨hinput, houtput, hlisted, -⟩ := h
  cases input with
  | resource resource =>
    refine failsIn_bind_iff.2 ⟨failsIn_device s target, fun device _ => ?_⟩
    refine failsIn_bind_iff.2 ⟨failsIn_ok _, fun _ _ => ?_⟩
    refine failsIn_bind_iff.2 ⟨failsIn_requirePresent_of_shape ?_, fun _ _ => ?_⟩
    · rw [houtput]
      decide
    · refine failsIn_bind_iff.2 ⟨failsIn_ok _, fun request hrequest => ?_⟩
      cases hrequest
      exact failsIn_bind_iff.2
        ⟨failsIn_single_of_listed hlisted (by decide), fun _ _ => failsIn_pure _⟩
  | _ => cases hinput

theorem failsIn_readProgVoltage_of_lawful (h : Ioctl.Lawful .readProgVoltage input output) :
    FailsIn lawful (s.readProgVoltage target input output) := by
  refine failsIn_bind_iff.2 ⟨failsIn_device s target, fun device _ => ?_⟩
  refine failsIn_bind_iff.2 ⟨failsIn_requireNull_of_shape h.input_shape, fun _ _ => ?_⟩
  refine failsIn_bind_iff.2 ⟨failsIn_requirePresent_of_shape ?_, fun _ _ => failsIn_pure _⟩
  rw [h.output_shape]
  decide

/-- With room for the key bytes, a five-baud initialization does not fail for want of it. -/
theorem failsIn_fiveBaudInit_of_lawful (h : Ioctl.Lawful .fiveBaudInit input output) :
    FailsIn lawful (s.fiveBaudInit target input output) := by
  obtain ⟨hinput, houtput, hlisted, hroom⟩ := h
  cases output with
  | bytes array =>
    obtain ⟨count, bytes⟩ := array
    obtain ⟨hbytes, hcount⟩ := hroom
    cases bytes with
    | none => cases hbytes
    | some bytes =>
      refine failsIn_bind_iff.2 ⟨failsIn_channel s target, fun ch _ => ?_⟩
      refine failsIn_require_bind (by decide) ?_
      refine failsIn_bind_iff.2 ⟨failsIn_ok _, fun _ _ => ?_⟩
      refine failsIn_bind_iff.2 ⟨failsIn_readBytes_of_listed hinput hlisted, fun address _ => ?_⟩
      refine failsIn_require_bind (by decide) ?_
      refine failsIn_bind_iff.2 ⟨failsIn_require_iff.2 fun hfew => ?_, fun _ _ => failsIn_pure _⟩
      exact absurd hcount (of_decide_eq_false hfew)
  | _ => cases houtput

theorem failsIn_fastInit_of_lawful (h : Ioctl.Lawful .fastInit input output) :
    FailsIn (.bufferTooSmall :: lawful) (s.fastInit target input output) := by
  obtain ⟨hinput, houtput, -, -⟩ := h
  cases input with
  | message request =>
    cases output with
    | message slot =>
      refine failsIn_bind_iff.2 ⟨(failsIn_channel s target).mono (by decide), fun ch _ => ?_⟩
      refine failsIn_require_bind (by decide) ?_
      refine failsIn_bind_iff.2 ⟨failsIn_ok _, fun _ _ => ?_⟩
      refine failsIn_bind_iff.2 ⟨failsIn_ok _, fun _ _ => ?_⟩
      refine failsIn_bind_iff.2 ⟨(failsIn_readMessage request).mono (by decide), fun m _ => ?_⟩
      refine failsIn_require_bind (by decide) ?_
      split
      · exact failsIn_pure _
      · exact failsIn_error_iff.2 (by decide)
    | _ => cases houtput
  | _ => cases hinput

theorem failsIn_changeFunctional_of_listed (change : List UInt8 → UInt8 → List UInt8)
    (hinput : input.shape = .bytes) (houtput : output.shape = .none) (hlisted : input.Listed) :
    FailsIn lawful (s.changeFunctional change target input output) := by
  refine failsIn_bind_iff.2 ⟨failsIn_requireNull_of_shape houtput, fun _ _ => ?_⟩
  refine failsIn_bind_iff.2 ⟨failsIn_channel s target, fun ch _ => ?_⟩
  refine failsIn_require_bind (by decide) ?_
  exact failsIn_bind_iff.2
    ⟨failsIn_readBytes_of_listed hinput hlisted, fun _ _ => failsIn_pure _⟩

theorem failsIn_clear_of_shape (request : Ioctl) (hinput : input.shape = .none)
    (houtput : output.shape = .none) : FailsIn lawful (s.clear request target input output) :=
  (gatedBy_clear s target input output request (NativeControl.isNull_iff.2 hinput)
    (NativeControl.isNull_iff.2 houtput)).failsIn.mono (by decide)

end Control

theorem failsIn_performIoctl_of_lawful (s : State) (target id : Word w) {request : Ioctl}
    (hrequest : Ioctl.ofCode? id.narrow = some request) {input output : NativeControl w}
    (h : request.Lawful input output) :
    FailsIn (if request = .fastInit then .bufferTooSmall :: lawful else lawful)
      (performIoctl s target id ⟨input, output⟩).verdict := by
  cases request with
  | getConfig =>
    rw [verdict_getConfig s hrequest]
    refine failsIn_bind_iff.2 ⟨failsIn_getConfig_of_lawful s _ h, fun answer hanswer => ?_⟩
    exact (failsIn_getConfig_answer hanswer).mono (by decide)
  | setConfig =>
    simp only [performIoctl, hrequest, verdict_controlChange, failsIn_map_iff]
    exact failsIn_setConfig_of_lawful s _ h
  | readPinVoltage =>
    simp only [performIoctl, hrequest, verdict_controlQuery, failsIn_map_iff]
    exact failsIn_readPinVoltage_of_lawful s _ h
  | readProgVoltage =>
    simp only [performIoctl, hrequest, verdict_controlQuery, failsIn_map_iff]
    exact failsIn_readProgVoltage_of_lawful s _ h
  | fiveBaudInit =>
    simp only [performIoctl, hrequest, verdict_controlQuery, failsIn_map_iff]
    exact failsIn_fiveBaudInit_of_lawful s _ h
  | fastInit =>
    simp only [performIoctl, hrequest, verdict_controlQuery, failsIn_map_iff]
    exact failsIn_fastInit_of_lawful s _ h
  | addToFunctMsgLookupTable | deleteFromFunctMsgLookupTable =>
    simp only [performIoctl, hrequest, verdict_controlChange, failsIn_map_iff]
    exact failsIn_changeFunctional_of_listed s _ _ h.input_shape h.output_shape h.listed
  | clearTxQueue | clearRxQueue | clearPeriodicMsgs | clearMsgFilters
  | clearFunctMsgLookupTable | busOn =>
    simp only [performIoctl, hrequest, verdict_controlChange, failsIn_map_iff]
    exact failsIn_clear_of_shape s _ _ h.input_shape h.output_shape

/-! ## Any call -/

theorem lawful_subset_codes (call : Call w) : lawful ⊆ call.codes := by
  have hcons : ∀ code : ErrorCode, lawful ⊆ code :: lawful := fun _ => List.subset_cons_self _ _
  have hite : ∀ (p : Prop) [Decidable p] (code : ErrorCode),
      lawful ⊆ if p then code :: lawful else lawful := by
    intro p _ code
    split
    · exact hcons code
    · exact List.Subset.refl _
  cases call with
  | openDevice | select | ioctl => exact hite _ _
  | readMsgs => exact hcons _
  | _ => exact List.Subset.refl _

theorem failsIn_performOpen (s : State) (name : Option (List UInt8)) {device : Option (Word w)}
    (h : device.isSome = true) :
    FailsIn (Call.openDevice name device).codes (performOpen s name device).verdict := by
  have hlawful := lawful_subset_codes (Call.openDevice name device)
  apply failsIn_issue
  cases name with
  | none => exact failsIn_error_iff.2 List.mem_cons_self
  | some name =>
    refine failsIn_bind_iff.2 ⟨failsIn_ok _, fun bytes hbytes => ?_⟩
    cases hbytes
    refine failsIn_present_bind h fun _ => ?_
    refine failsIn_bind_iff.2 ⟨failsIn_require_iff.2 fun hempty => ?_, fun _ _ => ?_⟩
    · have hname : Field.decode name = "" := by simpa using hempty
      show ErrorCode.nullParameter ∈ if Field.decode name = "" then _ else _
      rw [if_pos hname]
      exact List.mem_cons_self
    · refine failsIn_require_bind (hlawful (by decide)) ?_
      exact failsIn_require_bind (hlawful (by decide)) (failsIn_pure _)

theorem failsIn_selectArguments_of_listed (native : NativeChannelSet w) (kind timeout : Word w)
    (h : Listed native.count native.list) :
    FailsIn (Call.select (some native) kind timeout).codes
      (selectArguments (some native) kind.narrow) := by
  have hlawful := lawful_subset_codes (Call.select (some native) kind timeout)
  refine failsIn_bind_iff.2 ⟨failsIn_ok _, fun set hset => ?_⟩
  cases hset
  refine failsIn_require_bind (hlawful (by decide)) ?_
  refine failsIn_bind_iff.2 ⟨failsIn_readList_of_listed h, fun ids hids => ?_⟩
  refine failsIn_bind_iff.2 ⟨failsIn_require_iff.2 fun hempty => ?_, fun _ _ => ?_⟩
  · -- no channel is listed, so the count is zero
    have hnil : ids = [] := by simpa using hempty
    have hlength := length_of_readList h hids
    rw [hnil] at hlength
    have hzero : native.count.narrow = 0 := UInt32.toNat_inj.1 hlength.symm
    show ErrorCode.nullParameter ∈ if native.count.narrow = 0 then _ else _
    rw [if_pos hzero]
    exact List.mem_cons_self
  · exact failsIn_require_bind (hlawful (by decide)) (failsIn_pure _)

theorem failsIn_performSelect_of_listed (s : State) (native : NativeChannelSet w)
    (kind timeout : Word w) (h : Listed native.count native.list) :
    FailsIn (Call.select (some native) kind timeout).codes
      (performSelect s (some native) kind).verdict := by
  cases harguments : selectArguments (some native) kind.narrow with
  | error code =>
    have hverdict : (performSelect s (some native) kind).verdict = .error code := by
      unfold performSelect
      rw [harguments]
      rfl
    rw [hverdict]
    have hfails := failsIn_selectArguments_of_listed native kind timeout h
    exact failsIn_error_iff.2 (hfails code harguments)
  | ok arguments =>
    exact ((gatedBy_performSelect s harguments).failsIn.mono (by decide)).mono
      (lawful_subset_codes _)

/-- A scanned device whose name fits is delivered, or there is none left. -/
theorem failsIn_performNextDevice {s : State} (hs : s.Named) {device : Option (NativeDevice w)}
    (h : device.isSome = true) : FailsIn lawful (performNextDevice s device).verdict := by
  apply failsIn_ofAttempt
  refine failsIn_present_bind h fun _ => ?_
  refine failsIn_bind_iff.2 ⟨(failsIn_nextDevice s).mono (by decide), fun device hdevice => ?_⟩
  obtain ⟨native, hencode⟩ := hs.encode_nextDevice hdevice w
  rw [hencode]
  exact failsIn_pure _

theorem failsIn_lawful {s : State} (hs : s.Named) {call : Call w} (h : call.Lawful) :
    FailsIn call.codes (perform s call).verdict := by
  cases call with
  | scanForDevices count =>
    exact failsIn_ofAttempt (failsIn_present_bind h fun _ => failsIn_pure _)
  | getNextDevice device => exact failsIn_performNextDevice hs h
  | openDevice name device => exact failsIn_performOpen s name h
  | closeDevice device =>
    show FailsIn lawful _
    exact failsIn_change ((gatedBy_closeDevice s _).failsIn.mono (by decide))
  | connect device protocol flags baud resource channel =>
    have hconnect := failsIn_connect_of_listed s device.narrow protocol.narrow flags.narrow
      baud.narrow h.1
    rw [← h.2] at hconnect
    exact failsIn_issue hconnect
  | disconnect channel =>
    show FailsIn lawful _
    exact failsIn_change ((failsIn_disconnect s _).mono (by decide))
  | logicalConnect physical protocol flags descriptor channel =>
    show FailsIn lawful _
    refine failsIn_issue (failsIn_present_bind h.1 fun descriptor => ?_)
    refine failsIn_present_bind h.2 fun _ => ?_
    exact (gatedBy_logicalConnect s _ _ _ _).failsIn.mono (by decide)
  | logicalDisconnect channel =>
    show FailsIn lawful _
    exact failsIn_change ((failsIn_logicalDisconnect s _).mono (by decide))
  | select set kind timeout =>
    obtain ⟨native, rfl, hlisted⟩ := h
    exact failsIn_performSelect_of_listed s native kind timeout hlisted
  | readMsgs channel slots count timeout =>
    show FailsIn (.bufferTooSmall :: lawful) _
    obtain ⟨slots, rfl⟩ := Option.isSome_iff_exists.1 h.1
    obtain ⟨count, rfl⟩ := Option.isSome_iff_exists.1 h.2
    exact (gatedBy_performRead s channel slots count timeout).failsIn.mono (by decide)
  | queueMsgs channel messages count =>
    show FailsIn lawful _
    obtain ⟨messages, rfl⟩ := Option.isSome_iff_exists.1 h.1
    obtain ⟨count, rfl⟩ := Option.isSome_iff_exists.1 h.2
    exact (gatedBy_performQueue s channel messages count).failsIn.mono (by decide)
  | startPeriodicMsg channel message id interval =>
    show FailsIn lawful _
    refine failsIn_issue (failsIn_present_bind h.1 fun message => ?_)
    refine failsIn_present_bind h.2 fun _ => ?_
    exact (gatedBy_startPeriodicMsg s _ _ message).failsIn.mono (by decide)
  | stopPeriodicMsg channel id =>
    show FailsIn lawful _
    exact failsIn_change ((gatedBy_stopPeriodicMsg s _ _).failsIn.mono (by decide))
  | startMsgFilter channel kind mask pattern id =>
    show FailsIn lawful _
    refine failsIn_issue (failsIn_present_bind h.1 fun mask => ?_)
    refine failsIn_present_bind h.2.1 fun pattern => ?_
    refine failsIn_present_bind h.2.2 fun _ => ?_
    exact (gatedBy_startMsgFilter s _ _ mask pattern).failsIn.mono (by decide)
  | stopMsgFilter channel id =>
    show FailsIn lawful _
    exact failsIn_change ((gatedBy_stopMsgFilter s _ _).failsIn.mono (by decide))
  | setProgrammingVoltage device resource voltage =>
    exact failsIn_change (failsIn_setProgrammingVoltage_of_listed s _ _ h)
  | readVersion device firmware dll api =>
    exact failsIn_performReadVersion s device h.1 h.2.1 h.2.2
  | getLastError text => exact failsIn_ofAttempt (failsIn_present_bind h fun _ => failsIn_pure _)
  | ioctl target id input output =>
    show FailsIn (if _ then _ else _) (performIoctl s target id ⟨input, output⟩).verdict
    cases hrequest : Ioctl.ofCode? id.narrow with
    | none =>
      simp only [performIoctl, hrequest]
      exact failsIn_error_iff.2 (by decide)
    | some request =>
      have hio := failsIn_performIoctl_of_lawful s target id hrequest (h request hrequest)
      simpa only [Option.some.injEq] using hio

end Emulator

end PassThru
