import PassThru.Proofs.Emulator.Queues

/-!
# The codes that calls fail with

Every operation checks the handle that it is given before or among its other arguments. An attempt
that is *gated* by a handle fails with one of a few refusals if the handle names nothing, and with
other codes only if it does.

* `Attempt.FailsIn`: the codes that an attempt can fail with.
* `Attempt.GatedBy`: the refusals that an attempt fails with exactly if something is shut.
* `gatedBy_connect` and so on: what each operation is gated by, and its other codes.
* `status_eq_noError_iff`: a call answers zero exactly if it has not failed.
-/

namespace PassThru

namespace Attempt

variable {α β : Type}

/-- The attempt fails, if it does, with one of the codes. -/
def FailsIn (codes : List ErrorCode) (x : Attempt α) : Prop :=
  ∀ code, x = .error code → code ∈ codes

/-- The attempt fails with one of the refusals unless something is open, and then, if it does,
with one of the other codes. -/
structure GatedBy (opened : Prop) (refusals codes : List ErrorCode) (x : Attempt α) : Prop where
  refused : ¬ opened → ∃ code ∈ refusals, x = .error code
  passed : opened → x.FailsIn codes

/-- The attempt that fails with the code, if there is one. -/
def ofFailure? : Option ErrorCode → Attempt Unit
  | none => .ok ()
  | some code => .error code

section FailsIn

variable {codes : List ErrorCode}

@[simp] theorem failsIn_ok (a : α) : FailsIn codes (.ok a : Attempt α) := by
  intro code h
  cases h

@[simp] theorem failsIn_pure (a : α) : FailsIn codes (pure a : Attempt α) := failsIn_ok a

@[simp] theorem failsIn_error_iff {code : ErrorCode} :
    FailsIn codes (.error code : Attempt α) ↔ code ∈ codes := by
  simp [FailsIn]

@[simp] theorem failsIn_require_iff {condition : Bool} {code : ErrorCode} :
    FailsIn codes (require condition code) ↔ (condition = false → code ∈ codes) := by
  cases condition <;> simp [require]

@[simp] theorem failsIn_present_iff {o : Option α} :
    FailsIn codes (present o) ↔ (o = none → .nullParameter ∈ codes) := by
  cases o <;> simp [present]

theorem failsIn_ofFailure?_iff {failure? : Option ErrorCode} :
    FailsIn codes (ofFailure? failure?) ↔ ∀ code, failure? = some code → code ∈ codes := by
  cases failure? <;> simp [ofFailure?]

theorem failsIn_bind_iff {x : Attempt α} {f : α → Attempt β} :
    FailsIn codes (x >>= f) ↔ FailsIn codes x ∧ ∀ a, x = .ok a → FailsIn codes (f a) := by
  cases x <;> simp [FailsIn, bind, Except.bind]

@[simp] theorem failsIn_map_iff {x : Attempt α} {f : α → β} :
    FailsIn codes (x.map f) ↔ FailsIn codes x := by
  cases x <;> simp [FailsIn, Except.map]

@[simp] theorem failsIn_fmap_iff {x : Attempt α} {f : α → β} :
    FailsIn codes (f <$> x) ↔ FailsIn codes x := failsIn_map_iff

theorem FailsIn.mono {x : Attempt α} {more : List ErrorCode} (h : FailsIn codes x)
    (hmore : codes ⊆ more) : FailsIn more x := fun code herror => hmore (h code herror)

end FailsIn

section GatedBy

variable {opened : Prop} {refusals codes : List ErrorCode}

/-- What comes after the gate fails with the other codes. -/
theorem GatedBy.bind {x : Attempt α} {f : α → Attempt β} (hx : GatedBy opened refusals codes x)
    (hf : ∀ a, x = .ok a → FailsIn codes (f a)) : GatedBy opened refusals codes (x >>= f) where
  refused hshut := by
    obtain ⟨code, hmem, rfl⟩ := hx.refused hshut
    exact ⟨code, hmem, rfl⟩
  passed hopen := failsIn_bind_iff.2 ⟨hx.passed hopen, hf⟩

@[simp] theorem gatedBy_map_iff {x : Attempt α} {f : α → β} :
    GatedBy opened refusals codes (x.map f) ↔ GatedBy opened refusals codes x := by
  have herror : ∀ code, x.map f = .error code ↔ x = .error code := by
    intro code
    cases x <;> simp [Except.map]
  constructor
  · intro h
    refine ⟨fun hshut => ?_, fun hopen => failsIn_map_iff.1 (h.passed hopen)⟩
    simpa only [herror] using h.refused hshut
  · intro h
    refine ⟨fun hshut => ?_, fun hopen => failsIn_map_iff.2 (h.passed hopen)⟩
    simpa only [herror] using h.refused hshut

theorem GatedBy.mono {x : Attempt α} {more : List ErrorCode} (h : GatedBy opened refusals codes x)
    (hmore : codes ⊆ more) : GatedBy opened refusals more x where
  refused := h.refused
  passed hopen := (h.passed hopen).mono hmore

theorem GatedBy.failsIn {x : Attempt α} (h : GatedBy opened refusals codes x) :
    FailsIn (refusals ++ codes) x := by
  by_cases hopen : opened
  · exact (h.passed hopen).mono (List.subset_append_right _ _)
  · obtain ⟨code, hmem, rfl⟩ := h.refused hopen
    exact failsIn_error_iff.2 (List.mem_append_left _ hmem)

end GatedBy

end Attempt

namespace Emulator

open Attempt

variable {w : Width} {s : State}

/-! ## Arguments -/

theorem failsIn_readList {α : Type} (count : Word w) (list : Option (List α)) :
    FailsIn [.nullParameter] (readList count list) := by
  unfold readList
  split <;> simp

theorem failsIn_pins (resource : NativeResource w) :
    FailsIn [.nullParameter] (PinRequest.ofNative resource).pins := by
  unfold PinRequest.ofNative
  rw [failsIn_map_iff]
  exact failsIn_readList _ _

theorem failsIn_single {request : PinRequest} (h : FailsIn [.nullParameter] request.pins) :
    FailsIn [.nullParameter, .pinNotSupported] request.single := by
  unfold PinRequest.single
  refine failsIn_bind_iff.2 ⟨h.mono (by simp), fun pins _ => ?_⟩
  split <;> simp

theorem failsIn_readSettings (input : NativeControl w) :
    FailsIn [.nullParameter] (readSettings input) := by
  unfold readSettings
  split
  · exact failsIn_readList _ _
  · simp

theorem failsIn_readBytes (input : NativeControl w) : FailsIn [.nullParameter] (readBytes input) := by
  unfold readBytes
  split
  · exact failsIn_readList _ _
  · simp

theorem failsIn_readMessage (message : NativeMessage w) :
    FailsIn [.invalidMsg] (readMessage message) := by
  unfold readMessage
  split <;> simp

/-! ## Operations on devices -/

theorem gatedBy_device (s : State) (id : UInt32) :
    GatedBy (s.devices.contains id = true) [.deviceNotOpen, .invalidDeviceId]
      [.deviceNotConnected] (s.device id) := by
  unfold State.device Table.contains
  cases hget : s.devices.get? id with
  | none =>
    refine ⟨fun _ => ?_, fun hopen => by cases hopen⟩
    cases s.devices.isEmpty
    · exact ⟨.invalidDeviceId, by simp, rfl⟩
    · exact ⟨.deviceNotOpen, by simp, rfl⟩
  | some device =>
    refine ⟨fun hshut => absurd rfl hshut, fun _ => ?_⟩
    simp [Table.isEmpty_eq_false_of_get? hget, failsIn_bind_iff]

theorem gatedBy_closeDevice (s : State) (id : UInt32) :
    GatedBy (s.devices.contains id = true) [.deviceNotOpen, .invalidDeviceId] []
      (s.closeDevice id) := by
  constructor
  case refused =>
    intro hshut
    rw [Bool.not_eq_true] at hshut
    unfold State.closeDevice
    rw [hshut]
    cases s.devices.isEmpty
    · exact ⟨.invalidDeviceId, by simp, rfl⟩
    · exact ⟨.deviceNotOpen, by simp, rfl⟩
  case passed =>
    intro hopen
    rw [State.closeDevice_eq_ok_iff.2 ⟨hopen, rfl⟩]
    exact failsIn_ok _

theorem failsIn_openDevice (s : State) (name : String) :
    FailsIn [.nullParameter, .deviceNotConnected, .deviceInUse] (s.openDevice name) := by
  simp [State.openDevice, failsIn_bind_iff]

theorem failsIn_nextDevice (s : State) : FailsIn [.bufferEmpty, .exceededLimit] s.nextDevice := by
  unfold State.nextDevice
  split
  · simp
  · split
    · simp
    · split <;> simp

theorem gatedBy_connect (s : State) (id protocolId flags baud : UInt32)
    (resource : NativeResource w) (hasOutput : Bool) :
    GatedBy (s.devices.contains id = true) [.deviceNotOpen, .invalidDeviceId]
      [.deviceNotConnected, .nullParameter, .protocolIdNotSupported, .flagNotSupported,
        .baudrateNotSupported, .pinNotSupported, .resourceConflict, .pinInUse]
      (s.connect id protocolId flags baud (.ofNative resource) hasOutput) := by
  refine ((gatedBy_device s id).mono (by simp)).bind fun device _ => ?_
  have hpins : FailsIn [.deviceNotConnected, .nullParameter, .protocolIdNotSupported,
      .flagNotSupported, .baudrateNotSupported, .pinNotSupported, .resourceConflict, .pinInUse]
      (PinRequest.ofNative resource).pins := (failsIn_pins resource).mono (by simp)
  have hprotocol : FailsIn [.protocolIdNotSupported] (State.physicalProtocol protocolId) := by
    unfold State.physicalProtocol
    split
    · split <;> simp
    · simp
  simp [failsIn_bind_iff, hpins, hprotocol.mono]

theorem failsIn_applyVoltage (pins : Table PinState) (pin voltage : UInt32) :
    FailsIn [.pinNotSupported, .voltageInUse, .exceededLimit] (applyVoltage pins pin voltage) := by
  unfold applyVoltage
  repeat' split
  all_goals simp

theorem gatedBy_setProgrammingVoltage (s : State) (id voltage : UInt32)
    (resource : NativeResource w) :
    GatedBy (s.devices.contains id = true) [.deviceNotOpen, .invalidDeviceId]
      [.deviceNotConnected, .nullParameter, .pinNotSupported, .pinInUse, .voltageInUse,
        .exceededLimit]
      (s.setProgrammingVoltage id (.ofNative resource) voltage) := by
  refine ((gatedBy_device s id).mono (by simp)).bind fun device _ => ?_
  have hsingle := failsIn_single (failsIn_pins resource)
  have happly : ∀ pin, FailsIn [.deviceNotConnected, .nullParameter, .pinNotSupported, .pinInUse,
      .voltageInUse, .exceededLimit] (applyVoltage device.pins pin voltage) :=
    fun pin => (failsIn_applyVoltage _ pin voltage).mono (by simp)
  simp [failsIn_bind_iff, hsingle.mono, happly]

/-! ## Operations on channels -/

theorem gatedBy_channel (s : State) (id : UInt32) :
    GatedBy (s.channels.contains id = true) [.invalidChannelId] [] (s.channel id) := by
  unfold State.channel Table.contains
  cases s.channels.get? id with
  | none => exact ⟨fun _ => ⟨_, by simp, rfl⟩, fun hopen => by cases hopen⟩
  | some ch => exact ⟨fun hshut => absurd rfl hshut, fun _ => failsIn_ok ch⟩

theorem failsIn_disconnect (s : State) (id : UInt32) :
    FailsIn [.invalidChannelId] (s.disconnect id) := by
  refine failsIn_bind_iff.2 ⟨(gatedBy_channel s id).failsIn, fun ch _ => ?_⟩
  simp

theorem failsIn_logicalDisconnect (s : State) (id : UInt32) :
    FailsIn [.invalidChannelId] (s.logicalDisconnect id) := by
  refine failsIn_bind_iff.2 ⟨(gatedBy_channel s id).failsIn, fun ch _ => ?_⟩
  simp

theorem gatedBy_logicalConnect (s : State) (physical protocolId : UInt32)
    (localAddress remoteAddress : Address) :
    GatedBy (s.channels.contains physical = true) [.invalidChannelId]
      [.logChanNotAllowed, .protocolIdNotSupported, .notUnique, .exceededLimit]
      (s.logicalConnect physical protocolId localAddress remoteAddress) := by
  refine ((gatedBy_channel s physical).mono (by simp)).bind fun parent _ => ?_
  simp [failsIn_bind_iff]

theorem gatedBy_startPeriodicMsg (s : State) (id interval : UInt32) (message : NativeMessage w) :
    GatedBy (s.channels.contains id = true) [.invalidChannelId]
      [.timeIntervalNotSupported, .invalidMsg, .msgProtocolId, .exceededLimit]
      (s.startPeriodicMsg id message interval) := by
  refine ((gatedBy_channel s id).mono (by simp)).bind fun ch _ => ?_
  simp [failsIn_bind_iff, (failsIn_readMessage message).mono]

theorem gatedBy_stopPeriodicMsg (s : State) (id handle : UInt32) :
    GatedBy (s.channels.contains id = true) [.invalidChannelId] [.invalidMsgId]
      (s.stopPeriodicMsg id handle) := by
  refine ((gatedBy_channel s id).mono (by simp)).bind fun ch _ => ?_
  simp

theorem gatedBy_startMsgFilter (s : State) (id kind : UInt32) (mask pattern : NativeMessage w) :
    GatedBy (s.channels.contains id = true) [.invalidChannelId]
      [.filterTypeNotSupported, .invalidMsg, .msgProtocolId, .notUnique, .exceededLimit]
      (s.startMsgFilter id kind mask pattern) := by
  refine ((gatedBy_channel s id).mono (by simp)).bind fun ch _ => ?_
  have hkind : FailsIn [.filterTypeNotSupported] (filterKind kind) := by
    unfold filterKind
    repeat' split
    all_goals simp
  simp [failsIn_bind_iff, hkind.mono, (failsIn_readMessage mask).mono,
    (failsIn_readMessage pattern).mono]

theorem gatedBy_stopMsgFilter (s : State) (id handle : UInt32) :
    GatedBy (s.channels.contains id = true) [.invalidChannelId] [.invalidFilterId]
      (s.stopMsgFilter id handle) := by
  refine ((gatedBy_channel s id).mono (by simp)).bind fun ch _ => ?_
  simp

/-! ## Control requests -/

theorem failsIn_requireNull (argument : NativeControl w) :
    FailsIn [.nullRequired] (requireNull argument) := by
  simp [requireNull]

theorem failsIn_requirePresent (argument : NativeControl w) :
    FailsIn [.nullParameter] (requirePresent argument) := by
  simp [requirePresent]

theorem requireNull_of_not_isNull {argument : NativeControl w} (h : ¬ argument.isNull = true) :
    requireNull argument = .error .nullRequired := if_neg h

theorem requireNull_of_isNull {argument : NativeControl w} (h : argument.isNull = true) :
    requireNull argument = .ok () := by
  unfold requireNull
  rw [h]
  rfl

section Control

variable (s : State) (target : UInt32) (input output : NativeControl w)

theorem failsIn_checkSetting (parameter value : UInt32) :
    FailsIn [.ioctlParamIdNotSupported, .ioctlValueNotSupported]
      (Channel.checkSetting parameter value) := by
  simp [Channel.checkSetting, failsIn_bind_iff]

theorem failsIn_checkSettings (assignments : List (UInt32 × UInt32)) :
    FailsIn [.ioctlParamIdNotSupported, .ioctlValueNotSupported]
      (assignments.forM fun (parameter, value) => Channel.checkSetting parameter value) := by
  induction assignments with
  | nil => exact failsIn_pure ()
  | cons head rest ih =>
    exact failsIn_bind_iff.2 ⟨failsIn_checkSetting _ _, fun _ _ => ih⟩

theorem fillSettings_failure (ch : Channel) (entries : List (NativeSetting w)) :
    ∀ code, (fillSettings ch entries).2 = some code → code = .ioctlParamIdNotSupported := by
  induction entries with
  | nil =>
    intro code h
    cases h
  | cons entry rest ih =>
    have hsetting : FailsIn [.ioctlParamIdNotSupported] (ch.setting entry.parameter.narrow) := by
      simp [Channel.setting]
    unfold fillSettings
    split
    · next code herror =>
      intro code' h
      obtain rfl := Option.some.inj h
      exact List.mem_singleton.1 (hsetting _ herror)
    · exact ih

theorem gatedBy_getConfig (h : output.isNull = true) :
    GatedBy (s.channels.contains target = true) [.invalidChannelId] [.nullParameter]
      (s.getConfig target input output) := by
  unfold State.getConfig
  rw [requireNull_of_isNull h]
  refine ((gatedBy_channel s target).mono (by simp)).bind fun ch _ => ?_
  exact failsIn_bind_iff.2 ⟨failsIn_readSettings input, fun _ _ => failsIn_pure _⟩

theorem gatedBy_setConfig (h : output.isNull = true) :
    GatedBy (s.channels.contains target = true) [.invalidChannelId]
      [.nullParameter, .ioctlParamIdNotSupported, .ioctlValueNotSupported]
      (s.setConfig target input output) := by
  unfold State.setConfig
  rw [requireNull_of_isNull h]
  refine ((gatedBy_channel s target).mono (by simp)).bind fun ch _ => ?_
  refine failsIn_bind_iff.2 ⟨(failsIn_readSettings input).mono (by simp), fun entries _ => ?_⟩
  refine failsIn_bind_iff.2 ⟨(failsIn_checkSettings _).mono (by simp), fun _ _ => failsIn_pure _⟩

theorem gatedBy_readPinVoltage :
    GatedBy (s.devices.contains target = true) [.deviceNotOpen, .invalidDeviceId]
      [.deviceNotConnected, .nullParameter, .pinNotSupported]
      (s.readPinVoltage target input output) := by
  refine ((gatedBy_device s target).mono (by simp)).bind fun device _ => ?_
  have hpins : FailsIn [.nullParameter] (readPins input) := by
    unfold readPins
    split <;> simp
  have hsingle : ∀ request, readPins input = .ok request →
      FailsIn [.nullParameter, .pinNotSupported] request.single := by
    intro request hread
    unfold readPins at hread
    split at hread
    · obtain rfl := Except.ok.inj hread
      exact failsIn_single (failsIn_pins _)
    · cases hread
  refine failsIn_bind_iff.2 ⟨(failsIn_requirePresent input).mono (by simp), fun _ _ => ?_⟩
  refine failsIn_bind_iff.2 ⟨(failsIn_requirePresent output).mono (by simp), fun _ _ => ?_⟩
  refine failsIn_bind_iff.2 ⟨hpins.mono (by simp), fun request hread => ?_⟩
  exact failsIn_bind_iff.2 ⟨(hsingle request hread).mono (by simp), fun _ _ => failsIn_pure _⟩

theorem gatedBy_readProgVoltage :
    GatedBy (s.devices.contains target = true) [.deviceNotOpen, .invalidDeviceId]
      [.deviceNotConnected, .nullRequired, .nullParameter]
      (s.readProgVoltage target input output) := by
  refine ((gatedBy_device s target).mono (by simp)).bind fun device _ => ?_
  refine failsIn_bind_iff.2 ⟨(failsIn_requireNull input).mono (by simp), fun _ _ => ?_⟩
  exact failsIn_bind_iff.2
    ⟨(failsIn_requirePresent output).mono (by simp), fun _ _ => failsIn_pure _⟩

theorem gatedBy_fiveBaudInit :
    GatedBy (s.channels.contains target = true) [.invalidChannelId]
      [.ioctlIdNotSupported, .nullParameter, .invalidMsg, .bufferTooSmall]
      (s.fiveBaudInit target input output) := by
  refine ((gatedBy_channel s target).mono (by simp)).bind fun ch _ => ?_
  refine failsIn_bind_iff.2 ⟨by simp, fun _ _ => ?_⟩
  refine failsIn_bind_iff.2 ⟨(failsIn_requirePresent output).mono (by simp), fun _ _ => ?_⟩
  refine failsIn_bind_iff.2 ⟨(failsIn_readBytes input).mono (by simp), fun address _ => ?_⟩
  refine failsIn_bind_iff.2 ⟨by simp, fun _ _ => ?_⟩
  split <;> simp

theorem gatedBy_fastInit :
    GatedBy (s.channels.contains target = true) [.invalidChannelId]
      [.ioctlIdNotSupported, .nullParameter, .invalidMsg, .bufferTooSmall]
      (s.fastInit target input output) := by
  refine ((gatedBy_channel s target).mono (by simp)).bind fun ch _ => ?_
  refine failsIn_bind_iff.2 ⟨by simp, fun _ _ => ?_⟩
  refine failsIn_bind_iff.2 ⟨(failsIn_requirePresent input).mono (by simp), fun _ _ => ?_⟩
  refine failsIn_bind_iff.2 ⟨(failsIn_requirePresent output).mono (by simp), fun _ _ => ?_⟩
  split
  · refine failsIn_bind_iff.2 ⟨(failsIn_readMessage _).mono (by simp), fun m _ => ?_⟩
    refine failsIn_bind_iff.2 ⟨by simp, fun _ _ => ?_⟩
    split <;> simp
  · simp

theorem gatedBy_clear (request : Ioctl) (hinput : input.isNull = true)
    (houtput : output.isNull = true) :
    GatedBy (s.channels.contains target = true) [.invalidChannelId] [.ioctlIdNotSupported]
      (s.clear request target input output) := by
  unfold State.clear
  rw [requireNull_of_isNull hinput, requireNull_of_isNull houtput]
  refine ((gatedBy_channel s target).mono (by simp)).bind fun ch _ => ?_
  have hcleared : FailsIn [.ioctlIdNotSupported] (State.cleared request ch) := by
    unfold State.cleared
    split
    case h_5 => split <;> simp
    all_goals exact failsIn_ok _
  exact failsIn_bind_iff.2 ⟨hcleared, fun _ _ => failsIn_pure _⟩

theorem gatedBy_changeFunctional (change : List UInt8 → UInt8 → List UInt8)
    (h : output.isNull = true) :
    GatedBy (s.channels.contains target = true) [.invalidChannelId]
      [.ioctlIdNotSupported, .nullParameter] (s.changeFunctional change target input output) := by
  unfold State.changeFunctional
  rw [requireNull_of_isNull h]
  refine ((gatedBy_channel s target).mono (by simp)).bind fun ch _ => ?_
  refine failsIn_bind_iff.2 ⟨by simp, fun _ _ => ?_⟩
  exact failsIn_bind_iff.2 ⟨(failsIn_readBytes input).mono (by simp), fun _ _ => failsIn_pure _⟩

end Control

/-! ## Calls -/

/-- How a call ended, without what it answered. -/
def Outcome.verdict {μ : Type} (outcome : Outcome μ) : Attempt Unit := .ofFailure? outcome.failure?

section Verdict

variable {μ : Type}

theorem Outcome.verdict_eq_error_iff {outcome : Outcome μ} {code : ErrorCode} :
    outcome.verdict = .error code ↔ outcome.failure? = some code := by
  unfold Outcome.verdict
  cases outcome.failure? <;> simp [ofFailure?]

@[simp] theorem verdict_ofAttempt (s : State) (memory : μ) (x : Attempt (μ × State)) :
    (Outcome.ofAttempt s memory x).verdict = x.map fun _ => () := by
  cases x <;> rfl

@[simp] theorem verdict_issue (s : State) (output : Option (Word w)) (x : Attempt (UInt32 × State)) :
    (issue s output x).verdict = x.map fun _ => () := by
  cases x <;> rfl

theorem failure?_issue_eq_some_iff {s : State} {output : Option (Word w)}
    {x : Attempt (UInt32 × State)} {code : ErrorCode} :
    (issue s output x).failure? = some code ↔ x = .error code := by
  cases x <;> simp [issue, Outcome.ofAttempt, Except.map]

theorem failure?_issue_eq_none_iff {s : State} {output : Option (Word w)}
    {x : Attempt (UInt32 × State)} :
    (issue s output x).failure? = none ↔ ∃ result, x = .ok result := by
  cases x <;> simp [issue, Outcome.ofAttempt, Except.map]

@[simp] theorem verdict_change (s : State) (x : Attempt State) :
    (change s x).verdict = x.map fun _ => () := by
  cases x <;> rfl

@[simp] theorem verdict_controlChange (s : State) (memory : ControlMemory w) (x : Attempt State) :
    (controlChange s memory x).verdict = x.map fun _ => () := by
  cases x <;> rfl

@[simp] theorem verdict_controlQuery (s : State) (memory : ControlMemory w)
    (x : Attempt (NativeControl w)) : (controlQuery s memory x).verdict = x.map fun _ => () := by
  cases x <;> rfl

/-! A call fails as its operation does. -/

variable {opened : Prop} {refusals codes : List ErrorCode}

theorem failsIn_ofAttempt {memory : μ} {x : Attempt (μ × State)} (h : FailsIn codes x) :
    FailsIn codes (Outcome.ofAttempt s memory x).verdict := by
  rw [verdict_ofAttempt]
  exact failsIn_map_iff.2 h

theorem failsIn_issue {output : Option (Word w)} {x : Attempt (UInt32 × State)}
    (h : FailsIn codes x) : FailsIn codes (issue s output x).verdict := by
  rw [verdict_issue]
  exact failsIn_map_iff.2 h

theorem failsIn_change {x : Attempt State} (h : FailsIn codes x) :
    FailsIn codes (change s x).verdict := by
  rw [verdict_change]
  exact failsIn_map_iff.2 h

theorem gatedBy_issue {output : Option (Word w)} {x : Attempt (UInt32 × State)}
    (h : GatedBy opened refusals codes x) :
    GatedBy opened refusals codes (issue s output x).verdict := by
  rw [verdict_issue]
  exact gatedBy_map_iff.2 h

theorem gatedBy_change {x : Attempt State} (h : GatedBy opened refusals codes x) :
    GatedBy opened refusals codes (change s x).verdict := by
  rw [verdict_change]
  exact gatedBy_map_iff.2 h

end Verdict

/-! ### Calls that can fail half way -/

theorem failsIn_selectArguments (set : Option (NativeChannelSet w)) (kind : UInt32) :
    FailsIn [.nullParameter, .selectTypeNotSupported, .exceededLimit] (selectArguments set kind) := by
  simp [selectArguments, failsIn_bind_iff, (failsIn_readList _ _).mono]

/-- A select stops at the first channel that is not open. -/
theorem gatedBy_readyAmong (ids : List UInt32) (s : State) :
    GatedBy (∀ id ∈ ids, s.channels.contains id = true) [.invalidChannelId] []
      (State.readyAmong ids s).1 := by
  induction ids, s using State.readyAmong.induct with
  | case1 s =>
    have hall : ∀ id ∈ ([] : List UInt32), s.channels.contains id = true := by simp
    exact ⟨fun hshut => absurd hall hshut, fun _ => failsIn_ok _⟩
  | case2 id ids s code herror =>
    obtain ⟨hgone, rfl⟩ := State.pump_eq_error_iff.1 herror
    rw [State.readyAmong, herror]
    refine ⟨fun _ => ⟨_, List.mem_singleton_self _, rfl⟩, fun hopen => ?_⟩
    have hfound := hopen id List.mem_cons_self
    rw [Table.contains_eq_false_iff.2 hgone] at hfound
    cases hfound
  | case3 id ids s ch s₁ hok ready s₂ hrest ih =>
    obtain ⟨before, hfound, hresult⟩ := State.pump_eq_ok_iff.1 hok
    obtain ⟨rfl, rfl⟩ := Prod.mk.inj hresult
    have hid : s.channels.contains id = true := Table.contains_iff.2 ⟨before, hfound⟩
    have hsame : (s.setChannel id (before.pump s.clock)).channels.contains = s.channels.contains :=
      contains_setChannel hfound _
    have hall : (∀ k ∈ id :: ids, s.channels.contains k = true) ↔
        ∀ k ∈ ids, s.channels.contains k = true := by
      rw [List.forall_mem_cons]
      exact and_iff_right hid
    rw [State.readyAmong, hok, hall, ← hsame]
    exact gatedBy_map_iff.2 ih

/-- With arguments that can be read, a select fails for a channel that is not open, or because too
few channels are ready. -/
theorem gatedBy_performSelect (s : State) {set : Option (NativeChannelSet w)} {kind : Word w}
    {native : NativeChannelSet w} {ids : List UInt32}
    (harguments : selectArguments set kind.narrow = .ok (native, ids)) :
    GatedBy (∀ id ∈ ids, s.channels.contains id = true) [.invalidChannelId] [.timeout]
      (performSelect s set kind).verdict := by
  have hverdict : (performSelect s set kind).verdict =
      (State.readyAmong ids s).1 >>= fun ready =>
        require (!decide (ready.length < native.threshold.narrow.toNat)) .timeout := by
    unfold performSelect
    rw [harguments]
    dsimp only
    generalize State.readyAmong ids s = result
    obtain ⟨ready, s'⟩ := result
    cases ready with
    | error code => rfl
    | ok ready =>
      dsimp only
      split
      · next hfew => simp [Outcome.verdict, ofFailure?, bind, Except.bind, require, hfew]
      · next henough => simp [Outcome.verdict, ofFailure?, bind, Except.bind, require, henough]
  rw [hverdict]
  exact ((gatedBy_readyAmong ids s).mono (by simp)).bind fun ready _ => by simp

theorem failsIn_performSelect (s : State) (set : Option (NativeChannelSet w)) (kind : Word w) :
    FailsIn ErrorCode.all (performSelect s set kind).verdict := by
  cases harguments : selectArguments set kind.narrow with
  | error code =>
    have hall : FailsIn ErrorCode.all (selectArguments set kind.narrow) :=
      (failsIn_selectArguments set kind.narrow).mono (by decide)
    have hverdict : (performSelect s set kind).verdict = .error code := by
      unfold performSelect
      rw [harguments]
      rfl
    rw [hverdict]
    exact failsIn_error_iff.2 (hall code harguments)
  | ok arguments => exact (gatedBy_performSelect s harguments).failsIn.mono (by decide)

/-- A read stops at the first frame that does not fit, or finds none. -/
theorem failsIn_deliver {delivery : Delivery w} (requested : Nat) (timeout : UInt32) :
    ∀ code, delivery.failure? requested timeout = some code →
      code ∈ [.bufferTooSmall, .bufferEmpty, .timeout] := by
  intro code h
  unfold Delivery.failure? at h
  split at h
  · obtain rfl := Option.some.inj h
    simp
  · split at h
    · obtain rfl := Option.some.inj h
      split <;> simp
    · split at h
      · obtain rfl := Option.some.inj h
        simp
      · cases h

theorem gatedBy_performRead (s : State) (channel : Word w) (slots : List (NativeMessage w))
    (count timeout : Word w) :
    GatedBy (s.channels.contains channel.narrow = true) [.invalidChannelId]
      [.bufferTooSmall, .bufferEmpty, .timeout]
      (performRead s channel ⟨some slots, some count⟩ timeout).verdict := by
  constructor
  case refused =>
    intro hshut
    have hclosed := Table.contains_eq_false_iff.1 (Bool.eq_false_iff.2 hshut)
    rw [performRead_closed hclosed]
    exact ⟨_, List.mem_singleton_self _, rfl⟩
  case passed =>
    intro hopen code herror
    obtain ⟨ch, hfound⟩ := Table.contains_iff.1 hopen
    rw [Outcome.verdict_eq_error_iff, performRead_eq hfound] at herror
    exact failsIn_deliver _ _ code herror

theorem gatedBy_performQueue (s : State) (channel : Word w) (messages : List (NativeMessage w))
    (count : Word w) :
    GatedBy (s.channels.contains channel.narrow = true) [.invalidChannelId]
      [.invalidMsg, .msgProtocolId]
      (performQueue s channel ⟨some messages, some count⟩).verdict := by
  constructor
  case refused =>
    intro hshut
    have hclosed := Table.contains_eq_false_iff.1 (Bool.eq_false_iff.2 hshut)
    rw [performQueue_closed hclosed]
    exact ⟨_, List.mem_singleton_self _, rfl⟩
  case passed =>
    intro hopen code herror
    obtain ⟨ch, hfound⟩ := Table.contains_iff.1 hopen
    rw [Outcome.verdict_eq_error_iff, performQueue_eq hfound] at herror
    obtain ⟨bad, -, hbad⟩ := fault?_of_accept herror
    exact fault?_mem hbad

theorem gatedBy_performReadVersion (s : State) (device : Word w) (memory : VersionMemory) :
    GatedBy (s.devices.contains device.narrow = true) [.deviceNotOpen, .invalidDeviceId]
      [.deviceNotConnected, .nullParameter] (performReadVersion s device memory).verdict := by
  unfold performReadVersion
  rw [verdict_ofAttempt, gatedBy_map_iff]
  refine ((gatedBy_device s _).mono (by simp)).bind fun opened _ => ?_
  refine failsIn_bind_iff.2 ⟨by simp, fun _ _ => ?_⟩
  refine failsIn_bind_iff.2 ⟨by simp, fun _ _ => ?_⟩
  refine failsIn_bind_iff.2 ⟨by simp, fun _ _ => ?_⟩
  split <;> simp

/-! ### Control requests -/

/-- A query of configuration parameters fails also if it does not find one of them. -/
theorem verdict_getConfig (s : State) {target id : Word w}
    (h : Ioctl.ofCode? id.narrow = some .getConfig) (input output : NativeControl w) :
    (performIoctl s target id ⟨input, output⟩).verdict =
      s.getConfig target.narrow input output >>= fun answer => ofFailure? answer.2 := by
  unfold performIoctl
  dsimp only
  rw [h]
  dsimp only
  cases s.getConfig target.narrow input output <;> rfl

theorem failsIn_getConfig_answer {s : State} {target : UInt32} {input output : NativeControl w}
    {answer : NativeControl w × Option ErrorCode}
    (h : s.getConfig target input output = .ok answer) :
    FailsIn [.ioctlParamIdNotSupported] (ofFailure? answer.2) := by
  simp only [State.getConfig, bind_eq_ok_iff, pure_eq_ok_iff] at h
  obtain ⟨-, -, ch, -, entries, -, rfl⟩ := h
  exact failsIn_ofFailure?_iff.2 fun code hcode =>
    List.mem_singleton.2 (fillSettings_failure ch entries code hcode)

/-- A request to the channel `target` with null pointers where it needs them. -/
def Ioctl.ToChannel (request : Ioctl) (input output : NativeControl w) : Prop :=
  match request with
  | .readPinVoltage | .readProgVoltage => False
  | .fiveBaudInit | .fastInit => True
  | .getConfig | .setConfig | .addToFunctMsgLookupTable | .deleteFromFunctMsgLookupTable =>
    output.isNull = true
  | .clearTxQueue | .clearRxQueue | .clearPeriodicMsgs | .clearMsgFilters
  | .clearFunctMsgLookupTable | .busOn => input.isNull = true ∧ output.isNull = true

section Ioctl

variable (s : State) {target id : Word w} {input output : NativeControl w} {request : Ioctl}
  (hrequest : Ioctl.ofCode? id.narrow = some request)

include hrequest

theorem gatedBy_channelRequest (h : Ioctl.ToChannel request input output) :
    GatedBy (s.channels.contains target.narrow = true) [.invalidChannelId]
      [.nullParameter, .ioctlParamIdNotSupported, .ioctlValueNotSupported, .ioctlIdNotSupported,
        .invalidMsg, .bufferTooSmall]
      (performIoctl s target id ⟨input, output⟩).verdict := by
  cases request with
  | readPinVoltage | readProgVoltage => cases h
  | getConfig =>
    rw [verdict_getConfig s hrequest]
    refine ((gatedBy_getConfig s _ input output h).mono (by simp)).bind fun answer hanswer => ?_
    exact (failsIn_getConfig_answer hanswer).mono (by simp)
  | setConfig =>
    simp only [performIoctl, hrequest, verdict_controlChange, gatedBy_map_iff]
    exact (gatedBy_setConfig s _ input output h).mono (by simp)
  | fiveBaudInit =>
    simp only [performIoctl, hrequest, verdict_controlQuery, gatedBy_map_iff]
    exact (gatedBy_fiveBaudInit s _ input output).mono (by simp)
  | fastInit =>
    simp only [performIoctl, hrequest, verdict_controlQuery, gatedBy_map_iff]
    exact (gatedBy_fastInit s _ input output).mono (by simp)
  | addToFunctMsgLookupTable | deleteFromFunctMsgLookupTable =>
    simp only [performIoctl, hrequest, verdict_controlChange, gatedBy_map_iff]
    exact (gatedBy_changeFunctional s _ input output _ h).mono (by simp)
  | clearTxQueue | clearRxQueue | clearPeriodicMsgs | clearMsgFilters
  | clearFunctMsgLookupTable | busOn =>
    simp only [performIoctl, hrequest, verdict_controlChange, gatedBy_map_iff]
    exact (gatedBy_clear s _ input output _ h.1 h.2).mono (by simp)

theorem gatedBy_deviceRequest (h : request = .readPinVoltage ∨ request = .readProgVoltage) :
    GatedBy (s.devices.contains target.narrow = true) [.deviceNotOpen, .invalidDeviceId]
      [.deviceNotConnected, .nullRequired, .nullParameter, .pinNotSupported]
      (performIoctl s target id ⟨input, output⟩).verdict := by
  rcases h with rfl | rfl
  · simp only [performIoctl, hrequest, verdict_controlQuery, gatedBy_map_iff]
    exact (gatedBy_readPinVoltage s _ input output).mono (by simp)
  · simp only [performIoctl, hrequest, verdict_controlQuery, gatedBy_map_iff]
    exact (gatedBy_readProgVoltage s _ input output).mono (by simp)

/-- A request to a channel that comes with a pointer too many is refused for that. -/
theorem verdict_of_not_null (hdevice : ¬ (request = .readPinVoltage ∨ request = .readProgVoltage))
    (h : ¬ Ioctl.ToChannel request input output) :
    (performIoctl s target id ⟨input, output⟩).verdict = .error .nullRequired := by
  cases request with
  | readPinVoltage | readProgVoltage => simp at hdevice
  | fiveBaudInit | fastInit => exact absurd trivial h
  | getConfig =>
    rw [verdict_getConfig s hrequest, State.getConfig, requireNull_of_not_isNull h]
    rfl
  | setConfig =>
    simp only [performIoctl, hrequest, verdict_controlChange, State.setConfig,
      requireNull_of_not_isNull h]
    rfl
  | addToFunctMsgLookupTable | deleteFromFunctMsgLookupTable =>
    simp only [performIoctl, hrequest, verdict_controlChange, State.changeFunctional,
      requireNull_of_not_isNull h]
    rfl
  | clearTxQueue | clearRxQueue | clearPeriodicMsgs | clearMsgFilters
  | clearFunctMsgLookupTable | busOn =>
    simp only [performIoctl, hrequest, verdict_controlChange, State.clear]
    by_cases hinput : input.isNull = true
    · rw [requireNull_of_isNull hinput,
        requireNull_of_not_isNull fun houtput => h ⟨hinput, houtput⟩]
      rfl
    · rw [requireNull_of_not_isNull hinput]
      rfl

end Ioctl

theorem failsIn_performIoctl (s : State) (target id : Word w) (memory : ControlMemory w) :
    FailsIn ErrorCode.all (performIoctl s target id memory).verdict := by
  obtain ⟨input, output⟩ := memory
  cases hrequest : Ioctl.ofCode? id.narrow with
  | none =>
    simp only [performIoctl, hrequest]
    exact failsIn_error_iff.2 (by decide)
  | some request =>
    by_cases hdevice : request = .readPinVoltage ∨ request = .readProgVoltage
    · exact (gatedBy_deviceRequest s hrequest hdevice).failsIn.mono (by decide)
    · by_cases hchannel : Ioctl.ToChannel request input output
      · exact (gatedBy_channelRequest s hrequest hchannel).failsIn.mono (by decide)
      · rw [verdict_of_not_null s hrequest hdevice hchannel]
        exact failsIn_error_iff.2 (by decide)

/-! ### Any call -/

theorem failsIn_perform (s : State) (call : Call w) :
    FailsIn ErrorCode.all (perform s call).verdict := by
  have hpresent : ∀ {α : Type} (o : Option α), FailsIn ErrorCode.all (present o) :=
    fun o => failsIn_present_iff.2 fun _ => by decide
  cases call with
  | scanForDevices count =>
    apply failsIn_ofAttempt
    exact failsIn_bind_iff.2 ⟨hpresent _, fun _ _ => failsIn_pure _⟩
  | getNextDevice device =>
    apply failsIn_ofAttempt
    refine failsIn_bind_iff.2 ⟨hpresent _, fun _ _ => ?_⟩
    refine failsIn_bind_iff.2 ⟨(failsIn_nextDevice s).mono (by decide), fun device _ => ?_⟩
    split
    · exact failsIn_pure _
    · exact failsIn_error_iff.2 (by decide)
  | openDevice name device =>
    apply failsIn_issue
    refine failsIn_bind_iff.2 ⟨hpresent _, fun name _ => ?_⟩
    refine failsIn_bind_iff.2 ⟨hpresent _, fun _ _ => ?_⟩
    exact (failsIn_openDevice s _).mono (by decide)
  | closeDevice device =>
    apply failsIn_change
    exact (gatedBy_closeDevice s _).failsIn.mono (by decide)
  | connect device protocol flags baud resource channel =>
    apply failsIn_issue
    exact (gatedBy_connect s _ _ _ _ resource _).failsIn.mono (by decide)
  | disconnect channel =>
    apply failsIn_change
    exact (failsIn_disconnect s _).mono (by decide)
  | logicalConnect physical protocol flags descriptor channel =>
    apply failsIn_issue
    refine failsIn_bind_iff.2 ⟨hpresent _, fun descriptor _ => ?_⟩
    refine failsIn_bind_iff.2 ⟨hpresent _, fun _ _ => ?_⟩
    exact (gatedBy_logicalConnect s _ _ _ _).failsIn.mono (by decide)
  | logicalDisconnect channel =>
    apply failsIn_change
    exact (failsIn_logicalDisconnect s _).mono (by decide)
  | select set kind timeout => exact failsIn_performSelect s set kind
  | readMsgs channel slots count timeout =>
    rcases slots, count with ⟨_ | slots, _ | count⟩
    case some.some =>
      exact (gatedBy_performRead s channel slots count timeout).failsIn.mono (by decide)
    all_goals exact failsIn_error_iff.2 (by decide)
  | queueMsgs channel messages count =>
    rcases messages, count with ⟨_ | messages, _ | count⟩
    case some.some =>
      exact (gatedBy_performQueue s channel messages count).failsIn.mono (by decide)
    all_goals exact failsIn_error_iff.2 (by decide)
  | startPeriodicMsg channel message id interval =>
    apply failsIn_issue
    refine failsIn_bind_iff.2 ⟨hpresent _, fun message _ => ?_⟩
    refine failsIn_bind_iff.2 ⟨hpresent _, fun _ _ => ?_⟩
    exact (gatedBy_startPeriodicMsg s _ _ message).failsIn.mono (by decide)
  | stopPeriodicMsg channel id =>
    apply failsIn_change
    exact (gatedBy_stopPeriodicMsg s _ _).failsIn.mono (by decide)
  | startMsgFilter channel kind mask pattern id =>
    apply failsIn_issue
    refine failsIn_bind_iff.2 ⟨hpresent _, fun mask _ => ?_⟩
    refine failsIn_bind_iff.2 ⟨hpresent _, fun pattern _ => ?_⟩
    refine failsIn_bind_iff.2 ⟨hpresent _, fun _ _ => ?_⟩
    exact (gatedBy_startMsgFilter s _ _ mask pattern).failsIn.mono (by decide)
  | stopMsgFilter channel id =>
    apply failsIn_change
    exact (gatedBy_stopMsgFilter s _ _).failsIn.mono (by decide)
  | setProgrammingVoltage device resource voltage =>
    apply failsIn_change
    exact (gatedBy_setProgrammingVoltage s _ _ resource).failsIn.mono (by decide)
  | readVersion device firmware dll api =>
    exact (gatedBy_performReadVersion s device _).failsIn.mono (by decide)
  | getLastError text =>
    apply failsIn_ofAttempt
    exact failsIn_bind_iff.2 ⟨hpresent _, fun _ _ => failsIn_pure _⟩
  | ioctl target id input output => exact failsIn_performIoctl s target id _

theorem status_eq_noError_iff (s : State) (call : Call w) :
    (driver call s).1.status = Status.noError ↔ (perform s call).failure? = none := by
  have hzero : ∀ code ∈ ErrorCode.all, code.asStatus ≠ Status.noError := by decide
  show (perform s call).status = _ ↔ _
  unfold Outcome.status
  cases hfailure : (perform s call).failure? with
  | none => exact iff_of_true rfl rfl
  | some code =>
    have hmem := failsIn_perform s call code (Outcome.verdict_eq_error_iff.2 hfailure)
    exact iff_of_false (hzero code hmem) (by simp)

/-- The status of a call tells the codes of the standard apart. -/
theorem status_eq_asStatus_iff (s : State) (call : Call w) {code : ErrorCode}
    (hcode : code ∈ ErrorCode.all) :
    (driver call s).1.status = code.asStatus ↔ (perform s call).failure? = some code := by
  have hzero : ∀ code ∈ ErrorCode.all, Status.noError ≠ code.asStatus := by decide
  have hinjective : ∀ code₁ ∈ ErrorCode.all, ∀ code₂ ∈ ErrorCode.all,
      code₁.asStatus = code₂.asStatus → code₁ = code₂ := by decide
  show (perform s call).status = _ ↔ _
  unfold Outcome.status
  cases hfailure : (perform s call).failure? with
  | none => exact iff_of_false (hzero code hcode) nofun
  | some found =>
    have hfound := failsIn_perform s call found (Outcome.verdict_eq_error_iff.2 hfailure)
    constructor
    · intro h
      rw [hinjective found hfound code hcode h]
    · intro h
      rw [Option.some.inj h]

end Emulator

end PassThru
