import PassThru.Proofs.Emulator.Atomicity
import PassThru.Proofs.Emulator.Gates
import PassThru.Proofs.Emulator.Issued
import PassThru.Proofs.Native.Decoding

/-!
# Numbers that are too large

The emulated library narrows a number that does not fit 32 bits to the largest one that does. That
one is no handle as long as handles are left to issue, and no protocol, flag word, kind, request or
interval either, so a call that names something by a number too large fails and changes nothing.
Bit rates and voltages are different: there the largest number is one that means something.

* `names`, `listed` and `rates`: the numbers of a call, by what a number too large does to it.
* `narrow_of_succeeded`: a call that succeeds has named everything by numbers that fit.
* `actsAtLargest_iff`: when a call succeeds whose bit rate or voltage is too large.
* `oversized_rejected_iff`: which calls with a number too large are rejected.
-/

namespace PassThru

variable {w : Width}

/-- A number that does not fit 32 bits. -/
def Word.Oversized (v : Word w) : Prop := UInt32.size - 1 < v.toNat

instance (v : Word w) : Decidable v.Oversized :=
  inferInstanceAs (Decidable (UInt32.size - 1 < v.toNat))

theorem Word.not_narrow_iff {v : Word w} : ¬ v.Narrow ↔ v.Oversized := Nat.not_le

theorem Word.Oversized.narrow_eq {v : Word w} (h : v.Oversized) : v.narrow = largest := by
  have hnone : v.to32? = none := Word.to32?_eq_none_iff.2 (Nat.succ_le_of_lt h)
  unfold narrow
  rw [hnone]
  rfl

/-- What does not hold of the largest number holds of numbers that fit only. -/
theorem Word.narrow_of_accepted {p : UInt32 → Prop} (hlargest : ¬ p largest) {v : Word w}
    (h : p v.narrow) : v.Narrow := by
  refine Decidable.byContradiction fun hwide => hlargest ?_
  rw [(Word.not_narrow_iff.1 hwide).narrow_eq] at h
  exact h

namespace Emulator

open Attempt

variable {s : State}

/-! ## What a call names -/

/-- The messages that a call looks at before it does anything. -/
def subjects : Call w → List (NativeMessage w)
  | .startPeriodicMsg _ message _ _ => message.toList
  | .startMsgFilter _ _ mask pattern _ => mask.toList ++ pattern.toList
  | .ioctl _ _ (.message request) _ => [request]
  | _ => []

/-- The numbers by which a call says what it is about: handles, a protocol, flags, a kind, a request
or an interval. -/
def names : Call w → List (Word w)
  | .closeDevice device => [device]
  | .connect device protocol flags _ _ _ => [device, protocol, flags]
  | .disconnect channel => [channel]
  | .logicalConnect physical protocol _ _ _ => [physical, protocol]
  | .logicalDisconnect channel => [channel]
  | .select _ kind _ => [kind]
  | .readMsgs channel _ _ _ => [channel]
  | .queueMsgs channel _ _ => [channel]
  | .startPeriodicMsg channel _ _ interval => [channel, interval]
  | .stopPeriodicMsg channel id => [channel, id]
  | .startMsgFilter channel kind _ _ _ => [channel, kind]
  | .stopMsgFilter channel id => [channel, id]
  | .setProgrammingVoltage device _ _ => [device]
  | .readVersion device _ _ _ => [device]
  | .ioctl target id _ _ => [target, id]
  | .scanForDevices _ | .getNextDevice _ | .openDevice _ _ | .getLastError _ => []

/-! ### Numbers that name something -/

section Narrow

variable {v : Word w}

theorem narrow_of_protocol {protocol : Protocol} (h : Protocol.ofCode? v.narrow = some protocol) :
    v.Narrow :=
  Word.narrow_of_accepted (p := fun n => Protocol.ofCode? n = some protocol)
    (by cases protocol <;> decide) h

theorem narrow_of_flags (h : connectFlags.defines v.narrow = true) : v.Narrow :=
  Word.narrow_of_accepted (p := fun n => connectFlags.defines n = true) (by decide) h

theorem narrow_of_request {request : Ioctl} (h : Ioctl.ofCode? v.narrow = some request) :
    v.Narrow :=
  Word.narrow_of_accepted (p := fun n => Ioctl.ofCode? n = some request)
    (by cases request <;> decide) h

theorem narrow_of_filterKind {kind : FilterType} (h : filterKind v.narrow = .ok kind) : v.Narrow :=
  Word.narrow_of_accepted (p := fun n => filterKind n = .ok kind) nofun h

theorem narrow_of_interval (h : isInterval v.narrow = true) : v.Narrow :=
  Word.narrow_of_accepted (p := fun n => isInterval n = true) (by decide) h

theorem narrow_of_selectArguments {set : Option (NativeChannelSet w)} {result}
    (h : selectArguments set v.narrow = .ok result) : v.Narrow := by
  simp only [selectArguments, bind_eq_ok_iff, require_eq_ok_iff] at h
  obtain ⟨native, -, -, hkind, -⟩ := h
  exact Word.narrow_of_accepted (p := fun n => (n == Coded.code SelectType.readable) = true)
    (by decide) hkind

theorem narrow_of_readMessage {message : NativeMessage w} {frame : Message}
    (h : readMessage message = .ok frame) : message.protocolId.Narrow := by
  unfold readMessage at h
  split at h
  · next found hread =>
    obtain ⟨size, -, hinterpret⟩ := exists_of_bind_eq_ok hread
    -- the structure with as much of its buffer as may be looked at
    let seen := { message with buffer := some ((message.buffer.getD []).take size.toNat) }
    have hdecode : seen.reading.answer = .ok found := (Message.decode_eq seen).symm.trans hinterpret
    refine Decidable.byContradiction fun hwide => ?_
    have hmem : ("protocol_id", message.protocolId) ∈ seen.reading.numbers :=
      List.mem_cons_of_mem _ List.mem_cons_self
    obtain ⟨e, herror⟩ := Reading.exists_answer_eq_error_iff.2 ⟨_, hmem, hwide⟩
    cases hdecode.symm.trans herror
  · cases h

end Narrow

section LargestUnused

variable (hs : LargestUnused s) {v : Word w}

include hs

theorem LargestUnused.narrow_of_device {device : OpenDevice}
    (h : s.devices.get? v.narrow = some device) : v.Narrow :=
  Word.narrow_of_accepted (p := fun n => s.devices.get? n = some device)
    (by rw [hs.device]; exact nofun) h

theorem LargestUnused.narrow_of_channel {ch : Channel}
    (h : s.channels.get? v.narrow = some ch) : v.Narrow :=
  Word.narrow_of_accepted (p := fun n => s.channels.get? n = some ch)
    (by rw [hs.channel]; exact nofun) h

theorem LargestUnused.narrow_of_filter {id : UInt32} {ch : Channel}
    (hfound : s.channels.get? id = some ch) (h : ch.filters.contains v.narrow = true) : v.Narrow :=
  Word.narrow_of_accepted (p := fun n => ch.filters.contains n = true)
    (by rw [Table.contains_eq_false_iff.2 (hs.filter hfound)]; decide) h

theorem LargestUnused.narrow_of_periodic {id : UInt32} {ch : Channel}
    (hfound : s.channels.get? id = some ch) (h : ch.periodic.contains v.narrow = true) : v.Narrow :=
  Word.narrow_of_accepted (p := fun n => ch.periodic.contains n = true)
    (by rw [Table.contains_eq_false_iff.2 (hs.periodic hfound)]; decide) h

end LargestUnused

/-! ### Calls that succeed -/

theorem issue_accepted_iff {output : Option (Word w)} {attempt : Attempt (UInt32 × State)} :
    (issue s output attempt).failure? = none ↔ ∃ result, attempt = .ok result := by
  cases attempt <;> simp [issue, Outcome.ofAttempt, Except.map]

/-- A call that was answered has found what the gate asks for. -/
theorem opened_of_accepted {opened : Prop} {refusals codes : List ErrorCode} {μ : Type}
    {outcome : Outcome μ} (hgate : GatedBy opened refusals codes outcome.verdict)
    (h : outcome.failure? = none) : opened := by
  refine Classical.byContradiction fun hshut => ?_
  obtain ⟨code, -, hrefused⟩ := hgate.refused hshut
  rw [Outcome.verdict_eq_error_iff, h] at hrefused
  cases hrefused

/-- A request that is granted names an open device or channel, and is itself named by a number that
fits. -/
theorem narrow_of_ioctl (hs : LargestUnused s) {target id : Word w} {input output : NativeControl w}
    (h : (performIoctl s target id ⟨input, output⟩).failure? = none) :
    target.Narrow ∧ id.Narrow := by
  cases hrequest : Ioctl.ofCode? id.narrow with
  | none =>
    simp only [performIoctl, hrequest] at h
    cases h
  | some request =>
    refine ⟨?_, narrow_of_request hrequest⟩
    by_cases hdevice : request = .readPinVoltage ∨ request = .readProgVoltage
    · have hopen := opened_of_accepted (gatedBy_deviceRequest s hrequest hdevice) h
      obtain ⟨device, hfound⟩ := Table.contains_iff.1 hopen
      exact hs.narrow_of_device hfound
    · by_cases hchannel : Ioctl.ToChannel request input output
      · have hopen := opened_of_accepted (gatedBy_channelRequest s hrequest hchannel) h
        obtain ⟨ch, hfound⟩ := Table.contains_iff.1 hopen
        exact hs.narrow_of_channel hfound
      · have hrefused : (performIoctl s target id ⟨input, output⟩).verdict = .error .nullRequired :=
          verdict_of_not_null s hrequest hdevice hchannel
        rw [Outcome.verdict_eq_error_iff, h] at hrefused
        cases hrefused

theorem controlChange_accepted_iff {memory : ControlMemory w} {attempt : Attempt State} :
    (controlChange s memory attempt).failure? = none ↔ ∃ s', attempt = .ok s' := by
  cases attempt <;> simp [controlChange, Outcome.ofAttempt, Except.map]

theorem controlQuery_accepted_iff {memory : ControlMemory w} {attempt : Attempt (NativeControl w)} :
    (controlQuery s memory attempt).failure? = none ↔ ∃ output, attempt = .ok output := by
  cases attempt <;> simp [controlQuery, Outcome.ofAttempt, Except.map]

/-- The only request that takes a message is a fast initialization, and it reads the message. -/
theorem narrow_of_ioctl_message {target id : Word w} {message : NativeMessage w}
    {output : NativeControl w}
    (h : (performIoctl s target id ⟨.message message, output⟩).failure? = none) :
    message.protocolId.Narrow := by
  cases hrequest : Ioctl.ofCode? id.narrow with
  | none =>
    simp only [performIoctl, hrequest] at h
    cases h
  | some request =>
    cases request <;> simp only [performIoctl, hrequest] at h
    case fastInit =>
      obtain ⟨filled, hok⟩ := controlQuery_accepted_iff.1 h
      simp only [State.fastInit, bind_eq_ok_iff] at hok
      obtain ⟨ch, -, -, -, -, -, -, -, hok⟩ := hok
      split at hok
      · next request slot hinput =>
        simp only [bind_eq_ok_iff] at hok
        obtain ⟨frame, hread, -⟩ := hok
        cases hinput
        exact narrow_of_readMessage hread
      · cases hok
    -- the others read a list or bytes or pins, or want no input
    case getConfig =>
      split at h
      · cases h
      · next hok =>
        simp only [State.getConfig, bind_eq_ok_iff] at hok
        obtain ⟨-, -, ch, -, entries, hentries, -⟩ := hok
        cases hentries
    case setConfig =>
      obtain ⟨s', hok⟩ := controlChange_accepted_iff.1 h
      obtain ⟨-, ch, -, entries, hentries, -⟩ := State.setConfig_eq_ok_iff.1 hok
      cases hentries
    case readPinVoltage =>
      obtain ⟨filled, hok⟩ := controlQuery_accepted_iff.1 h
      simp only [State.readPinVoltage, bind_eq_ok_iff] at hok
      obtain ⟨device, -, -, -, -, -, pins, hpins, -⟩ := hok
      cases hpins
    case readProgVoltage =>
      obtain ⟨filled, hok⟩ := controlQuery_accepted_iff.1 h
      simp only [State.readProgVoltage, bind_eq_ok_iff] at hok
      obtain ⟨device, -, _, hnull, -⟩ := hok
      cases hnull
    case fiveBaudInit =>
      obtain ⟨filled, hok⟩ := controlQuery_accepted_iff.1 h
      simp only [State.fiveBaudInit, bind_eq_ok_iff] at hok
      obtain ⟨ch, -, -, -, -, -, bytes, hbytes, -⟩ := hok
      cases hbytes
    case addToFunctMsgLookupTable | deleteFromFunctMsgLookupTable =>
      obtain ⟨s', hok⟩ := controlChange_accepted_iff.1 h
      obtain ⟨-, ch, -, -, bytes, hbytes, -⟩ := State.changeFunctional_eq_ok_iff.1 hok
      cases hbytes
    all_goals
      obtain ⟨s', hok⟩ := controlChange_accepted_iff.1 h
      cases (State.clear_eq_ok_iff.1 hok).1

/-- A call that succeeds has named everything by numbers that fit. -/
theorem narrow_of_succeeded (hs : LargestUnused s) {call : Call w}
    (h : (perform s call).failure? = none) :
    (∀ v ∈ names call, v.Narrow) ∧ ∀ message ∈ subjects call, message.protocolId.Narrow := by
  cases call with
  | scanForDevices | getNextDevice | openDevice | getLastError => exact ⟨nofun, nofun⟩
  | closeDevice device =>
    obtain ⟨s', hok⟩ := (change_accepted_iff s).1 h
    obtain ⟨opened, hfound⟩ := Table.contains_iff.1 (State.closeDevice_eq_ok_iff.1 hok).1
    exact ⟨List.forall_mem_singleton.2 (hs.narrow_of_device hfound), nofun⟩
  | connect device protocol flags baud resource channel =>
    obtain ⟨result, hok⟩ := issue_accepted_iff.1 h
    obtain ⟨-, opened, found, pins, hrequest⟩ := State.connectRequest_of_connect hok
    refine ⟨?_, nofun⟩
    simp only [names, List.forall_mem_cons]
    exact ⟨hs.narrow_of_device hrequest.opened, narrow_of_protocol hrequest.protocol_eq,
      narrow_of_flags hrequest.flags_defined, nofun⟩
  | disconnect channel =>
    obtain ⟨s', hok⟩ := (change_accepted_iff s).1 h
    obtain ⟨ch, hfound, -⟩ := State.disconnect_eq_ok_iff.1 hok
    exact ⟨List.forall_mem_singleton.2 (hs.narrow_of_channel hfound), nofun⟩
  | logicalConnect physical protocol flags descriptor channel =>
    obtain ⟨result, hok⟩ := issue_accepted_iff.1 h
    simp only [bind_eq_ok_iff, present_eq_ok_iff] at hok
    obtain ⟨descriptor, rfl, channel, rfl, hok⟩ := hok
    obtain ⟨parent, hfound, -, hprotocol, -⟩ := State.logicalConnect_eq_ok_iff.1 hok
    refine ⟨?_, nofun⟩
    simp only [names, List.forall_mem_cons]
    exact ⟨hs.narrow_of_channel hfound, narrow_of_protocol hprotocol, nofun⟩
  | logicalDisconnect channel =>
    obtain ⟨s', hok⟩ := (change_accepted_iff s).1 h
    obtain ⟨ch, hfound, -⟩ := State.logicalDisconnect_eq_ok_iff.1 hok
    exact ⟨List.forall_mem_singleton.2 (hs.narrow_of_channel hfound), nofun⟩
  | select set kind timeout =>
    refine ⟨List.forall_mem_singleton.2 ?_, nofun⟩
    cases harguments : selectArguments set kind.narrow with
    | error code =>
      simp only [perform, performSelect, harguments] at h
      cases h
    | ok result => exact narrow_of_selectArguments harguments
  | readMsgs channel slots count timeout =>
    rcases slots, count with ⟨_ | slots, _ | count⟩
    case some.some =>
      have hopen := opened_of_accepted (gatedBy_performRead s channel slots count timeout) h
      obtain ⟨ch, hfound⟩ := Table.contains_iff.1 hopen
      exact ⟨List.forall_mem_singleton.2 (hs.narrow_of_channel hfound), nofun⟩
    all_goals cases h
  | queueMsgs channel messages count =>
    rcases messages, count with ⟨_ | messages, _ | count⟩
    case some.some =>
      have hopen := opened_of_accepted (gatedBy_performQueue s channel messages count) h
      obtain ⟨ch, hfound⟩ := Table.contains_iff.1 hopen
      exact ⟨List.forall_mem_singleton.2 (hs.narrow_of_channel hfound), nofun⟩
    all_goals cases h
  | startPeriodicMsg channel message id interval =>
    obtain ⟨result, hok⟩ := issue_accepted_iff.1 h
    simp only [bind_eq_ok_iff, present_eq_ok_iff] at hok
    obtain ⟨message, rfl, id, rfl, hok⟩ := hok
    obtain ⟨ch, hfound, hinterval, frame, hread, -⟩ := State.startPeriodicMsg_eq_ok_iff.1 hok
    simp only [names, subjects, Option.toList, List.forall_mem_cons]
    exact ⟨⟨hs.narrow_of_channel hfound, narrow_of_interval hinterval, nofun⟩,
      narrow_of_readMessage hread, nofun⟩
  | stopPeriodicMsg channel id =>
    obtain ⟨s', hok⟩ := (change_accepted_iff s).1 h
    obtain ⟨ch, hfound, hcontains, -⟩ := State.stopPeriodicMsg_eq_ok_iff.1 hok
    refine ⟨?_, nofun⟩
    simp only [names, List.forall_mem_cons]
    exact ⟨hs.narrow_of_channel hfound, hs.narrow_of_periodic hfound hcontains, nofun⟩
  | startMsgFilter channel kind mask pattern id =>
    obtain ⟨result, hok⟩ := issue_accepted_iff.1 h
    simp only [bind_eq_ok_iff, present_eq_ok_iff] at hok
    obtain ⟨mask, rfl, pattern, rfl, id, rfl, hok⟩ := hok
    obtain ⟨ch, hfound, filter, hkind, ⟨m, hmask, -⟩, ⟨p, hpattern, -⟩, -⟩ :=
      State.startMsgFilter_eq_ok_iff.1 hok
    simp only [names, subjects, Option.toList, List.forall_mem_cons, List.cons_append,
      List.nil_append]
    exact ⟨⟨hs.narrow_of_channel hfound, narrow_of_filterKind hkind, nofun⟩,
      narrow_of_readMessage hmask, narrow_of_readMessage hpattern, nofun⟩
  | stopMsgFilter channel id =>
    obtain ⟨s', hok⟩ := (change_accepted_iff s).1 h
    obtain ⟨ch, hfound, hcontains, -⟩ := State.stopMsgFilter_eq_ok_iff.1 hok
    refine ⟨?_, nofun⟩
    simp only [names, List.forall_mem_cons]
    exact ⟨hs.narrow_of_channel hfound, hs.narrow_of_filter hfound hcontains, nofun⟩
  | setProgrammingVoltage device resource voltage =>
    obtain ⟨s', hok⟩ := (change_accepted_iff s).1 h
    obtain ⟨opened, ⟨hfound, -⟩, -⟩ := State.setProgrammingVoltage_eq_ok_iff.1 hok
    exact ⟨List.forall_mem_singleton.2 (hs.narrow_of_device hfound), nofun⟩
  | readVersion device firmware dll api =>
    have hopen := opened_of_accepted (gatedBy_performReadVersion s device _) h
    obtain ⟨opened, hfound⟩ := Table.contains_iff.1 hopen
    exact ⟨List.forall_mem_singleton.2 (hs.narrow_of_device hfound), nofun⟩
  | ioctl target id input output =>
    obtain ⟨htarget, hid⟩ := narrow_of_ioctl hs h
    refine ⟨?_, ?_⟩
    · simp only [names, List.forall_mem_cons]
      exact ⟨htarget, hid, nofun⟩
    · cases input with
      | message message => exact List.forall_mem_singleton.2 (narrow_of_ioctl_message h)
      | _ => exact nofun

/-! ## Calls that are rejected -/

/-- A call that fails, and changes nothing but the text about the last failure. -/
def Rejected (s : State) (call : Call w) : Prop :=
  (driver call s).1.status ≠ Status.noError ∧ ∃ code, (driver call s).1.status = code.asStatus ∧
    (driver call s).2 = { s with lastFailure := some ⟨call.entry, code⟩ }

/-- A call names something by a number that is too large, or looks at a message that does. -/
def Misnamed (call : Call w) : Prop :=
  (∃ v ∈ names call, v.Oversized) ∨ ∃ message ∈ subjects call, message.protocolId.Oversized

section Rejected

variable {call : Call w}

theorem driver_of_failed {code : ErrorCode} (h : (perform s call).failure? = some code)
    (hentry : call.entry ≠ .getLastError) :
    (driver call s).1.status ≠ Status.noError ∧ (driver call s).1.status = code.asStatus ∧
      (driver call s).2 =
        { (perform s call).state with lastFailure := some ⟨call.entry, code⟩ } := by
  refine ⟨fun hzero => ?_, ?_, ?_⟩
  · rw [(status_eq_noError_iff s call).1 hzero] at h
    cases h
  · show (perform s call).status = _
    unfold Outcome.status
    rw [h]
  · show remember call.entry (perform s call).failure? (perform s call).state = _
    unfold remember
    rw [h]
    exact if_neg hentry

/-- A call that leaves the state alone when it fails is rejected exactly if it fails. -/
theorem rejected_iff (hentry : call.entry ≠ .getLastError)
    (hsame : ∀ code, (perform s call).failure? = some code → (perform s call).state = s) :
    Rejected s call ↔ (perform s call).failure? ≠ none := by
  constructor
  · rintro ⟨hfailed, -⟩ hnone
    exact hfailed ((status_eq_noError_iff s call).2 hnone)
  · intro hfailed
    obtain ⟨code, hcode⟩ := Option.ne_none_iff_exists'.1 hfailed
    obtain ⟨hstatus, hcoded, hstate⟩ := driver_of_failed hcode hentry
    rw [hsame code hcode] at hstate
    exact ⟨hstatus, code, hcoded, hstate⟩

theorem exists_of_entry_eq (h : call.entry = .getLastError) :
    ∃ text, call = .getLastError text := by
  cases call with
  | getLastError text => exact ⟨text, rfl⟩
  | _ => cases h

theorem Misnamed.entry_ne (h : Misnamed call) : call.entry ≠ .getLastError := by
  intro hentry
  obtain ⟨text, rfl⟩ := exists_of_entry_eq hentry
  rcases h with ⟨v, hv, -⟩ | ⟨message, hmessage, -⟩
  · cases hv
  · cases hmessage

/-- A call that says what it is about by one number. -/
theorem Misnamed.wide (h : Misnamed call) {v : Word w} (hnames : names call = [v])
    (hsubjects : subjects call = []) : ¬ v.Narrow := by
  rcases h with ⟨named, hnamed, hwide⟩ | ⟨message, hmessage, -⟩
  · rw [hnames] at hnamed
    rw [List.mem_singleton.1 hnamed] at hwide
    exact Word.not_narrow_iff.2 hwide
  · rw [hsubjects] at hmessage
    cases hmessage

/-- A call that names something by a number too large has no residue. -/
theorem residue_of_misnamed (hs : LargestUnused s) (h : Misnamed call) {code : ErrorCode}
    {memory : call.Memory} {left : State} (hresidue : Residue s code call memory left) :
    left = s := by
  cases call with
  | select set kind timeout =>
    have hwide := h.wide rfl rfl
    cases hresidue with
    | argument => rfl
    | unknown _ _ _ _ harguments | few _ _ harguments =>
      exact absurd (narrow_of_selectArguments harguments) hwide
  | readMsgs channel slots count timeout =>
    have hwide := h.wide rfl rfl
    cases hresidue with
    | null | closed => rfl
    | live _ _ _ _ _ hpump =>
      obtain ⟨ch, hfound, -⟩ := State.pump_eq_ok_iff.1 hpump
      exact absurd (hs.narrow_of_channel hfound) hwide
  | queueMsgs channel messages count =>
    have hwide := h.wide rfl rfl
    cases hresidue with
    | null | closed => rfl
    | live _ _ _ _ _ _ hfound => exact absurd (hs.narrow_of_channel hfound) hwide
  | _ => exact hresidue

theorem rejected_of_misnamed (hs : LargestUnused s) (h : Misnamed call) : Rejected s call := by
  refine (rejected_iff h.entry_ne fun code hcode => ?_).2 fun hnone => ?_
  · exact residue_of_misnamed hs h (residue_perform hcode)
  · obtain ⟨hnames, hsubjects⟩ := narrow_of_succeeded hs hnone
    rcases h with ⟨v, hv, hwide⟩ | ⟨message, hmessage, hwide⟩
    · exact Word.not_narrow_iff.2 hwide (hnames v hv)
    · exact Word.not_narrow_iff.2 hwide (hsubjects message hmessage)

end Rejected

/-! ### Lists -/

/-- The numbers that a call lists, as far as it counts them: the channels of a select, and the
protocols of messages to be queued. -/
def listed : Call w → List (Word w)
  | .select (some set) _ _ => (set.list.getD []).take set.count.narrow.toNat
  | .queueMsgs _ (some messages) (some count) =>
    (messages.take count.narrow.toNat).map NativeMessage.protocolId
  | _ => []

/-- A call that fails, and leaves what it did in front of the fault. -/
def Stopped (s : State) (call : Call w) : Prop :=
  (driver call s).1.status ≠ Status.noError ∧ ∃ code left,
    (driver call s).1.status = code.asStatus ∧
    Residue s code call (driver call s).1.memory left ∧
    (driver call s).2 = { left with lastFailure := some ⟨call.entry, code⟩ }

theorem stopped_of_failed {call : Call w} {code : ErrorCode}
    (h : (perform s call).failure? = some code) (hentry : call.entry ≠ .getLastError) :
    Stopped s call := by
  obtain ⟨hstatus, hcoded, hstate⟩ := driver_of_failed h hentry
  exact ⟨hstatus, code, _, hcoded, residue_perform h, hstate⟩

theorem readList_eq_ok {α : Type} {count : Word w} {list : Option (List α)} {items : List α}
    (h : readList count list = .ok items) : items = (list.getD []).take count.narrow.toNat := by
  unfold readList at h
  split at h
  · next hzero =>
    rw [hzero]
    exact (Except.ok.inj h).symm
  · cases list with
    | none => cases h
    | some list => exact (Except.ok.inj h).symm

/-- The channels that a select looks at are those that are listed. -/
theorem selectArguments_listed {set : Option (NativeChannelSet w)} {kind timeout : Word w}
    {native : NativeChannelSet w} {ids : List UInt32}
    (h : selectArguments set kind.narrow = .ok (native, ids)) :
    ids = (listed (.select set kind timeout)).map Word.narrow := by
  simp only [selectArguments, bind_eq_ok_iff, require_eq_ok_iff, present_eq_ok_iff, exists_const,
    pure_eq_ok_iff, Prod.mk.injEq] at h
  obtain ⟨found, rfl, -, entries, hread, -, -, -, rfl⟩ := h
  rw [readList_eq_ok hread]
  rfl

/-- A message that can be sent has a protocol whose number fits. -/
theorem narrow_of_faultless {protocol : Protocol} {message : NativeMessage w}
    (h : fault? protocol message = none) : message.protocolId.Narrow := by
  unfold fault? at h
  split at h
  · cases h
  · next frame hread =>
    have hframe : readMessage message = .ok frame := by
      unfold readMessage
      rw [hread]
    exact narrow_of_readMessage hframe

theorem faultless_of_accept {protocol : Protocol} {messages : List (NativeMessage w)}
    (h : (accept protocol messages).2 = none) :
    ∀ message ∈ messages, fault? protocol message = none := by
  induction messages with
  | nil => exact nofun
  | cons message rest ih =>
    cases hfault : fault? protocol message with
    | some code =>
      rw [accept_of_fault hfault] at h
      cases h
    | none =>
      obtain ⟨frame, heq⟩ := accept_of_faultless hfault rest
      rw [heq] at h
      exact List.forall_mem_cons.2 ⟨hfault, ih h⟩

/-- A call that succeeds has listed numbers that fit. -/
theorem listed_narrow (hs : LargestUnused s) {call : Call w}
    (h : (perform s call).failure? = none) : ∀ v ∈ listed call, v.Narrow := by
  cases call with
  | select set kind timeout =>
    intro v hv
    cases harguments : selectArguments set kind.narrow with
    | error code =>
      simp only [perform, performSelect, harguments] at h
      cases h
    | ok result =>
      have hopen := opened_of_accepted (gatedBy_performSelect s harguments) h
      rw [selectArguments_listed harguments, List.forall_mem_map] at hopen
      obtain ⟨ch, hfound⟩ := Table.contains_iff.1 (hopen v hv)
      exact hs.narrow_of_channel hfound
  | queueMsgs channel messages count =>
    rcases messages, count with ⟨_ | messages, _ | count⟩
    case some.some =>
      have hopen := opened_of_accepted (gatedBy_performQueue s channel messages count) h
      obtain ⟨ch, hfound⟩ := Table.contains_iff.1 hopen
      have haccept : (performQueue s channel ⟨some messages, some count⟩).failure? = none := h
      rw [performQueue_eq hfound] at haccept
      exact List.forall_mem_map.2 fun message hmem =>
        narrow_of_faultless (faultless_of_accept haccept message hmem)
    all_goals exact nofun
  | _ => exact nofun

theorem stopped_of_listed (hs : LargestUnused s) {call : Call w} {v : Word w}
    (hv : v ∈ listed call) (hwide : v.Oversized) : Stopped s call := by
  have hfailed : (perform s call).failure? ≠ none := fun hnone =>
    Word.not_narrow_iff.2 hwide (listed_narrow hs hnone v hv)
  obtain ⟨code, hcode⟩ := Option.ne_none_iff_exists'.1 hfailed
  refine stopped_of_failed hcode fun hentry => ?_
  obtain ⟨text, rfl⟩ := exists_of_entry_eq hentry
  cases hv

/-! ### Bit rates and voltages -/

/-- The numbers of a call that mean something when they are the largest of 32 bits. -/
def rates : Call w → List (Word w)
  | .connect _ _ _ baud _ _ => [baud]
  | .setProgrammingVoltage _ _ voltage => [voltage]
  | _ => []

/-- What a call comes to when its bit rate or its voltage is the largest number and nothing else is
wrong with it: the channel gets that bit rate, and the pin is switched off. -/
inductive ActsAtLargest (s : State) : Call w → State → Prop
  | connected (device protocol flags baud : Word w) (resource : NativeResource w) (channel : Word w)
      (opened : OpenDevice) (p : Protocol) (pins : List UInt32)
      (request : s.ConnectRequest device.narrow protocol.narrow flags.narrow largest
        (.ofNative resource) opened p pins)
      (free : ∀ pin ∈ pins, s.pinInUse device.narrow pin = false)
      (off : ∀ pin ∈ pins, opened.pins.contains pin = false) :
      ActsAtLargest s (.connect device protocol flags baud resource (some channel))
        (s.addChannel (s.physicalChannel device.narrow opened p largest pins)).2
  | switchedOff (device : Word w) (resource : NativeResource w) (voltage : Word w)
      (opened : OpenDevice) (pin : UInt32) (found : s.devices.get? device.narrow = some opened)
      (plugged : s.registry.isConnected opened.name = true)
      (single : (PinRequest.ofNative resource).single = .ok pin)
      (connector : resource.connector.narrow = Connector.j1962) (isPin : isPin pin = true)
      (free : s.pinInUse device.narrow pin = false) :
      ActsAtLargest s (.setProgrammingVoltage device resource voltage)
        { s with
          devices := s.devices.insert device.narrow
            { opened with pins := opened.pins.erase pin } }

theorem applyVoltage_largest (pins : Table PinState) (pin : UInt32) :
    applyVoltage pins pin largest = .ok (pins.erase pin) := rfl

theorem actsAtLargest_iff {call : Call w} {v : Word w} (hv : v ∈ rates call) (hwide : v.Oversized)
    {s' : State} :
    ActsAtLargest s call s' ↔ (perform s call).failure? = none ∧ (perform s call).state = s' := by
  cases call with
  | connect device protocol flags baud resource channel =>
    rw [List.mem_singleton.1 hv] at hwide
    have hperform : perform s (.connect device protocol flags baud resource channel) =
        issue s channel (s.connect device.narrow protocol.narrow flags.narrow largest
          (.ofNative resource) channel.isSome) := by
      rw [← hwide.narrow_eq]
      rfl
    rw [hperform]
    constructor
    · intro h
      cases h with
      | connected _ _ _ _ _ _ opened p pins hrequest hfree hoff =>
        rw [Option.isSome_some, State.connect_eq hrequest, if_neg, if_neg]
        · exact ⟨rfl, rfl⟩
        · rw [Bool.not_eq_true, List.any_eq_false]
          exact fun pin hpin => Bool.eq_false_iff.1 (hoff pin hpin)
        · rw [Bool.not_eq_true, List.any_eq_false]
          exact fun pin hpin => Bool.eq_false_iff.1 (hfree pin hpin)
    · rintro ⟨haccepted, rfl⟩
      obtain ⟨result, hok⟩ := issue_accepted_iff.1 haccepted
      obtain ⟨channel, rfl⟩ :=
        Option.isSome_iff_exists.1 (State.connectRequest_of_connect hok).1
      obtain ⟨opened, p, pins, hrequest, hfree, hoff, rfl⟩ := State.connect_eq_ok hok
      rw [hok]
      exact .connected _ _ _ _ _ _ opened p pins hrequest hfree hoff
  | setProgrammingVoltage device resource voltage =>
    rw [List.mem_singleton.1 hv] at hwide
    have hperform : perform s (.setProgrammingVoltage device resource voltage) =
        change s (s.setProgrammingVoltage device.narrow (.ofNative resource) largest) := by
      rw [← hwide.narrow_eq]
      rfl
    rw [hperform]
    constructor
    · intro h
      cases h with
      | switchedOff _ _ _ opened pin hfound hplugged hsingle hconnector hpin hfree =>
        rw [State.setProgrammingVoltage_eq_ok_iff.2 ⟨opened, ⟨hfound, hplugged⟩, pin, hsingle,
          ⟨hconnector, hpin⟩, hfree, _, applyVoltage_largest _ _, rfl⟩]
        exact ⟨rfl, rfl⟩
    · rintro ⟨haccepted, rfl⟩
      obtain ⟨s', hok⟩ := (change_accepted_iff s).1 haccepted
      obtain ⟨opened, ⟨hfound, hplugged⟩, pin, hsingle, ⟨hconnector, hpin⟩, hfree, pins, happlied,
        rfl⟩ := State.setProgrammingVoltage_eq_ok_iff.1 hok
      obtain rfl := Except.ok.inj ((applyVoltage_largest opened.pins pin).symm.trans happlied)
      rw [hok]
      exact .switchedOff _ _ _ opened pin hfound hplugged hsingle hconnector hpin hfree
  | _ => cases hv

/-- A call whose bit rate or voltage is too large is rejected unless it acts as one with the largest
number. -/
theorem rejected_iff_of_rate {call : Call w} {v : Word w} (hv : v ∈ rates call)
    (hwide : v.Oversized) : Rejected s call ↔ ∀ s', ¬ ActsAtLargest s call s' := by
  have hsame : ∀ code, (perform s call).failure? = some code → (perform s call).state = s := by
    intro code hcode
    have hresidue := residue_perform hcode
    cases call with
    | connect | setProgrammingVoltage => exact hresidue
    | _ => cases hv
  have hentry : call.entry ≠ .getLastError := by
    intro hentry
    obtain ⟨text, rfl⟩ := exists_of_entry_eq hentry
    cases hv
  rw [rejected_iff hentry hsame]
  constructor
  · exact fun hfailed s' hacts => hfailed ((actsAtLargest_iff hv hwide).1 hacts).1
  · exact fun hnone haccepted => hnone _ ((actsAtLargest_iff hv hwide).2 ⟨haccepted, rfl⟩)

theorem driver_of_acts {call : Call w} {v : Word w} (hv : v ∈ rates call) (hwide : v.Oversized)
    {s' : State} (h : ActsAtLargest s call s') :
    (driver call s).1.status = Status.noError ∧ (driver call s).2 = s' := by
  obtain ⟨haccepted, rfl⟩ := (actsAtLargest_iff hv hwide).1 h
  refine ⟨(status_eq_noError_iff s call).2 haccepted, ?_⟩
  show remember call.entry (perform s call).failure? (perform s call).state = _
  rw [haccepted]
  rfl

/-- **Numbers that are too large.** As long as there are handles left to issue, a call that names
something by a number that does not fit 32 bits is rejected: it fails, and changes nothing but the
text about the last failure. A call that lists such a number fails too, and leaves what it did in
front of the fault. A call whose bit rate or voltage is such a number is rejected exactly if
something else is wrong with it: otherwise the channel is connected at the largest bit rate, or the
pin is switched off. -/
theorem oversized_rejected_iff {s : State} (h : Reachable w s) (hleft : HandlesLeft s)
    (call : Call w) :
    (Misnamed call → Rejected s call) ∧
    (∀ v ∈ listed call, v.Oversized → Stopped s call) ∧
    ∀ v ∈ rates call, v.Oversized →
      (Rejected s call ↔ ∀ s', ¬ ActsAtLargest s call s') ∧
      ∀ s', ActsAtLargest s call s' →
        (driver call s).1.status = Status.noError ∧ (driver call s).2 = s' := by
  have hs := reachable_largestUnused h hleft
  refine ⟨rejected_of_misnamed hs, fun v hv => stopped_of_listed hs hv, fun v hv hwide => ?_⟩
  exact ⟨rejected_iff_of_rate hv hwide, fun s' => driver_of_acts hv hwide⟩

/-- After `Event.openCan` the number 2^32 + 1 is no device and no channel, and as a voltage it
switches a pin off. -/
theorem oversized_rejected_iff_openCan :
    let s := (State.start 1).run (Event.openCan (w := .w64))
    let wide : Word .w64 := .ofNat 0x100000001
    let pin : NativeResource .w64 := ⟨.of32 Connector.j1962, .of32 1, some [.of32 12]⟩
    let channels : NativeChannelSet .w64 := ⟨.of32 2, .of32 1, some [.of32 1, wide]⟩
    (Reachable .w64 s ∧ HandlesLeft s ∧ wide.Oversized) ∧ Rejected s (.closeDevice wide) ∧
      Stopped s (.select (some channels) (.of32 (Coded.code SelectType.readable)) .zero) ∧
      ¬ Rejected s (.setProgrammingVoltage (.of32 1) pin wide) := by
  intro s wide pin channels
  have hreachable : Reachable .w64 s := ⟨1, Event.openCan, rfl⟩
  have hleft : HandlesLeft s := ⟨by decide, by decide, by decide, by decide⟩
  have hwide : wide.Oversized := by decide
  obtain ⟨hnamed, -⟩ := oversized_rejected_iff hreachable hleft (.closeDevice wide)
  obtain ⟨-, hlisted, -⟩ := oversized_rejected_iff hreachable hleft
    (.select (some channels) (.of32 (Coded.code SelectType.readable)) .zero)
  obtain ⟨-, -, hrates⟩ := oversized_rejected_iff hreachable hleft
    (.setProgrammingVoltage (.of32 1) pin wide)
  refine ⟨⟨hreachable, hleft, hwide⟩, hnamed (.inl ⟨wide, List.mem_cons_self, hwide⟩), ?_, ?_⟩
  · exact hlisted wide (List.mem_cons_of_mem _ List.mem_cons_self) hwide
  · rw [(hrates wide List.mem_cons_self hwide).1]
    intro hnone
    exact hnone _ (.switchedOff (.of32 1) pin wide { name := "passthru-1" } 12 rfl (by decide) rfl
      rfl (by decide) (by decide))

/-- A voltage that is too large is not refused: it takes the voltage off the pin. -/
theorem oversized_voltage_switches_off :
    let pin : NativeResource .w64 := ⟨.of32 Connector.j1962, .of32 1, some [.of32 12]⟩
    let s := (State.start 1).run
      (Event.openCan ++ [.call (.setProgrammingVoltage (.of32 1) pin (.of32 12000))])
    let wide : Word .w64 := .ofNat 0x100000000
    let call : Call .w64 := .setProgrammingVoltage (.of32 1) pin wide
    (Reachable .w64 s ∧ HandlesLeft s ∧ wide.Oversized) ∧
      s.pinState? 1 12 = some (.powered 12000) ∧
      (driver call s).1.status = Status.noError ∧ (driver call s).2.pinState? 1 12 = none ∧
      ¬ Rejected s call := by
  intro pin s wide call
  have hstatus : (driver call s).1.status = Status.noError := by decide
  exact ⟨⟨⟨1, _, rfl⟩, ⟨by decide, by decide, by decide, by decide⟩, by decide⟩, by decide, hstatus,
    by decide, fun hrejected => hrejected.1 hstatus⟩

end Emulator

end PassThru
