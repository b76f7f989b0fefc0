import PassThru.Proofs.Emulator.Atomicity
import PassThru.Proofs.Emulator.Deeds
import PassThru.Proofs.Emulator.Topology

/-!
# What calls do to handles

The state of the emulated library has the handles that the machine of handles has: `State.handles`
reads them off the tables. `Accounted` says that what a call does to them is the deed that its reply
shows, and that the handles it returned are the next ones in line.

* `accounted_openDevice` and so on: one lemma for each operation that has to do with handles.
* `accounted_call`: every call, whether it succeeds or fails.
-/

namespace PassThru.Emulator

variable {w : Width}

/-! ## The handles of a state -/

/-- What the machine of handles knows of a channel. -/
def Channel.holding (ch : Channel) : Holding where
  place := ⟨ch.device, ch.parent?⟩
  items
    | .filter => ch.filters.contains
    | .periodic => ch.periodic.contains

namespace State

/-- The handles that are good in a state. -/
def handles (s : State) : Handles where
  devices := s.devices.contains
  channels := fun c => (s.channels.get? c).map Channel.holding

/-- How many handles of a kind were issued. -/
def issuedOf (s : State) : HandleKind → Nat
  | .device => s.issued.devices
  | .channel => s.issued.channels
  | .item .filter => s.issued.filters
  | .item .periodic => s.issued.periodic

end State

/-- The first `n` handles of a kind. -/
def handlesUpTo (n : Nat) : List UInt32 := (List.range n).map nextHandle

theorem handlesUpTo_succ (n : Nat) : handlesUpTo (n + 1) = handlesUpTo n ++ [nextHandle n] := by
  unfold handlesUpTo
  rw [List.range_succ, List.map_append, List.map_singleton]

/-- What was done is one deed, or none, and the handles that it returned are the next in line. -/
structure Accounted (s : State) (deed? : Option Deed) (s' : State) : Prop where
  handles : s'.handles = (deed?.map s.handles.after).getD s.handles
  ready : HandlesIssued s → s'.issued.channels < UInt32.size →
    ∀ deed, deed? = some deed → s.handles.Ready deed
  issued : ∀ kind,
    handlesUpTo (s'.issuedOf kind) = handlesUpTo (s.issuedOf kind) ++ issuedIn kind deed?.toList

section Operations

variable {s s' : State}

theorem accounted_none (hhandles : s'.handles = s.handles) (hissued : s'.issued = s.issued) :
    Accounted s none s' where
  handles := hhandles
  ready _ _ _ h := nomatch h
  issued kind := by
    have hkind : s'.issuedOf kind = s.issuedOf kind := by
      unfold State.issuedOf
      rw [hissued]
    rw [hkind]
    exact (List.append_nil _).symm

theorem accounted_some {deed : Deed} (hhandles : s'.handles = s.handles.after deed)
    (hready : s.handles.Ready deed) (hissued : s'.issued = s.issued)
    (hnone : ∀ kind, deed.handle? kind = none) : Accounted s (some deed) s' where
  handles := hhandles
  ready _ _ _ h := Option.some.inj h ▸ hready
  issued kind := by
    have hkind : s'.issuedOf kind = s.issuedOf kind := by
      unfold State.issuedOf
      rw [hissued]
    have hempty : issuedIn kind (some deed).toList = [] := by simp [issuedIn, hnone]
    rw [hkind, hempty, List.append_nil]

theorem accounted_issued (issues : HandleKind) {deed : Deed}
    (hhandles : s'.handles = s.handles.after deed)
    (hready : HandlesIssued s → s'.issued.channels < UInt32.size → s.handles.Ready deed)
    (hdeed : ∀ kind, deed.handle? kind =
      if kind = issues then some (nextHandle (s.issuedOf issues)) else none)
    (hissued : ∀ kind, s'.issuedOf kind =
      if kind = issues then s.issuedOf issues + 1 else s.issuedOf kind) :
    Accounted s (some deed) s' where
  handles := hhandles
  ready hhandlesIssued hbound _ h := Option.some.inj h ▸ hready hhandlesIssued hbound
  issued kind := by
    rw [hissued]
    by_cases hkind : kind = issues
    · have hone : issuedIn kind (some deed).toList = [nextHandle (s.issuedOf issues)] := by
        simp [issuedIn, hdeed, hkind]
      rw [if_pos hkind, handlesUpTo_succ, hone, hkind]
    · have hempty : issuedIn kind (some deed).toList = [] := by simp [issuedIn, hdeed, hkind]
      rw [if_neg hkind, hempty, List.append_nil]

/-! ### Devices -/

theorem accounted_openDevice {name : String} {id : UInt32} (h : s.openDevice name = .ok (id, s')) :
    Accounted s (some (.opened id)) s' := by
  obtain ⟨-, rfl, rfl⟩ := State.openDevice_eq_ok_iff.1 h
  refine accounted_issued .device ?_ (fun _ _ => trivial) (fun _ => rfl) ?_
  · unfold State.handles Handles.after
    exact congrArg (Handles.mk · _) (funext fun k => Table.contains_insert _ _ _ k)
  · rintro (_ | _ | _ | _) <;> rfl

/-- What is kept of the channels, if the test depends on their handles and places. -/
theorem channels_filter (test : UInt32 → Place → Bool) {keep : UInt32 → Channel → Bool}
    (h : ∀ k ch, s.channels.get? k = some ch → keep k ch = test k ch.holding.place) :
    (fun k => ((s.channels.filter keep).get? k).map Channel.holding) =
      (s.handles.keep test).channels := by
  funext k
  unfold State.handles Handles.keep
  dsimp only
  rw [Table.get?_filter]
  cases hfound : s.channels.get? k with
  | none => rfl
  | some ch =>
    rw [Option.map_some, Option.filter_some, Option.filter_some, h k ch hfound]
    split <;> rfl

theorem accounted_closeDevice {id : UInt32} (h : s.closeDevice id = .ok s') :
    Accounted s (some (.closed id)) s' := by
  obtain ⟨-, rfl⟩ := State.closeDevice_eq_ok_iff.1 h
  refine accounted_some ?_ trivial rfl (fun _ => rfl)
  refine congrArg₂ Handles.mk (funext fun k => Table.contains_erase _ _ k) ?_
  exact channels_filter (fun _ place => place.device != id) fun _ _ _ => rfl

/-! ### Connecting and disconnecting -/

theorem handles_addChannel {ch : Channel} (hnew : ch.holding = .new ch.holding.place) :
    (s.addChannel ch).2.handles = s.handles.put (nextHandle s.issued.channels) ch.holding.place := by
  unfold State.handles Handles.put State.addChannel State.setChannel
  refine congrArg (Handles.mk _) (funext fun k => ?_)
  dsimp only
  rw [Table.get?_insert]
  split
  · exact congrArg some hnew
  · rfl

theorem holding_new {ch : Channel} (hfilters : ch.filters = .empty) (hperiodic : ch.periodic = .empty) :
    ch.holding = .new ch.holding.place := by
  unfold Channel.holding Holding.new
  rw [hfilters, hperiodic]
  refine congrArg (Holding.mk _) (funext fun item => ?_)
  cases item <;> rfl

theorem channels_handles_none {c : UInt32} (h : s.channels.get? c = none) :
    s.handles.channels c = none := by
  unfold State.handles
  dsimp only
  rw [h]
  rfl

theorem channels_handles {c : UInt32} {ch : Channel} (h : s.channels.get? c = some ch) :
    s.handles.channels c = some ch.holding := by
  unfold State.handles
  dsimp only
  rw [h]
  rfl

theorem accounted_connect {deviceId protocolId flags baud id : UInt32} {request : PinRequest}
    {hasOutput : Bool}
    (h : s.connect deviceId protocolId flags baud request hasOutput = .ok (id, s')) :
    Accounted s (some (.connected deviceId id)) s' := by
  obtain ⟨device, protocol, pins, -, -, -, hresult⟩ := State.connect_eq_ok h
  obtain ⟨rfl, rfl⟩ := Prod.mk.inj hresult
  refine accounted_issued .channel ?_ (fun hissued hbound => ?_) (fun _ => rfl) ?_
  · exact handles_addChannel (holding_new rfl rfl)
  · exact channels_handles_none (hissued.get?_nextHandle hbound)
  · rintro (_ | _ | _ | _) <;> rfl

theorem accounted_logicalConnect {physical protocolId id : UInt32}
    {localAddress remoteAddress : Address}
    (h : s.logicalConnect physical protocolId localAddress remoteAddress = .ok (id, s')) :
    Accounted s (some (.logicalConnected physical id)) s' := by
  obtain ⟨parent, hfound, ⟨hroot, -⟩, -, -, -, hresult⟩ := State.logicalConnect_eq_ok_iff.1 h
  obtain ⟨rfl, rfl⟩ := Prod.mk.inj hresult
  have hparent := channels_handles hfound
  have hdevice : s.handles.deviceOf physical = parent.device := by
    unfold Handles.deviceOf
    rw [hparent]
    rfl
  have hplaced : s.handles.Placed physical ⟨parent.device, none⟩ :=
    ⟨parent.holding, hparent, congrArg (Place.mk _) hroot⟩
  refine accounted_issued .channel ?_ (fun hissued hbound => ?_) (fun _ => rfl) ?_
  · show _ = s.handles.put _ ⟨s.handles.deviceOf physical, some physical⟩
    rw [hdevice]
    exact handles_addChannel (holding_new rfl rfl)
  · have hnew := channels_handles_none (hissued.get?_nextHandle hbound)
    exact ⟨hnew, parent.device, hplaced⟩
  · rintro (_ | _ | _ | _) <;> rfl

theorem accounted_disconnect {id : UInt32} (h : s.disconnect id = .ok s') :
    Accounted s (some (.disconnected id)) s' := by
  obtain ⟨ch, -, -, rfl⟩ := State.disconnect_eq_ok_iff.1 h
  refine accounted_some ?_ trivial rfl (fun _ => rfl)
  refine congrArg (Handles.mk _) ?_
  unfold Table.erase
  rw [Table.filter_filter]
  refine channels_filter (fun k place => k != id && place.parent? != some id) ?_
  intro k ch _
  exact Bool.and_comm _ _

/-- A logical channel is no other's parent, so nothing else goes with it. -/
theorem accounted_logicalDisconnect (htopology : Topology s) {id : UInt32}
    (h : s.logicalDisconnect id = .ok s') : Accounted s (some (.disconnected id)) s' := by
  obtain ⟨logical, hlogical, hparent, rfl⟩ := State.logicalDisconnect_eq_ok_iff.1 h
  refine accounted_some ?_ trivial rfl (fun _ => rfl)
  refine congrArg (Handles.mk _) ?_
  unfold Table.erase
  refine channels_filter (fun k place => k != id && place.parent? != some id) ?_
  intro k ch hfound
  have hother : (ch.parent? != some id) = true := by
    rw [bne_iff_ne]
    intro hchild
    obtain ⟨-, -, parent, hfound', -, hroot, -⟩ := htopology.logical hfound hchild
    obtain rfl := Option.some.inj (hlogical.symm.trans hfound')
    rw [hroot] at hparent
    cases hparent
  show (k != id) = (k != id && ch.parent? != some id)
  rw [hother, Bool.and_true]

/-! ### Changes of a channel -/

theorem handles_setChannel {id : UInt32} {ch ch' : Channel} {f : Holding → Holding}
    (hfound : s.channels.get? id = some ch) (hholding : ch'.holding = f ch.holding) :
    (s.setChannel id ch').handles = s.handles.change id f := by
  unfold State.handles Handles.change State.setChannel
  refine congrArg (Handles.mk _) (funext fun k => ?_)
  dsimp only
  rw [Table.get?_insert]
  split
  · next hk =>
    rw [hk, hfound]
    exact congrArg some hholding
  · rfl

theorem handles_setChannel_same {id : UInt32} {ch ch' : Channel}
    (hfound : s.channels.get? id = some ch) (hholding : ch'.holding = ch.holding) :
    (s.setChannel id ch').handles = s.handles := by
  unfold State.handles State.setChannel
  exact congrArg (Handles.mk _) (funext (Table.map_get?_insert Channel.holding hfound hholding))

section Holding

variable {ch ch' : Channel} {f : (UInt32 → Bool) → UInt32 → Bool}

theorem holding_of_filters (hplace : ch'.holding.place = ch.holding.place)
    (hperiodic : ch'.periodic = ch.periodic)
    (hfilters : ∀ k, ch'.filters.contains k = f ch.filters.contains k) :
    ch'.holding = ch.holding.change .filter f := by
  refine congrArg₂ Holding.mk hplace (funext fun item => ?_)
  cases item with
  | filter => exact funext hfilters
  | periodic => exact congrArg Table.contains hperiodic

theorem holding_of_periodic (hplace : ch'.holding.place = ch.holding.place)
    (hfilters : ch'.filters = ch.filters)
    (hperiodic : ∀ k, ch'.periodic.contains k = f ch.periodic.contains k) :
    ch'.holding = ch.holding.change .periodic f := by
  refine congrArg₂ Holding.mk hplace (funext fun item => ?_)
  cases item with
  | filter => exact congrArg Table.contains hfilters
  | periodic => exact funext hperiodic

end Holding

theorem accounted_startPeriodicMsg {id interval handle : UInt32} {message : NativeMessage w}
    (h : s.startPeriodicMsg id message interval = .ok (handle, s')) :
    Accounted s (some (.started .periodic id handle)) s' := by
  obtain ⟨ch, hfound, -, frame, -, -, -, hresult⟩ := State.startPeriodicMsg_eq_ok_iff.1 h
  obtain ⟨rfl, rfl⟩ := Prod.mk.inj hresult
  refine accounted_issued (.item .periodic) ?_ (fun _ _ => trivial) (fun _ => rfl) ?_
  · exact handles_setChannel (s := s) hfound
      (holding_of_periodic rfl rfl fun k => Table.contains_insert _ _ _ k)
  · rintro (_ | _ | _ | _) <;> rfl

theorem accounted_stopPeriodicMsg {id handle : UInt32} (h : s.stopPeriodicMsg id handle = .ok s') :
    Accounted s (some (.stopped .periodic id handle)) s' := by
  obtain ⟨ch, hfound, -, rfl⟩ := State.stopPeriodicMsg_eq_ok_iff.1 h
  refine accounted_some ?_ trivial rfl (fun _ => rfl)
  exact handles_setChannel hfound (holding_of_periodic rfl rfl fun k => Table.contains_erase _ _ k)

theorem accounted_startMsgFilter {id kind handle : UInt32} {mask pattern : NativeMessage w}
    (h : s.startMsgFilter id kind mask pattern = .ok (handle, s')) :
    Accounted s (some (.started .filter id handle)) s' := by
  obtain ⟨ch, hfound, filter, -, -, -, -, -, -, -, -, hresult⟩ :=
    State.startMsgFilter_eq_ok_iff.1 h
  obtain ⟨rfl, rfl⟩ := Prod.mk.inj hresult
  refine accounted_issued (.item .filter) ?_ (fun _ _ => trivial) (fun _ => rfl) ?_
  · exact handles_setChannel (s := s) hfound
      (holding_of_filters rfl rfl fun k => Table.contains_insert _ _ _ k)
  · rintro (_ | _ | _ | _) <;> rfl

theorem accounted_stopMsgFilter {id handle : UInt32} (h : s.stopMsgFilter id handle = .ok s') :
    Accounted s (some (.stopped .filter id handle)) s' := by
  obtain ⟨ch, hfound, -, rfl⟩ := State.stopMsgFilter_eq_ok_iff.1 h
  refine accounted_some ?_ trivial rfl (fun _ => rfl)
  exact handles_setChannel hfound (holding_of_filters rfl rfl fun k => Table.contains_erase _ _ k)

/-! ### Control requests -/

theorem accounted_clear {request : Ioctl} {target : UInt32} {input output : NativeControl w}
    (h : s.clear request target input output = .ok s') :
    Accounted s (Deed.ofRequest? target request) s' := by
  obtain ⟨-, -, ch, hfound, ch', hcleared, rfl⟩ := State.clear_eq_ok_iff.1 h
  have hsame : ∀ {ch' : Channel}, ch'.holding = ch.holding →
      Accounted s none (s.setChannel target ch') :=
    fun hholding => accounted_none (handles_setChannel_same hfound hholding) rfl
  cases request with
  | clearPeriodicMsgs =>
    obtain rfl := Except.ok.inj hcleared
    refine accounted_some ?_ trivial rfl (fun _ => rfl)
    exact handles_setChannel hfound (holding_of_periodic rfl rfl fun _ => rfl)
  | clearMsgFilters =>
    obtain rfl := Except.ok.inj hcleared
    refine accounted_some ?_ trivial rfl (fun _ => rfl)
    exact handles_setChannel hfound (holding_of_filters rfl rfl fun _ => rfl)
  | busOn =>
    unfold State.cleared at hcleared
    dsimp only at hcleared
    split at hcleared
    · obtain rfl := Except.ok.inj hcleared
      exact hsame rfl
    · cases hcleared
  | _ =>
    obtain rfl := Except.ok.inj hcleared
    exact hsame rfl

theorem accounted_setConfig {target : UInt32} {input output : NativeControl w}
    (h : s.setConfig target input output = .ok s') : Accounted s none s' := by
  obtain ⟨-, ch, hfound, entries, -, -, rfl⟩ := State.setConfig_eq_ok_iff.1 h
  exact accounted_none (handles_setChannel_same hfound rfl) rfl

theorem accounted_changeFunctional {change : List UInt8 → UInt8 → List UInt8} {target : UInt32}
    {input output : NativeControl w} (h : s.changeFunctional change target input output = .ok s') :
    Accounted s none s' := by
  obtain ⟨-, ch, hfound, -, addresses, -, rfl⟩ := State.changeFunctional_eq_ok_iff.1 h
  exact accounted_none (handles_setChannel_same hfound rfl) rfl

theorem accounted_setProgrammingVoltage {id voltage : UInt32} {request : PinRequest}
    (h : s.setProgrammingVoltage id request voltage = .ok s') : Accounted s none s' := by
  obtain ⟨device, ⟨hopened, -⟩, pin, -, -, -, pins, -, rfl⟩ :=
    State.setProgrammingVoltage_eq_ok_iff.1 h
  refine accounted_none (congrArg (Handles.mk · _) (funext fun k => ?_)) rfl
  show (s.devices.insert id _).contains k = s.devices.contains k
  rw [Table.contains_insert]
  by_cases hk : k = id
  · rw [hk, Table.contains_iff.2 ⟨device, hopened⟩, Bool.or_true]
  · rw [beq_false_of_ne hk, Bool.false_or]

/-! ### Traffic -/

theorem handles_pump {id : UInt32} {ch : Channel} (h : s.pump id = .ok (ch, s')) :
    s'.handles = s.handles := by
  obtain ⟨before, hfound, hresult⟩ := State.pump_eq_ok_iff.1 h
  obtain ⟨-, rfl⟩ := Prod.mk.inj hresult
  exact handles_setChannel_same (s := s) hfound rfl

theorem handles_afterRead {id : UInt32} {ch : Channel} (hfound : s.channels.get? id = some ch)
    (n : Nat) : (s.afterRead id ch n).handles = s.handles :=
  handles_setChannel_same (s := s) hfound rfl

theorem handles_transmit {id : UInt32} {ch : Channel} (hfound : s.channels.get? id = some ch)
    (frames : List Message) : (s.setChannel id (ch.transmit frames)).handles = s.handles := by
  refine handles_setChannel_same hfound ?_
  unfold Channel.transmit
  split <;> rfl

/-- A call that only moves frames leaves handles alone, whether it succeeds or fails. -/
theorem accounted_readyAmong (ids : List UInt32) (s : State) :
    Accounted s none (State.readyAmong ids s).2 := by
  refine accounted_none ?_ ?_
  · exact readyAmong_induction (P := fun s' => s'.handles = s.handles)
      (fun hpump hs => (handles_pump hpump).trans hs) ids s rfl
  · rw [readyAmong_state, pumpAll_issued]

end Operations

/-! ## Calls -/

section Outcomes

variable {s : State}

theorem accounted_issue {output : Option (Word w)} {attempt : Attempt (UInt32 × State)}
    {deed : UInt32 → Deed} (h : (issue s output attempt).failure? = none)
    (hok : ∀ id s', attempt = .ok (id, s') →
      output.isSome = true ∧ Accounted s (some (deed id)) s') :
    Accounted s ((issue s output attempt).memory.map fun handle => deed handle.narrow)
      (issue s output attempt).state := by
  cases attempt with
  | error code => cases h
  | ok result =>
    obtain ⟨id, s'⟩ := result
    obtain ⟨houtput, haccounted⟩ := hok id s' rfl
    obtain ⟨word, rfl⟩ := Option.isSome_iff_exists.1 houtput
    show Accounted s (some (deed (Word.of32 id : Word w).narrow)) s'
    rw [Word.narrow_of32]
    exact haccounted

theorem accounted_change {attempt : Attempt State} {deed? : Option Deed}
    (h : (change s attempt).failure? = none)
    (hok : ∀ s', attempt = .ok s' → Accounted s deed? s') :
    Accounted s deed? (change s attempt).state := by
  cases attempt with
  | error code => cases h
  | ok s' => exact hok s' rfl

theorem accounted_controlChange {memory : ControlMemory w} {attempt : Attempt State}
    {deed? : Option Deed} (h : (controlChange s memory attempt).failure? = none)
    (hok : ∀ s', attempt = .ok s' → Accounted s deed? s') :
    Accounted s deed? (controlChange s memory attempt).state := by
  cases attempt with
  | error code => cases h
  | ok s' => exact hok s' rfl

theorem accounted_controlQuery (memory : ControlMemory w) (attempt : Attempt (NativeControl w)) :
    Accounted s none (controlQuery s memory attempt).state := by
  cases attempt with
  | error code => exact accounted_none rfl rfl
  | ok output => exact accounted_none rfl rfl

end Outcomes

variable {s : State} {call : Call w}

theorem accounted_of_failed {code : ErrorCode} (h : (perform s call).failure? = some code) :
    Accounted s none (perform s call).state := by
  have heffect := perform_effect s call
  rw [h] at heffect
  generalize (perform s call).state = s' at heffect
  generalize hcode : some code = failure? at heffect
  cases heffect with
  | refused => exact accounted_none rfl rfl
  | selected _ _ _ _ ids => exact accounted_readyAmong ids s
  | read _ _ _ _ ch hfound => exact accounted_none (handles_afterRead hfound _) rfl
  | queued _ _ _ ch hfound frames => exact accounted_none (handles_transmit hfound frames) rfl
  | _ => cases hcode

theorem accounted_ioctl {target id : Word w} {input output : NativeControl w}
    (h : (performIoctl s target id ⟨input, output⟩).failure? = none) :
    Accounted s ((Ioctl.ofCode? id.narrow).bind (Deed.ofRequest? target.narrow))
      (performIoctl s target id ⟨input, output⟩).state := by
  cases hid : Ioctl.ofCode? id.narrow with
  | none =>
    simp only [performIoctl, hid] at h
    cases h
  | some request =>
    simp only [performIoctl, hid] at h ⊢
    cases request with
    | getConfig =>
      dsimp only at h ⊢
      cases s.getConfig target.narrow input output with
      | error code => exact accounted_none rfl rfl
      | ok answer => exact accounted_none rfl rfl
    | setConfig => exact accounted_controlChange h fun s' hok => accounted_setConfig hok
    | readPinVoltage | readProgVoltage | fiveBaudInit | fastInit =>
      exact accounted_controlQuery _ _
    | addToFunctMsgLookupTable | deleteFromFunctMsgLookupTable =>
      exact accounted_controlChange h fun s' hok => accounted_changeFunctional hok
    | clearTxQueue | clearRxQueue | clearPeriodicMsgs | clearMsgFilters
    | clearFunctMsgLookupTable | busOn =>
      exact accounted_controlChange h fun s' hok => accounted_clear hok

/-- What a call that succeeds has done with handles is the deed that its reply shows. -/
theorem accounted_of_succeeded (htopology : Topology s)
    (h : (perform s call).failure? = none) :
    Accounted s (Deed.ofCall? call (perform s call).memory) (perform s call).state := by
  have heffect := perform_effect s call
  rw [h] at heffect
  cases call with
  | scanForDevices count =>
    generalize (perform s (.scanForDevices count)).state = s' at heffect ⊢
    cases heffect with
    | answered | scanned => exact accounted_none rfl rfl
  | getNextDevice device =>
    generalize (perform s (.getNextDevice device)).state = s' at heffect ⊢
    cases heffect with
    | answered | delivered => exact accounted_none rfl rfl
  | openDevice name device =>
    refine accounted_issue h fun id s' hok => ?_
    simp only [Attempt.bind_eq_ok_iff, Attempt.present_eq_ok_iff] at hok
    obtain ⟨name, rfl, device, rfl, hok⟩ := hok
    exact ⟨rfl, accounted_openDevice hok⟩
  | closeDevice device => exact accounted_change h fun s' => accounted_closeDevice
  | connect device protocol flags baud resource channel =>
    refine accounted_issue h fun id s' hok => ?_
    exact ⟨(State.connectRequest_of_connect hok).1, accounted_connect hok⟩
  | disconnect channel => exact accounted_change h fun s' => accounted_disconnect
  | logicalConnect physical protocol flags descriptor channel =>
    refine accounted_issue h fun id s' hok => ?_
    simp only [Attempt.bind_eq_ok_iff, Attempt.present_eq_ok_iff] at hok
    obtain ⟨descriptor, rfl, channel, rfl, hok⟩ := hok
    exact ⟨rfl, accounted_logicalConnect hok⟩
  | logicalDisconnect channel =>
    exact accounted_change h fun s' => accounted_logicalDisconnect htopology
  | select set kind timeout =>
    generalize (perform s (.select set kind timeout)).state = s' at heffect ⊢
    generalize hnone : none = failure? at heffect
    cases heffect with
    | refused => cases hnone
    | answered => exact accounted_none rfl rfl
    | selected _ _ _ _ ids => exact accounted_readyAmong ids s
  | readMsgs channel slots count timeout =>
    generalize (perform s (.readMsgs channel slots count timeout)).state = s' at heffect ⊢
    generalize hnone : none = failure? at heffect
    cases heffect with
    | refused => cases hnone
    | answered => exact accounted_none rfl rfl
    | read _ _ _ _ ch hfound => exact accounted_none (handles_afterRead hfound _) rfl
  | queueMsgs channel messages count =>
    generalize (perform s (.queueMsgs channel messages count)).state = s' at heffect ⊢
    cases heffect with
    | answered => exact accounted_none rfl rfl
    | queued _ _ _ ch hfound frames => exact accounted_none (handles_transmit hfound frames) rfl
  | startPeriodicMsg channel message id interval =>
    refine accounted_issue h fun handle s' hok => ?_
    simp only [Attempt.bind_eq_ok_iff, Attempt.present_eq_ok_iff] at hok
    obtain ⟨message, rfl, id, rfl, hok⟩ := hok
    exact ⟨rfl, accounted_startPeriodicMsg hok⟩
  | stopPeriodicMsg channel id => exact accounted_change h fun s' => accounted_stopPeriodicMsg
  | startMsgFilter channel kind mask pattern id =>
    refine accounted_issue h fun handle s' hok => ?_
    simp only [Attempt.bind_eq_ok_iff, Attempt.present_eq_ok_iff] at hok
    obtain ⟨mask, rfl, pattern, rfl, id, rfl, hok⟩ := hok
    exact ⟨rfl, accounted_startMsgFilter hok⟩
  | stopMsgFilter channel id => exact accounted_change h fun s' => accounted_stopMsgFilter
  | setProgrammingVoltage device resource voltage =>
    exact accounted_change h fun s' => accounted_setProgrammingVoltage
  | readVersion device firmware dll api =>
    generalize (perform s (.readVersion device firmware dll api)).state = s' at heffect ⊢
    cases heffect with
    | answered => exact accounted_none rfl rfl
  | getLastError text =>
    generalize (perform s (.getLastError text)).state = s' at heffect ⊢
    cases heffect with
    | answered => exact accounted_none rfl rfl
  | ioctl target id input output => exact accounted_ioctl h

theorem accounted_remember {s' : State} {deed? : Option Deed} (h : Accounted s deed? s')
    (entry : EntryPoint) (failure? : Option ErrorCode) :
    Accounted s deed? (remember entry failure? s') := by
  unfold remember
  split
  · exact h
  · split
    · exact h
    · exact ⟨h.handles, h.ready, h.issued⟩

/-- Every call is accounted for by its reply. -/
theorem accounted_call (htopology : Topology s) (call : Call w) :
    Accounted s (s.deed? (.call call)) (s.after (.call call)) := by
  refine accounted_remember ?_ call.entry (perform s call).failure?
  have hdeed : s.deed? (.call call) =
      if (perform s call).failure? = none then Deed.ofCall? call (perform s call).memory
      else none := by
    unfold State.deed? Deed.ofReply?
    simp only [status_eq_noError_iff]
    rfl
  rw [hdeed]
  split
  · next h => exact accounted_of_succeeded htopology h
  · next h =>
    obtain ⟨code, hcode⟩ := Option.ne_none_iff_exists'.1 h
    exact accounted_of_failed hcode

/-- So is every event: what the owner of the emulation does concerns no handle. -/
theorem accounted_after (htopology : Topology s) (event : Event w) :
    Accounted s (s.deed? event) (s.after event) := by
  cases event with
  | call call => exact accounted_call htopology call
  | register interface =>
    rcases after_register (w := w) s interface with hsame | ⟨-, hregistered⟩
    · rw [hsame]
      exact accounted_none rfl rfl
    · rw [hregistered]
      exact accounted_none rfl rfl
  | unplug name => exact accounted_none rfl rfl
  | inject channel frame =>
    show Accounted s none (s.inject channel frame)
    unfold State.inject
    cases hfound : s.channels.get? channel with
    | none => exact accounted_none rfl rfl
    | some ch => exact accounted_none (handles_setChannel_same hfound rfl) rfl

end PassThru.Emulator
