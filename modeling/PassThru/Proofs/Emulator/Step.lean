import Mathlib.Logic.Relation
import PassThru.Proofs.Emulator.Effect

/-!
# Elementary steps

Whatever a call does to the state is a sequence of elementary steps, each with the checks that were
passed before it.

* `Channel.Change`: what can happen to one channel without any handle being issued.
* `Step`: an elementary step.
* `Effect.steps`: a call is a sequence of steps, whether it succeeds or fails.
* `Steps.invariant`: what every step preserves, a sequence of steps preserves.
-/

namespace PassThru.Emulator

variable {w : Width}

/-- One change of a channel that leaves alone what the channel is attached to. -/
inductive Channel.Change (ch : Channel) : Channel → Prop
  | unchanged : Change ch ch
  | arrived (frames : List Message) : Change ch { ch with bus := ch.bus ++ frames }
  | taken (n : Nat) : Change ch { ch with rx := ch.rx.drop n }
  | emptied : Change ch { ch with bus := [], rx := [] }
  | configured (assignments : List (UInt32 × UInt32))
      (allowed : (assignments.forM fun (parameter, value) =>
        Channel.checkSetting parameter value) = .ok ()) :
      Change ch { ch with settings := assignSettings ch.settings assignments }
  | periodicStopped (handle : UInt32) : Change ch { ch with periodic := ch.periodic.erase handle }
  | periodicCleared : Change ch { ch with periodic := .empty }
  | filterStopped (handle : UInt32) : Change ch { ch with filters := ch.filters.erase handle }
  | filtersCleared : Change ch { ch with filters := .empty }
  | functionalChanged (addresses : List UInt8) : Change ch { ch with functional := addresses }

/-- One elementary step of the state. -/
inductive Step (s : State) : State → Prop
  | registered (interface : Interface) (field : List UInt8)
      (encodes : Field.encode "name" interface.name = .ok field) :
      Step s { s with registry := s.registry.register interface }
  | unplugged (name : String) : Step s (s.unplug name)
  | failed (failure : Failure) : Step s { s with lastFailure := some failure }
  | scanned : Step s s.scanForDevices.2
  | delivered : Step s { s with cursor := s.cursor + 1 }
  | opened (name : String) (named : name ≠ "") (plugged : s.registry.isConnected name = true)
      (closed : s.isOpen name = false) :
      Step s { s with
        devices := s.devices.insert (nextHandle s.issued.devices) { name }
        issued := { s.issued with devices := s.issued.devices + 1 } }
  | closed (id : UInt32) (opened : s.devices.contains id = true) :
      Step s { s with
        devices := s.devices.erase id
        channels := s.channels.filter fun _ ch => ch.device != id }
  | connected (deviceId protocolId flags baud : UInt32) (request : PinRequest)
      (device : OpenDevice) (protocol : Protocol) (pins : List UInt32)
      (request_ok : s.ConnectRequest deviceId protocolId flags baud request device protocol pins)
      (unused : ∀ pin ∈ pins, s.pinInUse deviceId pin = false)
      (unpowered : ∀ pin ∈ pins, device.pins.contains pin = false) :
      Step s (s.addChannel (s.physicalChannel deviceId device protocol baud pins)).2
  | disconnected (id : UInt32) (ch : Channel) (found : s.channels.get? id = some ch)
      (physical : ch.parent? = none) :
      Step s { s with
        channels := (s.channels.erase id).filter fun _ ch => ch.parent? != some id }
  | logicalConnected (physical : UInt32) (parent : Channel) (localAddress remoteAddress : Address)
      (found : s.channels.get? physical = some parent) (root : parent.parent? = none)
      (can : parent.protocol = .can)
      (unique : ∀ ch ∈ s.logicalChannelsOn physical,
        ch.addresses? ≠ some (localAddress, remoteAddress))
      (room : (s.logicalChannelsOn physical).length < maxLogicalChannels) :
      Step s (s.addChannel
        { device := parent.device
          protocol := .iso15765Logical
          attachment := .logical physical localAddress remoteAddress }).2
  | logicalDisconnected (id : UInt32) (ch : Channel) (found : s.channels.get? id = some ch)
      (logical : ch.parent?.isSome = true) :
      Step s { s with channels := s.channels.erase id }
  | pumped (id : UInt32) (ch : Channel) (found : s.channels.get? id = some ch) :
      Step s { s.setChannel id (ch.pump s.clock) with
        clock := clockAfter s.clock ch.admitted.length }
  | changed (id : UInt32) (ch ch' : Channel) (found : s.channels.get? id = some ch)
      (change : ch.Change ch') : Step s (s.setChannel id ch')
  | periodicStarted (id : UInt32) (ch : Channel) (periodic : PeriodicMessage)
      (found : s.channels.get? id = some ch) (interval : isInterval periodic.interval = true)
      (protocol : periodic.message.protocolId = ch.protocol.code)
      (room : ch.periodic.size < maxPeriodicMessages) :
      Step s { s.setChannel id
          { ch with periodic := ch.periodic.insert (nextHandle s.issued.periodic) periodic } with
        issued := { s.issued with periodic := s.issued.periodic + 1 } }
  | filterStarted (id : UInt32) (ch : Channel) (filter : Filter)
      (found : s.channels.get? id = some ch) (nonempty : filter.mask ≠ [])
      (length_eq : filter.mask.length = filter.pattern.length)
      (length_le : filter.mask.length ≤ Filter.maxLength) (unique : filter ∉ ch.filters.values)
      (room : ch.filters.size < maxFilters) :
      Step s { s.setChannel id
          { ch with filters := ch.filters.insert (nextHandle s.issued.filters) filter } with
        issued := { s.issued with filters := s.issued.filters + 1 } }
  | powered (id : UInt32) (device : OpenDevice) (pin voltage : UInt32) (pins : Table PinState)
      (opened : s.devices.get? id = some device)
      (plugged : s.registry.isConnected device.name = true) (isPin : isPin pin = true)
      (unused : s.pinInUse id pin = false)
      (applied : applyVoltage device.pins pin voltage = .ok pins) :
      Step s { s with devices := s.devices.insert id { device with pins } }

/-- A sequence of steps. -/
abbrev Steps : State → State → Prop := Relation.ReflTransGen Step

theorem Steps.invariant {P : State → Prop} (hstep : ∀ {s s' : State}, Step s s' → P s → P s')
    {s s' : State} (h : Steps s s') (hs : P s) : P s' := by
  induction h with
  | refl => exact hs
  | tail _ hlast ih => exact hstep hlast ih

/-! ## Calls as sequences of steps -/

variable {s : State}

/-! ### Devices and channels -/

theorem steps_openDevice {name : String} {id : UInt32} {s' : State}
    (h : s.openDevice name = .ok (id, s')) : Steps s s' := by
  obtain ⟨⟨hnamed, hplugged, hclosed⟩, -, rfl⟩ := State.openDevice_eq_ok_iff.1 h
  exact .single (.opened name hnamed hplugged hclosed)

theorem steps_closeDevice {id : UInt32} {s' : State} (h : s.closeDevice id = .ok s') :
    Steps s s' := by
  obtain ⟨hopened, rfl⟩ := State.closeDevice_eq_ok_iff.1 h
  exact .single (.closed id hopened)

theorem steps_connect {deviceId protocolId flags baud : UInt32} {request : PinRequest}
    {hasOutput : Bool} {id : UInt32} {s' : State}
    (h : s.connect deviceId protocolId flags baud request hasOutput = .ok (id, s')) :
    Steps s s' := by
  obtain ⟨device, protocol, pins, hrequest, hunused, hunpowered, hresult⟩ := State.connect_eq_ok h
  obtain ⟨-, rfl⟩ := Prod.mk.inj hresult
  exact .single (.connected _ _ _ _ _ device protocol pins hrequest hunused hunpowered)

theorem steps_disconnect {id : UInt32} {s' : State} (h : s.disconnect id = .ok s') :
    Steps s s' := by
  obtain ⟨ch, hfound, hphysical, rfl⟩ := State.disconnect_eq_ok_iff.1 h
  exact .single (.disconnected id ch hfound hphysical)

theorem steps_logicalConnect {physical protocolId : UInt32} {localAddress remoteAddress : Address}
    {id : UInt32} {s' : State}
    (h : s.logicalConnect physical protocolId localAddress remoteAddress = .ok (id, s')) :
    Steps s s' := by
  obtain ⟨parent, hfound, ⟨hroot, hcan⟩, -, hunique, hroom, hresult⟩ :=
    State.logicalConnect_eq_ok_iff.1 h
  obtain ⟨-, rfl⟩ := Prod.mk.inj hresult
  exact .single (.logicalConnected physical parent _ _ hfound hroot hcan hunique hroom)

theorem steps_logicalDisconnect {id : UInt32} {s' : State} (h : s.logicalDisconnect id = .ok s') :
    Steps s s' := by
  obtain ⟨ch, hfound, hlogical, rfl⟩ := State.logicalDisconnect_eq_ok_iff.1 h
  exact .single (.logicalDisconnected id ch hfound hlogical)

theorem steps_setProgrammingVoltage {id voltage : UInt32} {request : PinRequest} {s' : State}
    (h : s.setProgrammingVoltage id request voltage = .ok s') : Steps s s' := by
  obtain ⟨device, ⟨hopened, hplugged⟩, pin, -, ⟨-, hpin⟩, hunused, pins, happlied, rfl⟩ :=
    State.setProgrammingVoltage_eq_ok_iff.1 h
  exact .single (.powered id device pin voltage pins hopened hplugged hpin hunused happlied)

/-! ### Traffic -/

theorem step_pump {id : UInt32} {ch : Channel} {s' : State} (h : s.pump id = .ok (ch, s')) :
    Step s s' := by
  obtain ⟨before, hfound, hresult⟩ := State.pump_eq_ok_iff.1 h
  obtain ⟨-, rfl⟩ := Prod.mk.inj hresult
  exact .pumped id before hfound

theorem steps_readyAmong (ids : List UInt32) (s : State) : Steps s (State.readyAmong ids s).2 :=
  readyAmong_induction (fun hpump hs => hs.tail (step_pump hpump)) ids s .refl

theorem steps_afterRead {id : UInt32} {ch : Channel} (hfound : s.channels.get? id = some ch)
    (n : Nat) : Steps s (s.afterRead id ch n) := by
  -- first all frames arrive, then some are taken
  have hpumped : Step s { s.setChannel id (ch.pump s.clock) with
      clock := clockAfter s.clock ch.admitted.length } := .pumped id ch hfound
  have htaken := Step.changed (s := { s.setChannel id (ch.pump s.clock) with
    clock := clockAfter s.clock ch.admitted.length }) id _ _ (Table.get?_insert_self _ _ _)
    (.taken n)
  refine (Relation.ReflTransGen.single hpumped).tail ?_
  unfold State.setChannel at htaken
  dsimp only at htaken
  rw [Table.insert_insert] at htaken
  exact htaken

theorem step_transmit {id : UInt32} {ch : Channel} (hfound : s.channels.get? id = some ch)
    (frames : List Message) : Step s (s.setChannel id (ch.transmit frames)) := by
  refine .changed id ch _ hfound ?_
  unfold Channel.transmit
  split
  · exact .arrived _
  · exact .unchanged

/-! ### Periodic messages and filters -/

theorem steps_startPeriodicMsg {id interval handle : UInt32} {message : NativeMessage w}
    {s' : State} (h : s.startPeriodicMsg id message interval = .ok (handle, s')) : Steps s s' := by
  obtain ⟨ch, hfound, hinterval, frame, -, hprotocol, hroom, hresult⟩ :=
    State.startPeriodicMsg_eq_ok_iff.1 h
  obtain ⟨-, rfl⟩ := Prod.mk.inj hresult
  exact .single (.periodicStarted id ch ⟨frame, interval⟩ hfound hinterval hprotocol hroom)

theorem steps_stopPeriodicMsg {id handle : UInt32} {s' : State}
    (h : s.stopPeriodicMsg id handle = .ok s') : Steps s s' := by
  obtain ⟨ch, hfound, -, rfl⟩ := State.stopPeriodicMsg_eq_ok_iff.1 h
  exact .single (.changed id ch _ hfound (.periodicStopped handle))

theorem steps_startMsgFilter {id kind handle : UInt32} {mask pattern : NativeMessage w}
    {s' : State} (h : s.startMsgFilter id kind mask pattern = .ok (handle, s')) : Steps s s' := by
  obtain ⟨ch, hfound, filter, -, -, -, hnonempty, hlength, hmax, hunique, hroom, hresult⟩ :=
    State.startMsgFilter_eq_ok_iff.1 h
  obtain ⟨-, rfl⟩ := Prod.mk.inj hresult
  exact .single (.filterStarted id ch filter hfound hnonempty hlength hmax hunique hroom)

theorem steps_stopMsgFilter {id handle : UInt32} {s' : State}
    (h : s.stopMsgFilter id handle = .ok s') : Steps s s' := by
  obtain ⟨ch, hfound, -, rfl⟩ := State.stopMsgFilter_eq_ok_iff.1 h
  exact .single (.changed id ch _ hfound (.filterStopped handle))

/-! ### Control requests -/

theorem change_of_cleared {request : Ioctl} {ch ch' : Channel}
    (h : State.cleared request ch = .ok ch') : ch.Change ch' := by
  unfold State.cleared at h
  split at h
  · cases h; exact .emptied
  · cases h; exact .periodicCleared
  · cases h; exact .filtersCleared
  · cases h; exact .functionalChanged []
  · split at h
    · cases h; exact .unchanged
    · cases h
  · cases h; exact .unchanged

theorem steps_clear {request : Ioctl} {target : UInt32} {input output : NativeControl w}
    {s' : State} (h : s.clear request target input output = .ok s') : Steps s s' := by
  obtain ⟨-, -, ch, hfound, ch', hcleared, rfl⟩ := State.clear_eq_ok_iff.1 h
  exact .single (.changed target ch ch' hfound (change_of_cleared hcleared))

theorem steps_setConfig {target : UInt32} {input output : NativeControl w} {s' : State}
    (h : s.setConfig target input output = .ok s') : Steps s s' := by
  obtain ⟨-, ch, hfound, entries, -, hallowed, rfl⟩ := State.setConfig_eq_ok_iff.1 h
  exact .single (.changed target ch _ hfound (.configured _ hallowed))

theorem steps_changeFunctional {change : List UInt8 → UInt8 → List UInt8} {target : UInt32}
    {input output : NativeControl w} {s' : State}
    (h : s.changeFunctional change target input output = .ok s') : Steps s s' := by
  obtain ⟨-, ch, hfound, -, addresses, -, rfl⟩ := State.changeFunctional_eq_ok_iff.1 h
  exact .single (.changed target ch _ hfound (.functionalChanged _))

/-! ### Any call -/

theorem Effect.steps {call : Call w} {failure? : Option ErrorCode} {s' : State}
    (h : Effect s call failure? s') : Steps s s' := by
  cases h with
  | refused | answered => exact .refl
  | scanned => exact .single .scanned
  | delivered => exact .single .delivered
  | opened _ _ _ _ hok => exact steps_openDevice hok
  | closed _ _ hok => exact steps_closeDevice hok
  | connected _ _ _ _ _ _ _ _ hok => exact steps_connect hok
  | disconnected _ _ hok => exact steps_disconnect hok
  | logicalConnected _ _ _ _ _ _ _ hok => exact steps_logicalConnect hok
  | logicalDisconnected _ _ hok => exact steps_logicalDisconnect hok
  | selected _ _ _ _ ids => exact steps_readyAmong ids s
  | read _ _ _ _ ch hfound => exact steps_afterRead hfound _
  | queued _ _ _ ch hfound frames => exact .single (step_transmit hfound frames)
  | periodicStarted _ _ _ _ _ _ hok => exact steps_startPeriodicMsg hok
  | periodicStopped _ _ _ hok => exact steps_stopPeriodicMsg hok
  | filterStarted _ _ _ _ _ _ _ hok => exact steps_startMsgFilter hok
  | filterStopped _ _ _ hok => exact steps_stopMsgFilter hok
  | powered _ _ _ _ hok => exact steps_setProgrammingVoltage hok
  | configured _ _ _ _ _ _ hok => exact steps_setConfig hok
  | functionalChanged _ _ _ _ _ _ hok => exact steps_changeFunctional hok
  | cleared _ _ _ _ _ _ _ hok => exact steps_clear hok

@[simp] theorem remember_channels (entry : EntryPoint) (failure? : Option ErrorCode) (s : State) :
    (remember entry failure? s).channels = s.channels := by
  unfold remember
  cases failure? with
  | none => rfl
  | some code => dsimp only; split <;> rfl

theorem remember_eq (entry : EntryPoint) (failure? : Option ErrorCode) (s : State) :
    ∃ last, remember entry failure? s = { s with lastFailure := last } := by
  unfold remember
  cases failure? with
  | none => exact ⟨_, rfl⟩
  | some code =>
    dsimp only
    split
    · exact ⟨_, rfl⟩
    · exact ⟨_, rfl⟩

theorem steps_remember (s : State) (entry : EntryPoint) (failure? : Option ErrorCode) :
    Steps s (remember entry failure? s) := by
  unfold remember
  cases failure? with
  | none => exact .refl
  | some code =>
    dsimp only
    split
    · exact .refl
    · exact .single (.failed ⟨entry, code⟩)

theorem steps_driver (s : State) (call : Call w) : Steps s (driver call s).2 :=
  (perform_effect s call).steps.trans (steps_remember _ _ _)

end PassThru.Emulator
