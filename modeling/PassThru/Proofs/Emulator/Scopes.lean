import PassThru.Proofs.Emulator.Handles

/-!
# Scopes

A part of a run may be about a few devices and channels only. A bracket is what such a part can be
put into: a device that is opened and closed, or a physical channel that is connected and
disconnected.

* `Scope.Covers`: a part of a run is about certain devices and channels, and about the channels that
  it connects on them.
* `Bracket.Inside`: how a state in a bracket differs from the state in front of it. What is out of
  the scope is as it was, and what is in the scope ends with the bracket.
* `Bracket.Inside.after` is the step and `Bracket.Inside.run` the induction.
-/

namespace PassThru.Emulator

variable {w : Width}

/-! ## What a part of a run is about -/

/-- The devices that a call is to. -/
def addressedDevices : Call w → List UInt32
  | .closeDevice device => [device.narrow]
  | .connect device .. => [device.narrow]
  | .setProgrammingVoltage device .. => [device.narrow]
  | .readVersion device .. => [device.narrow]
  | .ioctl target id .. =>
    match Ioctl.ofCode? id.narrow with
    | some .readPinVoltage | some .readProgVoltage => [target.narrow]
    | _ => []
  | _ => []

/-- The channels that a call is to. A select that is refused for its arguments, and a control
request that does not exist, are to none. -/
def addressedChannels : Call w → List UInt32
  | .disconnect channel => [channel.narrow]
  | .logicalConnect physical .. => [physical.narrow]
  | .logicalDisconnect channel => [channel.narrow]
  | .select set kind _ =>
    match selectArguments set kind.narrow with
    | .ok (_, ids) => ids
    | .error _ => []
  | .readMsgs channel .. => [channel.narrow]
  | .queueMsgs channel .. => [channel.narrow]
  | .startPeriodicMsg channel .. => [channel.narrow]
  | .stopPeriodicMsg channel _ => [channel.narrow]
  | .startMsgFilter channel .. => [channel.narrow]
  | .stopMsgFilter channel _ => [channel.narrow]
  | .ioctl target id .. =>
    match Ioctl.ofCode? id.narrow with
    | some .readPinVoltage | some .readProgVoltage | none => []
    | some _ => [target.narrow]
  | _ => []

/-- Devices and channels that may be addressed. -/
structure Scope where
  devices : List UInt32
  channels : List UInt32

namespace Scope

/-- The scope with further channels. -/
def extend (scope : Scope) (channels : List UInt32) : Scope :=
  { scope with channels := channels ++ scope.channels }

/-- An event that opens no device and addresses nothing out of the scope. Frames may be put on the
buses of its channels; the registry is left alone. -/
def Admits (scope : Scope) : Event w → Prop
  | .call call =>
    call.entry ≠ .openDevice ∧ (∀ d ∈ addressedDevices call, d ∈ scope.devices) ∧
      ∀ c ∈ addressedChannels call, c ∈ scope.channels
  | .inject channel _ => channel ∈ scope.channels
  | .register _ | .unplug _ => False

/-- Every event of a run is admitted; a channel that is connected comes into the scope. -/
def Covers : Scope → State → List (Event w) → Prop
  | _, _, [] => True
  | scope, s, event :: events =>
    scope.Admits event ∧
      (scope.extend (issuedIn .channel (s.deed? event).toList)).Covers (s.after event) events

instance (scope : Scope) (event : Event w) : Decidable (scope.Admits event) :=
  match event with
  | .call call =>
    -- the lists are searched, and not the type of their members
    have : Decidable (∀ d ∈ addressedDevices call, d ∈ scope.devices) := List.decidableBAll _ _
    have : Decidable (∀ c ∈ addressedChannels call, c ∈ scope.channels) := List.decidableBAll _ _
    inferInstanceAs (Decidable (_ ∧ _ ∧ _))
  | .inject channel _ => inferInstanceAs (Decidable (channel ∈ scope.channels))
  | .register _ | .unplug _ => .isFalse not_false

instance decidableCovers : (scope : Scope) → (s : State) → (events : List (Event w)) →
    Decidable (scope.Covers s events)
  | _, _, [] => .isTrue trivial
  | scope, s, event :: events =>
    have := decidableCovers (scope.extend (issuedIn .channel (s.deed? event).toList))
      (s.after event) events
    inferInstanceAs (Decidable (_ ∧ _))

end Scope

/-! ## Brackets -/

/-- What is opened and closed. -/
inductive Bracket where
  | device (id : UInt32)
  | channel (id : UInt32)

namespace Bracket

/-- What may be addressed in a bracket from the start. -/
def scope : Bracket → Scope
  | device id => ⟨[id], []⟩
  | channel id => ⟨[], [id]⟩

/-- The channels that end with the bracket. -/
def Holds (k : UInt32) (ch : Channel) : Bracket → Prop
  | device id => ch.device = id
  | channel id => (k = id ∧ ch.parent? = none) ∨ ch.parent? = some id

variable {b : Bracket}

/-- Whether a channel ends with a bracket depends on its wiring alone. -/
theorem Holds.of_wiring {k : UInt32} {ch ch' : Channel} (h : b.Holds k ch)
    (hwiring : ch'.wiring = ch.wiring) : b.Holds k ch' := by
  cases b with
  | device id => exact (Channel.device_eq_of_wiring hwiring).trans h
  | channel id =>
    unfold Holds at h ⊢
    rw [Channel.parent?_eq_of_wiring hwiring]
    exact h

/-- A channel that is connected to a device of the bracket ends with it. -/
theorem holds_of_device {k : UInt32} {ch : Channel} (h : ch.device ∈ b.scope.devices) :
    b.Holds k ch := by
  cases b with
  | device id => exact List.mem_singleton.1 h
  | channel id => cases h

/-- So does a logical channel on a channel that ends with the bracket. -/
theorem Holds.child {k p : UInt32} {ch parent : Channel} (h : b.Holds p parent)
    (hroot : parent.parent? = none) (hdevice : ch.device = parent.device)
    (hparent : ch.parent? = some p) : b.Holds k ch := by
  cases b with
  | device id => exact hdevice.trans h
  | channel id =>
    rcases h with ⟨rfl, -⟩ | hchild
    · exact .inr hparent
    · rw [hroot] at hchild
      cases hchild

/-- Nothing that the bracket is about was there before. -/
structure Fresh (b : Bracket) (s : State) : Prop where
  topology : Topology s
  handlesIssued : HandlesIssued s
  device : ∀ d ∈ b.scope.devices, s.devices.get? d = none
  channel : ∀ c ∈ b.scope.channels, s.channels.get? c = none

theorem Fresh.not_device {s : State} (h : b.Fresh s) {k d : UInt32} {ch : Channel}
    (hfound : s.channels.get? k = some ch) (hd : d ∈ b.scope.devices) : ch.device ≠ d := by
  rintro rfl
  obtain ⟨device, hopen⟩ := h.topology.device_open hfound
  rw [h.device _ hd] at hopen
  cases hopen

/-- A state in a bracket, compared with the state in front of it. What is not in the scope is as it
was, and the channels in the scope were not there and end with the bracket. -/
structure Inside (b : Bracket) (s : State) (scope : Scope) (s' : State) : Prop where
  registry : s'.registry = s.registry
  issued_le : s.issued.channels ≤ s'.issued.channels
  devices_eq : scope.devices = b.scope.devices
  device : ∀ d ∉ scope.devices, s'.devices.get? d = s.devices.get? d
  channel : ∀ c ∉ scope.channels, s'.channels.get? c = s.channels.get? c
  new : ∀ c ∈ scope.channels, s.channels.get? c = none
  held : ∀ c ∈ scope.channels, ∀ ch, s'.channels.get? c = some ch → b.Holds c ch

namespace Inside

variable {s s₁ s₂ : State} {scope : Scope}

/-! ### Steps in a bracket -/

theorem of_eq (h : b.Inside s scope s₁) (hregistry : s₂.registry = s₁.registry)
    (hdevices : s₂.devices = s₁.devices) (hchannels : s₂.channels = s₁.channels)
    (hissued : s₂.issued.channels = s₁.issued.channels) : b.Inside s scope s₂ where
  registry := hregistry.trans h.registry
  issued_le := hissued ▸ h.issued_le
  devices_eq := h.devices_eq
  device := hdevices ▸ h.device
  channel := hchannels ▸ h.channel
  new := h.new
  held := hchannels ▸ h.held

theorem setChannel (h : b.Inside s scope s₁) {id : UInt32} {ch ch' : Channel}
    (hid : id ∈ scope.channels) (hfound : s₁.channels.get? id = some ch)
    (hwiring : ch'.wiring = ch.wiring) : b.Inside s scope (s₁.setChannel id ch') where
  registry := h.registry
  issued_le := h.issued_le
  devices_eq := h.devices_eq
  device := h.device
  channel c hc := by
    have hne : c ≠ id := fun e => hc (e ▸ hid)
    exact (Table.get?_insert_of_ne _ _ hne).trans (h.channel c hc)
  new := h.new
  held c hc other hget := by
    rcases Table.get?_insert_cases hget with ⟨rfl, rfl⟩ | ⟨-, hold⟩
    · exact (h.held c hc ch hfound).of_wiring hwiring
    · exact h.held c hc other hold

/-- What was there before the bracket is not removed. -/
theorem filter (h : b.Inside s scope s₁) {keep : UInt32 → Channel → Bool}
    (hkeep : ∀ k ch, s.channels.get? k = some ch → keep k ch = true) :
    b.Inside s scope { s₁ with channels := s₁.channels.filter keep } where
  registry := h.registry
  issued_le := h.issued_le
  devices_eq := h.devices_eq
  device := h.device
  channel c hc := by
    show (s₁.channels.filter keep).get? c = _
    rw [Table.get?_filter, h.channel c hc]
    cases hfound : s.channels.get? c with
    | none => rfl
    | some ch => rw [Option.filter_some, hkeep c ch hfound, if_pos rfl]
  new := h.new
  held c hc ch hget := h.held c hc ch (Table.get?_filter_eq_some_iff.1 hget).1

theorem setDevices (h : b.Inside s scope s₁) {devices : Table OpenDevice} {id : UInt32}
    (hid : id ∈ scope.devices) (hdevices : ∀ d, d ≠ id → devices.get? d = s₁.devices.get? d) :
    b.Inside s scope { s₁ with devices } where
  registry := h.registry
  issued_le := h.issued_le
  devices_eq := h.devices_eq
  device d hd := (hdevices d fun e => hd (e ▸ hid)).trans (h.device d hd)
  channel := h.channel
  new := h.new
  held := h.held

theorem addChannel (h : b.Inside s scope s₁) (hissued : HandlesIssued s) {ch : Channel}
    (hbound : s₁.issued.channels + 1 < UInt32.size)
    (hholds : b.Holds (nextHandle s₁.issued.channels) ch) :
    b.Inside s (scope.extend [nextHandle s₁.issued.channels]) (s₁.addChannel ch).2 where
  registry := h.registry
  issued_le := Nat.le_succ_of_le h.issued_le
  devices_eq := h.devices_eq
  device := h.device
  channel c hc := by
    obtain ⟨hne, hc⟩ := not_or.1 (mt List.mem_cons.2 hc)
    exact (Table.get?_insert_of_ne _ _ hne).trans (h.channel c hc)
  new c hc := by
    rcases List.mem_cons.1 hc with rfl | hc
    · cases hget : s.channels.get? (nextHandle s₁.issued.channels) with
      | none => rfl
      | some old =>
        have hle := hissued _ _ hget
        have := h.issued_le
        rw [toNat_nextHandle hbound] at hle
        omega
    · exact h.new c hc
  held c hc other hget := by
    rcases Table.get?_insert_cases hget with ⟨rfl, rfl⟩ | ⟨hne, hold⟩
    · exact hholds
    · exact h.held c ((List.mem_cons.1 hc).resolve_left hne) other hold

/-! ### Operations in a bracket -/

/-- From one state in a bracket to another. The channels that come into the scope are those whose
handles were issued. -/
def Extends (b : Bracket) (s : State) (scope : Scope) (s₁ s₂ : State) : Prop :=
  ∃ new, b.Inside s (scope.extend new) s₂ ∧
    handlesUpTo s₂.issued.channels = handlesUpTo s₁.issued.channels ++ new

theorem extends_kept (h : b.Inside s scope s₂)
    (hissued : s₂.issued.channels = s₁.issued.channels) : Extends b s scope s₁ s₂ :=
  ⟨[], h, by rw [hissued, List.append_nil]⟩

theorem extends_added (h : b.Inside s (scope.extend [nextHandle s₁.issued.channels]) s₂)
    (hissued : s₂.issued.channels = s₁.issued.channels + 1) : Extends b s scope s₁ s₂ :=
  ⟨_, h, by rw [hissued, handlesUpTo_succ]⟩

section Operations

variable (h : b.Inside s scope s₁)

include h

theorem extends_refl : Extends b s scope s₁ s₁ := extends_kept h rfl

theorem extends_setChannel {id : UInt32} {ch ch' : Channel} (hid : id ∈ scope.channels)
    (hfound : s₁.channels.get? id = some ch) (hchannels : s₂.channels = s₁.channels.insert id ch')
    (hwiring : ch'.wiring = ch.wiring) (hregistry : s₂.registry = s₁.registry)
    (hdevices : s₂.devices = s₁.devices) (hissued : s₂.issued.channels = s₁.issued.channels) :
    Extends b s scope s₁ s₂ := by
  have hset := h.setChannel hid hfound hwiring
  exact extends_kept (hset.of_eq hregistry hdevices hchannels hissued) hissued

theorem extends_logicalDisconnect {c : UInt32} (hc : c ∈ scope.channels)
    (hok : s₁.logicalDisconnect c = .ok s₂) : Extends b s scope s₁ s₂ := by
  obtain ⟨-, -, -, rfl⟩ := State.logicalDisconnect_eq_ok_iff.1 hok
  refine extends_kept (h.filter fun k ch hfound => bne_iff_ne.2 ?_) rfl
  rintro rfl
  rw [h.new k hc] at hfound
  cases hfound

theorem extends_setProgrammingVoltage {d voltage : UInt32} {request : PinRequest}
    (hd : d ∈ scope.devices) (hok : s₁.setProgrammingVoltage d request voltage = .ok s₂) :
    Extends b s scope s₁ s₂ := by
  obtain ⟨device, -, pin, -, -, -, pins, -, rfl⟩ := State.setProgrammingVoltage_eq_ok_iff.1 hok
  exact extends_kept (h.setDevices hd fun k hk => Table.get?_insert_of_ne _ _ hk) rfl

omit h in
theorem readyAmong (ids : List UInt32) (s₁ : State) (h : b.Inside s scope s₁)
    (hids : ∀ id ∈ ids, id ∈ scope.channels) :
    b.Inside s scope (State.readyAmong ids s₁).2 := by
  induction ids, s₁ using State.readyAmong.induct with
  | case1 s₁ => exact h
  | case2 id ids s₁ code hfailed =>
    rw [State.readyAmong, hfailed]
    exact h
  | case3 id ids s₁ ch s₂ hpump ready s₃ hready ih =>
    rw [State.readyAmong, hpump]
    obtain ⟨before, hfound, hresult⟩ := State.pump_eq_ok_iff.1 hpump
    obtain ⟨rfl, rfl⟩ := Prod.mk.inj hresult
    have hpumped := h.setChannel (hids id List.mem_cons_self) hfound
      (show (before.pump s₁.clock).wiring = _ from rfl)
    exact ih (hpumped.of_eq rfl rfl rfl rfl) fun id hid => hids id (List.mem_cons_of_mem _ hid)

theorem extends_readyAmong {ids : List UInt32} (hids : ∀ id ∈ ids, id ∈ scope.channels) :
    Extends b s scope s₁ (State.readyAmong ids s₁).2 := by
  refine extends_kept (readyAmong ids s₁ h hids) ?_
  rw [readyAmong_state, pumpAll_issued]

variable (hfresh : b.Fresh s)

include hfresh

theorem extends_closeDevice {d : UInt32} (hd : d ∈ scope.devices)
    (hok : s₁.closeDevice d = .ok s₂) : Extends b s scope s₁ s₂ := by
  obtain ⟨-, rfl⟩ := State.closeDevice_eq_ok_iff.1 hok
  have herased := h.setDevices hd fun k hk => (Table.get?_erase s₁.devices d k).trans (if_neg hk)
  refine extends_kept (herased.filter fun k ch hfound => bne_iff_ne.2 ?_) rfl
  exact hfresh.not_device hfound (h.devices_eq ▸ hd)

theorem extends_disconnect {c : UInt32} (hc : c ∈ scope.channels)
    (hok : s₁.disconnect c = .ok s₂) : Extends b s scope s₁ s₂ := by
  obtain ⟨-, -, -, rfl⟩ := State.disconnect_eq_ok_iff.1 hok
  unfold Table.erase
  rw [Table.filter_filter]
  refine extends_kept (h.filter fun k ch hfound => ?_) rfl
  rw [Bool.and_eq_true, bne_iff_ne, bne_iff_ne]
  constructor
  · intro hparent
    obtain ⟨-, -, parent, hp, -⟩ := hfresh.topology.logical hfound hparent
    rw [h.new c hc] at hp
    cases hp
  · rintro rfl
    rw [h.new k hc] at hfound
    cases hfound

theorem extends_connect {d protocolId flags baud id : UInt32} {request : PinRequest}
    {hasOutput : Bool} (hd : d ∈ scope.devices)
    (hok : s₁.connect d protocolId flags baud request hasOutput = .ok (id, s₂))
    (hbound : s₂.issued.channels < UInt32.size) : Extends b s scope s₁ s₂ := by
  obtain ⟨device, protocol, pins, -, -, -, hresult⟩ := State.connect_eq_ok hok
  obtain ⟨-, rfl⟩ := Prod.mk.inj hresult
  rw [h.devices_eq] at hd
  exact extends_added (h.addChannel hfresh.handlesIssued hbound (holds_of_device hd)) rfl

theorem extends_logicalConnect {p protocolId id : UInt32} {localAddress remoteAddress : Address}
    (hp : p ∈ scope.channels)
    (hok : s₁.logicalConnect p protocolId localAddress remoteAddress = .ok (id, s₂))
    (hbound : s₂.issued.channels < UInt32.size) : Extends b s scope s₁ s₂ := by
  obtain ⟨parent, hfound, ⟨hroot, -⟩, -, -, -, hresult⟩ := State.logicalConnect_eq_ok_iff.1 hok
  obtain ⟨-, rfl⟩ := Prod.mk.inj hresult
  have hholds : b.Holds p parent := h.held p hp parent hfound
  exact extends_added (h.addChannel hfresh.handlesIssued hbound (hholds.child hroot rfl rfl)) rfl

end Operations

/-! ### Any call -/

section Calls

variable (h : b.Inside s scope s₁)

include h

theorem extends_controlChange {memory : ControlMemory w} {attempt : Attempt State}
    (hok : ∀ s₂, attempt = .ok s₂ → Extends b s scope s₁ s₂) :
    Extends b s scope s₁ (controlChange s₁ memory attempt).state := by
  cases attempt with
  | error code => exact h.extends_refl
  | ok s₂ => exact hok s₂ rfl

theorem extends_controlQuery {memory : ControlMemory w} {attempt : Attempt (NativeControl w)} :
    Extends b s scope s₁ (controlQuery s₁ memory attempt).state := by
  cases attempt with
  | error code => exact h.extends_refl
  | ok output => exact h.extends_refl

theorem extends_ioctl {target id : Word w} {input output : NativeControl w}
    (hchannels : ∀ c ∈ addressedChannels (.ioctl target id input output), c ∈ scope.channels) :
    Extends b s scope s₁ (performIoctl s₁ target id ⟨input, output⟩).state := by
  unfold performIoctl
  unfold addressedChannels at hchannels
  dsimp only at hchannels ⊢
  cases hid : Ioctl.ofCode? id.narrow with
  | none => exact h.extends_refl
  | some request =>
    rw [hid] at hchannels
    cases request with
    | getConfig =>
      dsimp only
      cases s₁.getConfig target.narrow input output with
      | error code => exact h.extends_refl
      | ok answer => exact h.extends_refl
    | setConfig =>
      refine h.extends_controlChange fun s₂ hok => ?_
      obtain ⟨-, ch, hfound, entries, -, -, rfl⟩ := State.setConfig_eq_ok_iff.1 hok
      exact h.extends_setChannel (hchannels _ (.head _)) hfound rfl rfl rfl rfl rfl
    | readPinVoltage | readProgVoltage | fiveBaudInit | fastInit => exact h.extends_controlQuery
    | addToFunctMsgLookupTable | deleteFromFunctMsgLookupTable =>
      refine h.extends_controlChange fun s₂ hok => ?_
      obtain ⟨-, ch, hfound, -, addresses, -, rfl⟩ := State.changeFunctional_eq_ok_iff.1 hok
      exact h.extends_setChannel (hchannels _ (.head _)) hfound rfl rfl rfl rfl rfl
    | clearTxQueue | clearRxQueue | clearPeriodicMsgs | clearMsgFilters
    | clearFunctMsgLookupTable | busOn =>
      refine h.extends_controlChange fun s₂ hok => ?_
      obtain ⟨-, -, ch, hfound, ch', hcleared, rfl⟩ := State.clear_eq_ok_iff.1 hok
      exact h.extends_setChannel (hchannels _ (.head _)) hfound rfl
        (change_of_cleared hcleared).wiring_eq rfl rfl rfl

theorem extends_effect (hfresh : b.Fresh s) {call : Call w} {failure? : Option ErrorCode}
    (heffect : Effect s₁ call failure? s₂) (hadmits : scope.Admits (.call call))
    (hioctl : call.entry ≠ .ioctl) (hbound : s₂.issued.channels < UInt32.size) :
    Extends b s scope s₁ s₂ := by
  obtain ⟨hopen, hdevices, hchannels⟩ := hadmits
  cases heffect with
  | refused | answered => exact h.extends_refl
  | scanned | delivered => exact extends_kept (h.of_eq rfl rfl rfl rfl) rfl
  | opened => exact absurd rfl hopen
  | closed _ _ hok => exact h.extends_closeDevice hfresh (hdevices _ (.head _)) hok
  | connected _ _ _ _ _ _ _ _ hok =>
    exact h.extends_connect hfresh (hdevices _ (.head _)) hok hbound
  | disconnected _ _ hok => exact h.extends_disconnect hfresh (hchannels _ (.head _)) hok
  | logicalConnected _ _ _ _ _ _ _ hok =>
    exact h.extends_logicalConnect hfresh (hchannels _ (.head _)) hok hbound
  | logicalDisconnected _ _ hok => exact h.extends_logicalDisconnect (hchannels _ (.head _)) hok
  | selected _ _ _ _ ids _ harguments =>
    refine h.extends_readyAmong ?_
    simpa only [addressedChannels, harguments] using hchannels
  | read _ _ _ _ ch hfound =>
    exact h.extends_setChannel (hchannels _ (.head _)) hfound rfl rfl rfl rfl rfl
  | queued _ _ _ ch hfound frames =>
    refine h.extends_setChannel (hchannels _ (.head _)) hfound rfl ?_ rfl rfl rfl
    unfold Channel.transmit
    split <;> rfl
  | periodicStarted _ _ _ _ _ _ hok =>
    obtain ⟨ch, hfound, -, frame, -, -, -, hresult⟩ := State.startPeriodicMsg_eq_ok_iff.1 hok
    obtain ⟨-, rfl⟩ := Prod.mk.inj hresult
    exact h.extends_setChannel (hchannels _ (.head _)) hfound rfl rfl rfl rfl rfl
  | periodicStopped _ _ _ hok =>
    obtain ⟨ch, hfound, -, rfl⟩ := State.stopPeriodicMsg_eq_ok_iff.1 hok
    exact h.extends_setChannel (hchannels _ (.head _)) hfound rfl rfl rfl rfl rfl
  | filterStarted _ _ _ _ _ _ _ hok =>
    obtain ⟨ch, hfound, filter, -, -, -, -, -, -, -, -, hresult⟩ :=
      State.startMsgFilter_eq_ok_iff.1 hok
    obtain ⟨-, rfl⟩ := Prod.mk.inj hresult
    exact h.extends_setChannel (hchannels _ (.head _)) hfound rfl rfl rfl rfl rfl
  | filterStopped _ _ _ hok =>
    obtain ⟨ch, hfound, -, rfl⟩ := State.stopMsgFilter_eq_ok_iff.1 hok
    exact h.extends_setChannel (hchannels _ (.head _)) hfound rfl rfl rfl rfl rfl
  | powered _ _ _ _ hok => exact h.extends_setProgrammingVoltage (hdevices _ (.head _)) hok
  | configured | functionalChanged | cleared => exact absurd rfl hioctl

omit h in
/-- A failure that is remembered is neither a device nor a channel. -/
theorem extends_remember (h : Extends b s scope s₁ s₂) (entry : EntryPoint)
    (failure? : Option ErrorCode) : Extends b s scope s₁ (remember entry failure? s₂) := by
  obtain ⟨new, hnew, hissued⟩ := h
  refine ⟨new, hnew.of_eq ?_ ?_ (remember_channels ..) ?_, ?_⟩
  · unfold remember
    split
    · rfl
    · split <;> rfl
  · unfold remember
    split
    · rfl
    · split <;> rfl
  · rw [remember_issued]
  · rw [remember_issued, hissued]

theorem extends_call (hfresh : b.Fresh s) {call : Call w} (hadmits : scope.Admits (.call call))
    (hbound : (s₁.after (.call call)).issued.channels < UInt32.size) :
    Extends b s scope s₁ (s₁.after (.call call)) := by
  refine extends_remember ?_ call.entry (perform s₁ call).failure?
  cases call with
  | ioctl target id input output => exact h.extends_ioctl hadmits.2.2
  | _ =>
    refine h.extends_effect hfresh (perform_effect s₁ _) hadmits nofun ?_
    rwa [show s₁.after _ = remember _ _ _ from rfl, remember_issued] at hbound

theorem extends_after (hfresh : b.Fresh s) {event : Event w} (hadmits : scope.Admits event)
    (hbound : (s₁.after event).issued.channels < UInt32.size) :
    Extends b s scope s₁ (s₁.after event) := by
  cases event with
  | call call => exact h.extends_call hfresh hadmits hbound
  | register interface => exact hadmits.elim
  | unplug name => exact hadmits.elim
  | inject channel frame =>
    show Extends b s scope s₁ (s₁.inject channel frame)
    unfold State.inject
    cases hfound : s₁.channels.get? channel with
    | none => exact h.extends_refl
    | some ch => exact h.extends_setChannel hadmits hfound rfl rfl rfl rfl rfl

end Calls

/-! ### Runs in a bracket -/

/-- One event: the channels that it connects come into the scope. -/
theorem after (h : b.Inside s scope s₁) (hfresh : b.Fresh s) (htopology : Topology s₁)
    {event : Event w} (hadmits : scope.Admits event)
    (hbound : (s₁.after event).issued.channels < UInt32.size) :
    b.Inside s (scope.extend (issuedIn .channel (s₁.deed? event).toList)) (s₁.after event) := by
  obtain ⟨new, hnew, hissued⟩ := h.extends_after hfresh hadmits hbound
  have hcounted := (accounted_after htopology event).issued .channel
  rw [← List.append_cancel_left (hissued.symm.trans hcounted)]
  exact hnew

theorem run (h : b.Inside s scope s₁) (hfresh : b.Fresh s) (hreachable : Reachable w s₁)
    {events : List (Event w)} (hcovers : scope.Covers s₁ events)
    (hbound : (s₁.run events).issued.channels < UInt32.size) :
    ∃ later, b.Inside s (scope.extend later) (s₁.run events) := by
  induction events generalizing scope s₁ with
  | nil => exact ⟨[], h⟩
  | cons event events ih =>
    obtain ⟨hadmits, hcovers⟩ := hcovers
    have hbound : ((s₁.after event).run events).issued.channels < UInt32.size := hbound
    have hnext := (steps_run (s₁.after event) events).issued_le.2
    have hbefore := (steps_after s₁ event).issued_le.2
    have htopology := reachable_topology hreachable (by omega)
    have hafter := h.after hfresh htopology hadmits (Nat.lt_of_le_of_lt hnext hbound)
    obtain ⟨later, hlater⟩ := ih hafter (hreachable.run [event]) hcovers hbound
    exact ⟨later ++ issuedIn .channel (s₁.deed? event).toList, by
      unfold Scope.extend at hlater ⊢
      rwa [List.append_assoc]⟩

end Inside

end Bracket

end PassThru.Emulator
