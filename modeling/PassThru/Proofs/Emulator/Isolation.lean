import PassThru.Proofs.Emulator.Listing
import PassThru.Proofs.Emulator.Scopes
import PassThru.Proofs.Emulator.Voltages

/-!
# Isolation

A call has its effect on the devices and channels that it is to, and on no others. What goes with a
device that is closed, or with a channel that is disconnected, are exactly the channels that stand
on it.

* `Isolated`: what each call leaves alone, whether it succeeds or fails.
* `Effect.isolated`: so it is for the calls that close nothing and are no control requests;
  `sameBut_ioctl`, `isolated_closeDevice` and `isolated_disconnect` are about the others.
* `reachable_fresh`: the next handle is free, the last one of 32 bits included.
-/

namespace PassThru

/-- The key `key` was free, and no other key of the table is touched. -/
structure Table.GrowsAt {α : Type} (t : Table α) (key : UInt32) (t' : Table α) : Prop where
  free : t.get? key = none
  kept : ∀ k, k ≠ key → t'.get? k = t.get? k

namespace Emulator

variable {w : Width} {s s' : State}

/-! ## What a call leaves alone -/

namespace State

/-- The devices are the same, and so are the channels but for some. -/
def SameBut (s : State) (channels : List UInt32) (s' : State) : Prop :=
  s'.devices = s.devices ∧ ∀ c ∉ channels, s'.channels.get? c = s.channels.get? c

/-- Every channel is as it was, up to the frames on its bus and in its receive queue. -/
def SameButQueues (s s' : State) : Prop :=
  ∀ c, ∃ bus rx, s'.channels.get? c = (s.channels.get? c).map fun ch => { ch with bus, rx }

/-- A logical channel goes exactly if the channel that it stands on goes. -/
def GoesWithParent (s s' : State) : Prop :=
  ∀ c ch parent, s.channels.get? c = some ch → ch.parent? = some parent →
    (s'.channels.get? c = none ↔ s'.channels.get? parent = none)

end State

/-- What a call that is made in the state `s`, is answered by `status` and leaves the state `s'` does
not touch. -/
def Isolated (s : State) (call : Call w) (status : Status) (s' : State) : Prop :=
  match call with
  | .openDevice .. =>
    s.devices.GrowsAt (nextHandle s.issued.devices) s'.devices ∧ s'.channels = s.channels
  | .closeDevice device =>
    (status = Status.noError →
      s.devices.contains device.narrow = true ∧
        (∀ d, s'.devices.get? d = if d = device.narrow then none else s.devices.get? d) ∧
        (∀ c, s'.channels.get? c =
          (s.channels.get? c).filter fun ch => ch.device != device.narrow) ∧
        s.GoesWithParent s') ∧
      (status ≠ Status.noError → s'.devices = s.devices ∧ s'.channels = s.channels)
  | .connect .. | .logicalConnect .. =>
    s'.devices = s.devices ∧ s.channels.GrowsAt (nextHandle s.issued.channels) s'.channels
  | .disconnect channel =>
    s'.devices = s.devices ∧
      (status = Status.noError →
        s.channels.contains channel.narrow = true ∧
          (∀ c, s'.channels.get? c = (s.channels.get? c).filter fun ch =>
            c != channel.narrow && ch.parent? != some channel.narrow) ∧
          s.GoesWithParent s') ∧
      (status ≠ Status.noError → s'.channels = s.channels)
  | .setProgrammingVoltage device resource _ =>
    s'.channels = s.channels ∧
      (∀ d, d ≠ device.narrow → s'.devices.get? d = s.devices.get? d) ∧
      (∀ d, (s'.devices.get? d).map OpenDevice.name = (s.devices.get? d).map OpenDevice.name) ∧
      ∀ pin, (PinRequest.ofNative resource).single ≠ .ok pin →
        s'.pinState? device.narrow pin = s.pinState? device.narrow pin
  | .select .. => s.SameBut (addressedChannels call) s' ∧ s.SameButQueues s'
  | _ => s.SameBut (addressedChannels call) s'

/-! ## The next handle -/

/-- Zero is no handle. -/
structure ZeroUnused (s : State) : Prop where
  device : s.devices.get? 0 = none
  channel : s.channels.get? 0 = none

theorem zero_ne_nextHandle {issued : Nat} (h : issued + 1 < UInt32.size) :
    0 ≠ nextHandle issued := by
  intro heq
  have hzero := congrArg UInt32.toNat heq
  rw [toNat_nextHandle h] at hzero
  cases hzero

theorem ZeroUnused.setChannel (h : ZeroUnused s) {id : UInt32} {ch : Channel} (ch' : Channel)
    (hfound : s.channels.get? id = some ch) : (s.channels.insert id ch').get? 0 = none := by
  refine (Table.get?_insert_of_ne _ _ ?_).trans h.channel
  rintro rfl
  rw [h.channel] at hfound
  cases hfound

theorem ZeroUnused.step (h : ZeroUnused s) (hstep : Step s s')
    (hdevices : s'.issued.devices < UInt32.size) (hchannels : s'.issued.channels < UInt32.size) :
    ZeroUnused s' := by
  cases hstep with
  | opened =>
    exact ⟨(Table.get?_insert_of_ne _ _ (zero_ne_nextHandle hdevices)).trans h.device, h.channel⟩
  | closed id =>
    refine ⟨?_, ?_⟩
    · show (s.devices.erase id).get? 0 = none
      rw [Table.get?_erase, h.device, ite_self]
    · show (s.channels.filter _).get? 0 = none
      rw [Table.get?_filter, h.channel, Option.filter_none]
  | connected | logicalConnected =>
    exact ⟨h.device, (Table.get?_insert_of_ne _ _ (zero_ne_nextHandle hchannels)).trans h.channel⟩
  | disconnected id =>
    refine ⟨h.device, ?_⟩
    show ((s.channels.erase id).filter _).get? 0 = none
    rw [Table.get?_filter, Table.get?_erase, h.channel, ite_self, Option.filter_none]
  | logicalDisconnected id =>
    refine ⟨h.device, ?_⟩
    show (s.channels.erase id).get? 0 = none
    rw [Table.get?_erase, h.channel, ite_self]
  | pumped _ _ hfound | changed _ _ _ hfound | periodicStarted _ _ _ hfound
  | filterStarted _ _ _ hfound => exact ⟨h.device, h.setChannel _ hfound⟩
  | powered id device pin voltage pins hopened =>
    refine ⟨(Table.get?_insert_of_ne _ _ ?_).trans h.device, h.channel⟩
    rintro rfl
    rw [h.device] at hopened
    cases hopened
  | _ => exact ⟨h.device, h.channel⟩

theorem reachable_zeroUnused (h : Reachable w s) (hdevices : s.issued.devices < UInt32.size)
    (hchannels : s.issued.channels < UInt32.size) : ZeroUnused s := by
  refine Reachable.invariant (P := fun s => s.issued.devices < UInt32.size →
    s.issued.channels < UInt32.size → ZeroUnused s) ?_ ?_ h hdevices hchannels
  · intro n _ _
    exact ⟨rfl, rfl⟩
  · intro s s' hstep ih hdevices hchannels
    obtain ⟨hledevices, hlechannels, -⟩ := hstep.issued_le
    exact (ih (Nat.lt_of_le_of_lt hledevices hdevices)
      (Nat.lt_of_le_of_lt hlechannels hchannels)).step hstep hdevices hchannels

/-- After the last handle of 32 bits comes zero. -/
theorem nextHandle_eq_zero {issued : Nat} (h : issued < UInt32.size)
    (hlast : ¬ issued + 1 < UInt32.size) : nextHandle issued = 0 := by
  have hissued : issued = UInt32.size - 1 := by omega
  rw [hissued]
  rfl

/-- Both next handles are free as long as no more were issued of a kind than there are numbers
without zero: the one that would come after them is zero. -/
theorem reachable_fresh (h : Reachable w s) (hdevices : s.issued.devices < UInt32.size)
    (hchannels : s.issued.channels < UInt32.size) :
    s.devices.get? (nextHandle s.issued.devices) = none ∧
      s.channels.get? (nextHandle s.issued.channels) = none := by
  obtain ⟨hdevicesIssued, hchannelsIssued⟩ := reachable_issued h hdevices hchannels
  have hzero := reachable_zeroUnused h hdevices hchannels
  constructor
  · by_cases hroom : s.issued.devices + 1 < UInt32.size
    · exact hdevicesIssued.get?_nextHandle hroom
    · rw [nextHandle_eq_zero hdevices hroom]
      exact hzero.device
  · by_cases hroom : s.issued.channels + 1 < UInt32.size
    · exact hchannelsIssued.get?_nextHandle hroom
    · rw [nextHandle_eq_zero hchannels hroom]
      exact hzero.channel

/-! ## Parts of a state that are the same -/

namespace State

theorem SameBut.refl (channels : List UInt32) (s : State) : s.SameBut channels s :=
  ⟨rfl, fun _ _ => rfl⟩

theorem SameButQueues.refl (s : State) : s.SameButQueues s := by
  intro c
  cases hget : s.channels.get? c with
  | none => exact ⟨[], [], rfl⟩
  | some ch => exact ⟨ch.bus, ch.rx, rfl⟩

theorem sameBut_insert {channels : List UInt32} {id : UInt32} {ch' : Channel}
    (hid : id ∈ channels) (hdevices : s'.devices = s.devices)
    (hchannels : s'.channels = s.channels.insert id ch') : s.SameBut channels s' := by
  refine ⟨hdevices, fun c hc => ?_⟩
  rw [hchannels]
  exact Table.get?_insert_of_ne _ _ fun heq => hc (heq ▸ hid)

theorem sameBut_readyAmong (ids : List UInt32) (s : State) :
    s.SameBut ids (State.readyAmong ids s).2 := by
  induction ids, s using State.readyAmong.induct with
  | case1 s => exact .refl _ _
  | case2 id ids s code hfailed =>
    rw [State.readyAmong, hfailed]
    exact .refl _ _
  | case3 id ids s ch s₁ hpump ready s₂ hready ih =>
    rw [State.readyAmong, hpump]
    obtain ⟨before, hfound, hresult⟩ := State.pump_eq_ok_iff.1 hpump
    obtain ⟨rfl, rfl⟩ := Prod.mk.inj hresult
    refine ⟨ih.1, fun c hc => ?_⟩
    obtain ⟨hne, hc⟩ := not_or.1 (mt List.mem_cons.2 hc)
    exact (ih.2 c hc).trans (Table.get?_insert_of_ne _ _ hne)

/-- A pump moves frames from the bus into the receive queue. -/
theorem SameButQueues.pump {s₁ s₂ : State} (h : s.SameButQueues s₁) {id : UInt32} {ch : Channel}
    (hpump : s₁.pump id = .ok (ch, s₂)) : s.SameButQueues s₂ := by
  obtain ⟨before, hfound, hresult⟩ := State.pump_eq_ok_iff.1 hpump
  obtain ⟨rfl, rfl⟩ := Prod.mk.inj hresult
  intro c
  by_cases hc : c = id
  · subst hc
    obtain ⟨bus, rx, hold⟩ := h c
    rw [hfound, eq_comm, Option.map_eq_some_iff] at hold
    obtain ⟨ch, hch, rfl⟩ := hold
    exact ⟨[], rx ++ stampFrom s₁.clock (Channel.admitted { ch with bus, rx }),
      (Table.get?_insert_self _ _ _).trans (by rw [hch]; rfl)⟩
  · obtain ⟨bus, rx, hold⟩ := h c
    exact ⟨bus, rx, (Table.get?_insert_of_ne _ _ hc).trans hold⟩

end State

open State

/-! ## Calls that close -/

/-- If a logical channel stays exactly if the channel that it stands on does, it goes exactly if its
parent goes. -/
theorem goesWithParent_of_topology (htopology : Topology s) (stays : UInt32 → Channel → Bool)
    (hstays : ∀ {c ch p parent}, s.channels.get? c = some ch → ch.parent? = some p →
      s.channels.get? p = some parent → parent.parent? = none → parent.device = ch.device →
      stays c ch = stays p parent)
    (hchannels : ∀ c, s'.channels.get? c = (s.channels.get? c).filter (stays c)) :
    s.GoesWithParent s' := by
  intro c ch p hfound hparent
  obtain ⟨-, -, parent, hp, hdevice, hroot, -⟩ := htopology.logical hfound hparent
  rw [hchannels, hchannels, hfound, hp, Option.filter_some, Option.filter_some,
    hstays hfound hparent hp hroot hdevice]
  cases stays p parent <;> simp

/-- A device that is closed takes exactly its channels along. -/
theorem isolated_closeDevice (htopology : Topology s) (device : Word w) :
    Isolated s (.closeDevice device : Call w) (driver (.closeDevice device : Call w) s).1.status
      (perform s (.closeDevice device : Call w)).state := by
  have hperform : perform s (.closeDevice device : Call w) =
      change s (s.closeDevice device.narrow) := rfl
  unfold Isolated
  dsimp only
  rw [Ne, status_eq_noError_iff, hperform]
  cases hclose : s.closeDevice device.narrow with
  | error code => exact ⟨nofun, fun _ => ⟨rfl, rfl⟩⟩
  | ok s' =>
    obtain ⟨hopened, rfl⟩ := State.closeDevice_eq_ok_iff.1 hclose
    have hchannels : ∀ c, (s.channels.filter fun _ ch => ch.device != device.narrow).get? c =
        (s.channels.get? c).filter fun ch => ch.device != device.narrow :=
      fun c => Table.get?_filter _ _ _
    refine ⟨fun _ => ⟨hopened, Table.get?_erase _ _, hchannels, ?_⟩, fun h => absurd rfl h⟩
    refine goesWithParent_of_topology htopology (fun _ ch => ch.device != device.narrow) ?_ hchannels
    intro c ch p parent _ _ _ _ hdevice
    rw [hdevice]

/-- A channel that is disconnected takes exactly its logical channels along. -/
theorem isolated_disconnect (htopology : Topology s) (channel : Word w) :
    Isolated s (.disconnect channel : Call w) (driver (.disconnect channel : Call w) s).1.status
      (perform s (.disconnect channel : Call w)).state := by
  have hperform : perform s (.disconnect channel : Call w) =
      change s (s.disconnect channel.narrow) := rfl
  unfold Isolated
  dsimp only
  rw [Ne, status_eq_noError_iff, hperform]
  cases hdisconnect : s.disconnect channel.narrow with
  | error code => exact ⟨rfl, nofun, fun _ => rfl⟩
  | ok s' =>
    obtain ⟨opened, hopened, hphysical, rfl⟩ := State.disconnect_eq_ok_iff.1 hdisconnect
    have hchannels : ∀ c, ((s.channels.erase channel.narrow).filter fun _ ch =>
        ch.parent? != some channel.narrow).get? c = (s.channels.get? c).filter fun ch =>
          c != channel.narrow && ch.parent? != some channel.narrow := by
      intro c
      rw [Table.erase, Table.filter_filter, Table.get?_filter]
      simp only [Bool.and_comm]
    refine ⟨rfl, fun _ => ⟨Table.contains_iff.2 ⟨opened, hopened⟩, hchannels, ?_⟩,
      fun h => absurd rfl h⟩
    refine goesWithParent_of_topology htopology
      (fun c ch => c != channel.narrow && ch.parent? != some channel.narrow) ?_ hchannels
    intro c ch p parent hfound hparent hp hroot _
    -- the channel that is disconnected has no parent, so it is no logical channel
    have hc : c ≠ channel.narrow := by
      rintro rfl
      rw [hopened, Option.some.injEq] at hfound
      rw [← hfound, hphysical] at hparent
      cases hparent
    rw [hparent, hroot, bne_iff_ne.2 hc]
    by_cases hsame : p = channel.narrow <;> simp [bne, hsame]

/-! ## Calls that close nothing -/

/-- What does nothing to devices and channels touches none, unless it is to close something. -/
theorem isolated_refl {call : Call w} {status : Status}
    (hdevice : s.devices.get? (nextHandle s.issued.devices) = none)
    (hchannel : s.channels.get? (nextHandle s.issued.channels) = none)
    (hclose : call.entry ≠ .closeDevice) (hdisconnect : call.entry ≠ .disconnect) :
    Isolated s call status s := by
  cases call with
  | openDevice => exact ⟨⟨hdevice, fun _ _ => rfl⟩, rfl⟩
  | closeDevice => exact absurd rfl hclose
  | connect | logicalConnect => exact ⟨rfl, hchannel, fun _ _ => rfl⟩
  | disconnect => exact absurd rfl hdisconnect
  | select => exact ⟨.refl _ _, .refl _⟩
  | setProgrammingVoltage => exact ⟨rfl, fun _ _ => rfl, fun _ => rfl, fun _ _ => rfl⟩
  | _ => exact .refl _ _

theorem isolated_setProgrammingVoltage {device voltage : Word w} {resource : NativeResource w}
    {status : Status} (h : s.setProgrammingVoltage device.narrow (.ofNative resource)
      voltage.narrow = .ok s') :
    Isolated s (.setProgrammingVoltage device resource voltage : Call w) status s' := by
  obtain ⟨opened, ⟨hopened, -⟩, pin, hsingle, -, -, pins, happlied, rfl⟩ :=
    State.setProgrammingVoltage_eq_ok_iff.1 h
  refine ⟨rfl, fun d hd => Table.get?_insert_of_ne _ _ hd,
    Table.map_get?_insert OpenDevice.name hopened rfl, fun other hother => ?_⟩
  have hne : other ≠ pin := by
    rintro rfl
    exact hother hsingle
  unfold State.pinState?
  dsimp only
  rw [Table.get?_insert_self, hopened, Option.bind_some, Option.bind_some,
    get?_applyVoltage happlied, if_neg hne]

theorem sameBut_ioctl (s : State) (target id : Word w) (input output : NativeControl w) :
    s.SameBut (addressedChannels (.ioctl target id input output))
      (performIoctl s target id ⟨input, output⟩).state := by
  have hchange : ∀ {attempt : Attempt State} {channels : List UInt32},
      (∀ s', attempt = .ok s' → s.SameBut channels s') →
        s.SameBut channels (controlChange s ⟨input, output⟩ attempt).state := by
    intro attempt channels h
    cases attempt with
    | error code => exact .refl _ _
    | ok s' => exact h s' rfl
  have hquery : ∀ {attempt : Attempt (NativeControl w)} {channels : List UInt32},
      s.SameBut channels (controlQuery s ⟨input, output⟩ attempt).state := by
    intro attempt channels
    cases attempt <;> exact .refl _ _
  unfold performIoctl addressedChannels
  dsimp only
  cases Ioctl.ofCode? id.narrow with
  | none => exact .refl _ _
  | some request =>
    cases request with
    | getConfig =>
      dsimp only
      cases s.getConfig target.narrow input output <;> exact .refl _ _
    | setConfig =>
      refine hchange fun s' hok => ?_
      obtain ⟨-, ch, hfound, entries, -, -, rfl⟩ := State.setConfig_eq_ok_iff.1 hok
      exact sameBut_insert (.head _) rfl rfl
    | readPinVoltage | readProgVoltage | fiveBaudInit | fastInit => exact hquery
    | addToFunctMsgLookupTable | deleteFromFunctMsgLookupTable =>
      refine hchange fun s' hok => ?_
      obtain ⟨-, ch, hfound, -, addresses, -, rfl⟩ := State.changeFunctional_eq_ok_iff.1 hok
      exact sameBut_insert (.head _) rfl rfl
    | clearTxQueue | clearRxQueue | clearPeriodicMsgs | clearMsgFilters
    | clearFunctMsgLookupTable | busOn =>
      refine hchange fun s' hok => ?_
      obtain ⟨-, -, ch, hfound, ch', hcleared, rfl⟩ := State.clear_eq_ok_iff.1 hok
      exact sameBut_insert (.head _) rfl rfl

theorem Effect.isolated {call : Call w} {failure? : Option ErrorCode}
    (h : Effect s call failure? s')
    (hdevice : s.devices.get? (nextHandle s.issued.devices) = none)
    (hchannel : s.channels.get? (nextHandle s.issued.channels) = none)
    (hclose : call.entry ≠ .closeDevice) (hdisconnect : call.entry ≠ .disconnect)
    (hioctl : call.entry ≠ .ioctl) (status : Status) : Isolated s call status s' := by
  cases h with
  | refused | answered => exact isolated_refl hdevice hchannel hclose hdisconnect
  | scanned | delivered => exact ⟨rfl, fun _ _ => rfl⟩
  | opened _ _ _ _ hok =>
    obtain ⟨-, -, rfl⟩ := State.openDevice_eq_ok_iff.1 hok
    exact ⟨⟨hdevice, fun k hk => Table.get?_insert_of_ne _ _ hk⟩, rfl⟩
  | closed => exact absurd rfl hclose
  | connected _ _ _ _ _ _ _ _ hok =>
    obtain ⟨_, _, _, -, -, -, hresult⟩ := State.connect_eq_ok hok
    obtain ⟨-, rfl⟩ := Prod.mk.inj hresult
    exact ⟨rfl, hchannel, fun k hk => Table.get?_insert_of_ne _ _ hk⟩
  | disconnected => exact absurd rfl hdisconnect
  | logicalConnected _ _ _ _ _ _ _ hok =>
    obtain ⟨_, -, -, -, -, -, hresult⟩ := State.logicalConnect_eq_ok_iff.1 hok
    obtain ⟨-, rfl⟩ := Prod.mk.inj hresult
    exact ⟨rfl, hchannel, fun k hk => Table.get?_insert_of_ne _ _ hk⟩
  | logicalDisconnected channel _ hok =>
    obtain ⟨-, -, -, rfl⟩ := State.logicalDisconnect_eq_ok_iff.1 hok
    refine ⟨rfl, fun c hc => ?_⟩
    have hne : c ≠ channel.narrow := fun heq => hc (List.mem_singleton.2 heq)
    exact (Table.get?_erase _ _ _).trans (if_neg hne)
  | selected set native kind timeout ids _ harguments =>
    refine ⟨?_, readyAmong_induction (P := s.SameButQueues) (fun hpump hs => hs.pump hpump) ids s
      (.refl s)⟩
    unfold addressedChannels
    dsimp only
    rw [harguments]
    exact sameBut_readyAmong ids s
  | read | queued => exact sameBut_insert (.head _) rfl rfl
  | periodicStarted _ _ _ _ _ _ hok =>
    obtain ⟨ch, hfound, -, frame, -, -, -, hresult⟩ := State.startPeriodicMsg_eq_ok_iff.1 hok
    obtain ⟨-, rfl⟩ := Prod.mk.inj hresult
    exact sameBut_insert (.head _) rfl rfl
  | periodicStopped _ _ _ hok =>
    obtain ⟨ch, hfound, -, rfl⟩ := State.stopPeriodicMsg_eq_ok_iff.1 hok
    exact sameBut_insert (.head _) rfl rfl
  | filterStarted _ _ _ _ _ _ _ hok =>
    obtain ⟨ch, hfound, filter, -, -, -, -, -, -, -, -, hresult⟩ :=
      State.startMsgFilter_eq_ok_iff.1 hok
    obtain ⟨-, rfl⟩ := Prod.mk.inj hresult
    exact sameBut_insert (.head _) rfl rfl
  | filterStopped _ _ _ hok =>
    obtain ⟨ch, hfound, -, rfl⟩ := State.stopMsgFilter_eq_ok_iff.1 hok
    exact sameBut_insert (.head _) rfl rfl
  | powered _ _ _ _ hok => exact isolated_setProgrammingVoltage hok
  | configured | functionalChanged | cleared => exact absurd rfl hioctl

/-! ## Any call -/

/-- Only devices and channels are looked at. -/
theorem isolated_remember {call : Call w} {status : Status} (h : Isolated s call status s')
    (entry : EntryPoint) (failure? : Option ErrorCode) :
    Isolated s call status (remember entry failure? s') := by
  obtain ⟨last, hlast⟩ := remember_eq entry failure? s'
  rw [hlast]
  cases call <;> exact h

/-- **Isolation.** Whether a call succeeds or fails, it touches what it is to and nothing else.

* No call changes the registry.
* A call to a channel, be it a read, a transmission, a control request, the start or stop of a filter
  or of a periodic message, or the end of a logical channel, changes no device and no other channel.
* A select changes no device and nothing but the frames of the channels that it lists.
* A programming voltage changes no channel, and of its device at most what is on the pin.
* A device that is closed, or a channel that is disconnected, takes exactly the channels along that
  stand on it; a call that fails to close or disconnect changes neither devices nor channels.
* A device that is opened and a channel that is connected get a handle that was free, and no other
  device or channel changes.

This holds as long as there are enough numbers of 32 bits for the handles that were issued. -/
theorem calls_isolated (h : Reachable w s) (hdevices : s.issued.devices < UInt32.size)
    (hchannels : s.issued.channels < UInt32.size) (call : Call w) :
    (driver call s).2.registry = s.registry ∧
      Isolated s call (driver call s).1.status (driver call s).2 := by
  refine ⟨(listed_remember _ _ _).registry_eq.trans (perform_effect s call).registry_eq,
    isolated_remember ?_ _ _⟩
  have htopology := reachable_topology h hchannels
  obtain ⟨hdevice, hchannel⟩ := reachable_fresh h hdevices hchannels
  cases call with
  | closeDevice device => exact isolated_closeDevice htopology device
  | disconnect channel => exact isolated_disconnect htopology channel
  | ioctl target id input output => exact sameBut_ioctl s target id input output
  | _ =>
    refine Effect.isolated (perform_effect s _) hdevice hchannel ?_ ?_ ?_ _ <;> exact nofun

/-- Two devices with a CAN channel each, on pins of the same numbers, and a logical channel on top of
the first. -/
def Event.openTwice : List (Event w) :=
  let resource : NativeResource w := ⟨.of32 Connector.j1962, .of32 2, some [.of32 6, .of32 14]⟩
  let connect (device : UInt32) : Event w :=
    .call (.connect (.of32 device) (.of32 Protocol.can.code) .zero (.of32 500000) resource
      (some .zero))
  [.call (.openDevice (some (Utf8.encode "passthru-1")) (some .zero)),
    .call (.openDevice (some (Utf8.encode "passthru-2")) (some .zero)),
    connect 1, connect 2,
    .call (.logicalConnect (.of32 1) (.of32 Protocol.iso15765Logical.code) .zero
      (some ⟨.zero, .zero, .zero, .zero⟩) (some .zero))]

/-- The first device is closed: it goes with its channel and the logical channel on it, and the second
keeps its channel on the same pins. The channel on the second device is disconnected: the other
two stay. -/
theorem calls_isolated_openTwice :
    let s := (State.start 2).run (Event.openTwice (w := .w64))
    let close : Call .w64 := .closeDevice (.of32 1)
    let disconnect : Call .w64 := .disconnect (.of32 2)
    let closed := (driver close s).2
    let disconnected := (driver disconnect s).2
    s.devices.keys = [1, 2] ∧ s.channels.keys = [1, 2, 3] ∧
      s.issued.devices < UInt32.size ∧ s.issued.channels < UInt32.size ∧
      (closed.devices.get? 1 = none ∧ closed.devices.get? 2 = s.devices.get? 2 ∧
        closed.channels.get? 1 = none ∧ closed.channels.get? 3 = none ∧
        closed.channels.get? 2 = s.channels.get? 2) ∧
      (disconnected.devices = s.devices ∧ disconnected.channels.get? 2 = none ∧
        disconnected.channels.get? 1 = s.channels.get? 1 ∧
        disconnected.channels.get? 3 = s.channels.get? 3) := by
  intro s close disconnect closed disconnected
  have hreachable : Reachable .w64 s := ⟨2, Event.openTwice, rfl⟩
  have hdevices : s.issued.devices < UInt32.size := by decide
  have hchannels : s.issued.channels < UInt32.size := by decide
  have hclosed : (driver close s).1.status = Status.noError := by decide
  have hdisconnected : (driver disconnect s).1.status = Status.noError := by decide
  obtain ⟨-, hclose, -⟩ := calls_isolated hreachable hdevices hchannels close
  obtain ⟨-, hdevice, hchannel, -⟩ := hclose hclosed
  obtain ⟨-, hkept, hdisconnect, -⟩ := calls_isolated hreachable hdevices hchannels disconnect
  obtain ⟨-, hgone, -⟩ := hdisconnect hdisconnected
  refine ⟨by decide, by decide, hdevices, hchannels, ⟨hdevice 1, hdevice 2, ?_, ?_, ?_⟩, hkept,
    ?_, ?_, ?_⟩
  · exact (hchannel 1).trans (by decide)
  · exact (hchannel 3).trans (by decide)
  · exact (hchannel 2).trans (by decide)
  · exact (hgone 2).trans (by decide)
  · exact (hgone 1).trans (by decide)
  · exact (hgone 3).trans (by decide)

end Emulator

end PassThru
