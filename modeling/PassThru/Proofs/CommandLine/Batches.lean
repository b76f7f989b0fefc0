import PassThru.CommandLine.Run
import PassThru.Proofs.Client.Connecting
import PassThru.Proofs.Emulator.Brackets
import PassThru.Proofs.Emulator.Isolation

/-!
# What a monitor shows

A monitor reads in batches until it has seen enough or nothing comes any more. On the emulated
library this adds up to one list, that of the recorded frames with a header, and the size of the
batches leaves no trace.

* `Monitor.Drains`: reads that take frames off the front of a list, until it is empty.
* `Monitor.Drains.follow`: following such reads shows the first frames of the list.
* `drains_readBatch`: the batches of a client are such reads.
* `onChannel_follows`, `onDevice_follows` and `run_follows`: a monitor from the inside out.
* `monitor_shows_traffic`: what is printed in the end.
-/

namespace PassThru

namespace Monitor

variable {σ : Type} {read : σ → Answer (List Message) × σ} {Left : List Message → σ → Prop}

/-- Each read takes some frames off the front of those that are left, however many, and says that
there is nothing when none are left. -/
structure Drains (read : σ → Answer (List Message) × σ) (Left : List Message → σ → Prop) : Prop where
  batch : ∀ {frames s}, Left frames s → frames ≠ [] →
    ∃ k s', 0 < k ∧ read s = (.ok (frames.take k), s') ∧ Left (frames.drop k) s'
  quiet : ∀ {s}, Left [] s → ∃ e s', read s = (.error e, s') ∧ isQuiet e = true ∧ Left [] s'

section Follow

variable (h : Drains read Left) {idleReads : Nat} (hidle : 0 < idleReads)

include h

theorem Drains.eq_nil_of_error {frames : List Message} {s s' : σ} {e : Error}
    (hleft : Left frames s) (hread : read s = (.error e, s')) :
    frames = [] ∧ isQuiet e = true ∧ Left [] s' := by
  by_cases hne : frames = []
  · subst hne
    obtain ⟨e', s₁, hquiet, hsilent, hnone⟩ := h.quiet hleft
    obtain ⟨herror, rfl⟩ := Prod.mk.inj (hread.symm.trans hquiet)
    obtain rfl := Except.error.inj herror
    exact ⟨rfl, hsilent, hnone⟩
  · obtain ⟨k, s₁, -, hok, -⟩ := h.batch hleft hne
    cases hread.symm.trans hok

theorem Drains.eq_take_of_ok {frames batch : List Message} {s s' : σ} (hleft : Left frames s)
    (hread : read s = (.ok batch, s')) :
    frames ≠ [] ∧ ∃ k, 0 < k ∧ batch = frames.take k ∧ Left (frames.drop k) s' := by
  by_cases hne : frames = []
  · subst hne
    obtain ⟨e, s₁, hquiet, -⟩ := h.quiet hleft
    cases hread.symm.trans hquiet
  · obtain ⟨k, s₁, hpos, hok, hrest⟩ := h.batch hleft hne
    obtain ⟨hbatch, rfl⟩ := Prod.mk.inj (hread.symm.trans hok)
    exact ⟨hne, k, hpos, Except.ok.inj hbatch, hrest⟩

include hidle

/-- Following shows the first of the frames that are left, as many as are wanted. The patience
cannot be used up as long as there are some, because only a read that finds nothing lowers it. -/
theorem Drains.follow {wanted patience : Nat} {frames : List Message} {s : σ}
    (hleft : Left frames s) (hpatience : patience = 0 → frames = []) :
    (follow read idleReads wanted patience s).1 = { frames := frames.take wanted } ∧
      ∃ rest, Left rest (follow read idleReads wanted patience s).2 := by
  fun_induction Monitor.follow read idleReads wanted patience s generalizing frames with
  | case1 patience s => exact ⟨rfl, frames, hleft⟩
  | case2 wanted s =>
    obtain rfl := hpatience rfl
    exact ⟨rfl, [], hleft⟩
  | case3 wanted patience s e s₁ hread hquiet ih =>
    obtain ⟨rfl, -, hnone⟩ := h.eq_nil_of_error hleft hread
    exact ih hnone fun _ => rfl
  | case4 wanted patience s e s₁ hread hloud =>
    exact absurd (h.eq_nil_of_error hleft hread).2.1 hloud
  | case5 wanted patience s s₁ hread ih =>
    obtain ⟨hne, k, hpos, hnone, -⟩ := h.eq_take_of_ok hleft hread
    rcases List.take_eq_nil_iff.1 hnone.symm with rfl | hnil
    · exact absurd hpos (Nat.lt_irrefl 0)
    · exact absurd hnil hne
  | case6 wanted patience s frame batch s₁ hread record s₂ hrest ih =>
    obtain ⟨-, k, -, hbatch, hleft₁⟩ := h.eq_take_of_ok hleft hread
    obtain ⟨hrecord, hend⟩ := ih hleft₁ fun hzero => absurd hzero (Nat.ne_of_gt hidle)
    rw [hrest] at hrecord hend
    refine ⟨?_, hend⟩
    have hframes : frame :: batch.take wanted ++ (frames.drop k).take (wanted - batch.length) =
        frames.take (wanted + 1) := by
      calc frame :: batch.take wanted ++ (frames.drop k).take (wanted - batch.length)
          = (frame :: batch).take (wanted + 1) ++
              (frames.drop k).take (wanted + 1 - (frame :: batch).length) := by
            rw [List.take_succ_cons, List.length_cons, Nat.add_sub_add_right]
        _ = (frame :: batch ++ frames.drop k).take (wanted + 1) := List.take_append.symm
        _ = frames.take (wanted + 1) := by rw [hbatch, List.take_append_drop]
    show Record.after record _ = _
    rw [show record = _ from hrecord, ← hframes]
    rfl

end Follow

end Monitor

namespace Emulator

variable {w : Width} {s base : State} {id : UInt32} {frames : List Message}

/-! ## Reading a channel in batches -/

/-- A state with frames left to be read on one channel, which is a physical one. All else is as in
`base`. -/
structure LeftToRead (size : UInt32) (base : State) (id : UInt32) (frames : List Message) (s : State) :
    Prop where
  registry_eq : s.registry = base.registry
  devices_eq : s.devices = base.devices
  channels_eq : ∃ ch, s.channels = base.channels.insert id ch ∧ ch.parent? = none ∧
    (ch.pending s.clock).map (Message.inBuffer size) = frames
  fits : ∀ frame ∈ frames, frame.data.length ≤ size.toNat

section Batch

variable {settings : Settings} (hpos : 0 < settings.readBatchSize.toNat)
  (hle : settings.readBatchSize.toNat ≤ maxNumber)

include hpos hle

theorem LeftToRead.readBatch (h : LeftToRead settings.rxBufferSize base id frames s) :
    let k := min settings.readBatchSize.toNat frames.length
    let result := (⟨driver, settings⟩ : Client w State).readBatch ⟨id⟩ s
    (result.1 = if k = 0 then
        .error (.vendor (if settings.defaultTimeoutMs = 0 then .bufferEmpty else .timeout))
      else .ok (frames.take k)) ∧
      LeftToRead settings.rxBufferSize base id (frames.drop k) result.2 := by
  obtain ⟨hregistry, hdevices, ⟨ch, hchannels, hroot, rfl⟩, hfits⟩ := h
  intro k result
  have hfound : s.channels.get? id = some ch := by
    rw [hchannels]
    exact Table.get?_insert_self _ _ _
  have hk : k = min settings.readBatchSize.toNat (ch.pending s.clock).length := by
    show min _ (List.length _) = _
    rw [List.length_map]
  have hall : ∀ frame ∈ (ch.pending s.clock).take k,
      frame.data.length ≤ settings.rxBufferSize.toNat := by
    intro frame hmem
    have hmapped : frame.inBuffer settings.rxBufferSize ∈ (ch.pending s.clock).map _ :=
      List.mem_map_of_mem (List.mem_of_mem_take hmem)
    show (frame.inBuffer settings.rxBufferSize).data.length ≤ _
    exact hfits _ hmapped
  have htake : (ch.pending s.clock).take settings.readBatchSize.toNat =
      (ch.pending s.clock).take k := by rw [hk, List.take_eq_take_min]
  constructor
  · have hanswer := readMsgs_answer (w := w) hfound settings hpos hle settings.defaultTimeoutMs
    dsimp only at hanswer
    rw [← hk, if_pos hall, List.map_take] at hanswer
    exact hanswer
  · obtain ⟨last, hstate⟩ :=
      readMsgs_state (w := w) hfound settings settings.defaultTimeoutMs hpos hle
    have hlength : ((ch.pending s.clock).take k).length = k := by
      rw [List.length_take, hk]
      omega
    rw [htake, fitting_eq_iff.2 hall, hlength] at hstate
    rw [show result.2 = _ from hstate]
    refine ⟨hregistry, hdevices,
      ⟨{ ch with bus := [], rx := (ch.pending s.clock).drop k }, ?_, hroot, ?_⟩, ?_⟩
    · show s.channels.insert id _ = _
      rw [hchannels, Table.insert_insert]
    · rw [Channel.pending_of_bus_nil rfl]
      exact List.map_drop
    · exact fun frame hmem => hfits frame (List.mem_of_mem_drop hmem)

theorem drains_readBatch :
    Monitor.Drains ((⟨driver, settings⟩ : Client w State).readBatch ⟨id⟩)
      (LeftToRead settings.rxBufferSize base id) := by
  constructor
  case batch =>
    intro frames s hleft hne
    obtain ⟨hanswer, hrest⟩ := hleft.readBatch (w := w) hpos hle
    have hk : 0 < min settings.readBatchSize.toNat frames.length :=
      Nat.lt_min.2 ⟨hpos, List.length_pos_iff.2 hne⟩
    rw [if_neg (Nat.ne_of_gt hk)] at hanswer
    exact ⟨_, _, hk, Prod.ext hanswer rfl, hrest⟩
  case quiet =>
    intro s hleft
    obtain ⟨hanswer, hrest⟩ := hleft.readBatch (w := w) hpos hle
    refine ⟨_, _, Prod.ext (hanswer.trans (if_pos (Nat.min_zero _))) rfl, ?_, ?_⟩
    · split <;> rfl
    · rw [List.drop_nil] at hrest
      exact hrest

end Batch

theorem readBatch_oversized {settings : Settings} (hgt : maxNumber < settings.readBatchSize.toNat)
    (id : UInt32) (s : State) :
    (⟨driver, settings⟩ : Client w State).readBatch ⟨id⟩ s =
      (.error (.valueTooLarge "num_msgs" maxNumber settings.readBatchSize.toNat), s) :=
  readMsgs_of_lt settings id settings.defaultTimeoutMs s hgt

/-! ## Following a channel -/

/-- What a monitor records of any channel on which `frames` are left to be read satisfies `P`, and
nothing but that channel is touched. -/
def Follows (w : Width) (settings : Settings) (m : Monitor) (frames : List Message)
    (P : Monitor.Record → Prop) : Prop :=
  ∀ base id s, LeftToRead settings.rxBufferSize base id frames s →
    let result := Monitor.follow ((⟨driver, settings⟩ : Client w State).readBatch ⟨id⟩) m.idleReads
      m.count m.idleReads s
    P result.1 ∧ ∃ rest, LeftToRead settings.rxBufferSize base id rest result.2

theorem follows_batches {settings : Settings} {m : Monitor} (hpos : 0 < settings.readBatchSize.toNat)
    (hle : settings.readBatchSize.toNat ≤ maxNumber) (hidle : 0 < m.idleReads)
    (frames : List Message) :
    Follows w settings m frames (· = { frames := frames.take m.count }) := fun _ _ _ hleft =>
  (drains_readBatch hpos hle).follow hidle hleft fun hzero => absurd hzero (Nat.ne_of_gt hidle)

theorem follows_oversized {settings : Settings} {m : Monitor}
    (hgt : maxNumber < settings.readBatchSize.toNat) (hcount : 0 < m.count)
    (hidle : 0 < m.idleReads) (frames : List Message) :
    Follows w settings m frames (· = .failed
      { cause := .valueTooLarge "num_msgs" maxNumber settings.readBatchSize.toNat }) := by
  intro base id s hleft result
  obtain ⟨wanted, hwanted⟩ := Nat.exists_eq_add_of_lt hcount
  obtain ⟨patience, hpatience⟩ := Nat.exists_eq_add_of_lt hidle
  have hresult : result = (.failed
      { cause := .valueTooLarge "num_msgs" maxNumber settings.readBatchSize.toNat }, s) := by
    show Monitor.follow _ m.idleReads m.count m.idleReads s = _
    rw [hwanted, hpatience, Nat.zero_add, Nat.zero_add, Monitor.follow, readBatch_oversized hgt]
    rfl
  rw [hresult]
  exact ⟨rfl, frames, hleft⟩

/-! ## Leaving things as they were -/

/-- Disconnecting the channel leaves what was there before it, if no channel stood on its handle. -/
theorem LeftToRead.disconnect {size : UInt32} (h : LeftToRead size base id frames s)
    (hfresh : base.channels.get? id = none)
    (horphan : ∀ {k ch}, base.channels.get? k = some ch → ch.parent? ≠ some id) :
    ∃ s', s.disconnect id = .ok s' ∧ s'.Restores base := by
  obtain ⟨ch, hchannels, hroot, -⟩ := h.channels_eq
  have hfound : s.channels.get? id = some ch := by
    rw [hchannels]
    exact Table.get?_insert_self _ _ _
  refine ⟨_, State.disconnect_eq_ok_iff.2 ⟨ch, hfound, hroot, rfl⟩, ?_⟩
  refine State.restores_of_eq h.registry_eq h.devices_eq ?_
  dsimp only
  rw [hchannels, Table.erase_insert hfresh]
  exact Table.filter_eq_self fun hget => bne_iff_ne.2 (horphan hget)

/-- Closing a device leaves what was there before it, if no channel was on its handle. -/
theorem closeDevice_restores {d : UInt32} {device : OpenDevice}
    (hregistry : s.registry = base.registry) (hdevices : s.devices = base.devices.insert d device)
    (hchannels : s.channels = base.channels) (hfresh : base.devices.get? d = none)
    (hunused : ∀ {k ch}, base.channels.get? k = some ch → ch.device ≠ d) :
    ∃ s', s.closeDevice d = .ok s' ∧ s'.Restores base := by
  have hopen : s.devices.contains d = true := by
    rw [hdevices]
    exact Table.contains_iff.2 ⟨device, Table.get?_insert_self _ _ _⟩
  refine ⟨_, State.closeDevice_eq_ok_iff.2 ⟨hopen, rfl⟩, State.restores_of_eq hregistry ?_ ?_⟩
  · dsimp only
    rw [hdevices, Table.erase_insert hfresh]
  · dsimp only
    rw [hchannels]
    exact Table.filter_eq_self fun hget => bne_iff_ne.2 (hunused hget)

/-! ## From the inside out -/

/-- The frames of an interface that can pass a monitor: those of its protocol with a header. -/
def recordedFor (m : Monitor) (interface : Interface) : List Message :=
  interface.traffic.filter fun frame =>
    frame.protocolId = m.bus.protocol.code ∧ m.bus.headerLength ≤ frame.data.length

/-- Frames as they are shown if the clock is at `clock` before the first of them comes in: each has
its time, and room of the same size. -/
def shownFrom (size clock : UInt32) (frames : List Message) : List Message :=
  frames.mapIdx fun i frame =>
    { frame with
      timestamp := UInt32.ofNat (clock.toNat + 1000 * (i + 1))
      bufferSize := size }

/-- The time of the first frame is the next tick, and counting goes on from there. -/
theorem ofNat_ticks (clock : UInt32) (n : Nat) :
    UInt32.ofNat (clock.toNat + 1000 * (n + 1)) = clock + tick + UInt32.ofNat (1000 * n) := by
  rw [Nat.mul_add, Nat.add_comm (1000 * n), ← Nat.add_assoc, UInt32.ofNat_add, UInt32.ofNat_add,
    UInt32.ofNat_toNat]
  rfl

theorem map_stampFrom_inBuffer (size clock : UInt32) (frames : List Message) :
    (stampFrom clock frames).map (Message.inBuffer size) = shownFrom size clock frames := by
  unfold shownFrom
  induction frames generalizing clock with
  | nil => rfl
  | cons frame frames ih =>
    rw [stampFrom, List.map_cons, ih, List.mapIdx_cons]
    refine congrArg₂ List.cons ?_ (congrArg (List.mapIdx · frames) ?_)
    · rw [ofNat_ticks, show UInt32.ofNat (1000 * 0) = 0 from rfl, UInt32.add_zero]
      rfl
    · funext i frame
      rw [ofNat_ticks clock (i + 1), UInt32.ofNat_add, UInt32.ofNat_toNat]

theorem exists_recorded {size clock : UInt32} {frame : Message}
    (h : frame ∈ shownFrom size clock frames) : ∃ recorded ∈ frames, frame.data = recorded.data := by
  obtain ⟨i, hi, heq⟩ := List.mem_mapIdx.1 h
  refine ⟨frames[i], List.getElem_mem hi, ?_⟩
  rw [← heq]

/-- The message that a monitor makes a filter of can be handed over, and a filter can have it. -/
theorem anyFrame_allowed (bus : BusProtocol) :
    bus.anyFrame.Fits ∧ bus.anyFrame.data ≠ [] ∧
      bus.anyFrame.data.length ≤ Filter.maxLength := by
  cases bus <;> decide

theorem rate_ne_zero {m : Monitor} (h : m.baud ≠ some 0) : m.rate ≠ 0 := by
  unfold Monitor.rate
  cases hbaud : m.baud with
  | none => cases m.bus <;> decide
  | some baud =>
    rintro rfl
    exact h hbaud

/-- On the bus of a new channel are the frames of its protocol that were recorded. -/
theorem bus_physicalChannel (d : UInt32) {device : OpenDevice} {interface : Interface}
    (hfind : s.registry.find? device.name = some interface) (protocol : Protocol) (baud : UInt32)
    (pins : List UInt32) :
    (s.physicalChannel d device protocol baud pins).bus =
      interface.traffic.filter fun frame => frame.protocolId == protocol.code := by
  unfold State.physicalChannel
  rw [hfind]

theorem connectRequest_monitor {m : Monitor} {d : UInt32} {device : OpenDevice}
    (hopened : s.devices.get? d = some device)
    (hplugged : s.registry.isConnected device.name = true) (hbaud : m.rate ≠ 0) :
    s.ConnectRequest d m.bus.protocol.code 0 m.rate ⟨Connector.j1962, .ok m.bus.pins⟩ device
      m.bus.protocol m.bus.pins where
  opened := hopened
  plugged := hplugged
  protocol_eq := by cases m.bus <;> rfl
  physical := by cases m.bus <;> rfl
  flags_defined := rfl
  baud_ne := hbaud
  pins_eq := rfl
  connector_eq := rfl
  nonempty := by cases m.bus <;> decide
  isPin := List.all_eq_true.1 (by cases m.bus <;> rfl)

section Inside

variable {settings : Settings} {m : Monitor} {P : Monitor.Record → Prop}
  (hfollows : Follows w settings m (shownFrom settings.rxBufferSize s.clock frames) P)
  (hfits : ∀ frame ∈ frames, frame.data.length ≤ settings.rxBufferSize.toNat)

include hfollows hfits

/-- On a channel without a filter a monitor follows what is on the bus and has a header. -/
theorem onChannel_follows {ch : Channel} (hregistry : s.registry = base.registry)
    (hdevices : s.devices = base.devices) (hchannels : s.channels = base.channels.insert id ch)
    (hroot : ch.parent? = none) (hfilters : ch.filters = .empty) (hrx : ch.rx = [])
    (hprotocol : ch.protocol = m.bus.protocol)
    (hbus : frames = ch.bus.filter fun frame => decide (m.bus.headerLength ≤ frame.data.length)) :
    let result := m.onChannel (⟨driver, settings⟩ : Client w State) ⟨id⟩ s
    P result.1 ∧ ∃ rest, LeftToRead settings.rxBufferSize base id rest result.2 := by
  obtain ⟨hfitting, hsome, hlength⟩ := anyFrame_allowed m.bus
  have hheader : m.bus.anyFrame.protocolId = ch.protocol.code := by
    rw [hprotocol]
    rfl
  have hfound : s.channels.get? id = some ch := by
    rw [hchannels]
    exact Table.get?_insert_self _ _ _
  let passing := ch.withFilter (nextHandle s.issued.filters)
    ⟨.pass, m.bus.anyFrame.data, m.bus.anyFrame.data⟩
  let started : State :=
    { s.setChannel id passing with issued := { s.issued with filters := s.issued.filters + 1 } }
  have hleft : LeftToRead settings.rxBufferSize base id
      (shownFrom settings.rxBufferSize s.clock frames) started := by
    refine ⟨hregistry, hdevices, ⟨passing, ?_, hroot, ?_⟩, fun frame hmem => ?_⟩
    · show s.channels.insert id passing = _
      rw [hchannels, Table.insert_insert]
    · have hadmitted : passing.admitted = frames := by
        rw [hbus]
        exact List.filter_congr fun frame _ => admits_header hfilters frame
      show (ch.rx ++ stampFrom s.clock passing.admitted).map _ = _
      rw [hrx, List.nil_append, hadmitted, map_stampFrom_inBuffer]
    · obtain ⟨recorded, hrecorded, hdata⟩ := exists_recorded hmem
      rw [hdata]
      exact hfits recorded hrecorded
  have hfollow : m.onChannel (⟨driver, settings⟩ : Client w State) ⟨id⟩ s =
      Monitor.follow ((⟨driver, settings⟩ : Client w State).readBatch ⟨id⟩) m.idleReads m.count
        m.idleReads started := by
    unfold Monitor.onChannel
    rw [ask_startMsgFilter_first settings hfound hfilters hfitting hheader hsome hlength]
  intro result
  rw [show result = _ from hfollow]
  exact hfollows _ _ _ hleft

/-- On a device without channels and powered pins a monitor follows what was recorded for it, and
leaves it as it was. -/
theorem onDevice_follows {d : UInt32} {device : OpenDevice} {interface : Interface}
    (hopened : s.devices.get? d = some device) (hpins : device.pins = .empty)
    (hfind : s.registry.find? device.name = some interface) (hconnected : interface.connected = true)
    (hbaud : m.rate ≠ 0)
    (hunused : ∀ {k ch}, s.channels.get? k = some ch → ch.device ≠ d)
    (hfresh : s.channels.get? (nextHandle s.issued.channels) = none)
    (horphan : ∀ {k ch}, s.channels.get? k = some ch →
      ch.parent? ≠ some (nextHandle s.issued.channels))
    (hframes : frames = recordedFor m interface) :
    let result := m.onDevice (⟨driver, settings⟩ : Client w State) ⟨d⟩ s
    P result.1 ∧ result.2.Restores s := by
  let ch := s.physicalChannel d device m.bus.protocol m.rate m.bus.pins
  have hplugged : s.registry.isConnected device.name = true := by
    unfold Registry.isConnected
    rw [hfind]
    exact hconnected
  have hconnect : s.connect d m.bus.protocol.code 0 m.rate ⟨Connector.j1962, .ok m.bus.pins⟩ true =
      .ok (s.addChannel ch) := by
    rw [State.connect_eq (connectRequest_monitor hopened hplugged hbaud), if_neg,
      if_neg]
    · rw [hpins, List.any_eq_true]
      rintro ⟨pin, -, hpowered⟩
      cases hpowered
    · rw [List.any_eq_true]
      rintro ⟨pin, -, hused⟩
      obtain ⟨k, other, hother, hdevice, -⟩ := State.taken_iff.2 hused
      exact hunused hother hdevice
  let id := nextHandle s.issued.channels
  let connected : State := (s.addChannel ch).2
  let client : Client w State := ⟨driver, settings⟩
  have hask : client.ask (.connect ⟨d⟩ m.bus.protocol 0 m.rate (.j1962 m.bus.pins)) s =
      (.ok ⟨id⟩, connected) :=
    ask_connect_of_ok settings (by cases m.bus <;> decide) hconnect
  have hbus : frames =
      ch.bus.filter fun frame => decide (m.bus.headerLength ≤ frame.data.length) := by
    rw [hframes, bus_physicalChannel d hfind m.bus.protocol m.rate m.bus.pins, List.filter_filter]
    refine List.filter_congr fun frame _ => ?_
    rw [Bool.decide_and, Bool.and_comm]
    rfl
  obtain ⟨hrecord, rest, hleft⟩ := onChannel_follows (s := connected) hfollows hfits
    (show connected.registry = s.registry from rfl) (show connected.devices = s.devices from rfl)
    (show connected.channels = s.channels.insert id ch from rfl) rfl rfl rfl rfl hbus
  obtain ⟨s', hdisconnect, hrestores⟩ := hleft.disconnect hfresh horphan
  have hreleased : client.ask (.disconnect ⟨id⟩) (m.onChannel client ⟨id⟩ connected).2 =
      (.ok (), s') := ask_disconnect_of_ok settings hdisconnect
  have hresult : m.onDevice client ⟨d⟩ s = ((m.onChannel client ⟨id⟩ connected).1, s') := by
    unfold Monitor.onDevice
    rw [hask]
    dsimp only
    rw [hreleased]
  intro result
  rw [show result = _ from hresult]
  exact ⟨hrecord, hrestores⟩

/-- What was recorded for an interface that can be opened is followed, and all is left as it was. -/
theorem run_follows (h : Reachable w s) (hleft : HandlesLeft s) {interface : Interface}
    (hmem : interface ∈ s.registry) (hname : interface.name = m.device) (hsome : m.device ≠ "")
    (hconnected : interface.connected = true) (hclosed : s.isOpen m.device = false)
    (hbaud : m.baud ≠ some 0) (hframes : frames = recordedFor m interface) :
    let result := m.run (⟨driver, settings⟩ : Client w State) s
    P result.1 ∧ result.2.Restores s := by
  let client : Client w State := ⟨driver, settings⟩
  let d := nextHandle s.issued.devices
  let opened : State :=
    { s with
      devices := s.devices.insert d { name := m.device }
      issued := { s.issued with devices := s.issued.devices + 1 } }
  have hnames := reachable_nodup_names h
  have hfind : s.registry.find? m.device = some interface := by
    rw [← hname]
    exact Registry.find?_of_mem hnames hmem
  have hplugged : s.registry.isConnected m.device = true := by
    rw [← hname, Registry.isConnected_of_mem hnames hmem]
    exact hconnected
  have hnul : '\x00' ∉ m.device.toList := by
    rw [← hname]
    exact reachable_nulFree h interface hmem
  have hask : client.ask (.openDevice (some m.device)) s = (.ok ⟨d⟩, opened) :=
    ask_openDevice_of_ok settings hnul
      (State.openDevice_eq_ok_iff.2 ⟨⟨hsome, hplugged, hclosed⟩, rfl, rfl⟩)
  -- no channel is on the handle of the device, or on that of the channel that is connected next
  have hissued : s.issued.channels < UInt32.size := Nat.lt_of_lt_pred hleft.channels
  have htopology := reachable_topology h hissued
  obtain ⟨hdevice, hchannel⟩ := reachable_fresh h (Nat.lt_of_lt_pred hleft.devices) hissued
  have hunused {k : UInt32} {ch : Channel} (hget : s.channels.get? k = some ch) :
      ch.device ≠ d := by
    rintro hsame
    obtain ⟨device, hopen⟩ := htopology.device_open hget
    rw [hsame, hdevice] at hopen
    cases hopen
  have horphan {k : UInt32} {ch : Channel} (hget : s.channels.get? k = some ch) :
      ch.parent? ≠ some (nextHandle s.issued.channels) := by
    intro hparent
    obtain ⟨-, -, parent, hopen, -⟩ := htopology.logical hget hparent
    rw [hchannel] at hopen
    cases hopen
  obtain ⟨hrecord, hrestores⟩ := onDevice_follows (s := opened) hfollows hfits
    (Table.get?_insert_self _ _ _) rfl hfind hconnected (rate_ne_zero hbaud) hunused hchannel horphan
    hframes
  obtain ⟨hregistry, hdevices, hchannels⟩ := hrestores.fields
  obtain ⟨s', hclose, hback⟩ := closeDevice_restores (hregistry.trans (show _ = s.registry from rfl))
    (hdevices.trans (show _ = s.devices.insert d { name := m.device } from rfl)) hchannels hdevice
    hunused
  have hreleased : client.ask (.closeDevice ⟨d⟩) (m.onDevice client ⟨d⟩ opened).2 = (.ok (), s') :=
    ask_closeDevice_of_ok settings hclose
  have hresult : m.run client s = ((m.onDevice client ⟨d⟩ opened).1, s') := by
    unfold Monitor.run
    rw [hask]
    dsimp only
    rw [hreleased]
  intro result
  rw [show result = _ from hresult]
  exact ⟨hrecord, hback⟩

end Inside

/-- **What a monitor shows.** Let an interface with a name be plugged in and not open in a reachable
state with handles left. A monitor of one of its protocols at some bit rate succeeds and prints a
line for each of the first `count` frames that are recorded for the interface, of this protocol and
with a header, in order, if all of these fit the buffers: every frame as it was recorded, but for its
time, which is a thousand times its number after the clock, modulo `2 ^ 32`, and for the size of its
buffer. The size of the batches, the timeout and the patience leave no trace in the lines. Afterwards
the devices and channels are as they were. -/
theorem monitor_shows_traffic (h : Reachable w s) (hleft : HandlesLeft s) {m : Monitor}
    {interface : Interface} (hmem : interface ∈ s.registry) (hname : interface.name = m.device)
    (hsome : m.device ≠ "") (hconnected : interface.connected = true)
    (hclosed : s.isOpen m.device = false) (hbaud : m.baud ≠ some 0) (hidle : 1 ≤ m.idleReads)
    {settings : Settings} (hpos : 1 ≤ settings.readBatchSize.toNat)
    (hle : settings.readBatchSize.toNat ≤ UInt32.size - 1)
    (hfits : ∀ frame ∈ recordedFor m interface,
      frame.data.length ≤ settings.rxBufferSize.toNat) (json : Bool) :
    let shown := shownFrom settings.rxBufferSize s.clock (recordedFor m interface)
    let (printed, s') := CommandLine.monitor (⟨driver, settings⟩ : Client w State) m json s
    printed.result = .ok () ∧
      printed.lines = (shown.take m.count).map (fun frame =>
        if json then (toJson frame).compact else CommandLine.frameLine frame) ∧
      s'.Restores s := by
  obtain ⟨hrecord, hrestores⟩ := run_follows (follows_batches hpos hle hidle _) hfits h hleft hmem
    hname hsome hconnected hclosed hbaud rfl
  intro shown
  unfold CommandLine.monitor
  dsimp only
  rw [hrecord]
  exact ⟨rfl, rfl, hrestores⟩

/-- A second interface is monitored after the two frames of `Event.twoFrames` were read: the clock
is at 2000. One of its frames has no header, another is of another protocol, and of the other three
the first two are shown, read one at a time. -/
theorem monitor_shows_traffic_twoFrames :
    let can (data : List UInt8) : Message := { protocolId := Protocol.can.code, data }
    let vehicle : Interface :=
      { name := "vehicle"
        traffic := [can [1, 2], can [0, 0, 7, 0xE8, 1], { data := [0, 0, 7, 0xE8, 2] },
          can [0, 0, 7, 0xE8, 3], can [0, 0, 7, 0xE8, 4]] }
    let reading : Call .w64 := readCall .w64 16 1 2 0
    let s := (State.start 1).run (Event.twoFrames ++ [.call reading, .register vehicle])
    let m : Monitor := { device := "vehicle", count := 2 }
    let settings : Settings := { readBatchSize := 1 }
    let result := CommandLine.monitor (⟨driver, settings⟩ : Client .w64 State) m false s
    Reachable .w64 s ∧ s.clock = 2000 ∧ result.1.result = .ok () ∧
      result.1.lines = ["      3000 RX 00 00 07 E8 01", "      4000 RX 00 00 07 E8 03"] ∧
      result.2.Restores s := by
  intro can vehicle reading s m settings result
  have hreachable : Reachable .w64 s := ⟨1, _, rfl⟩
  have hleft : HandlesLeft s := ⟨by decide, by decide, by decide, by decide⟩
  have hmem : vehicle ∈ s.registry := by decide
  have hpos : 1 ≤ settings.readBatchSize.toNat := by decide
  obtain ⟨hresult, hlines, hrestores⟩ := monitor_shows_traffic hreachable hleft (m := m) hmem rfl
    (by decide) rfl (by decide) (by decide) (by decide) hpos (by decide) (by decide) false
  have hshown : (shownFrom settings.rxBufferSize s.clock (recordedFor m vehicle)).take m.count =
      [{ can [0, 0, 7, 0xE8, 1] with timestamp := 3000, bufferSize := 4128 },
        { can [0, 0, 7, 0xE8, 3] with timestamp := 4000, bufferSize := 4128 }] := by decide
  rw [hshown] at hlines
  exact ⟨hreachable, by decide, hresult, hlines.trans (by decide), hrestores⟩

/-- An interface without a name can be registered but not opened, and no read can ask for more
frames than a native count can say. Where a frame is shown, its buffer is that of the client. -/
theorem monitor_fails :
    let frame : Message := { protocolId := Protocol.can.code, data := [0, 0, 7, 0xE8, 1] }
    let interface (name : String) : Interface := { name, traffic := [frame] }
    let s (name : String) : State := (State.start 0).run [(.register (interface name) : Event .w64)]
    let monitored (name : String) (readBatchSize : UInt64) : Monitor.Record :=
      (Monitor.run { device := name } (⟨driver, { readBatchSize }⟩ : Client .w64 State) (s name)).1
    (∀ name ∈ ["", "vehicle"], Reachable .w64 (s name) ∧ HandlesLeft (s name) ∧
        interface name ∈ (s name).registry ∧ (s name).isOpen name = false ∧
        recordedFor { device := name } (interface name) = [frame]) ∧
      (monitored "" 16).result =
        .error { doing := ["failed to open "], cause := .vendor .nullParameter } ∧
      (monitored "vehicle" 4294967296).result =
        .error { cause := .valueTooLarge "num_msgs" 4294967295 4294967296 } ∧
      (monitored "vehicle" 16).frames =
        [{ frame with timestamp := 1000, bufferSize := 4128 }] := by
  intro frame interface s monitored
  have hstate : ∀ name ∈ ["", "vehicle"], Reachable .w64 (s name) ∧ HandlesLeft (s name) ∧
      interface name ∈ (s name).registry ∧ (s name).isOpen name = false ∧
      recordedFor { device := name } (interface name) = [frame] := by
    intro name hname
    refine ⟨⟨0, _, rfl⟩, ?_⟩
    rcases List.mem_pair.1 hname with rfl | rfl
    · exact ⟨⟨by decide, by decide, by decide, by decide⟩, by decide, by decide, by decide⟩
    · exact ⟨⟨by decide, by decide, by decide, by decide⟩, by decide, by decide, by decide⟩
  obtain ⟨hreachable, hleft, hmem, hclosed, hrecorded⟩ := hstate "vehicle" (by decide)
  have hfits (settings : Settings) (hsize : settings.rxBufferSize = 4128) :
      ∀ frame ∈ recordedFor { device := "vehicle" } (interface "vehicle"),
        frame.data.length ≤ settings.rxBufferSize.toNat := by
    rw [hrecorded, hsize]
    decide
  have hlarge : monitored "vehicle" 4294967296 = .failed
      { cause := .valueTooLarge "num_msgs" 4294967295 4294967296 } :=
    (run_follows (follows_oversized (by decide) (by decide) (by decide) _)
      (hfits { readBatchSize := 4294967296 } rfl) hreachable hleft hmem rfl (by decide) rfl hclosed
      (by decide) rfl).1
  have hrun := (run_follows (follows_batches (by decide) (by decide) (by decide) _)
    (hfits { readBatchSize := 16 } rfl) hreachable hleft hmem rfl (by decide) rfl hclosed
    (by decide) rfl).1
  refine ⟨hstate, rfl, ?_, ?_⟩
  · rw [hlarge]
    rfl
  · show (Monitor.run _ _ _).1.frames = _
    rw [hrun, hrecorded]
    decide

end Emulator

end PassThru
