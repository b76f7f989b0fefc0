import PassThru.Proofs.Emulator.Wiring

/-!
# Devices, channels, and channels on channels

`Topology` says how the open devices, the registry and the channels of a state fit together. Its
clauses hold together only: closing a device takes the logical channels of its channels along
because a logical channel is on the device of its parent, and disconnecting takes exactly the
channels that would lose their parent.

Each way in which a step touches devices or channels has its lemma (`Topology.opened`,
`Topology.connected` and so on); `reachable_topology` puts them together.
-/

namespace PassThru.Emulator

/-! ## Names in the registry -/

/-- Whether an interface of a name is registered, plugged in or not. -/
def Registry.Registered (registry : Registry) (name : String) : Prop :=
  ∃ interface ∈ registry, interface.name = name

theorem Registry.registered_of_isConnected {registry : Registry} {name : String}
    (h : registry.isConnected name = true) : registry.Registered name := by
  unfold isConnected at h
  rw [Option.any_eq_true] at h
  obtain ⟨interface, hfind, -⟩ := h
  unfold find? at hfind
  exact ⟨interface, List.mem_of_find?_eq_some hfind, by simpa using List.find?_some hfind⟩

theorem Registry.Registered.register {registry : Registry} {name : String}
    (h : registry.Registered name) (interface : Interface) :
    (registry.register interface).Registered name := by
  obtain ⟨old, hmem, rfl⟩ := h
  unfold Registry.register
  by_cases hname : old.name = interface.name
  · exact ⟨interface, List.mem_append_right _ List.mem_cons_self, hname.symm⟩
  · refine ⟨old, List.mem_append_left _ (List.mem_filter.2 ⟨hmem, ?_⟩), rfl⟩
    exact bne_iff_ne.2 hname

theorem Registry.Registered.unplug {registry : Registry} {name : String}
    (h : registry.Registered name) (unplugged : String) :
    (registry.unplug unplugged).Registered name := by
  obtain ⟨interface, hmem, hname⟩ := h
  refine ⟨_, List.mem_map_of_mem hmem, ?_⟩
  split
  · exact hname
  · exact hname

/-! ## The topology of a state -/

/-- How devices, the registry and channels fit together. -/
structure Topology (s : State) : Prop where
  /-- A channel is on an open device. -/
  device_open : ∀ {id ch}, s.channels.get? id = some ch →
    ∃ device, s.devices.get? ch.device = some device
  /-- An open device is the device of a registered interface. -/
  device_registered : ∀ {id device}, s.devices.get? id = some device →
    s.registry.Registered device.name
  /-- Different open devices have different names. -/
  names_unique : ∀ {id₁ id₂ device₁ device₂}, s.devices.get? id₁ = some device₁ →
    s.devices.get? id₂ = some device₂ → device₁.name = device₂.name → id₁ = id₂
  /-- A channel with a parent is a logical channel without pins, on a CAN channel of the same device
  that has no parent itself. -/
  logical : ∀ {id ch p}, s.channels.get? id = some ch → ch.parent? = some p →
    ch.protocol = .iso15765Logical ∧ ch.pins = [] ∧
      ∃ parent, s.channels.get? p = some parent ∧ parent.device = ch.device ∧
        parent.parent? = none ∧ parent.protocol = .can
  /-- A channel without a parent has a physical protocol and pins of the diagnostic connector. -/
  physical : ∀ {id ch}, s.channels.get? id = some ch → ch.parent? = none →
    ch.protocol.isLogical = false ∧ ch.pins ≠ [] ∧ ∀ pin ∈ ch.pins, 1 ≤ pin ∧ pin ≤ 16
  /-- A channel has at most ten logical channels. -/
  siblings_le : ∀ p, (s.logicalChannelsOn p).length ≤ 10
  /-- Different logical channels of one channel have different pairs of addresses. -/
  siblings_unique : ∀ {id₁ id₂ ch₁ ch₂ p}, s.channels.get? id₁ = some ch₁ →
    s.channels.get? id₂ = some ch₂ → ch₁.parent? = some p → ch₂.parent? = some p →
    ch₁.addresses? = ch₂.addresses? → id₁ = id₂

/-- Every channel has a handle that was issued. -/
def HandlesIssued (s : State) : Prop :=
  ∀ id ch, s.channels.get? id = some ch → id.toNat ≤ s.issued.channels

/-- Every open device has a handle that was issued. -/
def DevicesIssued (s : State) : Prop :=
  ∀ id device, s.devices.get? id = some device → id.toNat ≤ s.issued.devices

theorem topology_start (n : Nat) : Topology (State.start n) where
  device_open h := by cases h
  device_registered h := by cases h
  names_unique h := by cases h
  logical h := by cases h
  physical h := by cases h
  siblings_le p := Nat.zero_le _
  siblings_unique h := by cases h

variable {s s' : State}

theorem HandlesIssued.get?_nextHandle (h : HandlesIssued s)
    (hbound : s.issued.channels + 1 < UInt32.size) :
    s.channels.get? (nextHandle s.issued.channels) = none := by
  cases hget : s.channels.get? (nextHandle s.issued.channels) with
  | none => rfl
  | some ch =>
    have hle := h _ _ hget
    rw [toNat_nextHandle hbound] at hle
    omega

theorem DevicesIssued.get?_nextHandle (h : DevicesIssued s)
    (hbound : s.issued.devices + 1 < UInt32.size) :
    s.devices.get? (nextHandle s.issued.devices) = none := by
  cases hget : s.devices.get? (nextHandle s.issued.devices) with
  | none => rfl
  | some device =>
    have hle := h _ _ hget
    rw [toNat_nextHandle hbound] at hle
    omega

namespace Topology

/-! ## Steps that leave the wiring alone -/

/-- The topology depends on the registry and the devices only through names, and on the channels
only through their wiring. -/
theorem of_sameWiring (h : Topology s) (hwiring : s.SameWiring s')
    (hregistry : ∀ {name}, s.registry.Registered name → s'.registry.Registered name)
    (hdevices : ∀ id, (s'.devices.get? id).map OpenDevice.name =
      (s.devices.get? id).map OpenDevice.name) : Topology s' := by
  have hbefore : ∀ {id device}, s'.devices.get? id = some device →
      ∃ old, s.devices.get? id = some old ∧ old.name = device.name := by
    intro id device hget
    have hid := hdevices id
    rw [hget, Option.map_some, eq_comm, Option.map_eq_some_iff] at hid
    exact hid
  constructor
  case device_open =>
    intro id ch' hget
    obtain ⟨ch, hch, hwire⟩ := hwiring.exists_before hget
    obtain ⟨device, hdevice⟩ := h.device_open hch
    have hid := hdevices ch.device
    rw [hdevice, Option.map_some, Option.map_eq_some_iff] at hid
    obtain ⟨device', hdevice', -⟩ := hid
    rw [Channel.device_eq_of_wiring hwire]
    exact ⟨device', hdevice'⟩
  case device_registered =>
    intro id device hget
    obtain ⟨old, hold, hname⟩ := hbefore hget
    rw [← hname]
    exact hregistry (h.device_registered hold)
  case names_unique =>
    intro id₁ id₂ device₁ device₂ hget₁ hget₂ hname
    obtain ⟨old₁, hold₁, hname₁⟩ := hbefore hget₁
    obtain ⟨old₂, hold₂, hname₂⟩ := hbefore hget₂
    exact h.names_unique hold₁ hold₂ (by rw [hname₁, hname₂, hname])
  case logical =>
    intro id ch' p hget hparent
    obtain ⟨ch, hch, hwire⟩ := hwiring.exists_before hget
    rw [Channel.parent?_eq_of_wiring hwire] at hparent
    obtain ⟨hprotocol, hpins, parent, hp, hdevice, hroot, hcan⟩ := h.logical hch hparent
    obtain ⟨parent', hp', hwire'⟩ := hwiring.exists_after hp
    refine ⟨?_, ?_, parent', hp', ?_, ?_, ?_⟩
    · rw [Channel.protocol_eq_of_wiring hwire, hprotocol]
    · rw [Channel.pins_eq_of_wiring hwire, hpins]
    · rw [Channel.device_eq_of_wiring hwire', Channel.device_eq_of_wiring hwire, hdevice]
    · rw [Channel.parent?_eq_of_wiring hwire', hroot]
    · rw [Channel.protocol_eq_of_wiring hwire', hcan]
  case physical =>
    intro id ch' hget hparent
    obtain ⟨ch, hch, hwire⟩ := hwiring.exists_before hget
    rw [Channel.parent?_eq_of_wiring hwire] at hparent
    rw [Channel.protocol_eq_of_wiring hwire, Channel.pins_eq_of_wiring hwire]
    exact h.physical hch hparent
  case siblings_le =>
    intro p
    rw [hwiring.length_logicalChannelsOn]
    exact h.siblings_le p
  case siblings_unique =>
    intro id₁ id₂ ch₁ ch₂ p hget₁ hget₂ hparent₁ hparent₂ haddresses
    obtain ⟨old₁, hold₁, hwire₁⟩ := hwiring.exists_before hget₁
    obtain ⟨old₂, hold₂, hwire₂⟩ := hwiring.exists_before hget₂
    rw [Channel.parent?_eq_of_wiring hwire₁] at hparent₁
    rw [Channel.parent?_eq_of_wiring hwire₂] at hparent₂
    rw [Channel.addresses?_eq_of_wiring hwire₁, Channel.addresses?_eq_of_wiring hwire₂] at haddresses
    exact h.siblings_unique hold₁ hold₂ hparent₁ hparent₂ haddresses

/-! ## Opening a device -/

theorem opened (h : Topology s) {name : String} (hplugged : s.registry.isConnected name = true)
    (hclosed : s.isOpen name = false) (id : UInt32) (issued : Issued) :
    Topology { s with devices := s.devices.insert id { name }, issued } := by
  -- no open device has the new name
  have hnew : ∀ {k device}, s.devices.get? k = some device → device.name ≠ name := by
    intro k device hget hname
    have hopen : s.isOpen name = true := State.isOpen_iff.2 ⟨k, device, hget, hname⟩
    rw [hclosed] at hopen
    cases hopen
  constructor
  case device_open =>
    intro k ch hget
    obtain ⟨device, hdevice⟩ := h.device_open hget
    by_cases hk : ch.device = id
    · exact ⟨{ name }, by rw [hk]; exact Table.get?_insert_self _ _ _⟩
    · exact ⟨device, by rw [Table.get?_insert_of_ne _ _ hk]; exact hdevice⟩
  case device_registered =>
    intro k device hget
    rcases Table.get?_insert_cases hget with ⟨-, rfl⟩ | ⟨-, hold⟩
    · exact Registry.registered_of_isConnected hplugged
    · exact h.device_registered hold
  case names_unique =>
    intro k₁ k₂ device₁ device₂ hget₁ hget₂ hname
    rcases Table.get?_insert_cases hget₁ with ⟨rfl, rfl⟩ | ⟨-, hold₁⟩ <;>
      rcases Table.get?_insert_cases hget₂ with ⟨rfl, rfl⟩ | ⟨-, hold₂⟩
    · rfl
    · exact absurd hname.symm (hnew hold₂)
    · exact absurd hname (hnew hold₁)
    · exact h.names_unique hold₁ hold₂ hname
  case logical => exact h.logical
  case physical => exact h.physical
  case siblings_le => exact h.siblings_le
  case siblings_unique => exact h.siblings_unique

/-! ## Connecting a channel -/

/-- A channel can be added under a handle that is not in use, if the clauses hold of it. -/
theorem addChannel (h : Topology s) {ch : Channel}
    (hfresh : s.channels.get? (nextHandle s.issued.channels) = none)
    (hdevice : ∃ device, s.devices.get? ch.device = some device)
    (hlogical : ∀ {p}, ch.parent? = some p →
      ch.protocol = .iso15765Logical ∧ ch.pins = [] ∧
        ∃ parent, s.channels.get? p = some parent ∧ parent.device = ch.device ∧
          parent.parent? = none ∧ parent.protocol = .can)
    (hphysical : ch.parent? = none →
      ch.protocol.isLogical = false ∧ ch.pins ≠ [] ∧ ∀ pin ∈ ch.pins, 1 ≤ pin ∧ pin ≤ 16)
    (hroom : ∀ {p}, ch.parent? = some p → (s.logicalChannelsOn p).length < 10)
    (hunique : ∀ {p}, ch.parent? = some p →
      ∀ other ∈ s.logicalChannelsOn p, other.addresses? ≠ ch.addresses?) :
    Topology (s.addChannel ch).2 := by
  -- a channel that was there is found where it was
  have hkept : ∀ {p parent}, s.channels.get? p = some parent →
      (s.addChannel ch).2.channels.get? p = some parent := by
    intro p parent hp
    have hne : p ≠ nextHandle s.issued.channels := by
      rintro rfl
      rw [hfresh] at hp
      cases hp
    exact (Table.get?_insert_of_ne _ _ hne).trans hp
  have hsibling : ∀ {k other p}, s.channels.get? k = some other → other.parent? = some p →
      ch.parent? = some p → other.addresses? ≠ ch.addresses? := by
    intro k other p hget hother hparent
    exact hunique hparent other (State.mem_logicalChannelsOn.2 ⟨k, hget, hother⟩)
  constructor
  case device_open =>
    intro k c hget
    rcases Table.get?_insert_cases hget with ⟨-, rfl⟩ | ⟨-, hold⟩
    · exact hdevice
    · exact h.device_open hold
  case device_registered => exact h.device_registered
  case names_unique => exact h.names_unique
  case logical =>
    intro k c p hget hparent
    have hclause : c.protocol = .iso15765Logical ∧ c.pins = [] ∧
        ∃ parent, s.channels.get? p = some parent ∧ parent.device = c.device ∧
          parent.parent? = none ∧ parent.protocol = .can := by
      rcases Table.get?_insert_cases hget with ⟨-, rfl⟩ | ⟨-, hold⟩
      · exact hlogical hparent
      · exact h.logical hold hparent
    obtain ⟨hprotocol, hpins, parent, hp, hrest⟩ := hclause
    exact ⟨hprotocol, hpins, parent, hkept hp, hrest⟩
  case physical =>
    intro k c hget hparent
    rcases Table.get?_insert_cases hget with ⟨-, rfl⟩ | ⟨-, hold⟩
    · exact hphysical hparent
    · exact h.physical hold hparent
  case siblings_le =>
    intro p
    have hcount := Table.countP_values_insert_fresh (fun c => c.parent? == some p) ch hfresh
    rw [← State.length_logicalChannelsOn] at hcount
    rw [State.length_logicalChannelsOn]
    show (s.channels.insert _ ch).values.countP _ ≤ 10
    rw [hcount]
    have hle := h.siblings_le p
    split
    · next hparent =>
      have := hroom (beq_iff_eq.1 hparent)
      omega
    · omega
  case siblings_unique =>
    intro k₁ k₂ c₁ c₂ p hget₁ hget₂ hparent₁ hparent₂ haddresses
    rcases Table.get?_insert_cases hget₁ with ⟨rfl, rfl⟩ | ⟨-, hold₁⟩ <;>
      rcases Table.get?_insert_cases hget₂ with ⟨rfl, rfl⟩ | ⟨-, hold₂⟩
    · rfl
    · exact absurd haddresses.symm (hsibling hold₂ hparent₂ hparent₁)
    · exact absurd haddresses (hsibling hold₁ hparent₁ hparent₂)
    · exact h.siblings_unique hold₁ hold₂ hparent₁ hparent₂ haddresses

theorem connected (h : Topology s) (hissued : HandlesIssued s)
    (hbound : s.issued.channels + 1 < UInt32.size) {deviceId protocolId flags baud : UInt32}
    {request : PinRequest} {device : OpenDevice} {protocol : Protocol} {pins : List UInt32}
    (hrequest : s.ConnectRequest deviceId protocolId flags baud request device protocol pins) :
    Topology (s.addChannel (s.physicalChannel deviceId device protocol baud pins)).2 := by
  refine h.addChannel (hissued.get?_nextHandle hbound) ⟨device, hrequest.opened⟩ ?_ ?_ ?_ ?_
  · intro p hparent
    cases hparent
  · intro _
    exact ⟨hrequest.physical, hrequest.nonempty, fun pin hpin => isPin_iff.1 (hrequest.isPin pin hpin)⟩
  · intro p hparent
    cases hparent
  · intro p hparent
    cases hparent

theorem logicalConnected (h : Topology s) (hissued : HandlesIssued s)
    (hbound : s.issued.channels + 1 < UInt32.size) {physical : UInt32} {parent : Channel}
    {localAddress remoteAddress : Address} (hfound : s.channels.get? physical = some parent)
    (hroot : parent.parent? = none) (hcan : parent.protocol = .can)
    (hunique : ∀ ch ∈ s.logicalChannelsOn physical,
      ch.addresses? ≠ some (localAddress, remoteAddress))
    (hroom : (s.logicalChannelsOn physical).length < maxLogicalChannels) :
    Topology (s.addChannel
      { device := parent.device
        protocol := .iso15765Logical
        attachment := .logical physical localAddress remoteAddress }).2 := by
  have hdevice : ∃ device, s.devices.get? parent.device = some device := h.device_open hfound
  refine h.addChannel (hissued.get?_nextHandle hbound) hdevice ?_ ?_ ?_ ?_
  · intro p hparent
    cases hparent
    exact ⟨rfl, rfl, parent, hfound, rfl, hroot, hcan⟩
  · intro hparent
    cases hparent
  · intro p hparent
    cases hparent
    exact hroom
  · intro p hparent
    cases hparent
    exact hunique

/-! ## Removing channels -/

/-- Devices can be closed and channels removed as long as no channel that stays loses its device or
its parent. -/
theorem remove (h : Topology s) {devices : Table OpenDevice} {keep : UInt32 → Channel → Bool}
    (hdevices : ∀ {id device}, devices.get? id = some device → s.devices.get? id = some device)
    (hopen : ∀ {id ch}, s.channels.get? id = some ch → keep id ch = true →
      ∃ device, devices.get? ch.device = some device)
    (hparent : ∀ {id ch p parent}, s.channels.get? id = some ch → keep id ch = true →
      ch.parent? = some p → s.channels.get? p = some parent → parent.device = ch.device →
      parent.parent? = none → keep p parent = true) :
    Topology { s with devices, channels := s.channels.filter keep } := by
  constructor
  case device_open =>
    intro id ch hget
    obtain ⟨hold, hkeep⟩ := Table.get?_filter_eq_some_iff.1 hget
    exact hopen hold hkeep
  case device_registered =>
    intro id device hget
    exact h.device_registered (hdevices hget)
  case names_unique =>
    intro id₁ id₂ device₁ device₂ hget₁ hget₂
    exact h.names_unique (hdevices hget₁) (hdevices hget₂)
  case logical =>
    intro id ch p hget hp
    obtain ⟨hold, hkeep⟩ := Table.get?_filter_eq_some_iff.1 hget
    obtain ⟨hprotocol, hpins, parent, hparent', hdevice, hroot, hcan⟩ := h.logical hold hp
    refine ⟨hprotocol, hpins, parent, Table.get?_filter_eq_some_iff.2 ⟨hparent', ?_⟩, hdevice,
      hroot, hcan⟩
    exact hparent hold hkeep hp hparent' hdevice hroot
  case physical =>
    intro id ch hget
    exact h.physical (Table.get?_filter_eq_some_iff.1 hget).1
  case siblings_le =>
    intro p
    have hle := Table.countP_values_filter_le (fun ch => ch.parent? == some p) s.channels keep
    rw [← State.length_logicalChannelsOn] at hle
    rw [State.length_logicalChannelsOn]
    exact Nat.le_trans hle (h.siblings_le p)
  case siblings_unique =>
    intro id₁ id₂ ch₁ ch₂ p hget₁ hget₂
    exact h.siblings_unique (Table.get?_filter_eq_some_iff.1 hget₁).1
      (Table.get?_filter_eq_some_iff.1 hget₂).1

theorem closed (h : Topology s) (id : UInt32) :
    Topology { s with
      devices := s.devices.erase id
      channels := s.channels.filter fun _ ch => ch.device != id } := by
  refine h.remove ?_ ?_ ?_
  · intro k device hget
    exact (Table.get?_erase_eq_some_iff.1 hget).1
  · intro k ch hget hkeep
    obtain ⟨device, hdevice⟩ := h.device_open hget
    exact ⟨device, Table.get?_erase_eq_some_iff.2 ⟨hdevice, bne_iff_ne.1 hkeep⟩⟩
  · -- parent and child are on one device
    intro k ch p parent _ hkeep _ _ hdevice _
    rw [hdevice]
    exact hkeep

theorem disconnected (h : Topology s) (id : UInt32) :
    Topology { s with
      channels := (s.channels.erase id).filter fun _ ch => ch.parent? != some id } := by
  unfold Table.erase
  rw [Table.filter_filter]
  refine h.remove (fun hget => hget) (fun hget _ => h.device_open hget) ?_
  intro k ch p parent _ hkeep hp _ _ hroot
  rw [Bool.and_eq_true, bne_iff_ne, bne_iff_ne, hp] at hkeep
  rw [Bool.and_eq_true, bne_iff_ne, bne_iff_ne, hroot]
  exact ⟨Option.some_ne_none id |>.symm, fun e => hkeep.1 (congrArg some e)⟩

theorem logicalDisconnected (h : Topology s) {id : UInt32} {logical : Channel}
    (hfound : s.channels.get? id = some logical) (hlogical : logical.parent?.isSome = true) :
    Topology { s with channels := s.channels.erase id } := by
  unfold Table.erase
  refine h.remove (fun hget => hget) (fun hget _ => h.device_open hget) ?_
  intro k ch p parent _ _ _ hparent _ hroot
  -- what has a parent is nobody's parent
  refine bne_iff_ne.2 fun e => ?_
  rw [e, hfound, Option.some.injEq] at hparent
  rw [hparent, hroot] at hlogical
  cases hlogical

end Topology

/-! ## Every step and every run -/

theorem HandlesIssued.of_keys (h : HandlesIssued s)
    (hle : s.issued.channels ≤ s'.issued.channels)
    (hkeys : ∀ {id ch}, s'.channels.get? id = some ch → ∃ ch, s.channels.get? id = some ch) :
    HandlesIssued s' := by
  intro id ch hget
  obtain ⟨old, hold⟩ := hkeys hget
  exact Nat.le_trans (h _ _ hold) hle

theorem HandlesIssued.addChannel (h : HandlesIssued s) (ch : Channel)
    (hbound : s.issued.channels + 1 < UInt32.size) : HandlesIssued (s.addChannel ch).2 := by
  intro id c hget
  show id.toNat ≤ s.issued.channels + 1
  rcases Table.get?_insert_cases hget with ⟨rfl, -⟩ | ⟨-, hold⟩
  · exact Nat.le_of_eq (toNat_nextHandle hbound)
  · exact Nat.le_succ_of_le (h _ _ hold)

/-- As long as the handles fit 32 bits, a step gives no channel a handle that was not issued. -/
theorem HandlesIssued.step (h : HandlesIssued s) (hstep : Step s s')
    (hbound : s'.issued.channels < UInt32.size) : HandlesIssued s' := by
  have hle := hstep.issued_le.2.1
  cases hstep with
  | registered | unplugged | failed | scanned | delivered | opened | powered =>
    exact h.of_keys hle fun hget => ⟨_, hget⟩
  | closed id =>
    exact h.of_keys hle fun hget => ⟨_, (Table.get?_filter_eq_some_iff.1 hget).1⟩
  | connected => exact h.addChannel _ hbound
  | disconnected id ch =>
    refine h.of_keys hle fun hget => ?_
    have herased := (Table.get?_filter_eq_some_iff.1 hget).1
    exact ⟨_, (Table.get?_erase_eq_some_iff.1 herased).1⟩
  | logicalConnected => exact h.addChannel _ hbound
  | logicalDisconnected id ch =>
    exact h.of_keys hle fun hget => ⟨_, (Table.get?_erase_eq_some_iff.1 hget).1⟩
  | pumped id ch hfound | changed id ch ch' hfound | periodicStarted id ch periodic hfound
  | filterStarted id ch filter hfound =>
    refine h.of_keys hle fun hget => ?_
    rcases Table.get?_insert_cases hget with ⟨rfl, -⟩ | ⟨-, hold⟩
    · exact ⟨_, hfound⟩
    · exact ⟨_, hold⟩

theorem DevicesIssued.step (h : DevicesIssued s) (hstep : Step s s')
    (hbound : s'.issued.devices < UInt32.size) : DevicesIssued s' := by
  cases hstep with
  | opened =>
    intro id device hget
    show id.toNat ≤ s.issued.devices + 1
    rcases Table.get?_insert_cases hget with ⟨rfl, -⟩ | ⟨-, hold⟩
    · exact Nat.le_of_eq (toNat_nextHandle hbound)
    · exact Nat.le_succ_of_le (h _ _ hold)
  | closed =>
    intro id device hget
    exact h _ _ (Table.get?_erase_eq_some_iff.1 hget).1
  | powered id device pin voltage pins hopened =>
    intro k device' hget
    rcases Table.get?_insert_cases hget with ⟨rfl, -⟩ | ⟨-, hold⟩
    · exact h _ _ hopened
    · exact h _ _ hold
  | _ => exact h

theorem Topology.step (h : Topology s) (hissued : HandlesIssued s) (hstep : Step s s')
    (hbound : s'.issued.channels < UInt32.size) : Topology s' := by
  cases hstep with
  | registered interface =>
    exact h.of_sameWiring (fun _ => rfl) (fun hname => hname.register interface) fun _ => rfl
  | unplugged name =>
    exact h.of_sameWiring (fun _ => rfl) (fun hname => hname.unplug name) fun _ => rfl
  | failed | scanned | delivered =>
    exact h.of_sameWiring (fun _ => rfl) (fun hname => hname) fun _ => rfl
  | opened name hnamed hplugged hclosed => exact h.opened hplugged hclosed _ _
  | closed id => exact h.closed id
  | connected _ _ _ _ _ device protocol pins hrequest => exact h.connected hissued hbound hrequest
  | disconnected id => exact h.disconnected id
  | logicalConnected physical parent localAddress remoteAddress hfound hroot hcan hunique hroom =>
    exact h.logicalConnected hissued hbound hfound hroot hcan hunique hroom
  | logicalDisconnected id ch hfound hlogical => exact h.logicalDisconnected hfound hlogical
  | pumped id ch hfound | periodicStarted id ch periodic hfound
  | filterStarted id ch filter hfound =>
    exact h.of_sameWiring (State.sameWiring_setChannel hfound rfl) (fun hname => hname) fun _ => rfl
  | changed id ch ch' hfound hchange =>
    exact h.of_sameWiring (State.sameWiring_setChannel hfound hchange.wiring_eq)
      (fun hname => hname) fun _ => rfl
  | powered id device pin voltage pins hopened =>
    exact h.of_sameWiring (fun _ => rfl) (fun hname => hname)
      (Table.map_get?_insert OpenDevice.name hopened rfl)

variable {w : Width}

/-- **Topology.** In every state that is reached while the channel handles fit 32 bits, the devices,
the registry and the channels fit together. -/
theorem reachable_topology (h : Reachable w s) (hbound : s.issued.channels < UInt32.size) :
    Topology s := by
  have hinvariant : s.issued.channels < UInt32.size → HandlesIssued s ∧ Topology s := by
    refine Reachable.invariant (P := fun s => s.issued.channels < UInt32.size →
      HandlesIssued s ∧ Topology s) ?_ ?_ h
    · intro n _
      refine ⟨?_, topology_start n⟩
      intro id ch hget
      cases hget
    · intro s s' hstep ih hbound
      have hbefore : s.issued.channels < UInt32.size :=
        Nat.lt_of_le_of_lt hstep.issued_le.2.1 hbound
      obtain ⟨hissued, htopology⟩ := ih hbefore
      exact ⟨hissued.step hstep hbound, htopology.step hissued hstep hbound⟩
  exact (hinvariant hbound).2

theorem reachable_issued (h : Reachable w s) (hdevices : s.issued.devices < UInt32.size)
    (hchannels : s.issued.channels < UInt32.size) : DevicesIssued s ∧ HandlesIssued s := by
  refine Reachable.invariant (P := fun s => s.issued.devices < UInt32.size →
    s.issued.channels < UInt32.size → DevicesIssued s ∧ HandlesIssued s) ?_ ?_ h hdevices hchannels
  · intro n _ _
    exact ⟨nofun, nofun⟩
  · intro s s' hstep ih hdevices hchannels
    obtain ⟨hledevices, hlechannels, -⟩ := hstep.issued_le
    obtain ⟨hdevicesIssued, hchannelsIssued⟩ := ih (Nat.lt_of_le_of_lt hledevices hdevices)
      (Nat.lt_of_le_of_lt hlechannels hchannels)
    exact ⟨hdevicesIssued.step hstep hdevices, hchannelsIssued.step hstep hchannels⟩

/-- A logical channel on top of a CAN channel. -/
def Event.openLogical : List (Event w) :=
  Event.openCan ++
    [.call (.logicalConnect (.of32 1) (.of32 Protocol.iso15765Logical.code) .zero
      (some ⟨.zero, .zero, .zero, .zero⟩) (some .zero))]

theorem topology_openLogical :
    let s := (State.start 1).run (Event.openLogical (w := .w64))
    s.channels.keys = [1, 2] ∧ s.issued.channels < UInt32.size ∧ Topology s :=
  have hbound : ((State.start 1).run (Event.openLogical (w := .w64))).issued.channels <
    UInt32.size := by decide
  ⟨by decide, hbound, reachable_topology (w := .w64) ⟨1, Event.openLogical, rfl⟩ hbound⟩

end PassThru.Emulator
