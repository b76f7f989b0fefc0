import PassThru.Emulator.Control
import PassThru.Emulator.Devices
import PassThru.Emulator.Schedule
import PassThru.Emulator.Traffic
import PassThru.Proofs.Tables

/-!
# What the operations do

For each operation of the emulated library, the conditions under which it succeeds and the state
that it leaves: `openDevice_eq_ok_iff`, `connect_eq_ok_iff` and so on. Nothing after this module
opens an operation again.
-/

namespace PassThru.Emulator

variable {w : Width}

theorem isPin_iff {pin : UInt32} : isPin pin = true ↔ 1 ≤ pin ∧ pin ≤ 16 := by
  simp only [isPin, Bool.and_eq_true, decide_eq_true_eq]

/-- The settings of a channel after a list of assignments, the last one for a parameter winning. -/
def assignSettings (settings : Table UInt32) (assignments : List (UInt32 × UInt32)) :
    Table UInt32 :=
  assignments.foldl (fun table (parameter, value) => table.insert parameter value) settings

namespace State

variable {s s' : State}

/-! ## Looking things up -/

theorem isOpen_iff {name : String} :
    s.isOpen name = true ↔ ∃ id device, s.devices.get? id = some device ∧ device.name = name := by
  unfold isOpen
  rw [Table.any_values_iff]
  simp only [beq_iff_eq]

theorem device_eq_ok_iff {id : UInt32} {device : OpenDevice} :
    s.device id = .ok device ↔
      s.devices.get? id = some device ∧ s.registry.isConnected device.name = true := by
  unfold State.device
  rw [Attempt.bind_eq_ok_iff]
  cases hget : s.devices.get? id with
  | none => simp
  | some found =>
    have hopen := Table.isEmpty_eq_false_of_get? hget
    simp only [Attempt.require_eq_ok_iff, hopen, Bool.not_false, Attempt.bind_eq_ok_iff,
      Attempt.pure_eq_ok_iff, Option.some.injEq]
    constructor
    · rintro ⟨_, _, _, hplugged, rfl⟩
      exact ⟨rfl, hplugged⟩
    · rintro ⟨rfl, hplugged⟩
      exact ⟨(), trivial, (), hplugged, rfl⟩

theorem channel_eq_ok_iff {id : UInt32} {ch : Channel} :
    s.channel id = .ok ch ↔ s.channels.get? id = some ch := by
  unfold State.channel
  cases s.channels.get? id <;> simp

theorem channel_eq_error_iff {id : UInt32} {code : ErrorCode} :
    s.channel id = .error code ↔ s.channels.get? id = none ∧ code = .invalidChannelId := by
  unfold State.channel
  cases s.channels.get? id <;> simp [eq_comm]

theorem mem_channelsOf {device : UInt32} {ch : Channel} :
    ch ∈ s.channelsOf device ↔ ∃ id, s.channels.get? id = some ch ∧ ch.device = device := by
  unfold channelsOf
  simp only [List.mem_filter, Table.mem_values_iff, beq_iff_eq, exists_and_right]

theorem pinInUse_iff {device pin : UInt32} :
    s.pinInUse device pin = true ↔
      ∃ id ch, s.channels.get? id = some ch ∧ ch.device = device ∧ pin ∈ ch.pins := by
  unfold pinInUse
  simp only [List.any_eq_true, mem_channelsOf, List.contains_eq_mem, decide_eq_true_eq]
  constructor
  · rintro ⟨ch, ⟨id, hget, hdevice⟩, hpin⟩
    exact ⟨id, ch, hget, hdevice, hpin⟩
  · rintro ⟨id, ch, hget, hdevice, hpin⟩
    exact ⟨ch, ⟨id, hget, hdevice⟩, hpin⟩

theorem mem_logicalChannelsOn {parent : UInt32} {ch : Channel} :
    ch ∈ s.logicalChannelsOn parent ↔
      ∃ id, s.channels.get? id = some ch ∧ ch.parent? = some parent := by
  unfold logicalChannelsOn
  simp only [List.mem_filter, Table.mem_values_iff, beq_iff_eq, exists_and_right]

theorem length_logicalChannelsOn (s : State) (parent : UInt32) :
    (s.logicalChannelsOn parent).length =
      s.channels.values.countP fun ch => ch.parent? == some parent := by
  unfold logicalChannelsOn
  rw [List.countP_eq_length_filter]

/-! ## Devices -/

theorem openDevice_eq_ok_iff {name : String} {id : UInt32} :
    s.openDevice name = .ok (id, s') ↔
      (name ≠ "" ∧ s.registry.isConnected name = true ∧ s.isOpen name = false) ∧
        id = nextHandle s.issued.devices ∧
        s' = { s with
          devices := s.devices.insert (nextHandle s.issued.devices) { name }
          issued := { s.issued with devices := s.issued.devices + 1 } } := by
  simp only [openDevice, Attempt.bind_eq_ok_iff, Attempt.require_eq_ok_iff,
    Attempt.pure_eq_ok_iff, Prod.mk.injEq, exists_const, bne_iff_ne, Bool.not_eq_true',
    eq_comm (a := id), eq_comm (a := s'), and_assoc]

theorem closeDevice_eq_ok_iff {id : UInt32} :
    s.closeDevice id = .ok s' ↔
      s.devices.contains id = true ∧
        s' = { s with
          devices := s.devices.erase id
          channels := s.channels.filter fun _ ch => ch.device != id } := by
  simp only [closeDevice, Attempt.bind_eq_ok_iff, Attempt.require_eq_ok_iff,
    Attempt.pure_eq_ok_iff, exists_const, Bool.not_eq_true', eq_comm (a := s')]
  constructor
  · rintro ⟨-, hopen, hs'⟩
    exact ⟨hopen, hs'⟩
  · rintro ⟨hopen, hs'⟩
    obtain ⟨device, hget⟩ := Table.contains_iff.1 hopen
    exact ⟨Table.isEmpty_eq_false_of_get? hget, hopen, hs'⟩

/-! ## Channels -/

theorem physicalProtocol_eq_ok_iff {protocolId : UInt32} {protocol : Protocol} :
    physicalProtocol protocolId = .ok protocol ↔
      Protocol.ofCode? protocolId = some protocol ∧ protocol.isLogical = false := by
  unfold physicalProtocol
  cases Protocol.ofCode? protocolId with
  | none => simp
  | some found =>
    simp only [Option.some.injEq]
    split
    · next hlogical =>
      constructor
      · intro h
        cases h
      · rintro ⟨rfl, hphysical⟩
        rw [hlogical] at hphysical
        cases hphysical
    · next hphysical =>
      rw [Except.ok.injEq]
      constructor
      · rintro rfl
        exact ⟨rfl, Bool.eq_false_iff.2 hphysical⟩
      · rintro ⟨rfl, -⟩
        rfl

/-- A request to connect that nothing is wrong with, apart from what its pins are in use for. -/
structure ConnectRequest (s : State) (deviceId protocolId flags baud : UInt32)
    (request : PinRequest) (device : OpenDevice) (protocol : Protocol) (pins : List UInt32) :
    Prop where
  opened : s.devices.get? deviceId = some device
  plugged : s.registry.isConnected device.name = true
  protocol_eq : Protocol.ofCode? protocolId = some protocol
  physical : protocol.isLogical = false
  flags_defined : connectFlags.defines flags = true
  baud_ne : baud ≠ 0
  pins_eq : request.pins = .ok pins
  connector_eq : request.connector = Connector.j1962
  nonempty : pins ≠ []
  isPin : ∀ pin ∈ pins, isPin pin = true

theorem ConnectRequest.connector_and_pins {deviceId protocolId flags baud : UInt32}
    {request : PinRequest} {device : OpenDevice} {protocol : Protocol} {pins : List UInt32}
    (h : ConnectRequest s deviceId protocolId flags baud request device protocol pins) :
    (request.connector == Connector.j1962 && !pins.isEmpty && pins.all Emulator.isPin) = true := by
  rw [Bool.and_eq_true, Bool.and_eq_true, beq_iff_eq, Bool.not_eq_true', List.isEmpty_eq_false_iff,
    List.all_eq_true]
  exact ⟨⟨h.connector_eq, h.nonempty⟩, h.isPin⟩

/-- Whether such a request succeeds depends on its pins alone. -/
theorem connect_eq {deviceId protocolId flags baud : UInt32} {request : PinRequest}
    {device : OpenDevice} {protocol : Protocol} {pins : List UInt32}
    (h : ConnectRequest s deviceId protocolId flags baud request device protocol pins) :
    s.connect deviceId protocolId flags baud request true =
      if pins.any (s.pinInUse deviceId) then .error .resourceConflict
      else if pins.any device.pins.contains then .error .pinInUse
      else .ok (s.addChannel (s.physicalChannel deviceId device protocol baud pins)) := by
  have hdevice : s.device deviceId = .ok device := device_eq_ok_iff.2 ⟨h.opened, h.plugged⟩
  have hprotocol : physicalProtocol protocolId = .ok protocol :=
    physicalProtocol_eq_ok_iff.2 ⟨h.protocol_eq, h.physical⟩
  have hbaud : (baud != 0) = true := bne_iff_ne.2 h.baud_ne
  unfold State.connect
  rw [hdevice, hprotocol, h.flags_defined, hbaud, h.pins_eq]
  simp only [bind, Except.bind, h.connector_and_pins, Attempt.require, if_true]
  cases pins.any (s.pinInUse deviceId) <;> cases pins.any device.pins.contains <;> rfl

theorem connectRequest_of_connect {deviceId protocolId flags baud : UInt32} {request : PinRequest}
    {hasOutput : Bool} {result : UInt32 × State}
    (h : s.connect deviceId protocolId flags baud request hasOutput = .ok result) :
    hasOutput = true ∧ ∃ device protocol pins,
      ConnectRequest s deviceId protocolId flags baud request device protocol pins := by
  simp only [State.connect, Attempt.bind_eq_ok_iff, Attempt.require_eq_ok_iff, exists_const,
    device_eq_ok_iff, physicalProtocol_eq_ok_iff, Bool.and_eq_true, beq_iff_eq, bne_iff_ne,
    Bool.not_eq_true', List.isEmpty_eq_false_iff, List.all_eq_true] at h
  obtain ⟨device, ⟨hopened, hplugged⟩, hout, protocol, ⟨hprotocol, hphysical⟩, hflags, hbaud, pins,
    hpins, ⟨⟨hconnector, hnonempty⟩, hisPin⟩, -⟩ := h
  exact ⟨hout, device, protocol, pins, hopened, hplugged, hprotocol, hphysical, hflags, hbaud,
    hpins, hconnector, hnonempty, hisPin⟩

theorem connect_eq_ok {deviceId protocolId flags baud : UInt32} {request : PinRequest}
    {hasOutput : Bool} {result : UInt32 × State}
    (h : s.connect deviceId protocolId flags baud request hasOutput = .ok result) :
    ∃ device protocol pins,
      ConnectRequest s deviceId protocolId flags baud request device protocol pins ∧
        (∀ pin ∈ pins, s.pinInUse deviceId pin = false) ∧
        (∀ pin ∈ pins, device.pins.contains pin = false) ∧
        result = s.addChannel (s.physicalChannel deviceId device protocol baud pins) := by
  obtain ⟨rfl, device, protocol, pins, hrequest⟩ := connectRequest_of_connect h
  rw [connect_eq hrequest] at h
  split at h
  · cases h
  · next hfree =>
    split at h
    · cases h
    · next hoff =>
      rw [Bool.not_eq_true, List.any_eq_false] at hfree hoff
      refine ⟨device, protocol, pins, hrequest, fun pin hpin => ?_, fun pin hpin => ?_,
        (Except.ok.inj h).symm⟩
      · exact Bool.eq_false_iff.2 (hfree pin hpin)
      · exact Bool.eq_false_iff.2 (hoff pin hpin)

theorem disconnect_eq_ok_iff {id : UInt32} :
    s.disconnect id = .ok s' ↔
      ∃ ch, s.channels.get? id = some ch ∧ ch.parent? = none ∧
        s' = { s with
          channels := (s.channels.erase id).filter fun _ ch => ch.parent? != some id } := by
  simp only [State.disconnect, Attempt.bind_eq_ok_iff, Attempt.require_eq_ok_iff, exists_const,
    Attempt.pure_eq_ok_iff, channel_eq_ok_iff, Option.isNone_iff_eq_none, eq_comm (a := s')]

theorem logicalConnect_eq_ok_iff {physical protocolId : UInt32}
    {localAddress remoteAddress : Address} {result : UInt32 × State} :
    s.logicalConnect physical protocolId localAddress remoteAddress = .ok result ↔
      ∃ parent, s.channels.get? physical = some parent ∧
        (parent.parent? = none ∧ parent.protocol = .can) ∧
        Protocol.ofCode? protocolId = some .iso15765Logical ∧
        (∀ ch ∈ s.logicalChannelsOn physical,
          ch.addresses? ≠ some (localAddress, remoteAddress)) ∧
        (s.logicalChannelsOn physical).length < maxLogicalChannels ∧
        result = s.addChannel
          { device := parent.device
            protocol := .iso15765Logical
            attachment := .logical physical localAddress remoteAddress } := by
  simp only [State.logicalConnect, Attempt.bind_eq_ok_iff, Attempt.require_eq_ok_iff, exists_const,
    Attempt.pure_eq_ok_iff, channel_eq_ok_iff, Option.isNone_iff_eq_none, Bool.and_eq_true,
    beq_iff_eq, Bool.not_eq_true', List.any_eq_false, decide_eq_true_eq, eq_comm (a := result),
    ne_eq]

theorem logicalDisconnect_eq_ok_iff {id : UInt32} :
    s.logicalDisconnect id = .ok s' ↔
      ∃ ch, s.channels.get? id = some ch ∧ ch.parent?.isSome = true ∧
        s' = { s with channels := s.channels.erase id } := by
  simp only [State.logicalDisconnect, Attempt.bind_eq_ok_iff, Attempt.require_eq_ok_iff,
    exists_const, Attempt.pure_eq_ok_iff, channel_eq_ok_iff, eq_comm (a := s')]

/-! ## Programming voltages -/

theorem setProgrammingVoltage_eq_ok_iff {id voltage : UInt32} {request : PinRequest} :
    s.setProgrammingVoltage id request voltage = .ok s' ↔
      ∃ device, (s.devices.get? id = some device ∧ s.registry.isConnected device.name = true) ∧
        ∃ pin, request.single = .ok pin ∧
          (request.connector = Connector.j1962 ∧ isPin pin = true) ∧
          s.pinInUse id pin = false ∧
          ∃ pins, applyVoltage device.pins pin voltage = .ok pins ∧
            s' = { s with devices := s.devices.insert id { device with pins } } := by
  simp only [State.setProgrammingVoltage, Attempt.bind_eq_ok_iff, Attempt.require_eq_ok_iff,
    exists_const, Attempt.pure_eq_ok_iff, device_eq_ok_iff, Bool.and_eq_true, beq_iff_eq,
    Bool.not_eq_true', eq_comm (a := s')]

/-! ## Reception -/

theorem pump_eq_ok_iff {id : UInt32} {result : Channel × State} :
    s.pump id = .ok result ↔
      ∃ ch, s.channels.get? id = some ch ∧
        result = (ch.pump s.clock,
          { s.setChannel id (ch.pump s.clock) with
            clock := clockAfter s.clock ch.admitted.length }) := by
  simp only [State.pump, Attempt.bind_eq_ok_iff, Attempt.pure_eq_ok_iff, channel_eq_ok_iff,
    eq_comm (a := result)]

theorem pump_eq_error_iff {id : UInt32} {code : ErrorCode} :
    s.pump id = .error code ↔ s.channels.get? id = none ∧ code = .invalidChannelId := by
  simp only [State.pump, Attempt.bind_eq_error_iff, channel_eq_error_iff, pure, Except.pure,
    reduceCtorEq, and_false, exists_false, or_false]

/-! ## Periodic messages and filters -/

theorem startPeriodicMsg_eq_ok_iff {id interval : UInt32} {message : NativeMessage w}
    {result : UInt32 × State} :
    s.startPeriodicMsg id message interval = .ok result ↔
      ∃ ch, s.channels.get? id = some ch ∧ isInterval interval = true ∧
        ∃ frame, readMessage message = .ok frame ∧ frame.protocolId = ch.protocol.code ∧
          ch.periodic.size < maxPeriodicMessages ∧
          result = (nextHandle s.issued.periodic,
            { s.setChannel id
                { ch with
                  periodic := ch.periodic.insert (nextHandle s.issued.periodic)
                    { message := frame, interval } } with
              issued := { s.issued with periodic := s.issued.periodic + 1 } }) := by
  simp only [State.startPeriodicMsg, Attempt.bind_eq_ok_iff, Attempt.require_eq_ok_iff,
    exists_const, Attempt.pure_eq_ok_iff, channel_eq_ok_iff, beq_iff_eq, decide_eq_true_eq,
    eq_comm (a := result)]

theorem stopPeriodicMsg_eq_ok_iff {id handle : UInt32} :
    s.stopPeriodicMsg id handle = .ok s' ↔
      ∃ ch, s.channels.get? id = some ch ∧ ch.periodic.contains handle = true ∧
        s' = s.setChannel id { ch with periodic := ch.periodic.erase handle } := by
  simp only [State.stopPeriodicMsg, Attempt.bind_eq_ok_iff, Attempt.require_eq_ok_iff,
    exists_const, Attempt.pure_eq_ok_iff, channel_eq_ok_iff, eq_comm (a := s')]

theorem startMsgFilter_eq_ok_iff {id kind : UInt32} {mask pattern : NativeMessage w}
    {result : UInt32 × State} :
    s.startMsgFilter id kind mask pattern = .ok result ↔
      ∃ ch, s.channels.get? id = some ch ∧ ∃ filter : Filter,
        filterKind kind = .ok filter.kind ∧
        (∃ m, readMessage mask = .ok m ∧ m.protocolId = ch.protocol.code ∧ m.data = filter.mask) ∧
        (∃ m, readMessage pattern = .ok m ∧ m.protocolId = ch.protocol.code ∧
          m.data = filter.pattern) ∧
        filter.mask ≠ [] ∧ filter.mask.length = filter.pattern.length ∧
        filter.mask.length ≤ Filter.maxLength ∧ filter ∉ ch.filters.values ∧
        ch.filters.size < maxFilters ∧
        result = (nextHandle s.issued.filters,
          { s.setChannel id
              { ch with filters := ch.filters.insert (nextHandle s.issued.filters) filter } with
            issued := { s.issued with filters := s.issued.filters + 1 } }) := by
  simp only [State.startMsgFilter, Attempt.bind_eq_ok_iff, Attempt.require_eq_ok_iff,
    exists_const, Attempt.pure_eq_ok_iff, channel_eq_ok_iff, Bool.and_eq_true, beq_iff_eq,
    Bool.not_eq_true', List.isEmpty_eq_false_iff, decide_eq_true_eq, List.contains_eq_mem,
    decide_eq_false_iff_not]
  constructor
  · rintro ⟨ch, hch, kind, hkind, mask, hmask, pattern, hpattern, ⟨hmaskId, hpatternId⟩,
      ⟨⟨hne, hlen⟩, hmax⟩, hnew, hroom, rfl⟩
    exact ⟨ch, hch, ⟨kind, mask.data, pattern.data⟩, hkind, ⟨mask, hmask, hmaskId, rfl⟩,
      ⟨pattern, hpattern, hpatternId, rfl⟩, hne, hlen, hmax, hnew, hroom, rfl⟩
  · rintro ⟨ch, hch, ⟨kind, maskData, patternData⟩, hkind, ⟨mask, hmask, hmaskId, rfl⟩,
      ⟨pattern, hpattern, hpatternId, rfl⟩, hne, hlen, hmax, hnew, hroom, rfl⟩
    exact ⟨ch, hch, kind, hkind, mask, hmask, pattern, hpattern, ⟨hmaskId, hpatternId⟩,
      ⟨⟨hne, hlen⟩, hmax⟩, hnew, hroom, rfl⟩

theorem stopMsgFilter_eq_ok_iff {id handle : UInt32} :
    s.stopMsgFilter id handle = .ok s' ↔
      ∃ ch, s.channels.get? id = some ch ∧ ch.filters.contains handle = true ∧
        s' = s.setChannel id { ch with filters := ch.filters.erase handle } := by
  simp only [State.stopMsgFilter, Attempt.bind_eq_ok_iff, Attempt.require_eq_ok_iff,
    exists_const, Attempt.pure_eq_ok_iff, channel_eq_ok_iff, eq_comm (a := s')]

/-! ## Control requests -/

theorem setConfig_eq_ok_iff {target : UInt32} {input output : NativeControl w} :
    s.setConfig target input output = .ok s' ↔
      output.isNull = true ∧ ∃ ch, s.channels.get? target = some ch ∧
        ∃ entries, readSettings input = .ok entries ∧
          ((entries.map fun entry => (entry.parameter.narrow, entry.value.narrow)).forM
            fun (parameter, value) => Channel.checkSetting parameter value) = .ok () ∧
          s' = s.setChannel target
            { ch with
              settings := assignSettings ch.settings
                (entries.map fun entry => (entry.parameter.narrow, entry.value.narrow)) } := by
  simp only [State.setConfig, requireNull, assignSettings, Attempt.bind_eq_ok_iff,
    Attempt.require_eq_ok_iff, exists_const, Attempt.pure_eq_ok_iff, channel_eq_ok_iff,
    eq_comm (a := s')]
  constructor
  · rintro ⟨hnull, ch, hch, entries, hentries, ⟨⟩, hcheck, hs'⟩
    exact ⟨hnull, ch, hch, entries, hentries, hcheck, hs'⟩
  · rintro ⟨hnull, ch, hch, entries, hentries, hcheck, hs'⟩
    exact ⟨hnull, ch, hch, entries, hentries, (), hcheck, hs'⟩

theorem clear_eq_ok_iff {request : Ioctl} {target : UInt32} {input output : NativeControl w} :
    s.clear request target input output = .ok s' ↔
      input.isNull = true ∧ output.isNull = true ∧ ∃ ch, s.channels.get? target = some ch ∧
        ∃ ch', cleared request ch = .ok ch' ∧ s' = s.setChannel target ch' := by
  simp only [State.clear, requireNull, Attempt.bind_eq_ok_iff, Attempt.require_eq_ok_iff,
    exists_const, Attempt.pure_eq_ok_iff, channel_eq_ok_iff, eq_comm (a := s')]

theorem changeFunctional_eq_ok_iff {change : List UInt8 → UInt8 → List UInt8} {target : UInt32}
    {input output : NativeControl w} :
    s.changeFunctional change target input output = .ok s' ↔
      output.isNull = true ∧ ∃ ch, s.channels.get? target = some ch ∧ ch.protocol = .j1850pwm ∧
        ∃ addresses, readBytes input = .ok addresses ∧
          s' = s.setChannel target
            { ch with functional := addresses.foldl change ch.functional } := by
  simp only [State.changeFunctional, requireNull, Attempt.bind_eq_ok_iff,
    Attempt.require_eq_ok_iff, exists_const, Attempt.pure_eq_ok_iff, channel_eq_ok_iff, beq_iff_eq,
    eq_comm (a := s')]

end State

end PassThru.Emulator
