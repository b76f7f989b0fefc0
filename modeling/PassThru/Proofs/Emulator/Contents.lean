import PassThru.Proofs.Emulator.Configuration
import PassThru.Proofs.Emulator.Failures

/-!
# What the tables of a channel hold

A channel has a table of filters, one of periodic messages, one of settings, and a receive queue.
Whatever is put into them is checked first, and the limits on their sizes are those that a request
is refused for.

* `Channel.Origin`: the ways in which a channel after a step comes about.
* `FiltersSound`, `PeriodicSound`, `SettingsSound`: the tables one by one.
* `Channel.Sound`: all of a channel; `Channel.Origin.sound` preserves it.
* `startMsgFilter_eq` and `startPeriodicMsg_eq`: a request that nothing is wrong with fails only for
  a full table.
* `tables_bounded` puts these together.
-/

namespace PassThru.Emulator

variable {w : Width} {s s' : State}

/-! ## Where a channel comes from -/

/-- How a channel after a step of the state `s` came about. -/
inductive Channel.Origin (s : State) (id : UInt32) : Channel → Prop
  | kept (ch : Channel) (found : s.channels.get? id = some ch) : Origin s id ch
  | connected (deviceId protocolId flags baud : UInt32) (request : PinRequest)
      (device : OpenDevice) (protocol : Protocol) (pins : List UInt32)
      (request_ok : s.ConnectRequest deviceId protocolId flags baud request device protocol pins) :
      Origin s id (s.physicalChannel deviceId device protocol baud pins)
  | logicalConnected (device physical : UInt32) (localAddress remoteAddress : Address) :
      Origin s id
        { device
          protocol := .iso15765Logical
          attachment := .logical physical localAddress remoteAddress }
  | pumped (ch : Channel) (found : s.channels.get? id = some ch) : Origin s id (ch.pump s.clock)
  | changed (ch ch' : Channel) (found : s.channels.get? id = some ch) (change : ch.Change ch') :
      Origin s id ch'
  | periodicStarted (ch : Channel) (periodic : PeriodicMessage)
      (found : s.channels.get? id = some ch) (interval : isInterval periodic.interval = true)
      (protocol : periodic.message.protocolId = ch.protocol.code)
      (room : ch.periodic.size < maxPeriodicMessages) :
      Origin s id
        { ch with periodic := ch.periodic.insert (nextHandle s.issued.periodic) periodic }
  | filterStarted (ch : Channel) (filter : Filter) (found : s.channels.get? id = some ch)
      (nonempty : filter.mask ≠ []) (length_eq : filter.mask.length = filter.pattern.length)
      (length_le : filter.mask.length ≤ Filter.maxLength) (unique : filter ∉ ch.filters.values)
      (room : ch.filters.size < maxFilters) :
      Origin s id { ch with filters := ch.filters.insert (nextHandle s.issued.filters) filter }

theorem Channel.Origin.of_insert {id k : UInt32} {ch ch' : Channel} (h : Origin s k ch)
    (hget : (s.channels.insert k ch).get? id = some ch') : Origin s id ch' := by
  rcases Table.get?_insert_cases hget with ⟨rfl, rfl⟩ | ⟨-, hold⟩
  · exact h
  · exact .kept ch' hold

/-- Every channel after a step comes about in one of these ways. -/
theorem Step.origin (h : Step s s') {id : UInt32} {ch' : Channel}
    (hget : s'.channels.get? id = some ch') : ch'.Origin s id := by
  cases h with
  | registered | unplugged | failed | scanned | delivered | opened | powered => exact .kept ch' hget
  | closed => exact .kept ch' (Table.get?_filter_eq_some_iff.1 hget).1
  | connected _ _ _ _ _ _ _ _ hrequest =>
    exact .of_insert (.connected _ _ _ _ _ _ _ _ hrequest) hget
  | disconnected =>
    have herased := (Table.get?_filter_eq_some_iff.1 hget).1
    exact .kept ch' (Table.get?_erase_eq_some_iff.1 herased).1
  | logicalConnected => exact .of_insert (.logicalConnected _ _ _ _) hget
  | logicalDisconnected => exact .kept ch' (Table.get?_erase_eq_some_iff.1 hget).1
  | pumped k ch hfound => exact .of_insert (.pumped ch hfound) hget
  | changed k ch ch' hfound hchange => exact .of_insert (.changed ch ch' hfound hchange) hget
  | periodicStarted k ch periodic hfound hinterval hprotocol hroom =>
    exact .of_insert (.periodicStarted ch periodic hfound hinterval hprotocol hroom) hget
  | filterStarted k ch filter hfound hnonempty hlength hmax hunique hroom =>
    exact .of_insert (.filterStarted ch filter hfound hnonempty hlength hmax hunique hroom) hget

/-! ## The tables -/

/-- There are at most ten filters, no two of them alike, each with a mask of one to twelve bytes and
a pattern that is as long. -/
structure FiltersSound (filters : Table Filter) : Prop where
  size_le : filters.size ≤ 10
  unique : ∀ {h₁ h₂ filter}, filters.get? h₁ = some filter → filters.get? h₂ = some filter → h₁ = h₂
  shape : ∀ {handle filter}, filters.get? handle = some filter →
    filter.mask.length = filter.pattern.length ∧ 1 ≤ filter.mask.length ∧ filter.mask.length ≤ 12

/-- There are at most ten periodic messages, each of the protocol and sent every 5 to 65535
milliseconds. -/
structure PeriodicSound (protocol : Protocol) (periodic : Table PeriodicMessage) : Prop where
  size_le : periodic.size ≤ 10
  protocol_eq : ∀ {handle p}, periodic.get? handle = some p → p.message.protocolId = protocol.code
  interval : ∀ {handle p}, periodic.get? handle = some p → 5 ≤ p.interval ∧ p.interval ≤ 65535

/-- Every setting is of a parameter that exists; a bit rate is not zero, and loopback is off or on. -/
structure SettingsSound (settings : Table UInt32) : Prop where
  defined : ∀ {parameter value}, settings.get? parameter = some value →
    Parameter.isDefined parameter = true
  dataRate_ne : settings.get? Parameter.dataRate ≠ some 0
  loopback_eq : ∀ {value}, settings.get? Parameter.loopback = some value → value = 0 ∨ value = 1

section Filters

variable {filters : Table Filter}

theorem filtersSound_empty : FiltersSound .empty := ⟨Nat.zero_le _, nofun, nofun⟩

theorem FiltersSound.erase (h : FiltersSound filters) (handle : UInt32) :
    FiltersSound (filters.erase handle) where
  size_le := Nat.le_trans (Table.size_erase_le _ _) h.size_le
  unique h₁ h₂ :=
    h.unique (Table.get?_erase_eq_some_iff.1 h₁).1 (Table.get?_erase_eq_some_iff.1 h₂).1
  shape hget := h.shape (Table.get?_erase_eq_some_iff.1 hget).1

theorem FiltersSound.insert (h : FiltersSound filters) (handle : UInt32) {filter : Filter}
    (hnonempty : filter.mask ≠ []) (hlength : filter.mask.length = filter.pattern.length)
    (hmax : filter.mask.length ≤ 12) (hunique : filter ∉ filters.values)
    (hroom : filters.size < 10) : FiltersSound (filters.insert handle filter) := by
  have hnew : ∀ {k}, filters.get? k ≠ some filter :=
    fun hget => hunique (Table.mem_values_iff.2 ⟨_, hget⟩)
  constructor
  case size_le => exact Nat.le_trans (Table.size_insert_le _ _ _) hroom
  case unique =>
    intro h₁ h₂ other hget₁ hget₂
    rcases Table.get?_insert_cases hget₁ with ⟨rfl, rfl⟩ | ⟨-, hold₁⟩ <;>
      rcases Table.get?_insert_cases hget₂ with ⟨rfl, h₂⟩ | ⟨-, hold₂⟩
    · rfl
    · exact absurd hold₂ hnew
    · exact absurd (h₂ ▸ hold₁) hnew
    · exact h.unique hold₁ hold₂
  case shape =>
    intro k other hget
    rcases Table.get?_insert_cases hget with ⟨-, rfl⟩ | ⟨-, hold⟩
    · exact ⟨hlength, List.length_pos_iff.2 hnonempty, hmax⟩
    · exact h.shape hold

end Filters

section Periodic

variable {protocol : Protocol} {periodic : Table PeriodicMessage}

theorem isInterval_iff {interval : UInt32} :
    isInterval interval = true ↔ 5 ≤ interval ∧ interval ≤ 65535 := by
  simp only [isInterval, Bool.and_eq_true, decide_eq_true_eq]

theorem periodicSound_empty : PeriodicSound protocol .empty := ⟨Nat.zero_le _, nofun, nofun⟩

theorem PeriodicSound.erase (h : PeriodicSound protocol periodic) (handle : UInt32) :
    PeriodicSound protocol (periodic.erase handle) where
  size_le := Nat.le_trans (Table.size_erase_le _ _) h.size_le
  protocol_eq hget := h.protocol_eq (Table.get?_erase_eq_some_iff.1 hget).1
  interval hget := h.interval (Table.get?_erase_eq_some_iff.1 hget).1

theorem PeriodicSound.insert (h : PeriodicSound protocol periodic) (handle : UInt32)
    {p : PeriodicMessage} (hprotocol : p.message.protocolId = protocol.code)
    (hinterval : 5 ≤ p.interval ∧ p.interval ≤ 65535) (hroom : periodic.size < 10) :
    PeriodicSound protocol (periodic.insert handle p) where
  size_le := Nat.le_trans (Table.size_insert_le _ _ _) hroom
  protocol_eq hget := by
    rcases Table.get?_insert_cases hget with ⟨-, rfl⟩ | ⟨-, hold⟩
    · exact hprotocol
    · exact h.protocol_eq hold
  interval hget := by
    rcases Table.get?_insert_cases hget with ⟨-, rfl⟩ | ⟨-, hold⟩
    · exact hinterval
    · exact h.interval hold

end Periodic

section Settings

variable {settings : Table UInt32}

theorem settingsSound_iff :
    SettingsSound settings ↔
      ∀ parameter value, settings.get? parameter = some value → Permitted parameter value := by
  constructor
  · intro h parameter value hget
    refine ⟨h.defined hget, ?_, ?_⟩
    · rintro rfl rfl
      exact h.dataRate_ne hget
    · rintro rfl
      rcases h.loopback_eq hget with rfl | rfl <;> decide
  · intro h
    refine ⟨fun hget => (h _ _ hget).defined, fun hget => (h _ _ hget).dataRate_ne rfl rfl, ?_⟩
    intro value hget
    have hle := (h _ _ hget).loopback_le rfl
    rw [UInt32.le_iff_toNat_le] at hle
    rcases Nat.le_one_iff_eq_zero_or_eq_one.1 hle with hzero | hone
    · exact .inl (UInt32.toNat_inj.1 hzero)
    · exact .inr (UInt32.toNat_inj.1 hone)

theorem settingsSound_empty : SettingsSound .empty := ⟨nofun, nofun, nofun⟩

/-- Permitted assignments are all that is added. -/
theorem SettingsSound.assign (h : SettingsSound settings) {assignments : List (UInt32 × UInt32)}
    (hallowed : ∀ a ∈ assignments, Permitted a.1 a.2) :
    SettingsSound (assignSettings settings assignments) := by
  rw [settingsSound_iff] at h ⊢
  intro parameter value hget
  rw [get?_assignSettings, Option.or_eq_some_iff, Option.map_eq_some_iff] at hget
  rcases hget with ⟨a, hlast, rfl⟩ | ⟨-, hold⟩
  · have heq : a.1 = parameter := by simpa using List.find?_some hlast
    rw [← heq]
    exact hallowed a (List.mem_reverse.1 (List.mem_of_find?_eq_some hlast))
  · exact h parameter value hold

theorem contains_assignSettings {parameter : UInt32} (h : settings.contains parameter = true)
    (assignments : List (UInt32 × UInt32)) :
    (assignSettings settings assignments).contains parameter = true := by
  unfold Table.contains at h ⊢
  rw [get?_assignSettings, Option.isSome_or, h, Bool.or_true]

end Settings

/-! ## Channels -/

/-- All that a channel holds is as it should be. -/
structure Channel.Sound (ch : Channel) : Prop where
  filters : FiltersSound ch.filters
  periodic : PeriodicSound ch.protocol ch.periodic
  settings : SettingsSound ch.settings
  /-- The bit rate and the loopback of a physical channel are set. -/
  configured : ch.parent? = none →
    ch.settings.contains Parameter.dataRate = true ∧ ch.settings.contains Parameter.loopback = true
  /-- No frame in the receive queue is empty. -/
  received : ∀ frame ∈ ch.rx, frame.data ≠ []

namespace Channel

variable {ch ch' : Channel}

theorem sound_physicalChannel (s : State) (deviceId : UInt32) (device : OpenDevice)
    (protocol : Protocol) {baud : UInt32} (pins : List UInt32) (hbaud : baud ≠ 0) :
    (s.physicalChannel deviceId device protocol baud pins).Sound where
  filters := filtersSound_empty
  periodic := periodicSound_empty
  settings := by
    have hallowed : ∀ a ∈ [(Parameter.dataRate, baud), (Parameter.loopback, 0)],
        Permitted a.1 a.2 := by
      intro a hmem
      simp only [List.mem_cons, List.not_mem_nil, or_false] at hmem
      rcases hmem with rfl | rfl
      · exact (⟨by decide, fun _ => hbaud, nofun⟩ : Permitted Parameter.dataRate baud)
      · exact by decide
    exact settingsSound_empty.assign hallowed
  configured _ := by
    constructor
    · show ((Table.empty.insert _ _).insert _ _).contains _ = true
      rw [Table.contains_insert, Table.contains_insert, beq_self_eq_true, Bool.true_or, Bool.or_true]
    · show ((Table.empty.insert _ _).insert _ _).contains _ = true
      rw [Table.contains_insert, beq_self_eq_true, Bool.true_or]
  received := nofun

/-- Only a frame with data gets through a filter with a mask. -/
theorem data_ne_of_admits (h : FiltersSound ch.filters) {frame : Message}
    (hadmits : ch.admits frame = true) : frame.data ≠ [] := by
  intro hempty
  unfold admits Filter.admits at hadmits
  obtain ⟨hpass, -⟩ := Bool.and_eq_true_iff.1 hadmits
  obtain ⟨handle, filter, hget, hmatch⟩ := Table.any_values_iff.1 hpass
  obtain ⟨-, hcovers⟩ := Bool.and_eq_true_iff.1 hmatch
  unfold Filter.covers at hcovers
  obtain ⟨hlength, -⟩ := Bool.and_eq_true_iff.1 hcovers
  have hle : filter.mask.length ≤ 0 := by simpa [hempty] using hlength
  have hpos := (h.shape hget).2.1
  omega

/-- A frame that was let in has the data of one that was on the bus. -/
theorem exists_data_of_mem_stampFrom {clock : UInt32} {frames : List Message} {frame : Message}
    (h : frame ∈ stampFrom clock frames) : ∃ arrived ∈ frames, arrived.data = frame.data := by
  have hmem : frame.untimed ∈ frames.map Message.untimed := by
    rw [← map_untimed_stampFrom clock]
    exact List.mem_map_of_mem h
  obtain ⟨arrived, harrived, heq⟩ := List.mem_map.1 hmem
  exact ⟨arrived, harrived, congrArg (·.data) heq⟩

theorem Sound.pump (h : ch.Sound) (clock : UInt32) : (ch.pump clock).Sound where
  filters := h.filters
  periodic := h.periodic
  settings := h.settings
  configured := h.configured
  received frame hmem := by
    rcases List.mem_append.1 hmem with hmem | hmem
    · exact h.received frame hmem
    · obtain ⟨arrived, harrived, hdata⟩ := exists_data_of_mem_stampFrom hmem
      rw [← hdata]
      exact data_ne_of_admits h.filters (List.mem_filter.1 harrived).2

theorem Sound.change (h : ch.Sound) (hchange : ch.Change ch') : ch'.Sound := by
  obtain ⟨hfilters, hperiodic, hsettings, hconfigured, hreceived⟩ := h
  cases hchange with
  | taken n =>
    exact ⟨hfilters, hperiodic, hsettings, hconfigured,
      fun frame hmem => hreceived frame (List.mem_of_mem_drop hmem)⟩
  | emptied => exact ⟨hfilters, hperiodic, hsettings, hconfigured, nofun⟩
  | configured assignments hallowed =>
    refine ⟨hfilters, hperiodic, hsettings.assign (checkSettings_eq_ok_iff.1 hallowed),
      fun hphysical => ?_, hreceived⟩
    obtain ⟨hdataRate, hloopback⟩ := hconfigured hphysical
    exact ⟨contains_assignSettings hdataRate _, contains_assignSettings hloopback _⟩
  | periodicStopped handle =>
    exact ⟨hfilters, hperiodic.erase handle, hsettings, hconfigured, hreceived⟩
  | periodicCleared => exact ⟨hfilters, periodicSound_empty, hsettings, hconfigured, hreceived⟩
  | filterStopped handle =>
    exact ⟨hfilters.erase handle, hperiodic, hsettings, hconfigured, hreceived⟩
  | filtersCleared => exact ⟨filtersSound_empty, hperiodic, hsettings, hconfigured, hreceived⟩
  | unchanged | arrived | functionalChanged =>
    exact ⟨hfilters, hperiodic, hsettings, hconfigured, hreceived⟩

theorem Origin.sound {id : UInt32} (h : ch'.Origin s id)
    (hs : ∀ ch, s.channels.get? id = some ch → ch.Sound) : ch'.Sound := by
  cases h with
  | kept _ hfound => exact hs _ hfound
  | connected deviceId protocolId flags baud request device protocol pins hrequest =>
    exact sound_physicalChannel s deviceId device protocol pins hrequest.baud_ne
  | logicalConnected =>
    exact ⟨filtersSound_empty, periodicSound_empty, settingsSound_empty, nofun, nofun⟩
  | pumped ch hfound => exact (hs ch hfound).pump s.clock
  | changed ch _ hfound hchange => exact (hs ch hfound).change hchange
  | periodicStarted ch periodic hfound hinterval hprotocol hroom =>
    obtain ⟨hfilters, hperiodic, hsettings, hconfigured, hreceived⟩ := hs ch hfound
    exact ⟨hfilters, hperiodic.insert _ hprotocol (isInterval_iff.1 hinterval) hroom, hsettings,
      hconfigured, hreceived⟩
  | filterStarted ch filter hfound hnonempty hlength hmax hunique hroom =>
    obtain ⟨hfilters, hperiodic, hsettings, hconfigured, hreceived⟩ := hs ch hfound
    exact ⟨hfilters.insert _ hnonempty hlength hmax hunique hroom, hperiodic, hsettings,
      hconfigured, hreceived⟩

end Channel

theorem reachable_sound (h : Reachable w s) :
    ∀ id ch, s.channels.get? id = some ch → ch.Sound :=
  h.invariant (P := fun s => ∀ id ch, s.channels.get? id = some ch → ch.Sound) (fun _ => nofun)
    fun hstep hs id _ hget => (hstep.origin hget).sound (hs id)

/-! ## Full tables -/

namespace State

/-- A request for a filter that nothing is wrong with, as long as there is room for it. -/
structure FilterRequest (s : State) (id kind : UInt32) (mask pattern : NativeMessage w)
    (ch : Channel) (filter : Filter) : Prop where
  found : s.channels.get? id = some ch
  kind_eq : filterKind kind = .ok filter.kind
  mask_eq : ∃ m, readMessage mask = .ok m ∧ m.protocolId = ch.protocol.code ∧ m.data = filter.mask
  pattern_eq : ∃ m, readMessage pattern = .ok m ∧ m.protocolId = ch.protocol.code ∧
    m.data = filter.pattern
  nonempty : filter.mask ≠ []
  length_eq : filter.mask.length = filter.pattern.length
  length_le : filter.mask.length ≤ Filter.maxLength
  unique : filter ∉ ch.filters.values

/-- A request for a periodic message that nothing is wrong with, as long as there is room for it. -/
structure PeriodicRequest (s : State) (id interval : UInt32) (message : NativeMessage w)
    (ch : Channel) (frame : Message) : Prop where
  found : s.channels.get? id = some ch
  interval_ok : isInterval interval = true
  message_eq : readMessage message = .ok frame
  protocol_eq : frame.protocolId = ch.protocol.code

variable {id kind interval : UInt32} {mask pattern message : NativeMessage w} {ch : Channel}
  {filter : Filter} {frame : Message}

theorem startMsgFilter_eq (h : s.FilterRequest id kind mask pattern ch filter) :
    s.startMsgFilter id kind mask pattern =
      if ch.filters.size < maxFilters then
        .ok (nextHandle s.issued.filters,
          { s.setChannel id
              { ch with filters := ch.filters.insert (nextHandle s.issued.filters) filter } with
            issued := { s.issued with filters := s.issued.filters + 1 } })
      else .error .exceededLimit := by
  obtain ⟨hfound, hkind, ⟨m, hmask, hmaskId, hmaskData⟩, ⟨p, hpattern, hpatternId, hpatternData⟩,
    hnonempty, hlength, hmax, hunique⟩ := h
  obtain ⟨kind', _, _⟩ := filter
  subst hmaskData hpatternData
  have hids : (m.protocolId == ch.protocol.code && p.protocolId == ch.protocol.code) = true :=
    Bool.and_eq_true_iff.2 ⟨beq_iff_eq.2 hmaskId, beq_iff_eq.2 hpatternId⟩
  have hshape : (!m.data.isEmpty && m.data.length == p.data.length &&
      decide (m.data.length ≤ Filter.maxLength)) = true := by
    rw [Bool.and_eq_true, Bool.and_eq_true, Bool.not_eq_true', List.isEmpty_eq_false_iff, beq_iff_eq,
      decide_eq_true_eq]
    exact ⟨⟨hnonempty, hlength⟩, hmax⟩
  have hnew : (!ch.filters.values.contains ⟨kind', m.data, p.data⟩) = true := by
    rwa [List.contains_eq_mem, Bool.not_eq_true', decide_eq_false_iff_not]
  unfold State.startMsgFilter
  rw [channel_eq_ok_iff.2 hfound, hkind, hmask, hpattern]
  simp only [bind, Except.bind, hids, hshape, hnew, Attempt.require, if_true]
  by_cases hroom : ch.filters.size < maxFilters
  · rw [if_pos hroom, if_pos (decide_eq_true hroom)]
    rfl
  · rw [if_neg hroom, if_neg (by simpa using hroom)]

theorem startPeriodicMsg_eq (h : s.PeriodicRequest id interval message ch frame) :
    s.startPeriodicMsg id message interval =
      if ch.periodic.size < maxPeriodicMessages then
        .ok (nextHandle s.issued.periodic,
          { s.setChannel id
              { ch with
                periodic := ch.periodic.insert (nextHandle s.issued.periodic)
                  { message := frame, interval } } with
            issued := { s.issued with periodic := s.issued.periodic + 1 } })
      else .error .exceededLimit := by
  obtain ⟨hfound, hinterval, hmessage, hprotocol⟩ := h
  unfold State.startPeriodicMsg
  rw [channel_eq_ok_iff.2 hfound, hinterval, hmessage]
  simp only [bind, Except.bind, beq_iff_eq.2 hprotocol, Attempt.require, if_true]
  by_cases hroom : ch.periodic.size < maxPeriodicMessages
  · rw [if_pos hroom, if_pos (decide_eq_true hroom)]
    rfl
  · rw [if_neg hroom, if_neg (by simpa using hroom)]

theorem filterRequest_of_exceededLimit
    (h : s.startMsgFilter id kind mask pattern = .error .exceededLimit) :
    ∃ ch filter, s.FilterRequest id kind mask pattern ch filter := by
  have hkind : filterKind kind ≠ .error .exceededLimit := by
    unfold filterKind
    repeat' split
    all_goals nofun
  have hread : ∀ message : NativeMessage w, readMessage message ≠ .error .exceededLimit :=
    fun message herror => absurd (failsIn_readMessage message _ herror) (by decide)
  simp only [State.startMsgFilter, Attempt.bind_eq_error_iff, Attempt.require_eq_error_iff,
    Attempt.require_eq_ok_iff, exists_const, channel_eq_error_iff, channel_eq_ok_iff, hkind, hread,
    reduceCtorEq, and_false, false_or, and_true, pure, Except.pure, or_false, Bool.and_eq_true,
    beq_iff_eq, Bool.not_eq_true', List.isEmpty_eq_false_iff, decide_eq_true_eq,
    List.contains_eq_mem, decide_eq_false_iff_not] at h
  obtain ⟨ch, hfound, kind', hkind', m, hmask, p, hpattern, ⟨hmaskId, hpatternId⟩,
    ⟨⟨hnonempty, hlength⟩, hmax⟩, hunique, -⟩ := h
  exact ⟨ch, ⟨kind', m.data, p.data⟩, hfound, hkind', ⟨m, hmask, hmaskId, rfl⟩,
    ⟨p, hpattern, hpatternId, rfl⟩, hnonempty, hlength, hmax, hunique⟩

theorem periodicRequest_of_exceededLimit
    (h : s.startPeriodicMsg id message interval = .error .exceededLimit) :
    ∃ ch frame, s.PeriodicRequest id interval message ch frame := by
  have hread : readMessage message ≠ .error .exceededLimit :=
    fun herror => absurd (failsIn_readMessage message _ herror) (by decide)
  simp only [State.startPeriodicMsg, Attempt.bind_eq_error_iff, Attempt.require_eq_error_iff,
    Attempt.require_eq_ok_iff, exists_const, channel_eq_error_iff, channel_eq_ok_iff, hread,
    reduceCtorEq, and_false, false_or, and_true, pure, Except.pure, or_false, beq_iff_eq] at h
  obtain ⟨ch, hfound, hinterval, frame, hmessage, hprotocol, -⟩ := h
  exact ⟨ch, frame, hfound, hinterval, hmessage, hprotocol⟩

theorem startMsgFilter_eq_exceededLimit_iff :
    s.startMsgFilter id kind mask pattern = .error .exceededLimit ↔
      ∃ ch filter, s.FilterRequest id kind mask pattern ch filter ∧
        maxFilters ≤ ch.filters.size := by
  constructor
  · intro h
    obtain ⟨ch, filter, hrequest⟩ := filterRequest_of_exceededLimit h
    refine ⟨ch, filter, hrequest, Nat.le_of_not_lt fun hroom => ?_⟩
    rw [startMsgFilter_eq hrequest, if_pos hroom] at h
    cases h
  · rintro ⟨ch, filter, hrequest, hfull⟩
    rw [startMsgFilter_eq hrequest, if_neg (Nat.not_lt.2 hfull)]

theorem startPeriodicMsg_eq_exceededLimit_iff :
    s.startPeriodicMsg id message interval = .error .exceededLimit ↔
      ∃ ch frame, s.PeriodicRequest id interval message ch frame ∧
        maxPeriodicMessages ≤ ch.periodic.size := by
  constructor
  · intro h
    obtain ⟨ch, frame, hrequest⟩ := periodicRequest_of_exceededLimit h
    refine ⟨ch, frame, hrequest, Nat.le_of_not_lt fun hroom => ?_⟩
    rw [startPeriodicMsg_eq hrequest, if_pos hroom] at h
    cases h
  · rintro ⟨ch, frame, hrequest, hfull⟩
    rw [startPeriodicMsg_eq hrequest, if_neg (Nat.not_lt.2 hfull)]

theorem exists_startMsgFilter_eq_ok_iff :
    (∃ result, s.startMsgFilter id kind mask pattern = .ok result) ↔
      ∃ ch filter, s.FilterRequest id kind mask pattern ch filter ∧
        ch.filters.size < maxFilters := by
  constructor
  · rintro ⟨result, h⟩
    obtain ⟨ch, hfound, filter, hkind, hmask, hpattern, hnonempty, hlength, hmax, hunique, hroom,
      -⟩ := startMsgFilter_eq_ok_iff.1 h
    exact ⟨ch, filter, ⟨hfound, hkind, hmask, hpattern, hnonempty, hlength, hmax, hunique⟩, hroom⟩
  · rintro ⟨ch, filter, hrequest, hroom⟩
    exact ⟨_, (startMsgFilter_eq hrequest).trans (if_pos hroom)⟩

theorem exists_startPeriodicMsg_eq_ok_iff :
    (∃ result, s.startPeriodicMsg id message interval = .ok result) ↔
      ∃ ch frame, s.PeriodicRequest id interval message ch frame ∧
        ch.periodic.size < maxPeriodicMessages := by
  constructor
  · rintro ⟨result, h⟩
    obtain ⟨ch, hfound, hinterval, frame, hmessage, hprotocol, hroom, -⟩ :=
      startPeriodicMsg_eq_ok_iff.1 h
    exact ⟨ch, frame, ⟨hfound, hinterval, hmessage, hprotocol⟩, hroom⟩
  · rintro ⟨ch, frame, hrequest, hroom⟩
    exact ⟨_, (startPeriodicMsg_eq hrequest).trans (if_pos hroom)⟩

/-! The calls, with their pointers. -/

/-- A call for a filter that nothing is wrong with, on a channel that has `size` of them. -/
def FilterCall (s : State) (channel kind : Word w) (mask pattern : Option (NativeMessage w))
    (output : Option (Word w)) (size : Nat) : Prop :=
  ∃ m p handle, mask = some m ∧ pattern = some p ∧ output = some handle ∧
    ∃ ch filter, s.FilterRequest channel.narrow kind.narrow m p ch filter ∧ ch.filters.size = size

/-- A call for a periodic message that nothing is wrong with, on a channel that has `size` of
them. -/
def PeriodicCall (s : State) (channel : Word w) (message : Option (NativeMessage w))
    (output : Option (Word w)) (interval : Word w) (size : Nat) : Prop :=
  ∃ m handle, message = some m ∧ output = some handle ∧
    ∃ ch frame, s.PeriodicRequest channel.narrow interval.narrow m ch frame ∧
      ch.periodic.size = size

end State

theorem present_ne_exceededLimit {α : Type} (o : Option α) :
    Attempt.present o ≠ .error .exceededLimit := by
  cases o <;> nofun

section Calls

variable (s : State) (channel kind interval : Word w) (mask pattern message : Option (NativeMessage w))
  (output : Option (Word w))

theorem startMsgFilter_exceeds_iff :
    (driver (.startMsgFilter channel kind mask pattern output) s).1.status =
        ErrorCode.exceededLimit.asStatus ↔
      ∃ size, s.FilterCall channel kind mask pattern output size ∧ maxFilters ≤ size := by
  rw [status_eq_asStatus_iff s _ (by decide)]
  refine failure?_issue_eq_some_iff.trans ?_
  simp only [Attempt.bind_eq_error_iff, present_ne_exceededLimit, false_or,
    Attempt.present_eq_ok_iff, State.startMsgFilter_eq_exceededLimit_iff]
  constructor
  · rintro ⟨m, hm, p, hp, handle, hhandle, ch, filter, hrequest, hfull⟩
    exact ⟨_, ⟨m, p, handle, hm, hp, hhandle, ch, filter, hrequest, rfl⟩, hfull⟩
  · rintro ⟨_, ⟨m, p, handle, hm, hp, hhandle, ch, filter, hrequest, rfl⟩, hfull⟩
    exact ⟨m, hm, p, hp, handle, hhandle, ch, filter, hrequest, hfull⟩

theorem startMsgFilter_succeeds_iff :
    (driver (.startMsgFilter channel kind mask pattern output) s).1.status = Status.noError ↔
      ∃ size, s.FilterCall channel kind mask pattern output size ∧ size < maxFilters := by
  rw [status_eq_noError_iff]
  refine failure?_issue_eq_none_iff.trans ?_
  simp only [Attempt.bind_eq_ok_iff, Attempt.present_eq_ok_iff]
  constructor
  · rintro ⟨result, m, hm, p, hp, handle, hhandle, hok⟩
    obtain ⟨ch, filter, hrequest, hroom⟩ := State.exists_startMsgFilter_eq_ok_iff.1 ⟨result, hok⟩
    exact ⟨_, ⟨m, p, handle, hm, hp, hhandle, ch, filter, hrequest, rfl⟩, hroom⟩
  · rintro ⟨_, ⟨m, p, handle, hm, hp, hhandle, ch, filter, hrequest, rfl⟩, hroom⟩
    obtain ⟨result, hok⟩ := State.exists_startMsgFilter_eq_ok_iff.2 ⟨ch, filter, hrequest, hroom⟩
    exact ⟨result, m, hm, p, hp, handle, hhandle, hok⟩

theorem startPeriodicMsg_exceeds_iff :
    (driver (.startPeriodicMsg channel message output interval) s).1.status =
        ErrorCode.exceededLimit.asStatus ↔
      ∃ size, s.PeriodicCall channel message output interval size ∧ maxPeriodicMessages ≤ size := by
  rw [status_eq_asStatus_iff s _ (by decide)]
  refine failure?_issue_eq_some_iff.trans ?_
  simp only [Attempt.bind_eq_error_iff, present_ne_exceededLimit, false_or,
    Attempt.present_eq_ok_iff, State.startPeriodicMsg_eq_exceededLimit_iff]
  constructor
  · rintro ⟨m, hm, handle, hhandle, ch, frame, hrequest, hfull⟩
    exact ⟨_, ⟨m, handle, hm, hhandle, ch, frame, hrequest, rfl⟩, hfull⟩
  · rintro ⟨_, ⟨m, handle, hm, hhandle, ch, frame, hrequest, rfl⟩, hfull⟩
    exact ⟨m, hm, handle, hhandle, ch, frame, hrequest, hfull⟩

theorem startPeriodicMsg_succeeds_iff :
    (driver (.startPeriodicMsg channel message output interval) s).1.status = Status.noError ↔
      ∃ size, s.PeriodicCall channel message output interval size ∧ size < maxPeriodicMessages := by
  rw [status_eq_noError_iff]
  refine failure?_issue_eq_none_iff.trans ?_
  simp only [Attempt.bind_eq_ok_iff, Attempt.present_eq_ok_iff]
  constructor
  · rintro ⟨result, m, hm, handle, hhandle, hok⟩
    obtain ⟨ch, frame, hrequest, hroom⟩ :=
      State.exists_startPeriodicMsg_eq_ok_iff.1 ⟨result, hok⟩
    exact ⟨_, ⟨m, handle, hm, hhandle, ch, frame, hrequest, rfl⟩, hroom⟩
  · rintro ⟨_, ⟨m, handle, hm, hhandle, ch, frame, hrequest, rfl⟩, hroom⟩
    obtain ⟨result, hok⟩ := State.exists_startPeriodicMsg_eq_ok_iff.2 ⟨ch, frame, hrequest, hroom⟩
    exact ⟨result, m, hm, handle, hhandle, hok⟩

end Calls

theorem Reachable.filterCall_full_iff (h : Reachable w s) {channel kind : Word w}
    {mask pattern : Option (NativeMessage w)} {output : Option (Word w)} :
    (∃ size, s.FilterCall channel kind mask pattern output size ∧ maxFilters ≤ size) ↔
      s.FilterCall channel kind mask pattern output 10 := by
  constructor
  · rintro ⟨_, ⟨m, p, handle, hm, hp, hhandle, ch, filter, hrequest, rfl⟩, hfull⟩
    have hle := (reachable_sound h _ ch hrequest.found).filters.size_le
    exact ⟨m, p, handle, hm, hp, hhandle, ch, filter, hrequest, Nat.le_antisymm hle hfull⟩
  · intro hcall
    exact ⟨10, hcall, Nat.le_refl _⟩

theorem Reachable.periodicCall_full_iff (h : Reachable w s) {channel interval : Word w}
    {message : Option (NativeMessage w)} {output : Option (Word w)} :
    (∃ size, s.PeriodicCall channel message output interval size ∧ maxPeriodicMessages ≤ size) ↔
      s.PeriodicCall channel message output interval 10 := by
  constructor
  · rintro ⟨_, ⟨m, handle, hm, hhandle, ch, frame, hrequest, rfl⟩, hfull⟩
    have hle := (reachable_sound h _ ch hrequest.found).periodic.size_le
    exact ⟨m, handle, hm, hhandle, ch, frame, hrequest, Nat.le_antisymm hle hfull⟩
  · intro hcall
    exact ⟨10, hcall, Nat.le_refl _⟩

/-- **The tables of a channel.** In every reachable state, whatever the tables and the receive queue
of a channel hold is as it should be: at most ten different filters with masks of one to twelve bytes
and patterns as long, at most ten periodic messages of the channel's protocol with possible
intervals, settings that are permitted, and no empty frame. A call for a filter or a periodic message
is refused for the limit if, and only if, nothing else is wrong with it and the table holds ten, and
it succeeds if nothing is wrong with it and the table holds fewer. -/
theorem tables_bounded (h : Reachable w s) :
    (∀ id ch, s.channels.get? id = some ch → ch.Sound) ∧
      (∀ (channel kind : Word w) (mask pattern : Option (NativeMessage w))
          (output : Option (Word w)),
        let status := (driver (.startMsgFilter channel kind mask pattern output) s).1.status
        (status = ErrorCode.exceededLimit.asStatus ↔
            s.FilterCall channel kind mask pattern output 10) ∧
          (status = Status.noError ↔
            ∃ size, s.FilterCall channel kind mask pattern output size ∧ size < 10)) ∧
      ∀ (channel : Word w) (message : Option (NativeMessage w)) (output : Option (Word w))
          (interval : Word w),
        let status := (driver (.startPeriodicMsg channel message output interval) s).1.status
        (status = ErrorCode.exceededLimit.asStatus ↔
            s.PeriodicCall channel message output interval 10) ∧
          (status = Status.noError ↔
            ∃ size, s.PeriodicCall channel message output interval size ∧ size < 10) := by
  refine ⟨reachable_sound h, fun channel kind mask pattern output => ⟨?_, ?_⟩,
    fun channel message output interval => ⟨?_, ?_⟩⟩
  · exact (startMsgFilter_exceeds_iff s channel kind mask pattern output).trans
      h.filterCall_full_iff
  · exact startMsgFilter_succeeds_iff s channel kind mask pattern output
  · exact (startPeriodicMsg_exceeds_iff s channel interval message output).trans
      h.periodicCall_full_iff
  · exact startPeriodicMsg_succeeds_iff s channel interval message output

/-- A call for a filter on the channel of `Event.openCan` that matches what begins with some
bytes. -/
def filterFor (kind : FilterType) (bytes : List UInt8) : Call w :=
  let message (data : List UInt8) : NativeMessage w :=
    (Message.emptySlot (.ofNat bytes.length)).filledWith { protocolId := Protocol.can.code, data }
  .startMsgFilter (.of32 1) (.of32 (Coded.code kind)) (some (message (bytes.map fun _ => 0xFF)))
    (some (message bytes)) (some .zero)

/-- A CAN channel with ten filters. -/
def Event.tenFilters : List (Event w) :=
  Event.openCan ++ (List.range 10).map fun n => .call (filterFor .pass [UInt8.ofNat n])

/-- Ten filters are installed and the eleventh is refused. -/
theorem tables_bounded_tenFilters :
    let s := (State.start 1).run (Event.tenFilters (w := .w64))
    let eleventh : Call .w64 := filterFor .pass [10]
    s.filterCount 1 = 10 ∧ (driver eleventh s).1.status = ErrorCode.exceededLimit.asStatus ∧
      ∃ mask pattern, s.FilterCall (w := .w64) (.of32 1) (.of32 (Coded.code FilterType.pass))
        (some mask) (some pattern) (some .zero) 10 := by
  intro s eleventh
  have hcount : s.filterCount 1 = 10 := by decide +kernel
  have hrefused : (driver eleventh s).1.status = ErrorCode.exceededLimit.asStatus := by
    decide +kernel
  have hs : Reachable .w64 s := ⟨1, Event.tenFilters, rfl⟩
  exact ⟨hcount, hrefused, _, _, ((tables_bounded hs).2.1 _ _ _ _ _).1.1 hrefused⟩

end PassThru.Emulator
