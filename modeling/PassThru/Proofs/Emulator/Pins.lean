import PassThru.Proofs.Emulator.Wiring

/-!
# Pins

A pin of a device serves one purpose: it belongs to one channel, or something is applied to it, or
neither. Connecting looks at both uses and applying a voltage at the first only; that is enough,
because a pin of a channel never has anything applied to it.

* `PinsExclusive`: the uses of pins in a state exclude each other.
* `PinsExclusive.step`: every step keeps it so.
* `connect_cases`: a request that nothing else is wrong with is refused for a pin in use, and for
  no other reason.
* `pins_exclusive` puts these together.
-/

namespace PassThru.Emulator

variable {w : Width} {s s' : State}

/-! ## Uses of a pin -/

/-- A channel of the device has the pin. -/
def State.Taken (s : State) (device pin : UInt32) : Prop :=
  ∃ id ch, s.channels.get? id = some ch ∧ ch.device = device ∧ pin ∈ ch.pins

/-- Something is applied to the pin of the device. -/
def State.Powered (s : State) (device pin : UInt32) : Prop :=
  ∃ opened, s.devices.get? device = some opened ∧ opened.pins.contains pin = true

theorem State.taken_iff {device pin : UInt32} :
    s.Taken device pin ↔ s.pinInUse device pin = true := State.pinInUse_iff.symm

theorem State.powered_iff {device pin : UInt32} {opened : OpenDevice}
    (h : s.devices.get? device = some opened) :
    s.Powered device pin ↔ opened.pins.contains pin = true := by
  constructor
  · rintro ⟨found, hfound, hpin⟩
    rw [h, Option.some.injEq] at hfound
    rw [hfound]
    exact hpin
  · intro hpin
    exact ⟨opened, h, hpin⟩

/-- No pin of a device is used twice. -/
structure PinsExclusive (s : State) : Prop where
  /-- Different channels of one device have no pin in common. -/
  disjoint : ∀ {id₁ id₂ ch₁ ch₂ pin}, s.channels.get? id₁ = some ch₁ →
    s.channels.get? id₂ = some ch₂ → ch₁.device = ch₂.device → pin ∈ ch₁.pins → pin ∈ ch₂.pins →
    id₁ = id₂
  /-- Nothing is applied to a pin of a channel. -/
  unpowered : ∀ {device pin}, s.Powered device pin → ¬ s.Taken device pin
  /-- Something is applied to pins of the diagnostic connector only. -/
  onConnector : ∀ {device pin}, s.Powered device pin → 1 ≤ pin ∧ pin ≤ 16

theorem pinsExclusive_start (n : Nat) : PinsExclusive (State.start n) where
  disjoint h := by cases h
  unpowered h := by
    obtain ⟨opened, hopened, -⟩ := h
    cases hopened
  onConnector h := by
    obtain ⟨opened, hopened, -⟩ := h
    cases hopened

/-- A voltage is applied to no other pin than the one that was asked for. -/
theorem contains_of_applyVoltage {pins pins' : Table PinState} {pin voltage p : UInt32}
    (h : applyVoltage pins pin voltage = .ok pins') (hp : pins'.contains p = true) :
    p = pin ∨ pins.contains p = true := by
  have hinsert : ∀ {state}, (pins.insert pin state).contains p = true →
      p = pin ∨ pins.contains p = true := by
    intro state hcontains
    obtain ⟨value, hget⟩ := Table.contains_iff.1 hcontains
    rcases Table.get?_insert_cases hget with ⟨heq, -⟩ | ⟨-, hold⟩
    · exact .inl heq
    · exact .inr (Table.contains_iff.2 ⟨value, hold⟩)
  unfold applyVoltage at h
  split at h
  · obtain rfl := Except.ok.inj h
    obtain ⟨value, hget⟩ := Table.contains_iff.1 hp
    exact .inr (Table.contains_iff.2 ⟨value, (Table.get?_erase_eq_some_iff.1 hget).1⟩)
  · split at h
    · split at h
      · obtain rfl := Except.ok.inj h
        exact hinsert hp
      · cases h
    · split at h
      · split at h
        · cases h
        · obtain rfl := Except.ok.inj h
          exact hinsert hp
      · cases h

namespace PinsExclusive

/-! ## Steps -/

theorem of_fewer (h : PinsExclusive s)
    (hchannels : ∀ {id ch'}, s'.channels.get? id = some ch' →
      ∃ ch, s.channels.get? id = some ch ∧ ch'.device = ch.device ∧ ch'.pins = ch.pins)
    (hpowered : ∀ {device pin}, s'.Powered device pin → s.Powered device pin) :
    PinsExclusive s' := by
  have htaken : ∀ {device pin}, s'.Taken device pin → s.Taken device pin := by
    rintro device pin ⟨id, ch', hget, hdevice, hpin⟩
    obtain ⟨ch, hch, hsame, hpins⟩ := hchannels hget
    exact ⟨id, ch, hch, by rw [← hsame, hdevice], by rw [← hpins]; exact hpin⟩
  constructor
  case disjoint =>
    intro id₁ id₂ ch₁ ch₂ pin hget₁ hget₂ hdevice hpin₁ hpin₂
    obtain ⟨old₁, hold₁, hsame₁, hpins₁⟩ := hchannels hget₁
    obtain ⟨old₂, hold₂, hsame₂, hpins₂⟩ := hchannels hget₂
    rw [hpins₁] at hpin₁
    rw [hpins₂] at hpin₂
    exact h.disjoint hold₁ hold₂ (by rw [← hsame₁, ← hsame₂, hdevice]) hpin₁ hpin₂
  case unpowered =>
    intro device pin hp ht
    exact h.unpowered (hpowered hp) (htaken ht)
  case onConnector =>
    intro device pin hp
    exact h.onConnector (hpowered hp)

theorem of_sameWiring (h : PinsExclusive s) (hwiring : s.SameWiring s')
    (hpowered : ∀ {device pin}, s'.Powered device pin → s.Powered device pin) :
    PinsExclusive s' := by
  refine h.of_fewer ?_ hpowered
  intro id ch' hget
  obtain ⟨ch, hch, hwire⟩ := hwiring.exists_before hget
  exact ⟨ch, hch, Channel.device_eq_of_wiring hwire, Channel.pins_eq_of_wiring hwire⟩

theorem addChannel (h : PinsExclusive s) {ch : Channel}
    (hunused : ∀ pin ∈ ch.pins, ¬ s.Taken ch.device pin)
    (hunpowered : ∀ pin ∈ ch.pins, ¬ s.Powered ch.device pin) :
    PinsExclusive (s.addChannel ch).2 := by
  constructor
  case disjoint =>
    intro id₁ id₂ ch₁ ch₂ pin hget₁ hget₂ hdevice hpin₁ hpin₂
    rcases Table.get?_insert_cases hget₁ with ⟨rfl, rfl⟩ | ⟨-, hold₁⟩ <;>
      rcases Table.get?_insert_cases hget₂ with ⟨rfl, rfl⟩ | ⟨-, hold₂⟩
    · rfl
    · exact absurd ⟨_, _, hold₂, hdevice.symm, hpin₂⟩ (hunused pin hpin₁)
    · exact absurd ⟨_, _, hold₁, hdevice, hpin₁⟩ (hunused pin hpin₂)
    · exact h.disjoint hold₁ hold₂ hdevice hpin₁ hpin₂
  case unpowered =>
    rintro device pin hpowered ⟨id, c, hget, rfl, hpin⟩
    rcases Table.get?_insert_cases hget with ⟨-, rfl⟩ | ⟨-, hold⟩
    · exact hunpowered pin hpin hpowered
    · exact h.unpowered hpowered ⟨id, c, hold, rfl, hpin⟩
  case onConnector => exact h.onConnector

theorem opened (h : PinsExclusive s) (name : String) (id : UInt32) (issued : Issued) :
    PinsExclusive { s with devices := s.devices.insert id { name }, issued } := by
  refine h.of_fewer (fun hget => ⟨_, hget, rfl, rfl⟩) ?_
  rintro device pin ⟨opened, hget, hpin⟩
  rcases Table.get?_insert_cases hget with ⟨-, rfl⟩ | ⟨-, hold⟩
  · cases hpin
  · exact ⟨opened, hold, hpin⟩

theorem powered (h : PinsExclusive s) {id pin voltage : UInt32} {device : OpenDevice}
    {pins : Table PinState} (hopened : s.devices.get? id = some device)
    (hpin : isPin pin = true) (hunused : s.pinInUse id pin = false)
    (happlied : applyVoltage device.pins pin voltage = .ok pins) :
    PinsExclusive { s with devices := s.devices.insert id { device with pins } } := by
  -- the one pin that may be new is a pin, and in no channel
  have hcases : ∀ {k p}, State.Powered { s with devices := s.devices.insert id { device with pins } }
      k p → (k = id ∧ p = pin) ∨ s.Powered k p := by
    rintro k p ⟨opened, hget, hp⟩
    rcases Table.get?_insert_cases hget with ⟨rfl, rfl⟩ | ⟨-, hold⟩
    · rcases contains_of_applyVoltage happlied hp with heq | hbefore
      · exact .inl ⟨rfl, heq⟩
      · exact .inr ⟨device, hopened, hbefore⟩
    · exact .inr ⟨opened, hold, hp⟩
  constructor
  case disjoint => exact h.disjoint
  case unpowered =>
    intro k p hpowered htaken
    rcases hcases hpowered with ⟨rfl, rfl⟩ | hbefore
    · have hused : s.pinInUse k p = true := State.taken_iff.1 htaken
      rw [hunused] at hused
      cases hused
    · exact h.unpowered hbefore htaken
  case onConnector =>
    intro k p hpowered
    rcases hcases hpowered with ⟨-, rfl⟩ | hbefore
    · exact isPin_iff.1 hpin
    · exact h.onConnector hbefore

theorem step (h : PinsExclusive s) (hstep : Step s s') : PinsExclusive s' := by
  cases hstep with
  | registered | unplugged | failed | scanned | delivered =>
    exact h.of_fewer (fun hget => ⟨_, hget, rfl, rfl⟩) fun hpowered => hpowered
  | opened name => exact h.opened name _ _
  | closed id =>
    refine h.of_fewer (fun hget => ⟨_, (Table.get?_filter_eq_some_iff.1 hget).1, rfl, rfl⟩) ?_
    rintro device pin ⟨opened, hget, hpin⟩
    exact ⟨opened, (Table.get?_erase_eq_some_iff.1 hget).1, hpin⟩
  | connected deviceId _ _ _ _ device protocol pins hrequest hunused hunpowered =>
    refine h.addChannel ?_ ?_
    · intro pin hpin htaken
      have hused : s.pinInUse deviceId pin = true := State.taken_iff.1 htaken
      rw [hunused pin hpin] at hused
      cases hused
    · intro pin hpin hpowered
      have hentry := (State.powered_iff hrequest.opened).1 hpowered
      rw [hunpowered pin hpin] at hentry
      cases hentry
  | disconnected id ch =>
    refine h.of_fewer ?_ fun hpowered => hpowered
    intro k c hget
    have herased := (Table.get?_filter_eq_some_iff.1 hget).1
    exact ⟨c, (Table.get?_erase_eq_some_iff.1 herased).1, rfl, rfl⟩
  | logicalConnected =>
    -- a logical channel has no pins
    refine h.addChannel ?_ ?_ <;> exact fun pin hpin => absurd hpin List.not_mem_nil
  | logicalDisconnected id ch =>
    refine h.of_fewer ?_ fun hpowered => hpowered
    intro k c hget
    exact ⟨c, (Table.get?_erase_eq_some_iff.1 hget).1, rfl, rfl⟩
  | pumped id ch hfound | periodicStarted id ch periodic hfound
  | filterStarted id ch filter hfound =>
    exact h.of_sameWiring (State.sameWiring_setChannel hfound rfl) fun hpowered => hpowered
  | changed id ch ch' hfound hchange =>
    exact h.of_sameWiring (State.sameWiring_setChannel hfound hchange.wiring_eq)
      fun hpowered => hpowered
  | powered id device pin voltage pins hopened _ hpin hunused happlied =>
    exact h.powered hopened hpin hunused happlied

/-- Every event keeps the uses of pins apart, a call that fails as well as one that succeeds. -/
theorem after (h : PinsExclusive s) (event : Event w) : PinsExclusive (s.after event) :=
  (steps_after s event).invariant (fun hstep hs => hs.step hstep) h

end PinsExclusive

theorem reachable_pinsExclusive (h : Reachable w s) : PinsExclusive s :=
  h.invariant pinsExclusive_start fun hstep hs => hs.step hstep

/-! ## Refusals -/

section Connect

variable {device protocol flags baud : Word w} {resource : NativeResource w}
  {opened : OpenDevice} {p : Protocol} {pins : List UInt32}
  (h : s.ConnectRequest device.narrow protocol.narrow flags.narrow baud.narrow (.ofNative resource)
    opened p pins)
  (out : Word w)

include h

/-- A request that nothing else is wrong with is refused for a pin of a channel, otherwise for a pin
that something is applied to, and otherwise succeeds. -/
theorem connect_cases :
    (∃ pin ∈ pins, s.Taken device.narrow pin) ∧
        (driver (.connect device protocol flags baud resource (some out)) s).1.status =
          ErrorCode.resourceConflict.asStatus ∨
      ((∀ pin ∈ pins, ¬ s.Taken device.narrow pin) ∧ ∃ pin ∈ pins, s.Powered device.narrow pin) ∧
        (driver (.connect device protocol flags baud resource (some out)) s).1.status =
          ErrorCode.pinInUse.asStatus ∨
      ((∀ pin ∈ pins, ¬ s.Taken device.narrow pin) ∧
          ∀ pin ∈ pins, ¬ s.Powered device.narrow pin) ∧
        driver (.connect device protocol flags baud resource (some out)) s =
          (⟨Status.noError, some (.of32 (nextHandle s.issued.channels))⟩,
            (s.addChannel (s.physicalChannel device.narrow opened p baud.narrow pins)).2) := by
  have htaken : pins.any (s.pinInUse device.narrow) = true ↔
      ∃ pin ∈ pins, s.Taken device.narrow pin := by
    rw [List.any_eq_true]
    simp only [State.taken_iff]
  have hpowered : pins.any opened.pins.contains = true ↔
      ∃ pin ∈ pins, s.Powered device.narrow pin := by
    rw [List.any_eq_true]
    simp only [State.powered_iff h.opened]
  have hperform : perform s (.connect device protocol flags baud resource (some out)) =
      issue s (some out)
        (if pins.any (s.pinInUse device.narrow) then .error .resourceConflict
        else if pins.any opened.pins.contains then .error .pinInUse
        else .ok (s.addChannel (s.physicalChannel device.narrow opened p baud.narrow pins))) := by
    rw [← State.connect_eq h]
    rfl
  unfold driver
  rw [hperform]
  by_cases hused : pins.any (s.pinInUse device.narrow) = true
  · rw [if_pos hused]
    exact .inl ⟨htaken.1 hused, rfl⟩
  · have hfree : ∀ pin ∈ pins, ¬ s.Taken device.narrow pin := fun pin hpin ht =>
      hused (htaken.2 ⟨pin, hpin, ht⟩)
    rw [if_neg hused]
    by_cases hon : pins.any opened.pins.contains = true
    · rw [if_pos hon]
      exact .inr (.inl ⟨⟨hfree, hpowered.1 hon⟩, rfl⟩)
    · rw [if_neg hon]
      exact .inr (.inr ⟨⟨hfree, fun pin hpin hp => hon (hpowered.2 ⟨pin, hpin, hp⟩)⟩, rfl⟩)

end Connect

/-- **Pin exclusivity.** In every reachable state no pin of a device is used twice, and every event
keeps it so. A request to connect that nothing else is wrong with is refused for a pin of a
channel exactly if it asks for one, for a pin that something is applied to exactly if it asks for
one and for none of a channel, and succeeds otherwise. -/
theorem pins_exclusive :
    (∀ s, Reachable w s → PinsExclusive s) ∧
    (∀ s (event : Event w), PinsExclusive s → PinsExclusive (s.after event)) ∧
    ∀ (s : State) (device protocol flags baud out : Word w) (resource : NativeResource w)
      (opened : OpenDevice) (p : Protocol) (pins : List UInt32),
      s.ConnectRequest device.narrow protocol.narrow flags.narrow baud.narrow (.ofNative resource)
          opened p pins →
        let (reply, s') := driver (.connect device protocol flags baud resource (some out)) s
        (reply.status = ErrorCode.resourceConflict.asStatus ↔
          ∃ pin ∈ pins, s.Taken device.narrow pin) ∧
        (reply.status = ErrorCode.pinInUse.asStatus ↔
          (¬ ∃ pin ∈ pins, s.Taken device.narrow pin) ∧
            ∃ pin ∈ pins, s.Powered device.narrow pin) ∧
        (reply.status = Status.noError ↔
          (¬ ∃ pin ∈ pins, s.Taken device.narrow pin) ∧
            ¬ ∃ pin ∈ pins, s.Powered device.narrow pin) ∧
        (reply.status = Status.noError →
          reply.memory = some (.of32 (nextHandle s.issued.channels)) ∧
            s' = (s.addChannel
              (s.physicalChannel device.narrow opened p baud.narrow pins)).2) := by
  refine ⟨fun s => reachable_pinsExclusive, fun s event h => h.after event, ?_⟩
  intro s device protocol flags baud out resource opened p pins hrequest
  dsimp only
  rcases connect_cases hrequest out with
    ⟨htaken, hstatus⟩ | ⟨⟨hfree, hpowered⟩, hstatus⟩ | ⟨⟨hfree, hoff⟩, hresult⟩
  · rw [hstatus]
    refine ⟨iff_of_true rfl htaken, iff_of_false (by decide) ?_, iff_of_false (by decide) ?_, ?_⟩
    · exact fun hnone => hnone.1 htaken
    · exact fun hnone => hnone.1 htaken
    · intro hok
      cases hok
  · have hnone : ¬ ∃ pin ∈ pins, s.Taken device.narrow pin := fun ⟨pin, hpin, ht⟩ => hfree pin hpin ht
    rw [hstatus]
    refine ⟨iff_of_false (by decide) hnone, iff_of_true rfl ⟨hnone, hpowered⟩,
      iff_of_false (by decide) ?_, ?_⟩
    · exact fun hclear => hclear.2 hpowered
    · intro hok
      cases hok
  · have hnone : ¬ ∃ pin ∈ pins, s.Taken device.narrow pin := fun ⟨pin, hpin, ht⟩ => hfree pin hpin ht
    have hclear : ¬ ∃ pin ∈ pins, s.Powered device.narrow pin :=
      fun ⟨pin, hpin, hp⟩ => hoff pin hpin hp
    have hconflict : Status.noError ≠ ErrorCode.resourceConflict.asStatus := by decide
    have hinUse : Status.noError ≠ ErrorCode.pinInUse.asStatus := by decide
    rw [hresult]
    refine ⟨iff_of_false hconflict hnone, iff_of_false hinUse ?_, iff_of_true rfl ⟨hnone, hclear⟩,
      fun _ => ⟨rfl, rfl⟩⟩
    exact fun hused => hclear hused.2

/-- A second channel on a pin of `Event.openCan` is refused. -/
theorem pins_exclusive_openCan :
    let s := (State.start 1).run (Event.openCan (w := .w64))
    let again : NativeResource .w64 := ⟨.of32 Connector.j1962, .of32 1, some [.of32 6]⟩
    s.ConnectRequest 1 Protocol.iso14230.code 0 10400 (.ofNative again) { name := "passthru-1" }
        .iso14230 [6] ∧
      PinsExclusive s ∧
      (driver (.connect (.of32 1) (.of32 Protocol.iso14230.code) .zero (.of32 10400) again
        (some .zero)) s).1.status = ErrorCode.resourceConflict.asStatus := by
  intro s again
  have hrequest : s.ConnectRequest 1 Protocol.iso14230.code 0 10400 (.ofNative again)
      { name := "passthru-1" } .iso14230 [6] :=
    { opened := rfl
      plugged := by decide
      protocol_eq := by decide
      physical := rfl
      flags_defined := by decide
      baud_ne := by decide
      pins_eq := rfl
      connector_eq := rfl
      nonempty := by decide
      isPin := List.forall_mem_singleton.2 (by decide) }
  have htaken : s.Taken 1 6 := State.taken_iff.2 (by decide)
  obtain ⟨hreachable, -, hconnect⟩ := pins_exclusive (w := .w64)
  refine ⟨hrequest, hreachable s ⟨1, Event.openCan, rfl⟩, ?_⟩
  exact (hconnect s (.of32 1) (.of32 Protocol.iso14230.code) .zero (.of32 10400) .zero again _ _ _
    hrequest).1.2 ⟨6, List.mem_cons_self, htaken⟩

end PassThru.Emulator
