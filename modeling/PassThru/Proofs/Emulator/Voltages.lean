import PassThru.Proofs.Emulator.Failures
import PassThru.Proofs.Emulator.Brackets
import PassThru.Proofs.Emulator.Pins

/-!
# Voltages on pins

At most one pin of a device is powered. No operation checks that: a pin is powered only while there
is nothing on any other, and what may be added to a powered pin is the ground.

A caller knows what is on the pins of a device from the calls that succeeded. A `PinDeed` is what a
reply says was done to pins, and a pin has what was last applied to it since its device was opened.

* `PinsSound`: what can be on the pins of a device; `reachable_pinsSound`.
* `get?_applyVoltage`: what a voltage does to the pins.
* `booked_after`: an event does to the devices what its reply shows.
* `Recorded`: the pins of the open devices are what a list of deeds says; `Recorded.run`.
-/

namespace PassThru.Emulator

variable {w : Width} {s s' : State}

/-! ## Applying a voltage -/

/-- What a voltage puts on a pin; switching off leaves nothing there. -/
def PinState.ofVoltage? (voltage : UInt32) : Option PinState :=
  if voltage = Voltage.pinOff then none
  else if voltage = Voltage.shortToGround then some .grounded
  else some (.powered voltage)

/-- A voltage that powers a pin. -/
def IsMillivolts (voltage : UInt32) : Prop :=
  Voltage.minMillivolts ≤ voltage ∧ voltage ≤ Voltage.maxMillivolts

theorem IsMillivolts.ne_pinOff {voltage : UInt32} (h : IsMillivolts voltage) :
    voltage ≠ Voltage.pinOff := by
  rintro rfl
  exact absurd h.2 (by decide)

theorem IsMillivolts.ne_shortToGround {voltage : UInt32} (h : IsMillivolts voltage) :
    voltage ≠ Voltage.shortToGround := by
  rintro rfl
  exact absurd h.2 (by decide)

theorem IsMillivolts.ofVoltage?_eq {voltage : UInt32} (h : IsMillivolts voltage) :
    PinState.ofVoltage? voltage = some (.powered voltage) := by
  unfold PinState.ofVoltage?
  rw [if_neg h.ne_pinOff, if_neg h.ne_shortToGround]

/-- Something is on a pin other than the given one. -/
def AppliedElsewhere (pins : Table PinState) (pin : UInt32) : Prop :=
  ∃ other state, pins.get? other = some state ∧ other ≠ pin

theorem keys_any_iff {pins : Table PinState} {pin : UInt32} :
    pins.keys.any (· != pin) = true ↔ AppliedElsewhere pins pin := by
  unfold Table.keys AppliedElsewhere
  simp only [List.any_map, List.any_eq_true, Function.comp_apply, bne_iff_ne, Prod.exists,
    Table.mem_entries_iff]

instance (pins : Table PinState) (pin : UInt32) : Decidable (AppliedElsewhere pins pin) :=
  decidable_of_iff _ keys_any_iff

/-- Whether a pin can be powered depends on the others alone. -/
theorem applyVoltage_of_isMillivolts {voltage : UInt32} (h : IsMillivolts voltage)
    (pins : Table PinState) (pin : UInt32) :
    applyVoltage pins pin voltage =
      if AppliedElsewhere pins pin then .error .voltageInUse
      else .ok (pins.insert pin (.powered voltage)) := by
  unfold applyVoltage
  rw [if_neg h.ne_pinOff, if_neg h.ne_shortToGround, if_pos (show _ ∧ _ from h)]
  simp only [keys_any_iff]

theorem applyVoltage_eq_ok_iff {pins pins' : Table PinState} {pin voltage : UInt32} :
    applyVoltage pins pin voltage = .ok pins' ↔
      (voltage = Voltage.pinOff ∧ pins' = pins.erase pin) ∨
      (voltage = Voltage.shortToGround ∧ pin = groundPin ∧ pins' = pins.insert pin .grounded) ∨
      (IsMillivolts voltage ∧ ¬ AppliedElsewhere pins pin ∧
        pins' = pins.insert pin (.powered voltage)) := by
  by_cases hmillivolts : IsMillivolts voltage
  · rw [applyVoltage_of_isMillivolts hmillivolts]
    simp only [hmillivolts.ne_pinOff, hmillivolts.ne_shortToGround, hmillivolts, false_and,
      true_and, false_or]
    split <;> simp_all [eq_comm]
  · have hlimit : ¬ (Voltage.minMillivolts ≤ voltage ∧ voltage ≤ Voltage.maxMillivolts) :=
      hmillivolts
    unfold applyVoltage
    rw [if_neg hlimit]
    simp only [hmillivolts, false_and, or_false]
    split
    · next hoff =>
      have hground : Voltage.pinOff ≠ Voltage.shortToGround := by decide
      simp [hoff, hground, eq_comm]
    · next hoff =>
      simp only [hoff, false_and, false_or]
      split
      · split <;> simp_all [eq_comm]
      · simp_all

theorem get?_applyVoltage {pins pins' : Table PinState} {pin voltage : UInt32}
    (h : applyVoltage pins pin voltage = .ok pins') (p : UInt32) :
    pins'.get? p = if p = pin then PinState.ofVoltage? voltage else pins.get? p := by
  rcases applyVoltage_eq_ok_iff.1 h with ⟨rfl, rfl⟩ | ⟨rfl, -, rfl⟩ | ⟨hmillivolts, -, rfl⟩
  · exact Table.get?_erase _ _ _
  · exact Table.get?_insert _ _ _ _
  · rw [hmillivolts.ofVoltage?_eq]
    exact Table.get?_insert _ _ _ _

/-! ## What can be on the pins of a device -/

/-- Only the ground pin is grounded, and one pin may be powered. -/
structure PinsSound (pins : Table PinState) : Prop where
  ground : ∀ {pin}, pins.get? pin = some .grounded → pin = groundPin
  limits : ∀ {pin mv}, pins.get? pin = some (.powered mv) → IsMillivolts mv
  unique : ∀ {pin₁ pin₂ mv₁ mv₂}, pins.get? pin₁ = some (.powered mv₁) →
    pins.get? pin₂ = some (.powered mv₂) → pin₁ = pin₂

theorem pinsSound_empty : PinsSound .empty := ⟨nofun, nofun, nofun⟩

namespace PinsSound

variable {pins pins' : Table PinState}

theorem of_fewer (h : PinsSound pins)
    (hfewer : ∀ {pin state}, pins'.get? pin = some state → pins.get? pin = some state) :
    PinsSound pins' where
  ground hget := h.ground (hfewer hget)
  limits hget := h.limits (hfewer hget)
  unique hget₁ hget₂ := h.unique (hfewer hget₁) (hfewer hget₂)

theorem grounded (h : PinsSound pins) : PinsSound (pins.insert groundPin .grounded) := by
  have hpowered : ∀ {p mv}, (pins.insert groundPin .grounded).get? p = some (.powered mv) →
      pins.get? p = some (.powered mv) := by
    intro p mv hget
    rcases Table.get?_insert_cases hget with ⟨-, hstate⟩ | ⟨-, hold⟩
    · cases hstate
    · exact hold
  constructor
  case ground =>
    intro p hget
    rcases Table.get?_insert_cases hget with ⟨hp, -⟩ | ⟨-, hold⟩
    · exact hp
    · exact h.ground hold
  case limits => exact fun hget => h.limits (hpowered hget)
  case unique => exact fun hget₁ hget₂ => h.unique (hpowered hget₁) (hpowered hget₂)

/-- A pin that is powered while there is nothing on any other is the only one. -/
theorem alone {pin mv : UInt32} (hmillivolts : IsMillivolts mv)
    (hnone : ¬ AppliedElsewhere pins pin) : PinsSound (pins.insert pin (.powered mv)) := by
  have honly : ∀ {p state}, (pins.insert pin (.powered mv)).get? p = some state →
      p = pin ∧ state = .powered mv := by
    intro p state hget
    rcases Table.get?_insert_cases hget with hnew | ⟨hp, hold⟩
    · exact hnew
    · exact absurd ⟨p, state, hold, hp⟩ hnone
  constructor
  case ground => exact fun hget => nomatch (honly hget).2
  case limits =>
    intro p mv' hget
    obtain rfl := PinState.powered.inj (honly hget).2
    exact hmillivolts
  case unique => exact fun hget₁ hget₂ => (honly hget₁).1.trans (honly hget₂).1.symm

theorem applyVoltage (h : PinsSound pins) {pin voltage : UInt32}
    (happlied : Emulator.applyVoltage pins pin voltage = .ok pins') : PinsSound pins' := by
  rcases applyVoltage_eq_ok_iff.1 happlied with
    ⟨-, rfl⟩ | ⟨-, rfl, rfl⟩ | ⟨hmillivolts, hnone, rfl⟩
  · exact h.of_fewer fun hget => (Table.get?_erase_eq_some_iff.1 hget).1
  · exact h.grounded
  · exact alone hmillivolts hnone

/-- Two pins that are both powered, or both grounded, are the same. -/
theorem same (h : PinsSound pins) {pin₁ pin₂ : UInt32} {state₁ state₂ : PinState}
    (hget₁ : pins.get? pin₁ = some state₁) (hget₂ : pins.get? pin₂ = some state₂)
    (halike : state₁ = .grounded ↔ state₂ = .grounded) : pin₁ = pin₂ := by
  cases state₁ with
  | grounded =>
    obtain rfl := halike.1 rfl
    rw [h.ground hget₁, h.ground hget₂]
  | powered mv₁ =>
    cases state₂ with
    | grounded => exact nomatch halike.2 rfl
    | powered mv₂ => exact h.unique hget₁ hget₂

/-- Of three pins two would be alike. -/
theorem size_le (h : PinsSound pins) : pins.size ≤ 2 := by
  unfold Table.size
  rcases hentries : pins.entries with _ | ⟨a, _ | ⟨b, _ | ⟨c, rest⟩⟩⟩
  · exact Nat.zero_le _
  · exact Nat.le_succ 1
  · exact Nat.le_refl 2
  · exfalso
    have hascending := pins.ascending
    rw [hentries] at hascending
    obtain ⟨ha, hrest⟩ := List.pairwise_cons.1 hascending
    obtain ⟨hb, -⟩ := List.pairwise_cons.1 hrest
    have hab : a.1 ≠ b.1 := UInt32.ne_of_lt (ha b (by simp))
    have hac : a.1 ≠ c.1 := UInt32.ne_of_lt (ha c (by simp))
    have hbc : b.1 ≠ c.1 := UInt32.ne_of_lt (hb c (by simp))
    have hget : ∀ entry ∈ pins.entries, pins.get? entry.1 = some entry.2 :=
      fun entry hmem => Table.mem_entries_iff.1 hmem
    rw [hentries] at hget
    have hgetA := hget a (by simp)
    have hgetB := hget b (by simp)
    have hgetC := hget c (by simp)
    have habDiffer := fun halike => hab (h.same hgetA hgetB halike)
    have hacDiffer := fun halike => hac (h.same hgetA hgetC halike)
    have hbcDiffer := fun halike => hbc (h.same hgetB hgetC halike)
    grind

/-! ### Reading back -/

theorem programmingMillivolts_eq (h : PinsSound pins) {pin mv : UInt32}
    (hget : pins.get? pin = some (.powered mv)) : programmingMillivolts pins = mv := by
  unfold programmingMillivolts
  cases hfind : pins.values.findSome? _ with
  | none =>
    have hnone := List.findSome?_eq_none_iff.1 hfind _ (Table.mem_values_iff.2 ⟨pin, hget⟩)
    cases hnone
  | some found =>
    obtain ⟨state, hmem, hstate⟩ := List.exists_of_findSome?_eq_some hfind
    obtain ⟨other, hother⟩ := Table.mem_values_iff.1 hmem
    cases state with
    | grounded => cases hstate
    | powered mv' =>
      obtain rfl := Option.some.inj hstate
      obtain rfl := h.unique hget hother
      rw [hget] at hother
      exact (PinState.powered.inj (Option.some.inj hother)).symm

end PinsSound

theorem programmingMillivolts_eq_zero {pins : Table PinState}
    (h : ∀ pin mv, pins.get? pin ≠ some (.powered mv)) : programmingMillivolts pins = 0 := by
  unfold programmingMillivolts
  rw [List.findSome?_eq_none_iff.2]
  · rfl
  · intro state hmem
    obtain ⟨pin, hget⟩ := Table.mem_values_iff.1 hmem
    cases state with
    | grounded => rfl
    | powered mv => exact absurd hget (h pin mv)

/-- The pins of every open device are sound. -/
def State.PinsSound (s : State) : Prop :=
  ∀ d device, s.devices.get? d = some device → Emulator.PinsSound device.pins

theorem Step.pinsSound (hstep : Step s s') (h : s.PinsSound) : s'.PinsSound := by
  cases hstep with
  | opened name =>
    intro d device hget
    rcases Table.get?_insert_cases hget with ⟨-, rfl⟩ | ⟨-, hold⟩
    · exact pinsSound_empty
    · exact h d device hold
  | closed id => exact fun d device hget => h d device (Table.get?_erase_eq_some_iff.1 hget).1
  | powered id device pin voltage pins hopened _ _ _ happlied =>
    intro d device' hget
    rcases Table.get?_insert_cases hget with ⟨-, rfl⟩ | ⟨-, hold⟩
    · exact (h id device hopened).applyVoltage happlied
    · exact h d device' hold
  | _ => exact h

theorem reachable_pinsSound (h : Reachable w s) : s.PinsSound := by
  have hstart : ∀ n, (State.start n).PinsSound := by
    intro n d device hget
    cases hget
  exact h.invariant hstart fun hstep hs => hstep.pinsSound hs

/-! ## What was done to pins -/

/-- What a call has done to a device or to one of its pins. -/
inductive PinDeed where
  | opened (device : UInt32)
  | closed (device : UInt32)
  | applied (device pin voltage : UInt32)
  deriving DecidableEq

/-- What a call has done if it succeeded; the handle of a device that it opened is in its memory. -/
def PinDeed.ofCall? : (call : Call w) → call.Memory → Option PinDeed
  | .openDevice .., handle => handle.map fun handle => .opened handle.narrow
  | .closeDevice device, _ => some (.closed device.narrow)
  | .setProgrammingVoltage device resource voltage, _ =>
    (PinRequest.ofNative resource).single.toOption.map fun pin =>
      .applied device.narrow pin voltage.narrow
  | _, _ => none

/-- What a reply says was done. -/
def PinDeed.ofReply? {call : Call w} (reply : Reply call) : Option PinDeed :=
  if reply.status = Status.noError then PinDeed.ofCall? call reply.memory else none

namespace State

/-- What an event does to devices and pins, as the reply has it. -/
def pinDeed? (s : State) : Event w → Option PinDeed
  | .call call => PinDeed.ofReply? (driver call s).1
  | .register _ | .unplug _ | .inject _ _ => none

/-- What a run does to devices and pins. -/
def pinHistory (s : State) : List (Event w) → List PinDeed
  | [] => []
  | event :: events => (s.pinDeed? event).toList ++ (s.after event).pinHistory events

end State

/-- The devices after one thing was done to one of them, or nothing. -/
inductive Booked (s s' : State) : Option PinDeed → Prop
  | nothing (same : s'.devices = s.devices) : Booked s s' none
  | opened (d : UInt32) (name : String) (devices_eq : s'.devices = s.devices.insert d { name }) :
      Booked s s' (some (.opened d))
  | closed (d : UInt32) (devices_eq : s'.devices = s.devices.erase d) :
      Booked s s' (some (.closed d))
  | applied (d pin voltage : UInt32) (device : OpenDevice) (pins : Table PinState)
      (found : s.devices.get? d = some device)
      (applied : applyVoltage device.pins pin voltage = .ok pins)
      (devices_eq : s'.devices = s.devices.insert d { device with pins }) :
      Booked s s' (some (.applied d pin voltage))

theorem Booked.congr {s₁ s₂ : State} {deed? : Option PinDeed} (h : Booked s s₁ deed?)
    (hdevices : s₂.devices = s₁.devices) : Booked s s₂ deed? := by
  cases h with
  | nothing hsame => exact .nothing (hdevices.trans hsame)
  | opened d name hopened => exact .opened d name (hdevices.trans hopened)
  | closed d hclosed => exact .closed d (hdevices.trans hclosed)
  | applied d pin voltage device pins hfound happlied hinserted =>
    exact .applied d pin voltage device pins hfound happlied (hdevices.trans hinserted)

theorem Effect.devices_eq {call : Call w} {failure? : Option ErrorCode}
    (h : Effect s call failure? s')
    (hnothing : failure? = none → ∀ memory, PinDeed.ofCall? call memory = none) :
    s'.devices = s.devices := by
  cases h with
  | opened name device id s' hok => cases hnothing rfl (some .zero)
  | closed device s' hok => cases hnothing rfl ()
  | powered device resource voltage s' hok =>
    obtain ⟨_, -, pin, hpin, -⟩ := State.setProgrammingVoltage_eq_ok_iff.1 hok
    have hdeed : (PinRequest.ofNative resource).single.toOption.map _ = none := hnothing rfl ()
    rw [hpin] at hdeed
    cases hdeed
  | connected _ _ _ _ _ _ _ _ hok =>
    obtain ⟨_, _, _, -, -, -, hresult⟩ := State.connect_eq_ok hok
    obtain ⟨-, rfl⟩ := Prod.mk.inj hresult
    rfl
  | disconnected _ _ hok =>
    obtain ⟨-, -, -, rfl⟩ := State.disconnect_eq_ok_iff.1 hok
    rfl
  | logicalConnected _ _ _ _ _ _ _ hok =>
    obtain ⟨_, -, -, -, -, -, hresult⟩ := State.logicalConnect_eq_ok_iff.1 hok
    obtain ⟨-, rfl⟩ := Prod.mk.inj hresult
    rfl
  | logicalDisconnected _ _ hok =>
    obtain ⟨-, -, -, rfl⟩ := State.logicalDisconnect_eq_ok_iff.1 hok
    rfl
  | selected _ _ _ _ ids =>
    refine readyAmong_induction (P := fun s' => s'.devices = s.devices) ?_ ids s rfl
    intro _ _ _ _ hpump hs
    obtain ⟨_, -, hresult⟩ := State.pump_eq_ok_iff.1 hpump
    obtain ⟨-, rfl⟩ := Prod.mk.inj hresult
    exact hs
  | periodicStarted _ _ _ _ _ _ hok =>
    obtain ⟨_, -, -, _, -, -, -, hresult⟩ := State.startPeriodicMsg_eq_ok_iff.1 hok
    obtain ⟨-, rfl⟩ := Prod.mk.inj hresult
    rfl
  | periodicStopped _ _ _ hok =>
    obtain ⟨_, -, -, rfl⟩ := State.stopPeriodicMsg_eq_ok_iff.1 hok
    rfl
  | filterStarted _ _ _ _ _ _ _ hok =>
    obtain ⟨_, -, _, -, -, -, -, -, -, -, -, hresult⟩ := State.startMsgFilter_eq_ok_iff.1 hok
    obtain ⟨-, rfl⟩ := Prod.mk.inj hresult
    rfl
  | filterStopped _ _ _ hok =>
    obtain ⟨_, -, -, rfl⟩ := State.stopMsgFilter_eq_ok_iff.1 hok
    rfl
  | configured _ _ _ _ _ _ hok =>
    obtain ⟨-, _, -, _, -, -, rfl⟩ := State.setConfig_eq_ok_iff.1 hok
    rfl
  | functionalChanged _ _ _ _ _ _ hok =>
    obtain ⟨-, _, -, -, _, -, rfl⟩ := State.changeFunctional_eq_ok_iff.1 hok
    rfl
  | cleared _ _ _ _ _ _ _ hok =>
    obtain ⟨-, -, _, -, _, -, rfl⟩ := State.clear_eq_ok_iff.1 hok
    rfl
  | _ => rfl

@[simp] theorem remember_devices (entry : EntryPoint) (failure? : Option ErrorCode) (s : State) :
    (remember entry failure? s).devices = s.devices := by
  unfold remember
  cases failure? with
  | none => rfl
  | some code => dsimp only; split <;> rfl

/-- A device that was opened has the handle that was returned. -/
theorem booked_performOpen {name : Option (List UInt8)} {device : Option (Word w)}
    (h : (performOpen s name device).failure? = none) :
    Booked s (performOpen s name device).state
      ((performOpen s name device).memory.map fun handle => .opened handle.narrow) := by
  cases name with
  | none => cases h
  | some name =>
    cases device with
    | none => cases h
    | some device =>
      have hissue : performOpen s (some name) (some device) =
          issue s (some device) (s.openDevice (Field.decode name)) := rfl
      rw [hissue] at h ⊢
      cases hopen : s.openDevice (Field.decode name) with
      | error code =>
        rw [hopen] at h
        cases h
      | ok result =>
        obtain ⟨-, hid, hstate⟩ := State.openDevice_eq_ok_iff.1 hopen
        show Booked s result.2 (some (.opened (Word.of32 result.1 : Word w).narrow))
        rw [Word.narrow_of32, hid]
        exact .opened _ _ (congrArg State.devices hstate)

/-- What a call that succeeds does to the devices is what its memory shows. -/
theorem booked_of_succeeded {call : Call w} (h : (perform s call).failure? = none) :
    Booked s (perform s call).state (PinDeed.ofCall? call (perform s call).memory) := by
  have heffect := perform_effect s call
  cases call with
  | openDevice name device => exact booked_performOpen h
  | closeDevice device =>
    obtain ⟨-, hstate⟩ := State.closeDevice_eq_ok_iff.1 (ok_of_change h)
    exact .closed _ (congrArg State.devices hstate)
  | setProgrammingVoltage device resource voltage =>
    obtain ⟨opened, ⟨hfound, -⟩, pin, hpin, -, -, pins, happlied, hstate⟩ :=
      State.setProgrammingVoltage_eq_ok_iff.1 (ok_of_change h)
    have hdeed : PinDeed.ofCall? (.setProgrammingVoltage device resource voltage) () =
        some (.applied device.narrow pin voltage.narrow) := by
      show (PinRequest.ofNative resource).single.toOption.map _ = _
      rw [hpin]
      rfl
    exact hdeed ▸ .applied _ _ _ opened pins hfound happlied (congrArg State.devices hstate)
  | _ => exact .nothing (heffect.devices_eq fun _ _ => rfl)

/-- What any call does to the devices is what its reply shows. -/
theorem booked_call (s : State) (call : Call w) :
    Booked s (s.after (.call call)) (s.pinDeed? (.call call)) := by
  have hdevices : (s.after (.call call)).devices = (perform s call).state.devices :=
    remember_devices _ _ _
  have hdeed : s.pinDeed? (.call call) =
      if (perform s call).failure? = none then PinDeed.ofCall? call (perform s call).memory
      else none := by
    unfold State.pinDeed? PinDeed.ofReply?
    simp only [status_eq_noError_iff]
    rfl
  rw [hdeed]
  split
  · next h => exact (booked_of_succeeded h).congr hdevices
  · next h =>
    have hsame := (perform_effect s call).devices_eq fun hok => absurd hok h
    exact .nothing (hdevices.trans hsame)

/-- So it is with every event; what the owner of the emulation does is nothing to devices. -/
theorem booked_after (s : State) (event : Event w) :
    Booked s (s.after event) (s.pinDeed? event) := by
  cases event with
  | call call => exact booked_call s call
  | register interface =>
    refine .nothing ?_
    rcases after_register (w := w) s interface with hsame | ⟨-, hregistered⟩
    · rw [hsame]
    · rw [hregistered]
  | unplug name => exact .nothing rfl
  | inject channel frame =>
    refine .nothing ?_
    show (s.inject channel frame).devices = s.devices
    unfold State.inject
    cases s.channels.get? channel <;> rfl

/-! ## Pins as the deeds have them -/

/-- What was done since a device was opened; it was neither closed nor opened again. -/
def SinceOpened (history : List PinDeed) (d : UInt32) (since : List PinDeed) : Prop :=
  ∃ before, history = before ++ .opened d :: since ∧ .opened d ∉ since ∧ .closed d ∉ since

/-- The voltage that a deed applied to a pin. -/
def PinDeed.voltageOn? (d pin : UInt32) : PinDeed → Option UInt32
  | .applied device p voltage => if device = d ∧ p = pin then some voltage else none
  | _ => none

/-- What the last voltage that was applied to a pin put there. -/
def lastApplied (d pin : UInt32) (since : List PinDeed) : Option PinState :=
  (since.filterMap (PinDeed.voltageOn? d pin)).getLast?.bind PinState.ofVoltage?

theorem lastApplied_snoc (d pin : UInt32) (since : List PinDeed) (deed : PinDeed) :
    lastApplied d pin (since ++ [deed]) =
      match deed.voltageOn? d pin with
      | some voltage => PinState.ofVoltage? voltage
      | none => lastApplied d pin since := by
  unfold lastApplied
  rw [List.filterMap_append]
  cases hdeed : deed.voltageOn? d pin with
  | none => simp [hdeed]
  | some voltage => simp [hdeed]

theorem SinceOpened.snoc {history since : List PinDeed} {d : UInt32}
    (h : SinceOpened history d since) {deed : PinDeed} (hopened : deed ≠ .opened d)
    (hclosed : deed ≠ .closed d) : SinceOpened (history ++ [deed]) d (since ++ [deed]) := by
  obtain ⟨before, rfl, hnotOpened, hnotClosed⟩ := h
  refine ⟨before, by simp, ?_, ?_⟩
  · simpa [hnotOpened] using hopened.symm
  · simpa [hnotClosed] using hclosed.symm

/-- The pins of an open device have what was last applied to them since the device was opened. -/
def Recorded (history : List PinDeed) (s : State) : Prop :=
  ∀ d device, s.devices.get? d = some device →
    ∃ since, SinceOpened history d since ∧ ∀ pin, device.pins.get? pin = lastApplied d pin since

/-- A device that a deed is not about stays as it was. -/
theorem Recorded.kept {history : List PinDeed} (h : Recorded history s) {d : UInt32}
    {device : OpenDevice} (hfound : s.devices.get? d = some device) {deed : PinDeed}
    (hopened : deed ≠ .opened d) (hclosed : deed ≠ .closed d)
    (happlied : ∀ pin, deed.voltageOn? d pin = none) :
    ∃ since, SinceOpened (history ++ [deed]) d since ∧
      ∀ pin, device.pins.get? pin = lastApplied d pin since := by
  obtain ⟨since, hsince, hpins⟩ := h d device hfound
  refine ⟨since ++ [deed], hsince.snoc hopened hclosed, fun pin => ?_⟩
  rw [lastApplied_snoc, happlied, hpins]

theorem Recorded.step {history : List PinDeed} (h : Recorded history s) {deed? : Option PinDeed}
    (hbooked : Booked s s' deed?) : Recorded (history ++ deed?.toList) s' := by
  intro k device hget
  cases hbooked with
  | nothing hsame =>
    rw [hsame] at hget
    simpa using h k device hget
  | opened d name hdevices =>
    rw [hdevices] at hget
    rcases Table.get?_insert_cases hget with ⟨rfl, rfl⟩ | ⟨hk, hold⟩
    · exact ⟨[], ⟨history, rfl, by simp, by simp⟩, fun pin => rfl⟩
    · exact h.kept hold (by simpa using hk.symm) (by simp) fun pin => rfl
  | closed d hdevices =>
    rw [hdevices] at hget
    obtain ⟨hold, hk⟩ := Table.get?_erase_eq_some_iff.1 hget
    exact h.kept hold (by simp) (by simpa using hk.symm) fun pin => rfl
  | applied d pin voltage opened pins hfound happlied hdevices =>
    rw [hdevices] at hget
    rcases Table.get?_insert_cases hget with ⟨rfl, rfl⟩ | ⟨hk, hold⟩
    · obtain ⟨since, hsince, hpins⟩ := h k opened hfound
      have hsnoc : SinceOpened (history ++ [.applied k pin voltage]) k
          (since ++ [.applied k pin voltage]) := hsince.snoc (by simp) (by simp)
      refine ⟨_, hsnoc, fun p => ?_⟩
      rw [lastApplied_snoc]
      show pins.get? p = _
      rw [get?_applyVoltage happlied, ← hpins]
      by_cases hp : p = pin
      · simp [PinDeed.voltageOn?, hp]
      · simp [PinDeed.voltageOn?, hp, Ne.symm hp]
    · exact h.kept hold (by simp) (by simp) fun p => if_neg fun hsame => hk hsame.1.symm

theorem Recorded.run {history : List PinDeed} (h : Recorded history s) (events : List (Event w)) :
    Recorded (history ++ s.pinHistory events) (s.run events) := by
  induction events generalizing s history with
  | nil =>
    unfold State.pinHistory
    rw [List.append_nil]
    exact h
  | cons event events ih =>
    unfold State.pinHistory
    rw [← List.append_assoc]
    exact ih (h.step (booked_after s event))

theorem recorded_start (n : Nat) (events : List (Event w)) :
    Recorded ((State.start n).pinHistory events) ((State.start n).run events) := by
  have hstart : Recorded [] (State.start n) := by
    intro d device hget
    cases hget
  exact hstart.run events

end PassThru.Emulator
