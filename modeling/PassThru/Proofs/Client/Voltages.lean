import PassThru.Client
import PassThru.Proofs.Client.Answers
import PassThru.Proofs.Emulator.Voltages

/-!
# Voltages as a client sees them

A client of the emulated library measures the pins of an open device and applies voltages to them.

* `readProgVoltage_eq` and `readVoltage_eq`: what a measurement answers.
* `voltages_recorded`: what is on the pins of a device, where it comes from, and how it is measured.
* `perform_setProgrammingVoltage`: what becomes of a request to power a pin of no channel.
* `voltage_refused_iff`: when such a request is refused. A ground on another pin is enough, although
  it carries no voltage; so it matters which of two pins is grounded or powered first.
-/

namespace PassThru.Emulator

variable {w : Width} {s : State} {d : UInt32} {device : OpenDevice}

/-! ## Requests for one pin -/

/-- The native form of a resource with one pin. -/
def onePin (connector pin : UInt32) : NativeResource w :=
  ⟨.of32 connector, .of32 1, some [.of32 pin]⟩

theorem ofNative_onePin (connector pin : UInt32) :
    PinRequest.ofNative (onePin connector pin : NativeResource w) = ⟨connector, .ok [pin]⟩ := by
  have hread : readList (.of32 1 : Word w) (some [(.of32 pin : Word w)]) = .ok [.of32 pin] := by
    unfold readList
    rw [Word.narrow_of32]
    rfl
  unfold PinRequest.ofNative onePin
  dsimp only
  rw [hread]
  simp only [Except.map, List.map_cons, List.map_nil, Word.narrow_of32]

section Connected

variable (hopened : s.devices.get? d = some device)
  (hplugged : s.registry.isConnected device.name = true) (settings : Settings)

include hopened hplugged

/-! ## Measuring -/

theorem readProgVoltage_eq :
    (⟨driver, settings⟩ : Client w State).readProgVoltage ⟨d⟩ s =
      (.ok (programmingMillivolts device.pins), s) := by
  have hdevice : s.device d = .ok device := State.device_eq_ok_iff.2 ⟨hopened, hplugged⟩
  have hperform : perform s (.ioctl (.of32 d) (.of32 Ioctl.readProgVoltage.code) .null
      (.number (.zero : Word w))) =
      ⟨none, ⟨.null, .number (.of32 (programmingMillivolts device.pins))⟩, s⟩ := by
    unfold perform performIoctl
    simp only [Word.narrow_of32, Ioctl.ofCode?_code]
    unfold State.readProgVoltage
    rw [hdevice]
    rfl
  show (Request.andThen _ (Request.ioctl settings.rxBufferSize d .readProgVoltage .none)).perform
    driver s = _
  rw [perform_andThen, Request.ioctl_of_encode rfl rfl rfl,
    perform_of_succeeded (by rw [hperform]), hperform]
  simp only [ControlOutput.decode, NativeControl.received, Word.read_of32]
  rfl

theorem readVoltage_eq (connector pin : UInt32) :
    (⟨driver, settings⟩ : Client w State).readVoltage ⟨d⟩ ⟨connector, [pin]⟩ s =
      (.ok (millivoltsOn device.pins pin), s) := by
  have hdevice : s.device d = .ok device := State.device_eq_ok_iff.2 ⟨hopened, hplugged⟩
  have hperform : perform s (.ioctl (.of32 d) (.of32 Ioctl.readPinVoltage.code)
      (.resource (onePin connector pin)) (.number (.zero : Word w))) =
      ⟨none, ⟨.resource (onePin connector pin), .number (.of32 (millivoltsOn device.pins pin))⟩,
        s⟩ := by
    unfold perform performIoctl
    simp only [Word.narrow_of32, Ioctl.ofCode?_code]
    unfold State.readPinVoltage readPins
    dsimp only
    rw [hdevice, ofNative_onePin]
    rfl
  have hown : (ControlInput.resource ⟨connector, [pin]⟩).encode =
      .ok (.resource (onePin connector pin) : NativeControl w) := rfl
  show (Request.andThen _ (Request.ioctl settings.rxBufferSize d .readPinVoltage
    (.resource ⟨connector, [pin]⟩))).perform driver s = _
  rw [perform_andThen, Request.ioctl_of_encode rfl hown rfl,
    perform_of_succeeded (by rw [hperform]), hperform]
  simp only [ControlOutput.decode, NativeControl.received, Word.read_of32]
  rfl

end Connected

/-- **What is on the pins.** At any time the ground pin of an open device may be grounded, and one
pin may be powered; each pin has what was last applied to it since the device was opened. While the
interface is plugged in, a client that asks for the programming voltage is told that of the one pin,
and one that asks for a pin is told what is on it. -/
theorem voltages_recorded {n : Nat} {events : List (Event w)}
    (hopened : ((State.start n).run events).devices.get? d = some device) (settings : Settings) :
    let s := (State.start n).run events
    let client : Client w State := ⟨driver, settings⟩
    let on := device.pins.get?
    (∀ pin state, on pin = some state →
      (pin = 15 ∧ state = .grounded) ∨ ∃ mv, state = .powered mv ∧ 5000 ≤ mv ∧ mv ≤ 20000) ∧
    (∀ pin₁ pin₂ mv₁ mv₂, on pin₁ = some (.powered mv₁) → on pin₂ = some (.powered mv₂) →
      pin₁ = pin₂) ∧
    device.pins.size ≤ 2 ∧
    (∃ since, SinceOpened ((State.start n).pinHistory events) d since ∧
      ∀ pin, on pin = lastApplied d pin since) ∧
    (s.registry.isConnected device.name = true →
      (∀ pin mv, on pin = some (.powered mv) → client.readProgVoltage ⟨d⟩ s = (.ok mv, s)) ∧
      ((∀ pin mv, on pin ≠ some (.powered mv)) → client.readProgVoltage ⟨d⟩ s = (.ok 0, s)) ∧
      ∀ connector pin,
        let measured := client.readVoltage ⟨d⟩ ⟨connector, [pin]⟩ s
        (∀ mv, on pin = some (.powered mv) → measured = (.ok mv, s)) ∧
        (on pin = some .grounded → measured = (.ok 0, s)) ∧
        (on pin = none → measured = (.ok (if pin = 16 then 12600 else 0), s))) := by
  intro s client on
  have hsound : PinsSound device.pins :=
    reachable_pinsSound (w := w) ⟨n, events, rfl⟩ d device hopened
  have hrecorded := recorded_start n events d device hopened
  refine ⟨fun pin state hget => ?_, fun _ _ _ _ => hsound.unique, hsound.size_le, hrecorded,
    fun hplugged => ⟨fun pin mv hget => ?_, fun hnone => ?_, fun connector pin => ?_⟩⟩
  · cases state with
    | grounded => exact .inl ⟨hsound.ground hget, rfl⟩
    | powered mv => exact .inr ⟨mv, rfl, hsound.limits hget⟩
  · rw [readProgVoltage_eq hopened hplugged, hsound.programmingMillivolts_eq hget]
  · rw [readProgVoltage_eq hopened hplugged, programmingMillivolts_eq_zero hnone]
  · intro measured
    have hmeasured : measured = (.ok (millivoltsOn device.pins pin), s) :=
      readVoltage_eq hopened hplugged settings connector pin
    have hon : device.pins.get? pin = on pin := rfl
    unfold millivoltsOn at hmeasured
    rw [hon] at hmeasured
    refine ⟨fun mv hget => ?_, fun hget => ?_, fun hget => ?_⟩ <;> rwa [hget] at hmeasured

/-- Opening the interface `passthru-1`, powering a pin twice, and grounding the ground pin. -/
theorem voltages_recorded_grounded :
    let apply (pin voltage : UInt32) : Event .w64 :=
      .call (.setProgrammingVoltage (.of32 1) (onePin Connector.j1962 pin) (.of32 voltage))
    let events := [.call (.openDevice (some (Utf8.encode "passthru-1")) (some .zero)),
      apply 12 5000, apply 12 18000, apply 15 Voltage.shortToGround]
    let s := (State.start 1).run events
    let client : Client .w64 State := ⟨driver, {}⟩
    (∃ device, s.devices.get? 1 = some device ∧ device.pins.size = 2) ∧
      lastApplied 1 12 ((State.start 1).pinHistory events) = some (.powered 18000) ∧
      client.readProgVoltage ⟨1⟩ s = (.ok 18000, s) ∧
      client.readVoltage ⟨1⟩ ⟨Connector.j1962, [15]⟩ s = (.ok 0, s) ∧
      client.readVoltage ⟨1⟩ ⟨Connector.j1962, [16]⟩ s = (.ok 12600, s) := by
  intro apply events s client
  obtain ⟨device, hopened⟩ : ∃ device, s.devices.get? 1 = some device := ⟨_, rfl⟩
  obtain ⟨-, -, -, -, hmeasured⟩ := voltages_recorded hopened {}
  obtain rfl := Option.some.inj hopened
  obtain ⟨hprogramming, -, hpin⟩ := hmeasured (by decide)
  have hsize : ∃ device, s.devices.get? 1 = some device ∧ device.pins.size = 2 :=
    ⟨_, hopened, by decide⟩
  exact ⟨hsize, by decide, hprogramming 12 18000 (by decide), (hpin _ 15).2.1 rfl,
    (hpin _ 16).2.2 rfl⟩

/-! ## Applying -/

/-- The state with other things on the pins of a device. -/
def State.setPins (s : State) (d : UInt32) (device : OpenDevice) (pins : Table PinState) : State :=
  { s with devices := s.devices.insert d { device with pins } }

theorem State.get?_setPins (s : State) (d : UInt32) (device : OpenDevice) (pins : Table PinState) :
    (s.setPins d device pins).devices.get? d = some { device with pins } :=
  Table.get?_insert_self _ _ _

theorem State.setPins_setPins (s : State) (d : UInt32) (device : OpenDevice)
    (pins pins' : Table PinState) :
    (s.setPins d device pins).setPins d { device with pins } pins' = s.setPins d device pins' := by
  unfold State.setPins
  dsimp only
  rw [Table.insert_insert]

section Free

variable (hopened : s.devices.get? d = some device)
  (hplugged : s.registry.isConnected device.name = true) {pin : UInt32}
  (hpin : 1 ≤ pin ∧ pin ≤ 16) (hfree : ¬ s.Taken d pin) (settings : Settings) (voltage : UInt32)

include hopened hplugged hpin hfree

theorem perform_setProgrammingVoltage :
    perform s (.setProgrammingVoltage (.of32 d) (onePin Connector.j1962 pin)
        (.of32 voltage : Word w)) =
      change s ((applyVoltage device.pins pin voltage).map (s.setPins d device)) := by
  have hdevice : s.device d = .ok device := State.device_eq_ok_iff.2 ⟨hopened, hplugged⟩
  have hunused : s.pinInUse d pin = false :=
    Bool.eq_false_iff.2 fun hused => hfree (State.taken_iff.2 hused)
  have hconnector : (Connector.j1962 == Connector.j1962 && isPin pin) = true := by
    rw [beq_self_eq_true, isPin_iff.2 hpin]
    rfl
  unfold perform
  dsimp only
  rw [Word.narrow_of32, Word.narrow_of32, ofNative_onePin]
  unfold State.setProgrammingVoltage PinRequest.single
  rw [hdevice]
  simp only [bind, Except.bind, pure, Except.pure, hconnector, hunused, Attempt.require]
  cases applyVoltage device.pins pin voltage <;> rfl

theorem ask_setProgrammingVoltage_of_ok {pins : Table PinState}
    (happlied : applyVoltage device.pins pin voltage = .ok pins) :
    (⟨driver, settings⟩ : Client w State).ask
        (.setProgrammingVoltage ⟨d⟩ ⟨Connector.j1962, [pin]⟩ voltage) s =
      (.ok (), s.setPins d device pins) := by
  have hperform := perform_setProgrammingVoltage (w := w) hopened hplugged hpin hfree voltage
  rw [happlied] at hperform
  show (Request.afterSuccess (.setProgrammingVoltage (.of32 d) (onePin Connector.j1962 pin)
    (.of32 voltage)) _).perform driver s = _
  rw [perform_of_succeeded (by rw [hperform]; rfl), hperform]
  rfl

theorem ask_setProgrammingVoltage_of_error {code : ErrorCode}
    (hrefused : applyVoltage device.pins pin voltage = .error code)
    (hcode : ErrorCode.ofStatus code.asStatus = some code) :
    (⟨driver, settings⟩ : Client w State).ask
        (.setProgrammingVoltage ⟨d⟩ ⟨Connector.j1962, [pin]⟩ voltage) s =
      (.error (.vendor code), { s with lastFailure := some ⟨.setProgrammingVoltage, code⟩ }) := by
  have hperform := perform_setProgrammingVoltage (w := w) hopened hplugged hpin hfree voltage
  rw [hrefused] at hperform
  show (Request.afterSuccess (.setProgrammingVoltage (.of32 d) (onePin Connector.j1962 pin)
    (.of32 voltage)) _).perform driver s = _
  rw [perform_of_failed (by rw [hperform]; rfl) hcode, hperform]
  rfl

end Free

theorem applyVoltage_ground (pins : Table PinState) :
    applyVoltage pins groundPin Voltage.shortToGround = .ok (pins.insert groundPin .grounded) := rfl

/-- What is on another pin is a voltage, or the ground. -/
theorem PinsSound.appliedElsewhere_iff {pins : Table PinState} (h : PinsSound pins) {pin : UInt32} :
    AppliedElsewhere pins pin ↔
      (∃ other mv, other ≠ pin ∧ pins.get? other = some (.powered mv)) ∨
        (pin ≠ groundPin ∧ pins.get? groundPin = some .grounded) := by
  constructor
  · rintro ⟨other, state, hget, hother⟩
    cases state with
    | grounded =>
      obtain rfl := h.ground hget
      exact .inr ⟨hother.symm, hget⟩
    | powered mv => exact .inl ⟨other, mv, hother, hget⟩
  · rintro (⟨other, mv, hother, hget⟩ | ⟨hpin, hget⟩)
    · exact ⟨other, _, hget, hother⟩
    · exact ⟨groundPin, _, hget, hpin.symm⟩

/-- **When a pin cannot be powered.** A client that wants to power a pin of the connector that no
channel has is refused for a voltage that is in use if another pin is powered, or if the ground pin
is another one and grounded; otherwise the pin is powered. While nothing is powered or grounded, a
pin can be powered and then the ground pin be grounded; but once the ground pin is grounded, no
other pin can be powered. -/
theorem voltage_refused_iff (h : Reachable w s) (hopened : s.devices.get? d = some device)
    (hplugged : s.registry.isConnected device.name = true) {pin mv : UInt32}
    (hpin : 1 ≤ pin ∧ pin ≤ 16) (hfree : ¬ s.Taken d pin) (hmv : 5000 ≤ mv ∧ mv ≤ 20000)
    (settings : Settings) :
    let client : Client w State := ⟨driver, settings⟩
    let apply (pin voltage : UInt32) :=
      client.ask (.setProgrammingVoltage ⟨d⟩ ⟨Connector.j1962, [pin]⟩ voltage)
    let on := device.pins.get?
    let failed (s : State) : State :=
      { s with lastFailure := some ⟨.setProgrammingVoltage, .voltageInUse⟩ }
    let refused := (∃ other mv', other ≠ pin ∧ on other = some (.powered mv')) ∨
      (pin ≠ 15 ∧ on 15 = some .grounded)
    (refused → apply pin mv s = (.error (.vendor .voltageInUse), failed s)) ∧
    (¬ refused →
      apply pin mv s = (.ok (), s.setPins d device (device.pins.insert pin (.powered mv)))) ∧
    (pin ≠ 15 → ¬ s.Taken d 15 → on 15 = none → (∀ other mv', on other ≠ some (.powered mv')) →
      let grounded := device.pins.insert 15 .grounded
      let both := (device.pins.insert pin (.powered mv)).insert 15 .grounded
      ((apply pin mv s).1 = .ok () ∧
        apply 15 Voltage.shortToGround (apply pin mv s).2 = (.ok (), s.setPins d device both)) ∧
      (apply 15 Voltage.shortToGround s).1 = .ok () ∧
        apply pin mv (apply 15 Voltage.shortToGround s).2 =
          (.error (.vendor .voltageInUse), failed (s.setPins d device grounded))) := by
  intro client apply on failed refused
  have hsound := reachable_pinsSound h d device hopened
  have happly := applyVoltage_of_isMillivolts (show IsMillivolts mv from hmv)
  have hrefused : AppliedElsewhere device.pins pin ↔ refused := hsound.appliedElsewhere_iff
  have hpowers : ¬ refused →
      apply pin mv s = (.ok (), s.setPins d device (device.pins.insert pin (.powered mv))) := by
    intro hnone
    refine ask_setProgrammingVoltage_of_ok hopened hplugged hpin hfree settings mv ?_
    rw [happly, if_neg (fun happlied => hnone (hrefused.1 happlied))]
  refine ⟨fun hused => ?_, hpowers, ?_⟩
  · refine ask_setProgrammingVoltage_of_error hopened hplugged hpin hfree settings mv ?_ rfl
    rw [happly, if_pos (hrefused.2 hused)]
  · intro hother hground hoff hnone grounded both
    have hunused : ¬ refused := by
      rintro (⟨other, mv', -, hget⟩ | ⟨-, hget⟩)
      · exact hnone other mv' hget
      · rw [hoff] at hget
        cases hget
    have hpowered := hpowers hunused
    have hgrounded : apply 15 Voltage.shortToGround s = (.ok (), s.setPins d device grounded) :=
      ask_setProgrammingVoltage_of_ok hopened hplugged (by decide) hground settings _
        (applyVoltage_ground _)
    -- the device is still open and plugged in, whatever is on its pins
    refine ⟨⟨congrArg Prod.fst hpowered, ?_⟩, congrArg Prod.fst hgrounded, ?_⟩
    · have hstill := s.get?_setPins d device (device.pins.insert pin (.powered mv))
      rw [hpowered, ← s.setPins_setPins d device (device.pins.insert pin (.powered mv)) both]
      exact ask_setProgrammingVoltage_of_ok hstill hplugged (by decide) hground settings _
        (applyVoltage_ground _)
    · have happlied : AppliedElsewhere grounded pin :=
        ⟨15, .grounded, Table.get?_insert_self _ _ _, hother.symm⟩
      rw [hgrounded]
      refine ask_setProgrammingVoltage_of_error (s.get?_setPins d device grounded) hplugged hpin
        hfree settings mv ?_ rfl
      rw [happly, if_pos happlied]

/-- Grounding the ground pin of a device that was just opened. -/
def Event.ground : List (Event w) :=
  [.call (.openDevice (some (Utf8.encode "passthru-1")) (some .zero)),
    .call (.setProgrammingVoltage (.of32 1) (onePin Connector.j1962 15)
      (.of32 Voltage.shortToGround))]

/-- With the ground alone nothing is powered, and still another pin cannot be. -/
theorem ground_refuses_voltage :
    let s := (State.start 1).run (Event.ground (w := .w64))
    let client : Client .w64 State := ⟨driver, {}⟩
    Reachable .w64 s ∧ (∃ device, s.device 1 = .ok device) ∧ ¬ s.Taken 1 12 ∧
      (∀ pin mv, s.pinState? 1 pin ≠ some (.powered mv)) ∧
      (client.readProgVoltage ⟨1⟩ s).1 = .ok 0 ∧
      (client.ask (.setProgrammingVoltage ⟨1⟩ ⟨Connector.j1962, [12]⟩ 12000) s).1 =
        .error (.vendor .voltageInUse) := by
  intro s client
  refine ⟨⟨1, Event.ground, rfl⟩, ⟨_, rfl⟩, ?_, fun pin mv hpowered => ?_, rfl, rfl⟩
  · rw [State.taken_iff]
    decide
  · have hground : s.pinState? 1 pin = ((Table.empty.insert 15 .grounded).get? pin) := rfl
    rw [hground] at hpowered
    rcases Table.get?_insert_cases hpowered with ⟨-, hstate⟩ | ⟨-, hold⟩
    · cases hstate
    · cases hold

/-- Of a device that was just opened a pin is powered; when the ground is there first, it is not. -/
theorem voltage_refused_iff_opened :
    let s := (State.start 1).run
      [(.call (.openDevice (some (Utf8.encode "passthru-1")) (some .zero)) : Event .w64)]
    let client : Client .w64 State := ⟨driver, {}⟩
    let apply (pin voltage : UInt32) :=
      client.ask (.setProgrammingVoltage ⟨1⟩ ⟨Connector.j1962, [pin]⟩ voltage)
    Reachable .w64 s ∧ (apply 12 12000 s).1 = .ok () ∧
      (apply 15 Voltage.shortToGround (apply 12 12000 s).2).1 = .ok () ∧
      (apply 15 Voltage.shortToGround s).1 = .ok () ∧
      (apply 12 12000 (apply 15 Voltage.shortToGround s).2).1 = .error (.vendor .voltageInUse) := by
  intro s client apply
  have hreachable : Reachable .w64 s := ⟨1, _, rfl⟩
  have hfree : ∀ pin, ¬ s.Taken 1 pin := by
    rintro pin ⟨id, ch, hget, -⟩
    cases hget
  have hopened : s.devices.get? 1 = some { name := "passthru-1" } := rfl
  have hmv : 5000 ≤ (12000 : UInt32) ∧ (12000 : UInt32) ≤ 20000 := by decide
  obtain ⟨-, -, horder⟩ := voltage_refused_iff hreachable hopened (by decide) (by decide) (hfree 12)
    hmv {}
  obtain ⟨⟨hpowered, hthenGrounded⟩, hgrounded, hthenPowered⟩ :=
    horder (by decide) (hfree 15) rfl nofun
  exact ⟨hreachable, hpowered, congrArg Prod.fst hthenGrounded, hgrounded,
    congrArg Prod.fst hthenPowered⟩

end PassThru.Emulator
