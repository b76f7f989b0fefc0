import PassThru.Proofs.Emulator.Step

/-!
# Runs of the emulated library

A run starts from a registry of numbered interfaces with nothing open. Its events are calls, with
any arguments and whether they succeed or fail, and what the owner of the emulation may do: register
an interface, unplug one, and put a frame on the bus of a channel.

`Reachable.invariant` is the rule of induction: what holds at the start and is preserved by every
elementary step holds of every reachable state.
-/

namespace PassThru.Emulator

variable {w : Width}

/-- What can happen to an emulated library whose callers use the width `w`. -/
inductive Event (w : Width) where
  | call (call : Call w)
  | register (interface : Interface)
  | unplug (name : String)
  | inject (channel : UInt32) (frame : Message)

namespace State

/-- The state after an event; an interface whose name does not fit is not registered. -/
def after (s : State) : Event w → State
  | .call call => (driver call s).2
  | .register interface =>
    match s.register interface with
    | .ok s' => s'
    | .error _ => s
  | .unplug name => s.unplug name
  | .inject channel frame => s.inject channel frame

/-- The state after a list of events. -/
def run (s : State) (events : List (Event w)) : State := events.foldl State.after s

/-- The state of a library with `n` interfaces that nothing was done with. -/
def start (n : Nat) : State := .initial (Registry.numbered n)

end State

/-- The states that a library can get into when its callers use the width `w`. -/
def Reachable (w : Width) (s : State) : Prop :=
  ∃ (n : Nat) (events : List (Event w)), s = (State.start n).run events

/-- Opening the interface `passthru-1` and connecting a CAN channel on two of its pins, which gets
the handle 1. -/
def Event.openCan : List (Event w) :=
  [.call (.openDevice (some (Utf8.encode "passthru-1")) (some .zero)),
    .call (.connect (.of32 1) (.of32 Protocol.can.code) .zero (.of32 500000)
      ⟨.of32 Connector.j1962, .of32 2, some [.of32 6, .of32 14]⟩ (some .zero))]

/-- A CAN channel that admits every frame, and on its bus a frame of four bytes and one of six. -/
def Event.twoFrames : List (Event w) :=
  let everything := (Message.emptySlot 1).filledWith
    { protocolId := Protocol.can.code, data := [0] }
  Event.openCan ++
    [.call (.startMsgFilter (.of32 1) (.of32 (Coded.code FilterType.pass)) (some everything)
        (some everything) (some .zero)),
      .inject 1 { protocolId := Protocol.can.code, data := [0, 0, 7, 0xE8] },
      .inject 1 { protocolId := Protocol.can.code, data := [0, 0, 7, 0xE8, 1, 2] }]

/-! ## Events as sequences of steps -/

theorem after_register (s : State) (interface : Interface) :
    s.after (.register interface : Event w) = s ∨
      (∃ field, Field.encode "name" interface.name = .ok field) ∧
        s.after (.register interface : Event w) =
          { s with registry := s.registry.register interface } := by
  unfold State.after State.register
  dsimp only
  cases Field.encode "name" interface.name with
  | error e => exact .inl rfl
  | ok field => exact .inr ⟨⟨field, rfl⟩, rfl⟩

theorem steps_register (s : State) (interface : Interface) :
    Steps s (s.after (.register interface : Event w)) := by
  rcases after_register (w := w) s interface with hsame | ⟨⟨field, hencodes⟩, hregistered⟩
  · rw [hsame]
  · rw [hregistered]
    exact .single (.registered interface field hencodes)

theorem steps_inject (s : State) (channel : UInt32) (frame : Message) :
    Steps s (s.inject channel frame) := by
  unfold State.inject
  cases hfound : s.channels.get? channel with
  | none => exact .refl
  | some ch => exact .single (.changed channel ch _ hfound (.arrived [frame]))

theorem steps_after (s : State) (event : Event w) : Steps s (s.after event) := by
  cases event with
  | call call => exact steps_driver s call
  | register interface => exact steps_register s interface
  | unplug name => exact .single (.unplugged name)
  | inject channel frame => exact steps_inject s channel frame

theorem steps_run (s : State) (events : List (Event w)) : Steps s (s.run events) := by
  induction events generalizing s with
  | nil => exact .refl
  | cons event events ih => exact (steps_after s event).trans (ih _)

/-- What holds at the start and is preserved by every step holds of every reachable state. -/
theorem Reachable.invariant {P : State → Prop} (hstart : ∀ n, P (State.start n))
    (hstep : ∀ {s s' : State}, Step s s' → P s → P s') {s : State} (h : Reachable w s) : P s := by
  obtain ⟨n, events, rfl⟩ := h
  exact (steps_run _ events).invariant hstep (hstart n)

theorem Reachable.run {s : State} (h : Reachable w s) (events : List (Event w)) :
    Reachable w (s.run events) := by
  obtain ⟨n, earlier, rfl⟩ := h
  exact ⟨n, earlier ++ events, List.foldl_append.symm⟩

/-! ## Handles -/

theorem Step.issued_le {s s' : State} (h : Step s s') :
    s.issued.devices ≤ s'.issued.devices ∧ s.issued.channels ≤ s'.issued.channels ∧
      s.issued.filters ≤ s'.issued.filters ∧ s.issued.periodic ≤ s'.issued.periodic := by
  cases h
  case opened => exact ⟨Nat.le_succ _, Nat.le_refl _, Nat.le_refl _, Nat.le_refl _⟩
  case connected => exact ⟨Nat.le_refl _, Nat.le_succ _, Nat.le_refl _, Nat.le_refl _⟩
  case logicalConnected => exact ⟨Nat.le_refl _, Nat.le_succ _, Nat.le_refl _, Nat.le_refl _⟩
  case filterStarted => exact ⟨Nat.le_refl _, Nat.le_refl _, Nat.le_succ _, Nat.le_refl _⟩
  case periodicStarted => exact ⟨Nat.le_refl _, Nat.le_refl _, Nat.le_refl _, Nat.le_succ _⟩
  all_goals exact ⟨Nat.le_refl _, Nat.le_refl _, Nat.le_refl _, Nat.le_refl _⟩

theorem Steps.issued_le {s s' : State} (h : Steps s s') :
    s.issued.devices ≤ s'.issued.devices ∧ s.issued.channels ≤ s'.issued.channels :=
  h.invariant (P := fun s' => s.issued.devices ≤ s'.issued.devices ∧
      s.issued.channels ≤ s'.issued.channels)
    (fun hstep hle => ⟨Nat.le_trans hle.1 hstep.issued_le.1, Nat.le_trans hle.2 hstep.issued_le.2.1⟩)
    ⟨Nat.le_refl _, Nat.le_refl _⟩

/-- As long as the count fits 32 bits, the next handle is one more than the handles before it. -/
theorem toNat_nextHandle {issued : Nat} (h : issued + 1 < UInt32.size) :
    (nextHandle issued).toNat = issued + 1 := UInt32.toNat_ofNat_of_lt' h

end PassThru.Emulator
