import PassThru.Proofs.Emulator.Scopes

/-!
# Brackets restore what they found

Opening a device and closing it are a bracket, and so are connecting a physical channel and
disconnecting it: whatever is done in between with nothing but what the bracket is about, the
devices and channels are afterwards what they were before.

* `State.Restores`: what has to be the same, and what may differ.
* `did_of_deed?`: the operation behind a reply.
* `Bracket.inside_device` and `Bracket.inside_channel`: a bracket begins with what was not there.
* `Bracket.Inside.restores`: when nothing is left that ends with the bracket, all is as before.
* `brackets_restore`: the two brackets.
-/

namespace PassThru.Emulator

variable {w : Width}

/-- The registry, the devices and the channels are those of another state. Only counters, the clock
and what scans and failures left behind may differ. -/
def State.Restores (s' s : State) : Prop :=
  s' = { s with
    scan := s'.scan
    cursor := s'.cursor
    issued := s'.issued
    clock := s'.clock
    lastFailure := s'.lastFailure }

theorem State.restores_of_eq {s s' : State} (hregistry : s'.registry = s.registry)
    (hdevices : s'.devices = s.devices) (hchannels : s'.channels = s.channels) : s'.Restores s := by
  obtain ⟨registry, scan, cursor, devices, channels, issued, clock, lastFailure⟩ := s'
  subst hregistry hdevices hchannels
  rfl

theorem State.Restores.fields {s s' : State} (h : s'.Restores s) :
    s'.registry = s.registry ∧ s'.devices = s.devices ∧ s'.channels = s.channels := by
  rw [h]
  exact ⟨rfl, rfl, rfl⟩

/-! ## What a deed tells of -/

/-- The operation that a deed tells of. -/
def State.Did (s s' : State) : Deed → Prop
  | .opened d => ∃ name, s.openDevice name = .ok (d, s')
  | .closed d => s.closeDevice d = .ok s'
  | .connected d c => ∃ protocolId flags baud request hasOutput,
      s.connect d protocolId flags baud request hasOutput = .ok (c, s')
  | .disconnected c => s.disconnect c = .ok s' ∨ s.logicalDisconnect c = .ok s'
  | _ => True

theorem exists_of_issue {s : State} {output : Option (Word w)} {attempt : Attempt (UInt32 × State)}
    {deed : UInt32 → Deed} {found : Deed} (h : (issue s output attempt).failure? = none)
    (hfound : (issue s output attempt).memory.map (fun handle => deed handle.narrow) = some found) :
    ∃ id, found = deed id ∧ attempt = .ok (id, (issue s output attempt).state) := by
  cases attempt with
  | error code => cases h
  | ok result =>
    obtain ⟨id, s'⟩ := result
    cases output with
    | none => cases hfound
    | some word =>
      have hdeed : deed (Word.of32 id : Word w).narrow = found := Option.some.inj hfound
      rw [Word.narrow_of32] at hdeed
      exact ⟨id, hdeed.symm, rfl⟩

theorem ok_of_change {s : State} {attempt : Attempt State}
    (h : (change s attempt).failure? = none) : attempt = .ok (change s attempt).state := by
  cases attempt with
  | error code => cases h
  | ok s' => rfl

theorem did_of_deed? {s : State} {call : Call w} {deed : Deed}
    (h : s.deed? (.call call) = some deed) : s.Did (s.after (.call call)) deed := by
  have hsplit : (perform s call).failure? = none ∧
      Deed.ofCall? call (perform s call).memory = some deed := by
    unfold State.deed? Deed.ofReply? at h
    rw [Option.ite_none_right_eq_some, status_eq_noError_iff] at h
    exact h
  obtain ⟨hok, hdeed⟩ := hsplit
  have hstate : s.after (.call call) = (perform s call).state := by
    show remember _ (perform s call).failure? _ = _
    rw [hok]
    rfl
  rw [hstate]
  cases call with
  | openDevice name device =>
    obtain ⟨id, rfl, hid⟩ := exists_of_issue hok hdeed
    simp only [Attempt.bind_eq_ok_iff] at hid
    obtain ⟨name, -, -, -, hopened⟩ := hid
    exact ⟨_, hopened⟩
  | closeDevice device =>
    obtain rfl := Option.some.inj hdeed
    exact ok_of_change hok
  | connect device protocol flags baud resource channel =>
    obtain ⟨id, rfl, hid⟩ := exists_of_issue hok hdeed
    exact ⟨_, _, _, _, _, hid⟩
  | disconnect channel =>
    obtain rfl := Option.some.inj hdeed
    exact .inl (ok_of_change hok)
  | logicalDisconnect channel =>
    obtain rfl := Option.some.inj hdeed
    exact .inr (ok_of_change hok)
  | logicalConnect physical protocol flags descriptor channel =>
    obtain ⟨id, rfl, -⟩ := exists_of_issue hok hdeed
    trivial
  | startPeriodicMsg channel message id interval =>
    obtain ⟨id, rfl, -⟩ := exists_of_issue hok hdeed
    trivial
  | startMsgFilter channel kind mask pattern id =>
    obtain ⟨id, rfl, -⟩ := exists_of_issue hok hdeed
    trivial
  | stopPeriodicMsg | stopMsgFilter =>
    obtain rfl := Option.some.inj hdeed
    trivial
  | ioctl target id input output =>
    obtain ⟨request, -, hrequest⟩ := Option.bind_eq_some_iff.1 hdeed
    unfold Deed.ofRequest? at hrequest
    split at hrequest <;> cases hrequest <;> trivial
  | scanForDevices | getNextDevice | select | readMsgs | queueMsgs | setProgrammingVoltage
  | readVersion | getLastError => cases hdeed

/-! ## Opening and closing a bracket -/

section Brackets

variable {s s' : State}

theorem Bracket.inside_device (htopology : Topology s) (hissued : HandlesIssued s)
    (hdevices : DevicesIssued s) {name : String} {d : UInt32}
    (hok : s.openDevice name = .ok (d, s')) (hbound : s'.issued.devices < UInt32.size) :
    (Bracket.device d).Fresh s ∧ (Bracket.device d).Inside s ⟨[d], []⟩ s' := by
  obtain ⟨-, rfl, rfl⟩ := State.openDevice_eq_ok_iff.1 hok
  constructor
  · refine ⟨htopology, hissued, fun k hk => ?_, nofun⟩
    rw [List.mem_singleton.1 hk]
    exact hdevices.get?_nextHandle hbound
  · refine ⟨rfl, Nat.le_refl _, rfl, fun k hk => ?_, fun _ _ => rfl, nofun, nofun⟩
    exact Table.get?_insert_of_ne _ _ (mt List.mem_singleton.2 hk)

theorem Bracket.inside_channel (htopology : Topology s) (hissued : HandlesIssued s)
    {d protocolId flags baud c : UInt32} {request : PinRequest} {hasOutput : Bool}
    (hok : s.connect d protocolId flags baud request hasOutput = .ok (c, s'))
    (hbound : s'.issued.channels < UInt32.size) :
    (Bracket.channel c).Fresh s ∧ (Bracket.channel c).Inside s ⟨[], [c]⟩ s' := by
  obtain ⟨device, protocol, pins, -, -, -, hresult⟩ := State.connect_eq_ok hok
  obtain ⟨rfl, rfl⟩ := Prod.mk.inj hresult
  constructor
  · refine ⟨htopology, hissued, nofun, fun k hk => ?_⟩
    rw [List.mem_singleton.1 hk]
    exact hissued.get?_nextHandle hbound
  · have hbefore : (Bracket.channel (nextHandle s.issued.channels)).Inside s ⟨[], []⟩ s :=
      ⟨rfl, Nat.le_refl _, rfl, fun _ _ => rfl, fun _ _ => rfl, nofun, nofun⟩
    exact hbefore.addChannel hissued hbound (.inl ⟨rfl, rfl⟩)

/-- When nothing is left that ends with the bracket, the state in front of it is restored. -/
theorem Bracket.Inside.restores {b : Bracket} {scope : Scope} (h : b.Inside s scope s')
    (hfresh : b.Fresh s) (hdevices : ∀ d ∈ b.scope.devices, s'.devices.get? d = none)
    (hchannels : ∀ k ch, s'.channels.get? k = some ch → ¬ b.Holds k ch) : s'.Restores s := by
  have hdevices : s'.devices = s.devices := by
    refine Table.ext fun d => ?_
    by_cases hd : d ∈ scope.devices
    · rw [h.devices_eq] at hd
      rw [hdevices d hd, hfresh.device d hd]
    · exact h.device d hd
  have hchannels : s'.channels = s.channels := by
    refine Table.ext fun c => ?_
    by_cases hc : c ∈ scope.channels
    · rw [h.new c hc]
      cases hfound : s'.channels.get? c with
      | none => rfl
      | some ch => exact absurd (h.held c hc ch hfound) (hchannels c ch hfound)
    · exact h.channel c hc
  exact State.restores_of_eq h.registry hdevices hchannels

/-- A channel that was connected as a physical one is not disconnected as a logical one. -/
theorem Bracket.Inside.not_logicalDisconnect {scope : Scope} {c : UInt32}
    (h : (Bracket.channel c).Inside s scope s') (hc : c ∈ scope.channels)
    (htopology : Topology s') {s₃ : State} : s'.logicalDisconnect c ≠ .ok s₃ := by
  intro hok
  obtain ⟨ch, hfound, hlogical, -⟩ := State.logicalDisconnect_eq_ok_iff.1 hok
  rcases h.held c hc ch hfound with ⟨-, hroot⟩ | hself
  · rw [hroot] at hlogical
    cases hlogical
  · obtain ⟨-, -, parent, hparent, -, hroot, -⟩ := htopology.logical hfound hself
    obtain rfl := Option.some.inj (hfound.symm.trans hparent)
    rw [hroot] at hself
    cases hself

variable {s₁ s₃ : State} {inner : List (Event w)}

/-- A device that is opened and closed; what is done in between is about it alone. -/
theorem device_bracket (hreachable : Reachable w s) (hreachable₁ : Reachable w s₁) {name : String}
    {d : UInt32} (hopened : s.openDevice name = .ok (d, s₁))
    (hcovers : Scope.Covers ⟨[d], []⟩ s₁ inner) (hclosed : (s₁.run inner).closeDevice d = .ok s₃)
    (hdevices : s₃.issued.devices < UInt32.size) (hchannels : s₃.issued.channels < UInt32.size) :
    s₃.Restores s := by
  -- the counts grow, so all of them fit
  have hle₁ := (steps_openDevice hopened).issued_le
  have hle₂ := (steps_run s₁ inner).issued_le
  have hle₃ := (steps_closeDevice hclosed).issued_le
  obtain ⟨hdevicesIssued, hissued⟩ := reachable_issued hreachable (by omega) (by omega)
  obtain ⟨hfresh, hinside⟩ := Bracket.inside_device (reachable_topology hreachable (by omega))
    hissued hdevicesIssued hopened (by omega)
  obtain ⟨later, hrun⟩ := hinside.run hfresh hreachable₁ hcovers (by omega)
  obtain ⟨new, hend, -⟩ := hrun.extends_closeDevice hfresh (List.mem_singleton_self d) hclosed
  obtain ⟨-, rfl⟩ := State.closeDevice_eq_ok_iff.1 hclosed
  refine hend.restores hfresh (fun k hk => ?_) fun k ch hfound => ?_
  · rw [List.mem_singleton.1 hk]
    exact (Table.get?_erase _ _ _).trans (if_pos rfl)
  · exact bne_iff_ne.1 (Table.get?_filter_eq_some_iff.1 hfound).2

/-- A channel that is connected and disconnected; what is done in between is about it alone. -/
theorem channel_bracket (hreachable : Reachable w s) (hreachable₁ : Reachable w s₁)
    {d protocolId flags baud c : UInt32} {request : PinRequest} {hasOutput : Bool}
    (hconnected : s.connect d protocolId flags baud request hasOutput = .ok (c, s₁))
    (hcovers : Scope.Covers ⟨[], [c]⟩ s₁ inner)
    (hdisconnected : (s₁.run inner).disconnect c = .ok s₃ ∨
      (s₁.run inner).logicalDisconnect c = .ok s₃)
    (hdevices : s₃.issued.devices < UInt32.size) (hchannels : s₃.issued.channels < UInt32.size) :
    s₃.Restores s := by
  -- the counts grow, so all of them fit
  have hle₁ := (steps_connect hconnected).issued_le
  have hle₂ := (steps_run s₁ inner).issued_le
  have hle₃ := (hdisconnected.elim steps_disconnect steps_logicalDisconnect).issued_le
  obtain ⟨-, hissued⟩ := reachable_issued hreachable (by omega) (by omega)
  obtain ⟨hfresh, hinside⟩ := Bracket.inside_channel (reachable_topology hreachable (by omega))
    hissued hconnected (by omega)
  obtain ⟨later, hrun⟩ := hinside.run hfresh hreachable₁ hcovers (by omega)
  have hc : c ∈ (Scope.extend ⟨[], [c]⟩ later).channels :=
    List.mem_append_right _ (List.mem_singleton_self c)
  have htopology := reachable_topology (hreachable₁.run inner) (by omega)
  have hphysical := hdisconnected.resolve_right (hrun.not_logicalDisconnect hc htopology)
  obtain ⟨new, hend, -⟩ := hrun.extends_disconnect hfresh hc hphysical
  obtain ⟨-, -, -, rfl⟩ := State.disconnect_eq_ok_iff.1 hphysical
  refine hend.restores hfresh nofun fun k ch hfound => ?_
  obtain ⟨hkept, hparent⟩ := Table.get?_filter_eq_some_iff.1 hfound
  rintro (⟨rfl, -⟩ | hchild)
  · exact (Table.get?_erase_eq_some_iff.1 hkept).2 rfl
  · exact bne_iff_ne.1 hparent hchild

/-- **Brackets restore what they found.** If a device is opened, and then nothing is addressed but
it, the channels that are connected on it and the logical channels on those, then closing it leaves
the devices and channels as they were before it was opened. So does disconnecting a channel, if in
between nothing is addressed but it and the logical channels that are connected on it. This holds
whether the calls in between succeed or fail, as long as the handles fit 32 bits. -/
theorem brackets_restore (h : Reachable w s) (opening closing : Call w) (inner : List (Event w)) :
    let s₁ := s.after (.call opening)
    let s₂ := s₁.run inner
    let s₃ := s₂.after (.call closing)
    s₃.issued.devices < UInt32.size → s₃.issued.channels < UInt32.size →
      (∀ d, s.deed? (.call opening) = some (.opened d) → Scope.Covers ⟨[d], []⟩ s₁ inner →
        s₂.deed? (.call closing) = some (.closed d) → s₃.Restores s) ∧
      (∀ d c, s.deed? (.call opening) = some (.connected d c) →
        Scope.Covers ⟨[], [c]⟩ s₁ inner → s₂.deed? (.call closing) = some (.disconnected c) →
        s₃.Restores s) := by
  intro s₁ s₂ s₃ hdevices hchannels
  have hreachable₁ : Reachable w s₁ := h.run [.call opening]
  constructor
  · intro d hopen hcovers hclose
    obtain ⟨name, hopened⟩ := did_of_deed? hopen
    exact device_bracket h hreachable₁ hopened hcovers (did_of_deed? hclose) hdevices hchannels
  · intro d c hopen hcovers hclose
    obtain ⟨_, _, _, _, _, hconnected⟩ := did_of_deed? hopen
    exact channel_bracket h hreachable₁ hconnected hcovers (did_of_deed? hclose) hdevices hchannels

end Brackets

/-- A second device is opened and closed while the first one is open and has a channel, and then a
second channel of the first one is connected and disconnected. In between a logical channel is
connected, a frame put on a bus, a pin powered, and one call fails. -/
theorem brackets_restore_openCan :
    let s := (State.start 2).run (Event.openCan (w := .w64))
    let canOn (device pin pin' : UInt32) : Call .w64 :=
      .connect (.of32 device) (.of32 Protocol.can.code) .zero (.of32 500000)
        ⟨.of32 Connector.j1962, .of32 2, some [.of32 pin, .of32 pin']⟩ (some .zero)
    let logical : Call .w64 :=
      .logicalConnect (.of32 2) (.of32 Protocol.iso15765Logical.code) .zero
        (some ⟨.zero, .zero, .zero, .zero⟩) (some .zero)
    let powered : Call .w64 :=
      .setProgrammingVoltage (.of32 2) ⟨.of32 Connector.j1962, .of32 1, some [.of32 12]⟩
        (.of32 5000)
    let failing : Call .w64 := .stopMsgFilter (.of32 2) (.of32 9)
    let frame : Message := { protocolId := Protocol.can.code, data := [0, 0, 7, 0xE8] }
    let opening : Call .w64 := .openDevice (some (Utf8.encode "passthru-2")) (some .zero)
    let closing : Call .w64 := .closeDevice (.of32 2)
    let inDevice := [.call (canOn 2 6 14), .call logical, .inject 2 frame, .call powered,
      .call failing]
    let connecting : Call .w64 := canOn 1 3 11
    let disconnecting : Call .w64 := .disconnect (.of32 2)
    let inChannel := [.call logical, .inject 3 frame, .call failing]
    Reachable .w64 s ∧
      (s.deed? (.call opening) = some (.opened 2) ∧
        Scope.Covers ⟨[2], []⟩ (s.after (.call opening)) inDevice ∧
        (((s.after (.call opening)).run inDevice).after (.call closing)).Restores s) ∧
      (s.deed? (.call connecting) = some (.connected 1 2) ∧
        Scope.Covers ⟨[], [2]⟩ (s.after (.call connecting)) inChannel ∧
        (((s.after (.call connecting)).run inChannel).after (.call disconnecting)).Restores s) := by
  intro s canOn logical powered failing frame opening closing inDevice connecting disconnecting
    inChannel
  have hreachable : Reachable .w64 s := ⟨2, Event.openCan, rfl⟩
  have hopened : s.deed? (.call opening) = some (.opened 2) := by decide
  have hinDevice : Scope.Covers ⟨[2], []⟩ (s.after (.call opening)) inDevice := by decide
  have hdevice := brackets_restore hreachable opening closing inDevice (by decide) (by decide)
  have hconnected : s.deed? (.call connecting) = some (.connected 1 2) := by decide
  have hinChannel : Scope.Covers ⟨[], [2]⟩ (s.after (.call connecting)) inChannel := by decide
  have hchannel := brackets_restore hreachable connecting disconnecting inChannel (by decide)
    (by decide)
  exact ⟨hreachable, ⟨hopened, hinDevice, hdevice.1 2 hopened hinDevice (by decide)⟩,
    hconnected, hinChannel, hchannel.2 1 2 hconnected hinChannel (by decide)⟩

end PassThru.Emulator
