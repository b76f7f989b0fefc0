import PassThru.Proofs.Client.Answers
import PassThru.Proofs.Client.Draining
import PassThru.Proofs.Emulator.Listing

/-!
# Scanning through a client

A client scans and then asks for one device after the other, until the library says that there are
no more. Each device makes its way through its native form, with its name in a field, and comes back
as the library described it.

* `ask_scanForDevices`, `ask_getNextDevice_of_ok` and `ask_getNextDevice_of_error`: the two calls.
* `undelivered_lt` and `exists_drains`: a client that asks for more and more comes to an end.
* `drains_left`: what the calls after a scan deliver together.
* `ask_getNextDevice_run`: what each of them delivers, whatever happens in between.
* `scans_registry` puts these together.
-/

namespace PassThru.Emulator

variable {w : Width} {s : State} (settings : Settings)

/-! ## The two calls -/

theorem ask_scanForDevices (s : State) :
    (⟨driver, settings⟩ : Client w State).ask .scanForDevices s =
      (.ok (UInt32.ofNat s.snapshot.length), s.scanForDevices.2) := by
  have hperform : perform s (.scanForDevices (some .zero) : Call w) =
      ⟨none, some (.of32 (UInt32.ofNat s.snapshot.length)), s.scanForDevices.2⟩ := rfl
  unfold Client.ask Request.scanForDevices
  rw [perform_of_answer hperform, readOutput_of32]

theorem ask_getNextDevice_of_ok {device : Device} (hs : s.Named) (h : s.nextDevice = .ok device) :
    (⟨driver, settings⟩ : Client w State).ask .getNextDevice s =
      (.ok device, { s with cursor := s.cursor + 1 }) := by
  obtain ⟨native, hencode, hdecode⟩ := (device_roundTrip (w := w)).encodes device (hs.nextDevice h)
  have hperform : perform s (.getNextDevice (some .blank) : Call w) = _ :=
    performNextDevice_of_ok h hencode _
  unfold Client.ask Request.getNextDevice
  rw [perform_of_answer hperform]
  exact congrArg (·, _) hdecode

theorem ask_getNextDevice_of_error {code : ErrorCode} (h : s.nextDevice = .error code) :
    (⟨driver, settings⟩ : Client w State).ask .getNextDevice s =
      (.error (.vendor code), { s with lastFailure := some ⟨.getNextDevice, code⟩ }) := by
  have hcode : ErrorCode.ofStatus code.asStatus = some code := by
    rcases nextDevice_error h with rfl | rfl <;> rfl
  have hperform : perform s (.getNextDevice (some .blank) : Call w) = _ :=
    performNextDevice_of_error h _
  unfold Client.ask Request.getNextDevice
  rw [perform_of_failed (by rw [hperform]) hcode, hperform]
  rfl

theorem ask_getNextDevice (hs : s.Named) :
    ((⟨driver, settings⟩ : Client w State).ask .getNextDevice s).1 =
      s.nextDevice.mapError .vendor := by
  cases hnext : s.nextDevice with
  | ok device => rw [ask_getNextDevice_of_ok settings hs hnext]; rfl
  | error code => rw [ask_getNextDevice_of_error settings hnext]; rfl

/-! ## One call after the other -/

section Drain

variable {devices : List Device}

/-- How many devices of the last scan are left to be delivered. -/
def State.undelivered (s : State) : Nat := (s.scan.getD []).length - s.cursor

/-- Each device that is delivered leaves one less, whatever the names of the others. -/
theorem undelivered_lt {device : Device} {s' : State}
    (h : (⟨driver, settings⟩ : Client w State).ask .getNextDevice s = (.ok device, s')) :
    s'.undelivered < s.undelivered := by
  cases hnext : s.nextDevice with
  | error code =>
    rw [ask_getNextDevice_of_error settings hnext] at h
    cases h
  | ok found =>
    unfold Client.ask Request.getNextDevice at h
    cases hencode : (found.encode : Answer (NativeDevice w)) with
    | error e =>
      have hperform : perform s (.getNextDevice (some .blank) : Call w) = _ :=
        performNextDevice_of_unencodable hnext hencode _
      rw [perform_of_failed (by rw [hperform]) rfl] at h
      cases h
    | ok native =>
      have hperform : perform s (.getNextDevice (some .blank) : Call w) = _ :=
        performNextDevice_of_ok hnext hencode _
      rw [perform_of_answer hperform] at h
      obtain rfl := (Prod.mk.inj h).2
      cases hscan : s.scan with
      | none =>
        unfold State.nextDevice at hnext
        rw [hscan] at hnext
        cases hnext
      | some devices =>
        have hlt := cursor_lt_of_nextDevice hscan hnext
        simp only [State.undelivered, hscan, Option.getD_some]
        omega

/-- A client that asks for more and more comes to an end. -/
theorem exists_drains (s : State) :
    ∃ answer after, (⟨driver, settings⟩ : Client w State).Drains s answer after := by
  induction hleft : s.undelivered using Nat.strongRecOn generalizing s with
  | ind left ih =>
    cases hask : (⟨driver, settings⟩ : Client w State).ask .getNextDevice s with
    | mk answer s' =>
      cases answer with
      | error e => exact ⟨_, s', .failed hask⟩
      | ok device =>
        obtain ⟨rest, after, hrest⟩ := ih _ (hleft ▸ undelivered_lt settings hask) s' rfl
        exact ⟨_, after, .delivered hask hrest⟩

/-- A client that asks for more until there are no more gets what is left of the scan. -/
theorem drains_left (hs : s.Named) (h : s.scan = some devices) (hne : devices ≠ [])
    (hle : s.cursor ≤ devices.length) :
    ∃ after,
      (⟨driver, settings⟩ : Client w State).Drains s (.ok (devices.drop s.cursor)) after := by
  -- every answer moves the cursor by one
  induction hleft : devices.length - s.cursor generalizing s with
  | zero =>
    have hend : devices.length ≤ s.cursor := Nat.sub_eq_zero_iff_le.1 hleft
    have hnext : s.nextDevice = .error .exceededLimit := by
      rw [nextDevice_eq h, if_neg hne, List.getElem?_eq_none hend]
    rw [List.drop_eq_nil_of_le hend]
    exact ⟨_, .failed (ask_getNextDevice_of_error settings hnext)⟩
  | succ left ih =>
    have hlt : s.cursor < devices.length := by omega
    have hnext : s.nextDevice = .ok devices[s.cursor] := by
      rw [nextDevice_eq h, if_neg hne, List.getElem?_eq_getElem hlt]
    obtain ⟨after, hrest⟩ := ih (s := { s with cursor := s.cursor + 1 }) (hs.of_same rfl rfl) h hlt
      (by dsimp only; omega)
    rw [List.drop_eq_getElem_cons hlt]
    exact ⟨after, .delivered (ask_getNextDevice_of_ok settings hs hnext) hrest⟩

/-- What is answered next depends on how often one asked since the scan. -/
theorem ask_getNextDevice_run (hs : s.Named) (h : s.scan = some devices)
    (hle : s.cursor ≤ devices.length) {later : List (Event w)}
    (hlater : ∀ event ∈ later, event.isScan = false) :
    ((⟨driver, settings⟩ : Client w State).ask .getNextDevice (s.run later)).1 =
      if devices = [] then .error (.vendor .bufferEmpty)
      else
        match devices[s.cursor + asks later]? with
        | some device => .ok device
        | none => .error (.vendor .exceededLimit) := by
  have hs' : (s.run later).Named := (steps_run s later).invariant Step.named hs
  rw [ask_getNextDevice settings hs', nextDevice_run hs h hle hlater]
  split
  · rfl
  · cases devices[s.cursor + asks later]? <;> rfl

end Drain

/-! ## Scanning the registry -/

theorem State.length_snapshot (s : State) : s.snapshot.length = s.registry.length :=
  List.length_map _

theorem State.toNat_length_snapshot (hcount : s.registry.length < UInt32.size) :
    (UInt32.ofNat s.snapshot.length).toNat = s.snapshot.length :=
  UInt32.toNat_ofNat_of_lt' (s.length_snapshot.symm ▸ hcount)

theorem scanDevices_eq (hs : s.Named) (hcount : s.registry.length < UInt32.size) :
    ((⟨driver, settings⟩ : Client w State).scanDevices s).1 = .ok s.snapshot := by
  unfold Client.scanDevices
  rw [ask_scanForDevices]
  dsimp only
  by_cases hzero : UInt32.ofNat s.snapshot.length = 0
  · have hnone : s.snapshot.length = 0 := by
      rw [← State.toNat_length_snapshot hcount, hzero]
      rfl
    rw [if_pos hzero, List.eq_nil_of_length_eq_zero hnone]
  · have hne : s.snapshot ≠ [] := by
      intro hnil
      rw [hnil] at hzero
      exact hzero rfl
    have hscanned : s.scanForDevices.2.Named := Step.scanned.named hs
    obtain ⟨after, hdrains⟩ := drains_left (w := w) settings hscanned rfl hne (Nat.zero_le _)
    rw [if_neg hzero, hdrains.drain_eq]
    rfl

/-- **A scan lists the registry.** In every state with a registry that can be counted a scan answers
one device for each interface, in the order in which their names were registered last: under its
name, and with what was so when the scan was made. It counts as many. Asking for more and more
devices ends at the end of that list, although nothing but the library sets an end to it. The device
that is delivered after a scan depends on how often one asked before, and on nothing else that happened
since but another scan; one that asks too often is told so. Without a scan, or after one that found
nothing, there is nothing to deliver. Numbered interfaces are listed by their numbers, and are those
that one gets by registering them one after the other. -/
theorem scans_registry {n : Nat} {events : List (Event w)}
    (hcount : ((State.start n).run events).registry.length < UInt32.size) (settings : Settings) :
    let s := (State.start n).run events
    let client : Client w State := ⟨driver, settings⟩
    let devices : List Device := s.registry.map fun interface =>
      { name := interface.name
        availability :=
          if s.isOpen interface.name then Availability.inUse
          else if interface.connected then Availability.available
          else Availability.unknown
        firmwareStatus := FirmwareStatus.compatible
        media := Media.wired
        speed := interface.speed
        signalQuality := if interface.connected then 100 else 0
        signalStrength := if interface.connected then 100 else 0 }
    let scanned := (client.ask .scanForDevices s).2
    s.registry.map (·.name) = ((registrations n events).map (·.name)).dedup ∧
    (client.scanDevices s).1 = .ok devices ∧
    (∃ count, (client.ask .scanForDevices s).1 = .ok count ∧ count.toNat = devices.length) ∧
    (devices ≠ [] → ∃ after, client.Drains scanned (.ok devices) after) ∧
    (∀ later : List (Event w), (∀ event ∈ later, event.isScan = false) →
      (client.ask .getNextDevice (scanned.run later)).1 =
        if devices = [] then .error (.vendor .bufferEmpty)
        else
          match devices[asks later]? with
          | some device => .ok device
          | none => .error (.vendor .exceededLimit)) ∧
    ((∀ event ∈ events, event.isScan = false) →
      (client.ask .getNextDevice s).1 = .error (.vendor .bufferEmpty)) ∧
    ∀ m,
      (Registry.numbered m).foldl Registry.register [] = Registry.numbered m ∧
      (m < UInt32.size → (client.scanDevices (State.start m)).1 =
        .ok ((List.range m).map fun i =>
          { name := "passthru-" ++ toString (i + 1)
            availability := Availability.available
            firmwareStatus := FirmwareStatus.compatible
            media := Media.wired
            speed := 480000000
            signalQuality := 100
            signalStrength := 100 })) := by
  intro s client devices scanned
  have hs : s.Named := named_run
    (Nat.lt_of_le_of_lt (le_length_registry n events) (Nat.lt_trans hcount (by decide))) events
  have hdevices : devices = s.snapshot := rfl
  have hscanned : scanned = s.scanForDevices.2 :=
    congrArg Prod.snd (ask_scanForDevices settings s)
  have hnamed : s.scanForDevices.2.Named := Step.scanned.named hs
  rw [hdevices, hscanned]
  refine ⟨names_run n events, scanDevices_eq settings hs hcount, ?_, ?_, ?_, ?_, ?_⟩
  · exact ⟨_, congrArg Prod.fst (ask_scanForDevices settings s),
      State.toNat_length_snapshot hcount⟩
  · intro hne
    exact drains_left settings hnamed rfl hne (Nat.zero_le _)
  · intro later hlater
    have hcursor : s.scanForDevices.2.cursor + asks later = asks later := Nat.zero_add _
    rw [ask_getNextDevice_run settings hnamed rfl (Nat.zero_le _) hlater, hcursor]
  · intro hnone
    have hscan : s.scan = none := scan_run (State.start n) hnone
    have hnext : s.nextDevice = .error .bufferEmpty := by
      unfold State.nextDevice
      rw [hscan]
    rw [ask_getNextDevice_of_error settings hnext]
  · intro m
    refine ⟨Registry.foldl_register_numbered m, fun hm => ?_⟩
    have hlength : (State.start m).registry.length = m :=
      (List.length_map _).trans List.length_range
    rw [scanDevices_eq settings (named_start (Nat.lt_trans hm (by decide))) (hlength.symm ▸ hm)]
    exact congrArg Except.ok List.map_map

/-- Of two interfaces the first is registered again, as a slower one, and opened, and the second is
unplugged. Both are listed, the second first. Whatever is unplugged and closed after the scan, that
is what is delivered, and then no more. -/
theorem scans_registry_reordered :
    let events : List (Event .w64) :=
      [.register { name := "passthru-1", speed := 500000 },
        .call (.openDevice (some (Utf8.encode "passthru-1")) (some .zero)),
        .unplug "passthru-2"]
    let s := (State.start 2).run events
    let client : Client .w64 State := ⟨driver, {}⟩
    let second : Device :=
      ⟨"passthru-2", Availability.unknown, FirmwareStatus.compatible, Media.wired, 480000000, 0, 0⟩
    let first : Device :=
      ⟨"passthru-1", Availability.inUse, FirmwareStatus.compatible, Media.wired, 500000, 100, 100⟩
    let ask : Event .w64 := .call (.getNextDevice (some .blank))
    let scanned := (client.ask .scanForDevices s).2
    s.registry.length < UInt32.size ∧
      (client.scanDevices s).1 = .ok [second, first] ∧
      (client.ask .getNextDevice
        (scanned.run [.unplug "passthru-1", ask, .call (.closeDevice (.of32 1))])).1 = .ok first ∧
      (client.ask .getNextDevice (scanned.run [ask, ask])).1 =
        .error (.vendor .exceededLimit) := by
  intro events s client second first ask scanned
  have hcount : s.registry.length < UInt32.size := by decide
  obtain ⟨-, hscan, -, -, hnext, -, -⟩ := scans_registry hcount {}
  have hclosed := hnext [.unplug "passthru-1", ask, .call (.closeDevice (.of32 1))] (by decide)
  have hend := hnext [ask, ask] (by decide)
  exact ⟨hcount, hscan, hclosed, hend⟩

end PassThru.Emulator
