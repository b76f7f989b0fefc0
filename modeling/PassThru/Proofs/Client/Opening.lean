import PassThru.Proofs.Client.LawfulCalls
import PassThru.Proofs.Client.Scanning
import PassThru.Proofs.Emulator.Opening

/-!
# Opening what a scan has listed

A scan describes each interface, and whether one can be opened is decided by other checks in another
order. The two agree: the description of an interface says how an attempt to open it ends.

* `ask_openDevice_of_ok`, `ask_openDevice_of_error` and `ask_closeDevice_of_ok`: the two calls.
* `ask_openDevice`: how an attempt to open a device ends.
* `scan_predicts_open` puts this together with what a scan lists, before and after.
-/

namespace PassThru.Emulator

variable {w : Width} {s s' : State} (settings : Settings)

/-! ## The two calls -/

section Calls

variable {name : String}

theorem exists_deviceName (h : '\x00' ∉ name.toList) :
    ∃ bytes, Request.deviceName name = .ok bytes ∧ Field.decode bytes = name := by
  have hbytes : Request.deviceName name = .ok (Utf8.encode name) := by
    unfold Request.deviceName
    exact if_neg fun hnul => h (Field.contains_zero_iff.1 hnul)
  exact ⟨_, hbytes, Request.decode_of_deviceName hbytes⟩

theorem openDevice_request (h : '\x00' ∉ name.toList) :
    ∃ bytes, (Request.openDevice (some name) : Request w DeviceId) =
        .afterSuccess (.openDevice (some bytes) (some .zero)) (fun device =>
          (readOutput "device_id" device).map DeviceId.mk) ∧
      ∀ s, perform s (.openDevice (some bytes) (some .zero) : Call w) =
        issue s (some .zero) (s.openDevice name) := by
  obtain ⟨bytes, hbytes, hdecode⟩ := exists_deviceName h
  refine ⟨bytes, ?_, fun s => ?_⟩
  · unfold Request.openDevice
    rw [Option.mapM_some, hbytes]
    rfl
  · show issue s _ (s.openDevice (Field.decode bytes)) = _
    rw [hdecode]

theorem ask_openDevice_of_ok {id : UInt32} (hnul : '\x00' ∉ name.toList)
    (h : s.openDevice name = .ok (id, s')) :
    (⟨driver, settings⟩ : Client w State).ask (.openDevice (some name)) s = (.ok ⟨id⟩, s') := by
  obtain ⟨bytes, hrequest, hperform⟩ := openDevice_request (w := w) hnul
  have hanswer : perform s (.openDevice (some bytes) (some .zero) : Call w) =
      ⟨none, some (.of32 id), s'⟩ := by
    rw [hperform, h]
    rfl
  unfold Client.ask
  rw [hrequest, perform_of_answer hanswer, readOutput_of32]
  rfl

theorem ask_openDevice_of_error {code : ErrorCode} (hnul : '\x00' ∉ name.toList)
    (hcode : ErrorCode.ofStatus code.asStatus = some code) (h : s.openDevice name = .error code) :
    (⟨driver, settings⟩ : Client w State).ask (.openDevice (some name)) s =
      (.error (.vendor code), { s with lastFailure := some ⟨.openDevice, code⟩ }) := by
  obtain ⟨bytes, hrequest, hperform⟩ := openDevice_request (w := w) hnul
  have hanswer : perform s (.openDevice (some bytes) (some .zero) : Call w) =
      ⟨some code, some .zero, s⟩ := by
    rw [hperform, h]
    rfl
  unfold Client.ask
  rw [hrequest, perform_of_failed (by rw [hanswer]) hcode, hanswer]
  rfl

theorem ask_closeDevice_of_ok {id : DeviceId} (h : s.closeDevice id.raw = .ok s') :
    (⟨driver, settings⟩ : Client w State).ask (.closeDevice id) s = (.ok (), s') := by
  have hanswer : perform s (.closeDevice (.of32 id.raw) : Call w) = ⟨none, (), s'⟩ := by
    show change s (s.closeDevice (Word.of32 id.raw : Word w).narrow) = _
    rw [Word.narrow_of32, h]
    rfl
  unfold Client.ask Request.closeDevice
  rw [perform_of_answer hanswer]

theorem ask_openDevice (hnul : '\x00' ∉ name.toList) (hname : name ≠ "") :
    ((⟨driver, settings⟩ : Client w State).ask (.openDevice (some name)) s).1 =
      if s.registry.isConnected name = true then
        if s.isOpen name = true then .error (.vendor .deviceInUse)
        else .ok ⟨nextHandle s.issued.devices⟩
      else .error (.vendor .deviceNotConnected) := by
  have hopen := s.openDevice_eq hname
  by_cases hplugged : s.registry.isConnected name = true
  · rw [if_pos hplugged] at hopen ⊢
    by_cases hused : s.isOpen name = true
    · rw [if_pos hused] at hopen ⊢
      rw [ask_openDevice_of_error settings hnul rfl hopen]
    · rw [if_neg hused] at hopen ⊢
      rw [ask_openDevice_of_ok settings hnul hopen]
  · rw [if_neg hplugged] at hopen ⊢
    rw [ask_openDevice_of_error settings hnul rfl hopen]

theorem openDevice_of_ask {id : DeviceId} (hnul : '\x00' ∉ name.toList) (hname : name ≠ "")
    (h : ((⟨driver, settings⟩ : Client w State).ask (.openDevice (some name)) s).1 = .ok id) :
    s.openDevice name = .ok (id.raw,
      ((⟨driver, settings⟩ : Client w State).ask (.openDevice (some name)) s).2) := by
  have hopen := s.openDevice_eq hname
  rw [ask_openDevice settings hnul hname] at h
  split at h
  · next hplugged =>
    split at h
    · cases h
    · next hfree =>
      rw [if_pos hplugged, if_neg hfree] at hopen
      cases h
      rw [ask_openDevice_of_ok settings hnul hopen, hopen]
  · cases h

end Calls

/-! ## What a scan lists under a name -/

theorem reachable_named (h : Reachable w s) (hcount : s.registry.length < UInt32.size) :
    s.Named := by
  obtain ⟨n, events, rfl⟩ := h
  exact named_run
    (Nat.lt_of_le_of_lt (le_length_registry n events) (Nat.lt_trans hcount (by decide))) events

theorem State.filter_snapshot (s : State) (name : String) :
    s.snapshot.filter (·.name == name) =
      (s.registry.filter (·.name == name)).map s.describe :=
  List.filter_map

/-- What a scan reports depends on whether the interface is open. -/
theorem State.describe_congr {interface : Interface}
    (h : s'.isOpen interface.name = s.isOpen interface.name) :
    s'.describe interface = s.describe interface := by
  unfold State.describe
  rw [h]

/-- An interface that is open is reported as it was, but as in use. -/
theorem State.describe_of_isOpen {interface : Interface} (h : s'.isOpen interface.name = true)
    (s : State) :
    s'.describe interface = { s.describe interface with availability := Availability.inUse } := by
  unfold State.describe
  rw [if_pos h]

/-! ## What a scan says about opening -/

section Description

variable {interface : Interface}

/-- The description of an interface says how an attempt to open it ends. -/
theorem State.describe_predicts (s : State) (interface : Interface)
    {answer : Answer DeviceId} {id : DeviceId}
    (h : answer = if interface.connected = true then
        if s.isOpen interface.name = true then .error (.vendor .deviceInUse) else .ok id
      else .error (.vendor .deviceNotConnected)) :
    ((∃ id, answer = .ok id) ↔ (s.describe interface).availability = Availability.available) ∧
      (answer = .error (.vendor .deviceInUse) ↔
        (s.describe interface).availability = Availability.inUse ∧
          (s.describe interface).signalQuality = 100) ∧
      (answer = .error (.vendor .deviceNotConnected) ↔
        (s.describe interface).signalQuality = 0) ∧
      ((s.describe interface).signalQuality = 0 →
        (s.describe interface).availability = Availability.inUse ∨
          (s.describe interface).availability = Availability.unknown) := by
  subst h
  unfold State.describe
  cases interface.connected <;> cases s.isOpen interface.name <;>
    simp [Availability.available, Availability.inUse, Availability.unknown]

/-- A device that is still open can be closed, and after that its name is open no more. -/
theorem State.Holds.close {id : UInt32} (h : s.Holds interface id) (honce : OpenOnce s) :
    ∃ s', s.closeDevice id = .ok s' ∧ s'.registry = s.registry ∧
      s'.isOpen interface.name = false := by
  obtain ⟨device, hdevice, hname⟩ := Option.map_eq_some_iff.1 h.opened
  refine ⟨_, State.closeDevice_eq_ok_iff.2 ⟨Table.contains_iff.2 ⟨device, hdevice⟩, rfl⟩, rfl, ?_⟩
  rw [← Bool.not_eq_true, State.isOpen_iff]
  rintro ⟨k, other, hother, hsame⟩
  obtain ⟨hold, hne⟩ := Table.get?_erase_eq_some_iff.1 hother
  exact hne (honce _ _ _ _ hold hdevice (hsame.trans hname.symm))

theorem State.Holds.isOpen {id : UInt32} (h : s.Holds interface id) :
    s.isOpen interface.name = true := by
  obtain ⟨device, hdevice, hname⟩ := Option.map_eq_some_iff.1 h.opened
  exact State.isOpen_iff.2 ⟨id, device, hdevice, hname⟩

theorem holds_of_openDevice {id : UInt32} (hnames : s.registry.names.Nodup)
    (hmem : interface ∈ s.registry) (hbound : s.issued.devices + 1 < UInt32.size)
    (h : s.openDevice interface.name = .ok (id, s')) : s'.Holds interface id := by
  obtain ⟨-, rfl, rfl⟩ := State.openDevice_eq_ok_iff.1 h
  refine ⟨Registry.filter_name_eq hnames hmem, ?_, Nat.le_of_eq (toNat_nextHandle hbound)⟩
  exact congrArg _ (Table.get?_insert_self _ _ _)

end Description

/-- **A scan says how opening ends.** Every registered interface is listed once, and of one with a
name the description tells what happens when it is opened:

* It can be opened exactly if it is available.
* It is refused as in use exactly if it is in use and receives well.
* It is refused as not connected exactly if it does not receive at all, be it in use or unknown.

Once it is open it is listed as in use, and closing it succeeds and brings back the description that
it had. Meanwhile anything may happen but that the device is closed, or that its interface is
registered anew or unplugged. A name that is not listed is refused as not connected. -/
theorem scan_predicts_open (h : Reachable w s) (hdevices : s.issued.devices + 1 < UInt32.size)
    (settings : Settings) :
    let client : Client w State := ⟨driver, settings⟩
    let scan (s : State) : List Device := (client.ask .scanForDevices s).2.scan.getD []
    let listed (s : State) (name : String) : List Device := (scan s).filter (·.name == name)
    let opening (name : String) := client.ask (.openDevice (some name)) s
    (∀ s, Reachable w s → s.registry.length < UInt32.size →
      (client.scanDevices s).1 = .ok (scan s)) ∧
    (∀ interface ∈ s.registry, interface.name ≠ "" →
      let opened := opening interface.name
      ∃ device, listed s interface.name = [device] ∧
        ((∃ id, opened.1 = .ok id) ↔ device.availability = Availability.available) ∧
        (opened.1 = .error (.vendor .deviceInUse) ↔
          device.availability = Availability.inUse ∧ device.signalQuality = 100) ∧
        (opened.1 = .error (.vendor .deviceNotConnected) ↔ device.signalQuality = 0) ∧
        (device.signalQuality = 0 → device.availability = Availability.inUse ∨
          device.availability = Availability.unknown) ∧
        ∀ id, opened.1 = .ok id → ∀ later : List (Event w),
          (∀ event ∈ later, event.Spares interface.name id.raw) →
          (opened.2.run later).issued.devices < UInt32.size →
          let closed := client.ask (.closeDevice id) (opened.2.run later)
          listed (opened.2.run later) interface.name =
              [{ device with availability := Availability.inUse }] ∧
            closed.1 = .ok () ∧ listed closed.2 interface.name = [device]) ∧
    ∀ name, name ≠ "" → '\x00' ∉ name.toList → (∀ device ∈ scan s, device.name ≠ name) →
      (opening name).1 = .error (.vendor .deviceNotConnected) := by
  intro client scan listed opening
  have hscan : ∀ s, scan s = s.snapshot := by
    intro s
    show (client.ask .scanForDevices s).2.scan.getD [] = _
    rw [show client.ask .scanForDevices s = _ from ask_scanForDevices settings s]
    rfl
  have hlisted : ∀ s name, listed s name =
      (s.registry.filter (·.name == name)).map s.describe := by
    intro s name
    show (scan s).filter _ = _
    rw [hscan, s.filter_snapshot]
  refine ⟨?_, ?_, ?_⟩
  · intro s hs hcount
    rw [hscan]
    exact scanDevices_eq settings (reachable_named hs hcount) hcount
  · intro interface hmem hname opened
    have hnames := reachable_nodup_names h
    have hnul := reachable_nulFree h interface hmem
    have hanswer : opened.1 = _ := ask_openDevice (s := s) settings hnul hname
    rw [Registry.isConnected_of_mem hnames hmem] at hanswer
    obtain ⟨hok, hused, hgone, hquality⟩ := s.describe_predicts interface hanswer
    refine ⟨s.describe interface, ?_, hok, hused, hgone, hquality, ?_⟩
    · rw [hlisted, Registry.filter_name_eq hnames hmem]
      rfl
    intro id hid later hlater hbound closed
    have hopen := openDevice_of_ask settings hnul hname hid
    obtain ⟨⟨-, -, hfree⟩, -, -⟩ := State.openDevice_eq_ok_iff.1 hopen
    have hlater := (holds_of_openDevice hnames hmem hdevices hopen).run hlater hbound
    have honce : OpenOnce (opened.2.run later) :=
      ((reachable_openOnce h).steps (steps_openDevice hopen)).steps (steps_run opened.2 later)
    obtain ⟨s', hclose, hregistry, hgone⟩ := hlater.close honce
    have hclosed : closed = (.ok (), s') := ask_closeDevice_of_ok settings hclose
    rw [hclosed]
    refine ⟨?_, rfl, ?_⟩
    · rw [hlisted, hlater.registered, List.map_singleton, State.describe_of_isOpen hlater.isOpen s]
    · rw [hlisted, hregistry, hlater.registered, List.map_singleton,
        State.describe_congr (hgone.trans hfree.symm)]
  · intro name hname hnul hnone
    have hgone : s.registry.isConnected name = false := by
      refine Registry.isConnected_of_not_registered fun interface hmem => ?_
      rw [hscan] at hnone
      exact hnone _ (List.mem_map_of_mem hmem)
    have hanswer := ask_openDevice (w := w) (s := s) settings hnul hname
    rw [if_neg (Bool.eq_false_iff.1 hgone)] at hanswer
    exact hanswer

/-- Of three interfaces two are open, and one of these was unplugged after that. Both are refused, for
different reasons. The third one is opened, then the second is closed and the first refused again;
after that it can be closed and is listed as before. -/
theorem scan_predicts_open_unplugged :
    let openCall (name : String) : Event .w64 :=
      .call (.openDevice (some (Utf8.encode name)) (some .zero))
    let s := (State.start 3).run
      [openCall "passthru-1", openCall "passthru-2", .unplug "passthru-1"]
    let client : Client .w64 State := ⟨driver, {}⟩
    let opening (name : String) := client.ask (.openDevice (some name)) s
    let used := (opening "passthru-3").2.run
      [.call (.closeDevice (.of32 2)), openCall "passthru-1"]
    let closed := client.ask (.closeDevice ⟨3⟩) used
    let third (s : State) := ((client.ask .scanForDevices s).2.scan.getD []).filter
      (·.name == "passthru-3")
    let device : Device := ⟨"passthru-3", Availability.available, FirmwareStatus.compatible,
      Media.wired, 480000000, 100, 100⟩
    s.issued.devices + 1 < UInt32.size ∧
      (opening "passthru-1").1 = .error (.vendor .deviceNotConnected) ∧
      (opening "passthru-2").1 = .error (.vendor .deviceInUse) ∧
      (opening "passthru-3").1 = .ok ⟨3⟩ ∧
      (opening "passthru-4").1 = .error (.vendor .deviceNotConnected) ∧
      third s = [device] ∧ third used = [{ device with availability := Availability.inUse }] ∧
      closed.1 = .ok () ∧ third closed.2 = [device] := by
  intro openCall s client opening used closed third device
  have hreachable : Reachable .w64 s := ⟨3, _, rfl⟩
  have hdevices : s.issued.devices + 1 < UInt32.size := by decide
  obtain ⟨-, hlisted, hunlisted⟩ := scan_predicts_open hreachable hdevices {}
  obtain ⟨first, hfirst, -, -, hgone, -, -⟩ :=
    hlisted { name := "passthru-1", connected := false } (by decide) (by decide)
  obtain ⟨second, hsecond, -, hused, -, -, -⟩ :=
    hlisted { name := "passthru-2" } (by decide) (by decide)
  obtain ⟨thirdly, hthird, -, -, -, -, hlater⟩ :=
    hlisted { name := "passthru-3" } (by decide) (by decide)
  have hfirstly : first = ⟨"passthru-1", Availability.inUse, FirmwareStatus.compatible, Media.wired,
      480000000, 0, 0⟩ := List.singleton_inj.1 (hfirst.symm.trans rfl)
  have hsecondly : second = ⟨"passthru-2", Availability.inUse, FirmwareStatus.compatible,
      Media.wired, 480000000, 100, 100⟩ := List.singleton_inj.1 (hsecond.symm.trans rfl)
  have hdevice : thirdly = device := List.singleton_inj.1 (hthird.symm.trans rfl)
  subst hfirstly hsecondly hdevice
  have hopened : (opening "passthru-3").1 = .ok ⟨3⟩ := rfl
  have hspares : ∀ event ∈ [.call (.closeDevice (.of32 2)), openCall "passthru-1"],
      event.Spares "passthru-3" 3 := by
    have hother : (Word.of32 2 : Word .w64).narrow ≠ 3 := by decide
    exact List.forall_mem_cons.2 ⟨hother, List.forall_mem_cons.2 ⟨trivial, nofun⟩⟩
  obtain ⟨hinUse, hclosed, hafter⟩ := hlater ⟨3⟩ hopened _ hspares (by decide)
  exact ⟨hdevices, hgone.2 rfl, hused.2 ⟨rfl, rfl⟩, hopened,
    hunlisted "passthru-4" (by decide) (by decide) (by decide), hthird, hinUse, hclosed, hafter⟩

end PassThru.Emulator
