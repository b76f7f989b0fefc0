import PassThru.Proofs.Client.Answers
import PassThru.Proofs.Emulator.Configuration
import PassThru.Proofs.Emulator.Run

/-!
# Configuration through a client

A client of the emulated library sets parameters of an open channel and reads them back. The list
that it hands over is counted and written out in native form, and the values that it asks for are
written into a list of that form.

* `setConfig_of_permitted` and `setConfig_of_fault`: a list of settings takes effect as a whole.
* `valueAfter`: the value that a parameter then has.
* `getConfig_of_defined` and `getConfig_of_not_defined`: parameters are read in the order in which
  they are asked for.
* `settings_read_back` puts these together.
-/

namespace PassThru.Emulator

variable {w : Width} {s : State} {id : UInt32} {ch : Channel}

/-! ## Lists of settings in native form -/

/-- The native form of a list of settings. -/
def nativeSettings (list : List Setting) : NativeConfigList w :=
  ⟨.of32 (UInt32.ofNat list.length), pointerTo (list.map NativeSetting.encode)⟩

/-- What a list of settings assigns. -/
def assignmentsOf (list : List Setting) : List (UInt32 × UInt32) :=
  list.map fun entry => (entry.parameter, entry.value)

/-- A channel after a list of settings was made. -/
def Channel.withSettings (ch : Channel) (list : List Setting) : Channel :=
  { ch with settings := assignSettings ch.settings (assignmentsOf list) }

theorem encode_settings {list : List Setting} (h : Counts list.length) :
    (ControlInput.settings list).encode =
      .ok (.configList (nativeSettings list) : NativeControl w) := by
  unfold ControlInput.encode NativeConfigList.encode
  dsimp only
  rw [count_of_counts _ h]
  rfl

theorem encode_settings_of_not_counts {list : List Setting} (h : ¬ Counts list.length) :
    ((ControlInput.settings list).encode : Answer (NativeControl w)) =
      .error (.valueTooLarge "num_of_params" maxNumber list.length) := by
  unfold ControlInput.encode
  dsimp only
  rw [configList_roundTrip.refuses list h]
  rfl

theorem decode_nativeSettings {list : List Setting} (h : Counts list.length) :
    (nativeSettings list : NativeConfigList w).decode = .ok list := by
  obtain ⟨native, hencode, hdecode⟩ := (configList_roundTrip (w := w)).encodes list h
  unfold NativeConfigList.encode at hencode
  rw [count_of_counts _ h] at hencode
  obtain rfl := Except.ok.inj hencode
  exact hdecode

theorem readSettings_nativeSettings {list : List Setting} (h : Counts list.length) :
    readSettings (.configList (nativeSettings list) : NativeControl w) =
      .ok (list.map NativeSetting.encode) := by
  unfold readSettings nativeSettings
  dsimp only
  rw [← List.length_map (NativeSetting.encode (w := w))] at h ⊢
  exact readList_pointerTo h

theorem assignments_encode (list : List Setting) :
    ((list.map (NativeSetting.encode (w := w))).map fun entry =>
      (entry.parameter.narrow, entry.value.narrow)) = assignmentsOf list := by
  rw [List.map_map]
  refine List.map_congr_left fun entry _ => ?_
  simp only [Function.comp_apply, NativeSetting.encode, Word.narrow_of32]

/-- Items that are written over a list of the same length take its place. -/
theorem overwritten_pointerTo {α : Type} {storage items : List α}
    (h : items.length = storage.length) :
    (pointerTo storage).map (fun own => overwrite own
        (((pointerTo storage).map fun rest => items ++ rest.drop items.length).getD [])) =
      pointerTo items := by
  cases storage with
  | nil =>
    obtain rfl := List.length_eq_zero_iff.1 h
    rfl
  | cons a storage =>
    obtain ⟨b, items, rfl⟩ := List.exists_cons_of_length_eq_add_one h
    show some (overwrite (a :: storage) (b :: items ++ (a :: storage).drop _)) = some (b :: items)
    rw [h, List.drop_length, List.append_nil, overwrite_of_length h]

/-- What a caller finds in its list of settings after the library has filled in all of it. -/
theorem received_withSettings {list answers : List Setting} (h : answers.length = list.length) :
    (NativeControl.configList (nativeSettings list) : NativeControl w).received
        ((NativeControl.configList (nativeSettings list)).withSettings
          (answers.map NativeSetting.encode)) =
      .configList (nativeSettings answers) := by
  unfold NativeControl.withSettings NativeControl.received NativeConfigList.received nativeSettings
  dsimp only
  rw [overwritten_pointerTo (by rw [List.length_map, List.length_map, h]), h]

/-! ## What the library does -/

section Channel

variable (hfound : s.channels.get? id = some ch) (settings : Settings) {list : List Setting}
  (hcounts : Counts list.length)

include hfound hcounts

theorem setConfig_nativeSettings :
    s.setConfig id (.configList (nativeSettings list) : NativeControl w) .null =
      ((assignmentsOf list).forM fun (parameter, value) =>
        Channel.checkSetting parameter value).map fun _ =>
          s.setChannel id (ch.withSettings list) := by
  unfold State.setConfig
  rw [requireNull_of_isNull rfl, State.channel_eq_ok_iff.2 hfound,
    readSettings_nativeSettings hcounts]
  simp only [bind, Except.bind, assignments_encode]
  cases (assignmentsOf list).forM fun (parameter, value) => Channel.checkSetting parameter value <;>
    rfl

theorem getConfig_nativeSettings :
    s.getConfig id (.configList (nativeSettings list) : NativeControl w) .null =
      .ok ((NativeControl.configList (nativeSettings list)).withSettings
          (fillSettings ch (list.map NativeSetting.encode)).1,
        (fillSettings ch (list.map (NativeSetting.encode (w := w)))).2) := by
  unfold State.getConfig
  rw [requireNull_of_isNull rfl, State.channel_eq_ok_iff.2 hfound,
    readSettings_nativeSettings hcounts]
  rfl

theorem perform_setConfig :
    perform s (.ioctl (.of32 id) (.of32 Ioctl.setConfig.code)
        (.configList (nativeSettings list : NativeConfigList w)) .null) =
      controlChange s ⟨.configList (nativeSettings list), .null⟩
        (((assignmentsOf list).forM fun (parameter, value) =>
          Channel.checkSetting parameter value).map fun _ =>
          s.setChannel id (ch.withSettings list)) := by
  unfold perform performIoctl
  simp only [Word.narrow_of32, Ioctl.ofCode?_code]
  rw [setConfig_nativeSettings hfound hcounts]

theorem perform_getConfig :
    perform s (.ioctl (.of32 id) (.of32 Ioctl.getConfig.code)
        (.configList (nativeSettings list : NativeConfigList w)) .null) =
      ⟨(fillSettings ch (list.map (NativeSetting.encode (w := w)))).2,
        ⟨(NativeControl.configList (nativeSettings list)).withSettings
          (fillSettings ch (list.map NativeSetting.encode)).1, .null⟩, s⟩ := by
  unfold perform performIoctl
  simp only [Word.narrow_of32, Ioctl.ofCode?_code]
  rw [getConfig_nativeSettings hfound hcounts]

/-! ## Setting -/

theorem setConfig_of_permitted (h : ∀ entry ∈ list, Permitted entry.parameter entry.value) :
    (⟨driver, settings⟩ : Client w State).setConfig ⟨id⟩ list s =
      (.ok (), s.setChannel id (ch.withSettings list)) := by
  have hcheck : ((assignmentsOf list).forM fun (parameter, value) =>
      Channel.checkSetting parameter value) = .ok () :=
    checkSettings_eq_ok_iff.2 (List.forall_mem_map.2 h)
  have hperform := perform_setConfig (w := w) hfound hcounts
  rw [hcheck] at hperform
  show (Request.andThen _ (Request.ioctl settings.rxBufferSize id .setConfig
    (.settings list))).perform driver s = _
  rw [perform_andThen, Request.ioctl_of_encode rfl (encode_settings hcounts) rfl,
    perform_of_succeeded (by rw [hperform]; rfl), hperform]
  rfl

/-- Settings are refused for the first that is not permitted, and then nothing is set. -/
theorem setConfig_of_fault {before after : List Setting} {bad : Setting}
    (hsplit : list = before ++ bad :: after)
    (hbefore : ∀ entry ∈ before, Permitted entry.parameter entry.value)
    (hbad : ¬ Permitted bad.parameter bad.value) :
    (⟨driver, settings⟩ : Client w State).setConfig ⟨id⟩ list s =
      (.error (.vendor (settingFault bad.parameter)),
        { s with lastFailure := some ⟨.ioctl, settingFault bad.parameter⟩ }) := by
  have hcheck : ((assignmentsOf list).forM fun (parameter, value) =>
      Channel.checkSetting parameter value) = .error (settingFault bad.parameter) := by
    unfold assignmentsOf
    rw [hsplit, List.map_append, List.map_cons]
    exact checkSettings_of_fault (List.forall_mem_map.2 hbefore) hbad
  have hcode : ErrorCode.ofStatus (settingFault bad.parameter).asStatus =
      some (settingFault bad.parameter) := by
    unfold settingFault
    split <;> rfl
  have hperform := perform_setConfig (w := w) hfound hcounts
  rw [hcheck] at hperform
  show (Request.andThen _ (Request.ioctl settings.rxBufferSize id .setConfig
    (.settings list))).perform driver s = _
  rw [perform_andThen, Request.ioctl_of_encode rfl (encode_settings hcounts) rfl,
    perform_of_failed (by rw [hperform]; rfl) hcode, hperform]
  rfl

end Channel

/-! ## Reading -/

/-- The list that a client has filled in to read parameters. -/
def queryFor (parameters : List UInt32) : List Setting := parameters.map fun p => ⟨p, 0⟩

/-- The settings of a channel for some parameters; one that was never set is zero. -/
def settingsFor (ch : Channel) (parameters : List UInt32) : List Setting :=
  parameters.map fun p => ⟨p, (ch.settings.get? p).getD 0⟩

theorem fillSettings_queryFor (ch : Channel) {parameters : List UInt32}
    (h : ∀ p ∈ parameters, Parameter.isDefined p = true) :
    fillSettings ch ((queryFor parameters).map NativeSetting.encode) =
      ((settingsFor ch parameters).map (NativeSetting.encode (w := w)), none) := by
  have hdefined : ∀ entry ∈ (queryFor parameters).map (NativeSetting.encode (w := w)),
      Parameter.isDefined entry.parameter.narrow = true := by
    unfold queryFor
    rw [List.map_map]
    refine List.forall_mem_map.2 fun p hp => ?_
    rw [Function.comp_apply, NativeSetting.encode, Word.narrow_of32]
    exact h p hp
  rw [fillSettings_of_defined ch hdefined]
  unfold queryFor settingsFor
  rw [List.map_map, List.map_map, List.map_map]
  refine congrArg (·, none) (List.map_congr_left fun p _ => ?_)
  simp only [Function.comp_apply, NativeSetting.encode, Word.narrow_of32]

theorem fillSettings_queryFor_of_not_defined (ch : Channel) {parameters : List UInt32}
    (h : ∃ p ∈ parameters, Parameter.isDefined p = false) :
    (fillSettings ch ((queryFor parameters).map (NativeSetting.encode (w := w)))).2 =
      some .ioctlParamIdNotSupported := by
  obtain ⟨p, hp, hundefined⟩ := h
  refine (fillSettings_failure_iff ch _).2 ⟨_, List.mem_map_of_mem (List.mem_map_of_mem hp), ?_⟩
  rw [NativeSetting.encode, Word.narrow_of32]
  exact hundefined

section Reading

variable (hfound : s.channels.get? id = some ch) (settings : Settings) {parameters : List UInt32}
  (hcounts : Counts parameters.length)

include hfound hcounts

theorem getConfig_of_defined (h : ∀ p ∈ parameters, Parameter.isDefined p = true) :
    (⟨driver, settings⟩ : Client w State).getConfig ⟨id⟩ parameters s =
      (.ok (settingsFor ch parameters), s) := by
  have hquery : Counts (queryFor parameters).length := by
    rwa [queryFor, List.length_map]
  have hanswer : Counts (settingsFor ch parameters).length := by
    rwa [settingsFor, List.length_map]
  have hlength : (settingsFor ch parameters).length = (queryFor parameters).length := by
    rw [settingsFor, queryFor, List.length_map, List.length_map]
  have hperform := perform_getConfig (w := w) hfound hquery
  rw [fillSettings_queryFor ch h] at hperform
  show (Request.andThen _ (Request.ioctl settings.rxBufferSize id .getConfig
    (.settings (queryFor parameters)))).perform driver s = _
  rw [perform_andThen, Request.ioctl_of_encode rfl (encode_settings hquery) rfl,
    perform_of_succeeded (by rw [hperform]), hperform]
  dsimp only
  rw [received_withSettings hlength]
  simp only [ControlOutput.decode, NativeControl.received, decode_nativeSettings hanswer]
  rfl

theorem getConfig_of_not_defined (h : ∃ p ∈ parameters, Parameter.isDefined p = false) :
    (⟨driver, settings⟩ : Client w State).getConfig ⟨id⟩ parameters s =
      (.error (.vendor .ioctlParamIdNotSupported),
        { s with lastFailure := some ⟨.ioctl, .ioctlParamIdNotSupported⟩ }) := by
  have hquery : Counts (queryFor parameters).length := by
    rwa [queryFor, List.length_map]
  have hperform := perform_getConfig (w := w) hfound hquery
  rw [fillSettings_queryFor_of_not_defined ch h] at hperform
  show (Request.andThen _ (Request.ioctl settings.rxBufferSize id .getConfig
    (.settings (queryFor parameters)))).perform driver s = _
  rw [perform_andThen, Request.ioctl_of_encode rfl (encode_settings hquery) rfl,
    perform_of_failed (by rw [hperform]) rfl, hperform]
  rfl

end Reading

/-! ## Reading back -/

/-- The value of a parameter after some settings: the one that it was given last, or else the one
that it had. -/
def valueAfter (list : List Setting) (parameter old : UInt32) : UInt32 :=
  ((list.reverse.find? fun entry => entry.parameter == parameter).map (·.value)).getD old

theorem getD_assignSettings (table : Table UInt32) (list : List Setting) (parameter : UInt32) :
    ((assignSettings table (assignmentsOf list)).get? parameter).getD 0 =
      valueAfter list parameter ((table.get? parameter).getD 0) := by
  rw [get?_assignSettings]
  unfold assignmentsOf valueAfter
  rw [← List.map_reverse, List.find?_map]
  simp only [Function.comp_def]
  cases list.reverse.find? fun entry => entry.parameter == parameter <;> rfl

/-- Of settings that are not all permitted one is the first that is not. -/
theorem exists_fault {list : List Setting}
    (h : ¬ ∀ entry ∈ list, Permitted entry.parameter entry.value) :
    ∃ before bad after, list = before ++ bad :: after ∧
      (∀ entry ∈ before, Permitted entry.parameter entry.value) ∧
      ¬ Permitted bad.parameter bad.value := by
  cases hfind : list.find? fun entry => !decide (Permitted entry.parameter entry.value) with
  | none =>
    refine absurd (fun entry hmem => ?_) h
    simpa using List.find?_eq_none.1 hfind entry hmem
  | some bad =>
    obtain ⟨hbad, before, after, hsplit, hbefore⟩ := List.find?_eq_some_iff_append.1 hfind
    refine ⟨before, bad, after, hsplit, fun entry hmem => ?_, ?_⟩
    · simpa using hbefore entry hmem
    · simpa using hbad

theorem setConfig_eq_ok_iff (hfound : s.channels.get? id = some ch) (settings : Settings)
    {list : List Setting} (hcounts : Counts list.length) {s' : State} :
    (⟨driver, settings⟩ : Client w State).setConfig ⟨id⟩ list s = (.ok (), s') ↔
      (∀ entry ∈ list, Permitted entry.parameter entry.value) ∧
        s' = s.setChannel id (ch.withSettings list) := by
  by_cases hall : ∀ entry ∈ list, Permitted entry.parameter entry.value
  · rw [setConfig_of_permitted hfound settings hcounts hall, Prod.mk.injEq]
    exact ⟨fun h => ⟨hall, h.2.symm⟩, fun h => ⟨rfl, h.2.symm⟩⟩
  · obtain ⟨before, bad, after, hsplit, hbefore, hbad⟩ := exists_fault hall
    rw [setConfig_of_fault hfound settings hcounts hsplit hbefore hbad]
    exact iff_of_false nofun fun h => hall h.1

section Uncounted

variable (settings : Settings) (id : UInt32) (s : State)

theorem setConfig_of_not_counts {list : List Setting} (h : ¬ Counts list.length) :
    (⟨driver, settings⟩ : Client w State).setConfig ⟨id⟩ list s =
      (.error (.valueTooLarge "num_of_params" maxNumber list.length), s) := by
  show (Request.andThen _ (Request.ioctl settings.rxBufferSize id .setConfig
    (.settings list))).perform driver s = _
  rw [Request.ioctl_of_not_encode rfl (encode_settings_of_not_counts h)]
  rfl

theorem getConfig_of_not_counts {parameters : List UInt32} (h : ¬ Counts parameters.length) :
    (⟨driver, settings⟩ : Client w State).getConfig ⟨id⟩ parameters s =
      (.error (.valueTooLarge "num_of_params" maxNumber parameters.length), s) := by
  have hlength : (queryFor parameters).length = parameters.length := List.length_map _
  show (Request.andThen _ (Request.ioctl settings.rxBufferSize id .getConfig
    (.settings (queryFor parameters)))).perform driver s = _
  rw [Request.ioctl_of_not_encode rfl (encode_settings_of_not_counts (by rwa [hlength])), hlength]
  rfl

end Uncounted

/-- **Settings are read back.** A client that sets parameters of an open channel succeeds if, and
only if, all settings are permitted; otherwise it is told what is wrong with the first that is not,
and nothing is set. After a success each parameter that is read has the value that it was given last,
or the one that it had. Reading changes no channel, and is refused for a parameter that does not
exist and for nothing else. All this is of lists that can be counted; a longer one is refused by the
client. -/
theorem settings_read_back (hfound : s.channels.get? id = some ch) (settings : Settings) :
    let client : Client w State := ⟨driver, settings⟩
    (∀ list : List Setting, list.length < UInt32.size →
      ((∃ s', client.setConfig ⟨id⟩ list s = (.ok (), s')) ↔
        ∀ entry ∈ list, Permitted entry.parameter entry.value) ∧
      (∀ before bad after, list = before ++ bad :: after →
        (∀ entry ∈ before, Permitted entry.parameter entry.value) →
        ¬ Permitted bad.parameter bad.value →
        let code : ErrorCode := if Parameter.isDefined bad.parameter then .ioctlValueNotSupported
          else .ioctlParamIdNotSupported
        client.setConfig ⟨id⟩ list s =
          (.error (.vendor code), { s with lastFailure := some ⟨.ioctl, code⟩ })) ∧
      ∀ s', client.setConfig ⟨id⟩ list s = (.ok (), s') →
        ∀ parameters : List UInt32, parameters.length < UInt32.size →
          (∀ p ∈ parameters, Parameter.isDefined p = true) →
          client.getConfig ⟨id⟩ parameters s' =
            (.ok (parameters.map fun p =>
              ⟨p, valueAfter list p ((ch.settings.get? p).getD 0)⟩), s')) ∧
    (∀ parameters : List UInt32, parameters.length < UInt32.size →
      ((client.getConfig ⟨id⟩ parameters s).1 = .error (.vendor .ioctlParamIdNotSupported) ↔
        ∃ p ∈ parameters, Parameter.isDefined p = false) ∧
      ((∃ answer, (client.getConfig ⟨id⟩ parameters s).1 = .ok answer) ↔
        ∀ p ∈ parameters, Parameter.isDefined p = true) ∧
      (client.getConfig ⟨id⟩ parameters s).2.channels = s.channels) ∧
    (∀ list : List Setting, UInt32.size ≤ list.length → client.setConfig ⟨id⟩ list s =
      (.error (.valueTooLarge "num_of_params" (UInt32.size - 1) list.length), s)) ∧
    ∀ parameters : List UInt32, UInt32.size ≤ parameters.length →
      client.getConfig ⟨id⟩ parameters s =
        (.error (.valueTooLarge "num_of_params" (UInt32.size - 1) parameters.length), s) := by
  intro client
  have hcounts : ∀ {n}, n < UInt32.size → Counts n := Nat.le_pred_of_lt
  have hnot : ∀ {n}, UInt32.size ≤ n → ¬ Counts n :=
    fun hle => Nat.not_le.2 (Nat.lt_of_lt_of_le (by decide) hle)
  refine ⟨fun list hlist => ⟨?_, ?_, ?_⟩, fun parameters hlength => ?_,
    fun list hlist => setConfig_of_not_counts settings id s (hnot hlist),
    fun parameters hlength => getConfig_of_not_counts settings id s (hnot hlength)⟩
  · constructor
    · rintro ⟨s', hset⟩
      exact ((setConfig_eq_ok_iff hfound settings (hcounts hlist)).1 hset).1
    · intro hall
      exact ⟨_, (setConfig_eq_ok_iff hfound settings (hcounts hlist)).2 ⟨hall, rfl⟩⟩
  · intro before bad after hsplit hbefore hbad
    exact setConfig_of_fault hfound settings (hcounts hlist) hsplit hbefore hbad
  · intro s' hset parameters hlength hdefined
    obtain ⟨-, rfl⟩ := (setConfig_eq_ok_iff hfound settings (hcounts hlist)).1 hset
    have hfound' : (s.setChannel id (ch.withSettings list)).channels.get? id =
        some (ch.withSettings list) := Table.get?_insert_self _ _ _
    have hread := getConfig_of_defined (w := w) hfound' settings (hcounts hlength) hdefined
    simp only [settingsFor, Channel.withSettings, getD_assignSettings] at hread
    exact hread
  · by_cases hdefined : ∀ p ∈ parameters, Parameter.isDefined p = true
    · have hnone : ¬ ∃ p ∈ parameters, Parameter.isDefined p = false := by
        rintro ⟨p, hp, hundefined⟩
        exact Bool.false_ne_true (hundefined.symm.trans (hdefined p hp))
      rw [getConfig_of_defined hfound settings (hcounts hlength) hdefined]
      exact ⟨iff_of_false nofun hnone, iff_of_true ⟨_, rfl⟩ hdefined, rfl⟩
    · have hsome : ∃ p ∈ parameters, Parameter.isDefined p = false := by
        simpa using hdefined
      rw [getConfig_of_not_defined hfound settings (hcounts hlength) hsome]
      exact ⟨iff_of_true rfl hsome, iff_of_false nofun hdefined, rfl⟩

/-- Of two bit rates the second is read back, and a parameter that was never set is zero; a bit rate
of zero is refused. -/
theorem settings_read_back_openCan :
    let s := (State.start 1).run (Event.openCan (w := .w64))
    let client : Client .w64 State := ⟨driver, {}⟩
    let list : List Setting :=
      [⟨Parameter.dataRate, 250000⟩, ⟨Parameter.loopback, 1⟩, ⟨Parameter.dataRate, 125000⟩]
    s.channels.contains 1 = true ∧
      (∃ s', client.setConfig ⟨1⟩ list s = (.ok (), s') ∧
        client.getConfig ⟨1⟩ [Parameter.loopback, 0x20, Parameter.dataRate] s' =
          (.ok [⟨Parameter.loopback, 1⟩, ⟨0x20, 0⟩, ⟨Parameter.dataRate, 125000⟩], s')) ∧
      (client.setConfig ⟨1⟩ (list ++ [⟨Parameter.dataRate, 0⟩]) s).1 =
        .error (.vendor .ioctlValueNotSupported) := by
  intro s client list
  have hopen : s.channels.contains 1 = true := by decide
  obtain ⟨ch, hfound⟩ : ∃ ch, s.channels.get? 1 = some ch := ⟨_, rfl⟩
  obtain ⟨hset, -⟩ := settings_read_back (w := .w64) hfound {}
  obtain ⟨hok, -, hread⟩ := hset list (by decide)
  obtain ⟨s', hs'⟩ := hok.2 (by decide)
  have hdefined : ∀ p ∈ [Parameter.loopback, 0x20, Parameter.dataRate],
      Parameter.isDefined p = true := List.all_eq_true.1 (by decide)
  have hvalues := hread s' hs' _ (by decide) hdefined
  have hrefused := (hset (list ++ [⟨Parameter.dataRate, 0⟩]) (by decide)).2.1 list _ [] rfl
    (by decide) (by decide)
  obtain rfl := Option.some.inj hfound
  exact ⟨hopen, ⟨s', hs', hvalues⟩, congrArg Prod.fst hrefused⟩

end PassThru.Emulator
