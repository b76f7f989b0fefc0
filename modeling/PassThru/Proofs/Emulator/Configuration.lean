import PassThru.Proofs.Emulator.Operations

/-!
# Configuration parameters of a channel

A list of assignments is looked through before any of it takes effect: either every assignment is
permitted and all are made, one after the other, or the first that is not is what the list is
refused for.

* `Permitted`: the assignments that are possible, and `settingFault` what is wrong with any other.
* `checkSettings_eq_ok_iff` and `checkSettings_of_fault`: a list of assignments as a whole.
* `get?_assignSettings`: afterwards each parameter has the value it was given last.
* `fillSettings_of_defined` and `fillSettings_failure_iff`: reading a list of parameters.
-/

namespace PassThru.Emulator

variable {w : Width}

/-! ## One assignment -/

/-- A value may be given to a parameter that exists; a bit rate is not zero, and loopback is off or
on. -/
structure Permitted (parameter value : UInt32) : Prop where
  defined : Parameter.isDefined parameter = true
  dataRate_ne : parameter = Parameter.dataRate → value ≠ 0
  loopback_le : parameter = Parameter.loopback → value ≤ 1

/-- What is wrong with an assignment that is not permitted. -/
def settingFault (parameter : UInt32) : ErrorCode :=
  if Parameter.isDefined parameter then .ioctlValueNotSupported else .ioctlParamIdNotSupported

theorem permitted_iff {parameter value : UInt32} :
    Permitted parameter value ↔
      Parameter.isDefined parameter = true ∧ (parameter = Parameter.dataRate → value ≠ 0) ∧
        (parameter = Parameter.loopback → value ≤ 1) :=
  ⟨fun h => ⟨h.defined, h.dataRate_ne, h.loopback_le⟩, fun ⟨h₁, h₂, h₃⟩ => ⟨h₁, h₂, h₃⟩⟩

instance (parameter value : UInt32) : Decidable (Permitted parameter value) :=
  decidable_of_iff _ permitted_iff.symm

theorem checkSetting_eq_ok_iff {parameter value : UInt32} :
    Channel.checkSetting parameter value = .ok () ↔ Permitted parameter value := by
  simp only [Channel.checkSetting, Attempt.bind_eq_ok_iff, Attempt.require_eq_ok_iff, exists_const,
    permitted_iff, Bool.not_eq_true', Bool.and_eq_false_imp, beq_iff_eq, beq_eq_false_iff_ne,
    decide_eq_false_iff_not, UInt32.not_lt]

theorem checkSetting_of_not_permitted {parameter value : UInt32} (h : ¬ Permitted parameter value) :
    Channel.checkSetting parameter value = .error (settingFault parameter) := by
  unfold settingFault
  cases hcheck : Channel.checkSetting parameter value with
  | ok u => exact absurd (checkSetting_eq_ok_iff.1 hcheck) h
  | error code =>
    simp only [Channel.checkSetting, Attempt.bind_eq_error_iff,
      Attempt.require_eq_error_iff, Attempt.require_eq_ok_iff, exists_const] at hcheck
    rcases hcheck with ⟨hdefined, rfl⟩ | ⟨hdefined, ⟨-, rfl⟩ | ⟨-, -, rfl⟩⟩ <;> rw [hdefined] <;> rfl

/-! ## Lists of assignments -/

section Assignments

variable {assignments : List (UInt32 × UInt32)}

theorem checkSettings_cons (parameter value : UInt32) (rest : List (UInt32 × UInt32)) :
    (((parameter, value) :: rest).forM fun (parameter, value) =>
        Channel.checkSetting parameter value) =
      Channel.checkSetting parameter value >>= fun _ => rest.forM fun (parameter, value) =>
        Channel.checkSetting parameter value := rfl

theorem checkSettings_eq_ok_iff :
    (assignments.forM fun (parameter, value) => Channel.checkSetting parameter value) = .ok () ↔
      ∀ a ∈ assignments, Permitted a.1 a.2 := by
  induction assignments with
  | nil => exact iff_of_true rfl nofun
  | cons head rest ih =>
    obtain ⟨parameter, value⟩ := head
    rw [checkSettings_cons, Attempt.bind_eq_ok_iff, List.forall_mem_cons, ← ih,
      ← checkSetting_eq_ok_iff]
    exact ⟨fun ⟨(), hall⟩ => hall, fun hall => ⟨(), hall⟩⟩

theorem checkSettings_of_fault {before after : List (UInt32 × UInt32)} {parameter value : UInt32}
    (hbefore : ∀ a ∈ before, Permitted a.1 a.2) (hbad : ¬ Permitted parameter value) :
    ((before ++ (parameter, value) :: after).forM fun (parameter, value) =>
        Channel.checkSetting parameter value) = .error (settingFault parameter) := by
  induction before with
  | nil =>
    rw [List.nil_append, checkSettings_cons, checkSetting_of_not_permitted hbad]
    rfl
  | cons head rest ih =>
    obtain ⟨hhead, hrest⟩ := List.forall_mem_cons.1 hbefore
    rw [List.cons_append, checkSettings_cons, checkSetting_eq_ok_iff.2 hhead]
    exact ih hrest

/-- After a list of assignments a parameter has the value it was given last, or else the one that it
had. -/
theorem get?_assignSettings (settings : Table UInt32) (assignments : List (UInt32 × UInt32))
    (parameter : UInt32) :
    (assignSettings settings assignments).get? parameter =
      ((assignments.reverse.find? fun a => a.1 == parameter).map (·.2)).or
        (settings.get? parameter) := by
  induction assignments generalizing settings with
  | nil => rfl
  | cons head rest ih =>
    obtain ⟨p, v⟩ := head
    show (assignSettings (settings.insert p v) rest).get? parameter = _
    rw [ih, List.reverse_cons, List.find?_append, Table.get?_insert]
    cases rest.reverse.find? fun a => a.1 == parameter with
    | some found => rfl
    | none =>
      by_cases h : parameter = p
      · simp [h]
      · have hne : ¬ p = parameter := fun e => h e.symm
        simp [h, hne]

end Assignments

/-! ## Reading parameters -/

theorem setting_of_defined (ch : Channel) {parameter : UInt32}
    (h : Parameter.isDefined parameter = true) :
    ch.setting parameter = .ok ((ch.settings.get? parameter).getD 0) := by
  unfold Channel.setting
  rw [h]
  rfl

theorem setting_of_not_defined (ch : Channel) {parameter : UInt32}
    (h : Parameter.isDefined parameter = false) :
    ch.setting parameter = .error .ioctlParamIdNotSupported := by
  unfold Channel.setting
  rw [h]
  rfl

theorem fillSettings_of_defined (ch : Channel) {entries : List (NativeSetting w)}
    (h : ∀ entry ∈ entries, Parameter.isDefined entry.parameter.narrow = true) :
    fillSettings ch entries =
      (entries.map fun entry =>
        { entry with value := .of32 ((ch.settings.get? entry.parameter.narrow).getD 0) }, none) := by
  induction entries with
  | nil => rfl
  | cons entry rest ih =>
    obtain ⟨hentry, hrest⟩ := List.forall_mem_cons.1 h
    rw [fillSettings, setting_of_defined ch hentry]
    dsimp only
    rw [ih hrest, List.map_cons]

/-- Reading fails if, and only if, one of the parameters does not exist. -/
theorem fillSettings_failure_iff (ch : Channel) (entries : List (NativeSetting w)) :
    (fillSettings ch entries).2 = some .ioctlParamIdNotSupported ↔
      ∃ entry ∈ entries, Parameter.isDefined entry.parameter.narrow = false := by
  induction entries with
  | nil => simp [fillSettings]
  | cons entry rest ih =>
    simp only [List.mem_cons, exists_eq_or_imp]
    cases hdefined : Parameter.isDefined entry.parameter.narrow with
    | false =>
      rw [fillSettings, setting_of_not_defined ch hdefined]
      exact iff_of_true rfl (.inl rfl)
    | true =>
      rw [fillSettings, setting_of_defined ch hdefined]
      exact ih.trans (or_iff_right Bool.noConfusion).symm

end PassThru.Emulator
