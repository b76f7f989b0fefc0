import PassThru.Proofs.Emulator.Listing
import PassThru.Proofs.Emulator.Voltages

/-!
# Opening and closing

Whether a device can be opened depends on the interface of its name and on the open devices. Names
are unique among both, so there is one interface and at most one open device to look at.

* `Registry.filter_name_eq`: the one interface of a name.
* `State.openDevice_eq`: whether an interface can be opened.
* `reachable_nodup_names`, `reachable_nulFree` and `reachable_openOnce`: what holds of names.
* `State.Holds.run`: a device stays open, and its interface registered, until it is closed.
-/

namespace PassThru.Emulator

variable {w : Width} {s s' : State}

/-! ## Looking up an interface -/

namespace Registry

variable {registry : Registry} {interface : Interface} {name : String}

theorem names_cons (interface : Interface) (registry : Registry) :
    names (interface :: registry) = interface.name :: names registry := rfl

theorem filter_name_eq (h : registry.names.Nodup) (hmem : interface ∈ registry) :
    registry.filter (·.name == interface.name) = [interface] := by
  induction registry with
  | nil => cases hmem
  | cons head registry ih =>
    rw [names_cons, List.nodup_cons] at h
    obtain ⟨hhead, hrest⟩ := h
    have hname : ∀ {other : Interface}, other ∈ registry → other.name ≠ head.name :=
      fun hother heq => hhead (heq ▸ List.mem_map_of_mem hother)
    rcases List.mem_cons.1 hmem with rfl | hmem
    · have hnone : registry.filter (·.name == interface.name) = [] := by
        rw [List.filter_eq_nil_iff]
        intro other hother
        rw [beq_iff_eq]
        exact hname hother
      rw [List.filter_cons, if_pos (beq_self_eq_true _), hnone]
    · have hne : ¬ (head.name == interface.name) = true := by
        rw [beq_iff_eq]
        exact (hname hmem).symm
      rw [List.filter_cons, if_neg hne, ih hrest hmem]

theorem filter_name_register (registry : Registry) (h : interface.name ≠ name) :
    (registry.register interface).filter (·.name == name) = registry.filter (·.name == name) := by
  have hnew : (interface.name == name) = false := beq_false_of_ne h
  have hkept : ∀ other ∈ registry, (other.name == name && other.name != interface.name) =
      (other.name == name) := by
    intro other _
    by_cases hname : other.name = name
    · rw [hname, bne_iff_ne.2 h.symm, Bool.and_true]
    · rw [beq_false_of_ne hname, Bool.false_and]
  unfold register
  rw [List.filter_append, List.filter_filter, List.filter_cons, hnew, List.filter_congr hkept]
  exact List.append_nil _

theorem filter_name_unplug (registry : Registry) {unplugged : String} (h : unplugged ≠ name) :
    (registry.unplug unplugged).filter (·.name == name) = registry.filter (·.name == name) := by
  induction registry with
  | nil => rfl
  | cons head registry ih =>
    show ((if head.name == unplugged then { head with connected := false } else head) ::
      Registry.unplug registry unplugged).filter _ = _
    rw [List.filter_cons, List.filter_cons, ih]
    by_cases hhead : head.name = unplugged
    · have hne : (head.name == name) = false := beq_false_of_ne (hhead ▸ h)
      rw [if_pos (beq_iff_eq.2 hhead), hne]
      rfl
    · rw [if_neg (mt beq_iff_eq.1 hhead)]

theorem find?_eq_head?_filter (registry : Registry) (name : String) :
    registry.find? name = (registry.filter (·.name == name)).head? :=
  List.head?_filter.symm

theorem find?_of_mem (h : registry.names.Nodup) (hmem : interface ∈ registry) :
    registry.find? interface.name = some interface := by
  rw [find?_eq_head?_filter, filter_name_eq h hmem, List.head?_cons]

theorem isConnected_of_mem (h : registry.names.Nodup) (hmem : interface ∈ registry) :
    registry.isConnected interface.name = interface.connected := by
  unfold isConnected
  rw [find?_of_mem h hmem]
  rfl

/-- What is registered under no name is not plugged in either. -/
theorem isConnected_of_not_registered (h : ∀ interface ∈ registry, interface.name ≠ name) :
    registry.isConnected name = false := by
  unfold isConnected find?
  rw [List.find?_eq_none.2 fun interface hmem => by rw [beq_iff_eq]; exact h interface hmem]
  rfl

end Registry

theorem reachable_nodup_names (h : Reachable w s) : s.registry.names.Nodup := by
  obtain ⟨n, events, rfl⟩ := h
  rw [names_run]
  exact List.nodup_dedup _

theorem reachable_nulFree (h : Reachable w s) :
    ∀ interface ∈ s.registry, '\x00' ∉ interface.name.toList := by
  refine Reachable.invariant
    (P := fun s => ∀ interface ∈ s.registry, '\x00' ∉ interface.name.toList) ?_ ?_ h
  · intro n interface hmem hnul
    obtain ⟨i, -, rfl⟩ := List.mem_map.1 hmem
    exact (plain_numbered _ _ hnul).1 rfl
  · intro s s' hstep hs
    cases hstep with
    | registered interface field hencodes =>
      intro other hmem
      rcases List.mem_append.1 hmem with hmem | hmem
      · exact hs other (List.mem_filter.1 hmem).1
      · obtain rfl := List.mem_singleton.1 hmem
        exact (names_of_encode hencodes).1
    | unplugged name =>
      intro other hmem
      obtain ⟨interface, hinterface, rfl⟩ := List.mem_map.1 hmem
      split
      · exact hs interface hinterface
      · exact hs interface hinterface
    | _ => exact hs

/-! ## Open devices -/

/-- No name is open twice. -/
def OpenOnce (s : State) : Prop :=
  ∀ id₁ id₂ device₁ device₂, s.devices.get? id₁ = some device₁ →
    s.devices.get? id₂ = some device₂ → device₁.name = device₂.name → id₁ = id₂

theorem OpenOnce.step (h : OpenOnce s) (hstep : Step s s') : OpenOnce s' := by
  cases hstep with
  | opened name _ _ hclosed =>
    have hnew : ∀ {k device}, s.devices.get? k = some device → device.name ≠ name := by
      intro k device hget hname
      rw [State.isOpen_iff.2 ⟨k, device, hget, hname⟩] at hclosed
      cases hclosed
    intro id₁ id₂ device₁ device₂ hget₁ hget₂ hname
    rcases Table.get?_insert_cases hget₁ with ⟨rfl, rfl⟩ | ⟨-, hold₁⟩ <;>
      rcases Table.get?_insert_cases hget₂ with ⟨rfl, rfl⟩ | ⟨-, hold₂⟩
    · rfl
    · exact absurd hname.symm (hnew hold₂)
    · exact absurd hname (hnew hold₁)
    · exact h _ _ _ _ hold₁ hold₂ hname
  | closed id =>
    intro id₁ id₂ device₁ device₂ hget₁ hget₂
    have hold₁ := (Table.get?_erase_eq_some_iff.1 hget₁).1
    exact h _ _ _ _ hold₁ (Table.get?_erase_eq_some_iff.1 hget₂).1
  | powered id device pin voltage pins hopened =>
    -- the device that is written back has the name that it had
    have hbefore : ∀ {k device'}, (s.devices.insert id { device with pins }).get? k = some device' →
        ∃ old, s.devices.get? k = some old ∧ old.name = device'.name := by
      intro k device' hget
      rcases Table.get?_insert_cases hget with ⟨rfl, rfl⟩ | ⟨-, hold⟩
      · exact ⟨device, hopened, rfl⟩
      · exact ⟨device', hold, rfl⟩
    intro id₁ id₂ device₁ device₂ hget₁ hget₂ hname
    obtain ⟨old₁, hold₁, hname₁⟩ := hbefore hget₁
    obtain ⟨old₂, hold₂, hname₂⟩ := hbefore hget₂
    exact h _ _ _ _ hold₁ hold₂ (by rw [hname₁, hname₂, hname])
  | _ => exact h

theorem OpenOnce.steps (h : OpenOnce s) (hsteps : Steps s s') : OpenOnce s' :=
  hsteps.invariant (P := OpenOnce) (fun hstep hs => hs.step hstep) h

theorem reachable_openOnce (h : Reachable w s) : OpenOnce s := by
  obtain ⟨n, events, rfl⟩ := h
  have hstart : OpenOnce (State.start n) := nofun
  exact hstart.steps (steps_run _ events)

/-! ## Opening -/

theorem State.openDevice_eq (s : State) {name : String} (hname : name ≠ "") :
    s.openDevice name =
      if s.registry.isConnected name = true then
        if s.isOpen name = true then .error .deviceInUse
        else .ok (nextHandle s.issued.devices,
          { s with
            devices := s.devices.insert (nextHandle s.issued.devices) { name }
            issued := { s.issued with devices := s.issued.devices + 1 } })
      else .error .deviceNotConnected := by
  unfold State.openDevice
  rw [bne_iff_ne.2 hname]
  cases s.registry.isConnected name <;> cases s.isOpen name <;> rfl

/-! ## What stays open -/

/-- An interface is the one of its name, and `id` is an open device of that name. -/
structure State.Holds (s : State) (interface : Interface) (id : UInt32) : Prop where
  registered : s.registry.filter (·.name == interface.name) = [interface]
  opened : (s.devices.get? id).map (·.name) = some interface.name
  issued : id.toNat ≤ s.issued.devices

/-- Whether an event leaves the interface of a name registered as it is, and the device `id` open. -/
def Event.Spares (name : String) (id : UInt32) : Event w → Prop
  | .call (.closeDevice device) => device.narrow ≠ id
  | .call _ => True
  | .register interface => interface.name ≠ name
  | .unplug other => other ≠ name
  | .inject .. => True

/-- No call but one that closes it takes an open device away, or gives it another name. -/
theorem Effect.name_eq {call : Call w} {failure? : Option ErrorCode}
    (h : Effect s call failure? s') {id : UInt32}
    (hclose : ∀ device, call = .closeDevice device → device.narrow ≠ id)
    (hissued : id.toNat ≤ s.issued.devices) (hbound : s'.issued.devices < UInt32.size) :
    (s'.devices.get? id).map (·.name) = (s.devices.get? id).map (·.name) := by
  cases call with
  | openDevice name device =>
    cases h with
    | refused | answered => rfl
    | opened _ _ _ _ hok =>
      obtain ⟨-, -, rfl⟩ := State.openDevice_eq_ok_iff.1 hok
      have hne : id ≠ nextHandle s.issued.devices := by
        rintro rfl
        rw [toNat_nextHandle hbound] at hissued
        omega
      exact congrArg _ (Table.get?_insert_of_ne _ _ hne)
  | closeDevice device =>
    cases h with
    | refused | answered => rfl
    | closed _ _ hok =>
      obtain ⟨-, rfl⟩ := State.closeDevice_eq_ok_iff.1 hok
      exact congrArg _ ((Table.get?_erase _ _ _).trans (if_neg (hclose device rfl).symm))
  | setProgrammingVoltage device resource voltage =>
    cases h with
    | refused | answered => rfl
    | powered _ _ _ _ hok =>
      obtain ⟨opened, ⟨hopened, -⟩, pin, -, -, -, pins, -, rfl⟩ :=
        State.setProgrammingVoltage_eq_ok_iff.1 hok
      have hname : OpenDevice.name { opened with pins } = opened.name := rfl
      exact Table.map_get?_insert OpenDevice.name hopened hname id
  | _ => rw [h.devices_eq fun _ _ => rfl]

namespace State.Holds

variable {interface : Interface} {id : UInt32}

theorem after (h : s.Holds interface id) {event : Event w}
    (hspares : event.Spares interface.name id)
    (hbound : (s.after event).issued.devices < UInt32.size) : (s.after event).Holds interface id := by
  have hissued := Nat.le_trans h.issued (steps_after s event).issued_le.1
  cases event with
  | call call =>
    have heffect := perform_effect s call
    obtain ⟨last, hlast⟩ := remember_eq call.entry (perform s call).failure? (perform s call).state
    have hafter : s.after (.call call) = { (perform s call).state with lastFailure := last } := hlast
    rw [hafter] at hbound hissued ⊢
    have hclose : ∀ device, call = .closeDevice device → device.narrow ≠ id := by
      rintro device rfl
      exact hspares
    exact ⟨(congrArg _ heffect.registry_eq).trans h.registered,
      (heffect.name_eq hclose h.issued hbound).trans h.opened, hissued⟩
  | register other =>
    rcases after_register (w := w) s other with hsame | ⟨-, hregistered⟩
    · rw [hsame]
      exact h
    · rw [hregistered]
      exact ⟨(Registry.filter_name_register _ hspares).trans h.registered, h.opened, h.issued⟩
  | unplug other =>
    exact ⟨(Registry.filter_name_unplug _ hspares).trans h.registered, h.opened, h.issued⟩
  | inject channel frame =>
    show (s.inject channel frame).Holds interface id
    unfold State.inject
    cases s.channels.get? channel with
    | none => exact h
    | some ch => exact ⟨h.registered, h.opened, h.issued⟩

/-- Whatever happens, unless it is closed, a device stays open. -/
theorem run (h : s.Holds interface id) {later : List (Event w)}
    (hspares : ∀ event ∈ later, event.Spares interface.name id)
    (hbound : (s.run later).issued.devices < UInt32.size) : (s.run later).Holds interface id := by
  induction later generalizing s with
  | nil => exact h
  | cons event later ih =>
    obtain ⟨hfirst, hrest⟩ := List.forall_mem_cons.1 hspares
    have hle := (steps_run (s.after event) later).issued_le.1
    exact ih (h.after hfirst (Nat.lt_of_le_of_lt hle hbound)) hrest hbound

end State.Holds

end PassThru.Emulator
