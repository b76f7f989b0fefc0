import Mathlib.Data.List.Dedup
import Mathlib.Data.List.Perm.Subperm
import PassThru.Proofs.Emulator.Names

/-!
# The registry and what a scan makes of it

Names are unique in the registry: an interface that is registered takes the place of any other of
its name, at the end. A scan takes a picture of the registry, and the devices of the picture are
delivered in turn; nothing but another scan changes the picture.

* `names_run`: the names in the registry, in order, from what was registered.
* `foldl_register_numbered`: registering numbered interfaces one after the other.
* `Listed`: what of a state is about scanning, and `Effect.listed`: only two calls concern it.
* `cursor_run`: how far the devices of a scan were delivered, and `nextDevice_run`: what comes next.
-/

namespace PassThru.Emulator

variable {w : Width}

/-! ## Names in the registry -/

namespace Registry

def names (registry : Registry) : List String := registry.map (·.name)

theorem names_register (registry : Registry) (interface : Interface) :
    (registry.register interface).names =
      registry.names.filter (· != interface.name) ++ [interface.name] := by
  unfold names register
  rw [List.map_append, List.filter_map]
  rfl

theorem names_unplug (registry : Registry) (name : String) :
    (registry.unplug name).names = registry.names := by
  unfold names unplug
  rw [List.map_map]
  refine List.map_congr_left fun interface _ => ?_
  rw [Function.comp_apply]
  split <;> rfl

theorem eq_of_numbered_name {m n : Nat}
    (h : "passthru-" ++ toString m = "passthru-" ++ toString n) : m = n := by
  have hdigits := congrArg String.toList h
  rw [String.toList_append, String.toList_append, List.append_cancel_left_eq, Nat.toString_eq_repr,
    Nat.toString_eq_repr, Nat.toList_repr, Nat.toList_repr] at hdigits
  have hread : ∀ k, Nat.ofDigitChars 10 (Nat.toDigits 10 k) 0 = k :=
    fun k => Nat.ofDigitChars_toDigits (by decide) (by decide)
  rw [← hread m, hdigits, hread]

theorem nodup_names_numbered (n : Nat) : (numbered n).names.Nodup := by
  unfold names numbered
  rw [List.map_map]
  refine List.nodup_range.map fun i j h => ?_
  exact Nat.succ.inj (eq_of_numbered_name h)

/-- Interfaces of different names come in the order in which they are registered. -/
theorem foldl_register {registry more : Registry} (h : (names (registry ++ more)).Nodup) :
    more.foldl register registry = registry ++ more := by
  induction more generalizing registry with
  | nil => rw [List.foldl_nil, List.append_nil]
  | cons interface more ih =>
    have hsplit : registry ++ interface :: more = (registry ++ [interface]) ++ more := by
      rw [List.append_assoc, List.singleton_append]
    have hfresh : registry.register interface = registry ++ [interface] := by
      unfold register
      rw [List.filter_eq_self.2 fun other hother => bne_iff_ne.2 ?_]
      unfold names at h
      rw [List.map_append, List.map_cons] at h
      exact fun heq => List.disjoint_of_nodup_append h (List.mem_map_of_mem hother)
        (heq ▸ List.mem_cons_self)
    rw [List.foldl_cons, hfresh, ih (hsplit ▸ h), ← hsplit]

/-- The numbered interfaces are those that one gets by registering them one after the other. -/
theorem foldl_register_numbered (n : Nat) : (numbered n).foldl register [] = numbered n :=
  foldl_register (nodup_names_numbered n)

end Registry

/-! ## What was registered -/

/-- The interface that an event registers, if its name fits. -/
def Event.registered? : Event w → Option Interface
  | .register interface => if Names interface.name then some interface else none
  | _ => none

/-- All that was registered in a run, in order; it starts with numbered interfaces. -/
def registrations (n : Nat) (events : List (Event w)) : List Interface :=
  Registry.numbered n ++ events.filterMap Event.registered?

/-- One more at the end takes the place of what is equal to it. -/
theorem dedup_concat {α : Type} [DecidableEq α] (list : List α) (a : α) :
    (list ++ [a]).dedup = list.dedup.filter (· != a) ++ [a] := by
  induction list with
  | nil => rfl
  | cons b list ih =>
    rw [List.cons_append]
    by_cases hmem : b ∈ list
    · rw [List.dedup_cons_of_mem hmem, List.dedup_cons_of_mem (List.mem_append_left _ hmem), ih]
    · rw [List.dedup_cons_of_notMem hmem, List.filter_cons]
      by_cases hab : b = a
      · have hlast : b ∈ list ++ [a] := List.mem_append_right _ (List.mem_singleton.2 hab)
        rw [List.dedup_cons_of_mem hlast, if_neg (by simpa using hab), ih]
      · have hnew : b ∉ list ++ [a] := by
          rw [List.mem_append, List.mem_singleton, not_or]
          exact ⟨hmem, hab⟩
        rw [List.dedup_cons_of_notMem hnew, if_pos (by simpa using hab), ih, List.cons_append]

/-! ## Calls and scanning -/

/-- The registry is the same in both states, and so is the last scan and how much of it was
delivered. -/
structure State.Listed (s s' : State) : Prop where
  registry_eq : s'.registry = s.registry
  scan_eq : s'.scan = s.scan
  cursor_eq : s'.cursor = s.cursor

/-- Whether an event is a scan; a call with a null pointer is not. -/
def Event.isScan : Event w → Bool
  | .call (.scanForDevices (some _)) => true
  | _ => false

/-- Whether an event asks for the next device; a call with a null pointer does not. -/
def Event.isAsk : Event w → Bool
  | .call (.getNextDevice (some _)) => true
  | _ => false

theorem Event.isAsk_iff {event : Event w} :
    event.isAsk = true ↔ ∃ out, event = .call (.getNextDevice (some out)) := by
  unfold Event.isAsk
  split <;> simp_all

/-- How often the next device is asked for. -/
def asks (events : List (Event w)) : Nat := events.countP Event.isAsk

variable {s s' : State}

theorem State.Listed.trans {s'' : State} (h : s.Listed s') (h' : s'.Listed s'') : s.Listed s'' :=
  ⟨h'.registry_eq.trans h.registry_eq, h'.scan_eq.trans h.scan_eq, h'.cursor_eq.trans h.cursor_eq⟩

theorem listed_remember (s : State) (entry : EntryPoint) (failure? : Option ErrorCode) :
    s.Listed (remember entry failure? s) := by
  unfold remember
  cases failure? with
  | none => exact ⟨rfl, rfl, rfl⟩
  | some code =>
    dsimp only
    split <;> exact ⟨rfl, rfl, rfl⟩

/-- All calls but scans and questions for the next device leave this alone. -/
theorem Effect.listed {call : Call w} {failure? : Option ErrorCode} (h : Effect s call failure? s')
    (hscan : Event.isScan (.call call) = false) (hask : Event.isAsk (.call call) = false) :
    s.Listed s' := by
  cases h with
  | scanned => cases hscan
  | delivered => cases hask
  | opened _ _ _ _ hok =>
    obtain ⟨-, -, rfl⟩ := State.openDevice_eq_ok_iff.1 hok
    exact ⟨rfl, rfl, rfl⟩
  | closed _ _ hok =>
    obtain ⟨-, rfl⟩ := State.closeDevice_eq_ok_iff.1 hok
    exact ⟨rfl, rfl, rfl⟩
  | connected _ _ _ _ _ _ _ _ hok =>
    obtain ⟨_, _, _, -, -, -, hresult⟩ := State.connect_eq_ok hok
    obtain ⟨-, rfl⟩ := Prod.mk.inj hresult
    exact ⟨rfl, rfl, rfl⟩
  | disconnected _ _ hok =>
    obtain ⟨-, -, -, rfl⟩ := State.disconnect_eq_ok_iff.1 hok
    exact ⟨rfl, rfl, rfl⟩
  | logicalConnected _ _ _ _ _ _ _ hok =>
    obtain ⟨_, -, -, -, -, -, hresult⟩ := State.logicalConnect_eq_ok_iff.1 hok
    obtain ⟨-, rfl⟩ := Prod.mk.inj hresult
    exact ⟨rfl, rfl, rfl⟩
  | logicalDisconnected _ _ hok =>
    obtain ⟨-, -, -, rfl⟩ := State.logicalDisconnect_eq_ok_iff.1 hok
    exact ⟨rfl, rfl, rfl⟩
  | selected _ _ _ _ ids =>
    refine readyAmong_induction (P := s.Listed) ?_ ids s ⟨rfl, rfl, rfl⟩
    intro _ _ _ _ hpump hs
    obtain ⟨_, -, hresult⟩ := State.pump_eq_ok_iff.1 hpump
    obtain ⟨-, rfl⟩ := Prod.mk.inj hresult
    exact hs.trans ⟨rfl, rfl, rfl⟩
  | periodicStarted _ _ _ _ _ _ hok =>
    obtain ⟨_, -, -, _, -, -, -, hresult⟩ := State.startPeriodicMsg_eq_ok_iff.1 hok
    obtain ⟨-, rfl⟩ := Prod.mk.inj hresult
    exact ⟨rfl, rfl, rfl⟩
  | periodicStopped _ _ _ hok =>
    obtain ⟨_, -, -, rfl⟩ := State.stopPeriodicMsg_eq_ok_iff.1 hok
    exact ⟨rfl, rfl, rfl⟩
  | filterStarted _ _ _ _ _ _ _ hok =>
    obtain ⟨_, -, _, -, -, -, -, -, -, -, -, hresult⟩ := State.startMsgFilter_eq_ok_iff.1 hok
    obtain ⟨-, rfl⟩ := Prod.mk.inj hresult
    exact ⟨rfl, rfl, rfl⟩
  | filterStopped _ _ _ hok =>
    obtain ⟨_, -, -, rfl⟩ := State.stopMsgFilter_eq_ok_iff.1 hok
    exact ⟨rfl, rfl, rfl⟩
  | powered _ _ _ _ hok =>
    obtain ⟨_, -, _, -, -, -, _, -, rfl⟩ := State.setProgrammingVoltage_eq_ok_iff.1 hok
    exact ⟨rfl, rfl, rfl⟩
  | configured _ _ _ _ _ _ hok =>
    obtain ⟨-, _, -, _, -, -, rfl⟩ := State.setConfig_eq_ok_iff.1 hok
    exact ⟨rfl, rfl, rfl⟩
  | functionalChanged _ _ _ _ _ _ hok =>
    obtain ⟨-, _, -, -, _, -, rfl⟩ := State.changeFunctional_eq_ok_iff.1 hok
    exact ⟨rfl, rfl, rfl⟩
  | cleared _ _ _ _ _ _ _ hok =>
    obtain ⟨-, -, _, -, _, -, rfl⟩ := State.clear_eq_ok_iff.1 hok
    exact ⟨rfl, rfl, rfl⟩
  | refused | answered | read | queued => exact ⟨rfl, rfl, rfl⟩

theorem listed_driver (s : State) {call : Call w} (hscan : Event.isScan (.call call) = false)
    (hask : Event.isAsk (.call call) = false) : s.Listed (driver call s).2 :=
  ((perform_effect s call).listed hscan hask).trans (listed_remember _ _ _)

theorem Effect.registry_eq {call : Call w} {failure? : Option ErrorCode}
    (h : Effect s call failure? s') : s'.registry = s.registry := by
  by_cases hother : Event.isScan (.call call) = false ∧ Event.isAsk (.call call) = false
  · exact (h.listed hother.1 hother.2).registry_eq
  · cases h with
    | refused | answered | scanned | delivered => rfl
    | _ => exact absurd ⟨rfl, rfl⟩ hother

theorem Effect.scan_eq {call : Call w} {failure? : Option ErrorCode}
    (h : Effect s call failure? s') (hscan : Event.isScan (.call call) = false) :
    s'.scan = s.scan := by
  cases hask : Event.isAsk (.call call) with
  | false => exact (h.listed hscan hask).scan_eq
  | true =>
    cases h with
    | refused | answered | delivered => rfl
    | scanned => cases hscan
    | _ => cases hask

theorem listed_inject (s : State) (channel : UInt32) (frame : Message) :
    s.Listed (s.inject channel frame) := by
  unfold State.inject
  cases s.channels.get? channel <;> exact ⟨rfl, rfl, rfl⟩

/-- Whatever happens but a scan or a question for the next device, the last scan stays as it is. -/
theorem picture_after (s : State) {event : Event w} (hscan : event.isScan = false)
    (hask : event.isAsk = false) :
    (s.after event).scan = s.scan ∧ (s.after event).cursor = s.cursor := by
  cases event with
  | call call =>
    have hlisted := listed_driver s hscan hask
    exact ⟨hlisted.scan_eq, hlisted.cursor_eq⟩
  | register interface =>
    rcases after_register (w := w) s interface with hsame | ⟨-, hregistered⟩
    · rw [hsame]
      exact ⟨rfl, rfl⟩
    · rw [hregistered]
      exact ⟨rfl, rfl⟩
  | unplug name => exact ⟨rfl, rfl⟩
  | inject channel frame =>
    have hlisted := listed_inject s channel frame
    exact ⟨hlisted.scan_eq, hlisted.cursor_eq⟩

theorem scan_after (s : State) {event : Event w} (hscan : event.isScan = false) :
    (s.after event).scan = s.scan := by
  cases hask : event.isAsk with
  | false => exact (picture_after s hscan hask).1
  | true =>
    obtain ⟨out, rfl⟩ := Event.isAsk_iff.1 hask
    exact (listed_remember _ _ _).scan_eq.trans ((perform_effect s _).scan_eq hscan)

theorem scan_run (s : State) {events : List (Event w)}
    (hscan : ∀ event ∈ events, event.isScan = false) : (s.run events).scan = s.scan := by
  induction events generalizing s with
  | nil => rfl
  | cons event events ih =>
    obtain ⟨hfirst, hrest⟩ := List.forall_mem_cons.1 hscan
    exact (ih (s.after event) hrest).trans (scan_after s hfirst)

/-! ## Names in a run -/

theorem names_after (s : State) (event : Event w) :
    (s.after event).registry.names =
      match event.registered? with
      | some interface => s.registry.names.filter (· != interface.name) ++ [interface.name]
      | none => s.registry.names := by
  cases event with
  | call call =>
    have hregistry := (perform_effect s call).registry_eq
    exact congrArg Registry.names ((listed_remember _ _ _).registry_eq.trans hregistry)
  | register interface =>
    unfold State.after State.register Event.registered?
    dsimp only
    by_cases hnames : Names interface.name
    · rw [if_pos hnames, Field.encode_of_names "name" hnames]
      exact Registry.names_register s.registry interface
    · rw [if_neg hnames, Field.encode_of_not_names "name" hnames]
      rfl
  | unplug name => exact Registry.names_unplug s.registry name
  | inject channel frame =>
    exact congrArg Registry.names (listed_inject s channel frame).registry_eq

/-- The registry has the last of each name that was registered, in order. -/
theorem names_run (n : Nat) (events : List (Event w)) :
    ((State.start n).run events).registry.names =
      ((registrations n events).map (·.name)).dedup := by
  -- the names before the events are kept as they were given, and not only what is left of them
  have hrun : ∀ (events : List (Event w)) (s : State) (earlier : List String),
      s.registry.names = earlier.dedup → (s.run events).registry.names =
        (earlier ++ (events.filterMap Event.registered?).map (·.name)).dedup := by
    intro events
    induction events with
    | nil =>
      intro s earlier h
      rw [List.filterMap_nil, List.map_nil, List.append_nil]
      exact h
    | cons event events ih =>
      intro s earlier h
      have hafter := names_after s event
      show ((s.after event).run events).registry.names = _
      cases hregistered : event.registered? with
      | none =>
        rw [hregistered] at hafter
        rw [List.filterMap_cons_none hregistered]
        exact ih _ earlier (hafter.trans h)
      | some interface =>
        rw [hregistered, h] at hafter
        rw [List.filterMap_cons_some hregistered, List.map_cons, ← List.singleton_append,
          ← List.append_assoc]
        exact ih _ _ (hafter.trans (dedup_concat _ _).symm)
  unfold registrations
  rw [List.map_append]
  exact hrun events _ _ (List.dedup_eq_self.2 (Registry.nodup_names_numbered n)).symm

theorem le_length_registry (n : Nat) (events : List (Event w)) :
    n ≤ ((State.start n).run events).registry.length := by
  have hsubset : (Registry.numbered n).names ⊆ ((State.start n).run events).registry.names := by
    rw [names_run]
    intro name hmem
    rw [List.mem_dedup]
    unfold registrations
    rw [List.map_append]
    exact List.mem_append_left _ hmem
  have hle := (List.subperm_of_subset (Registry.nodup_names_numbered n) hsubset).length_le
  unfold Registry.names at hle
  rw [List.length_map, List.length_map] at hle
  rwa [Registry.numbered, List.length_map, List.length_range] at hle

/-! ## The devices of a scan -/

section Delivery

variable {devices : List Device} {device : Device} {code : ErrorCode}

/-- What is delivered next depends on the last scan and on how much of it was delivered. -/
theorem nextDevice_eq (h : s.scan = some devices) :
    s.nextDevice =
      if devices = [] then .error .bufferEmpty
      else
        match devices[s.cursor]? with
        | some device => .ok device
        | none => .error .exceededLimit := by
  unfold State.nextDevice
  rw [h]
  dsimp only
  by_cases hempty : devices = []
  · rw [if_pos hempty, if_pos (List.isEmpty_iff.2 hempty)]
  · rw [if_neg hempty]
    exact if_neg fun h => hempty (List.isEmpty_iff.1 h)

theorem nextDevice_error (h : s.nextDevice = .error code) :
    code = .bufferEmpty ∨ code = .exceededLimit := by
  cases hscan : s.scan with
  | none =>
    unfold State.nextDevice at h
    rw [hscan] at h
    cases h
    exact .inl rfl
  | some devices =>
    rw [nextDevice_eq hscan] at h
    split at h
    · cases h
      exact .inl rfl
    · split at h
      · cases h
      · cases h
        exact .inr rfl

theorem performNextDevice_of_ok (h : s.nextDevice = .ok device) {native : NativeDevice w}
    (hencode : device.encode = .ok native) (out : NativeDevice w) :
    performNextDevice s (some out) = ⟨none, some native, { s with cursor := s.cursor + 1 }⟩ := by
  unfold performNextDevice
  rw [h]
  simp only [Attempt.present, bind, Except.bind, hencode]
  rfl

/-- A device with a name that does not fit is not delivered, and the next one is not looked at. -/
theorem performNextDevice_of_unencodable (h : s.nextDevice = .ok device) {e : Error}
    (hencode : (device.encode : Answer (NativeDevice w)) = .error e) (out : NativeDevice w) :
    performNextDevice s (some out) = ⟨some .failed, some out, s⟩ := by
  unfold performNextDevice
  rw [h]
  simp only [Attempt.present, bind, Except.bind, hencode]
  rfl

theorem performNextDevice_of_error (h : s.nextDevice = .error code) (out : NativeDevice w) :
    performNextDevice s (some out) = ⟨some code, some out, s⟩ := by
  unfold performNextDevice
  rw [h]
  rfl

theorem cursor_lt_of_nextDevice (h : s.scan = some devices) (hnext : s.nextDevice = .ok device) :
    s.cursor < devices.length := by
  rw [nextDevice_eq h] at hnext
  split at hnext
  · cases hnext
  · split at hnext
    · next found => exact (List.getElem?_eq_some_iff.1 found).1
    · cases hnext

/-- A question for the next device is answered as long as one is left. -/
theorem cursor_ask (hs : s.Named) (h : s.scan = some devices) (hle : s.cursor ≤ devices.length)
    (out : NativeDevice w) :
    (performNextDevice s (some out)).state.cursor = min (s.cursor + 1) devices.length := by
  cases hnext : s.nextDevice with
  | ok device =>
    obtain ⟨native, hencode⟩ := hs.encode_nextDevice hnext w
    rw [performNextDevice_of_ok hnext hencode]
    exact (Nat.min_eq_left (cursor_lt_of_nextDevice h hnext)).symm
  | error code =>
    rw [performNextDevice_of_error hnext]
    have hend : devices.length ≤ s.cursor := by
      rw [nextDevice_eq h] at hnext
      split at hnext
      · next hempty => rw [hempty]; exact Nat.zero_le _
      · split at hnext
        · cases hnext
        · next found => exact List.getElem?_eq_none_iff.1 found
    have heq := Nat.le_antisymm hle hend
    exact heq.trans (Nat.min_eq_right (Nat.le_succ_of_le hend)).symm

/-- How much of a scan was delivered is a matter of how often one asked for more. -/
theorem cursor_after (hs : s.Named) (h : s.scan = some devices) (hle : s.cursor ≤ devices.length)
    {event : Event w} (hscan : event.isScan = false) :
    (s.after event).cursor = min (s.cursor + asks [event]) devices.length := by
  cases hask : event.isAsk with
  | true =>
    obtain ⟨out, rfl⟩ := Event.isAsk_iff.1 hask
    exact (listed_remember _ _ _).cursor_eq.trans (cursor_ask hs h hle out)
  | false =>
    have hnone : asks [event] = 0 := List.countP_singleton.trans (if_neg (Bool.eq_false_iff.1 hask))
    rw [(picture_after s hscan hask).2, hnone]
    exact (Nat.min_eq_left hle).symm

/-- As long as there is no other scan, the devices of a scan are delivered one by one. -/
theorem cursor_run (hs : s.Named) (h : s.scan = some devices) (hle : s.cursor ≤ devices.length)
    {events : List (Event w)} (hscan : ∀ event ∈ events, event.isScan = false) :
    (s.run events).cursor = min (s.cursor + asks events) devices.length := by
  induction events generalizing s with
  | nil => exact (Nat.min_eq_left hle).symm
  | cons event events ih =>
    obtain ⟨hfirst, hrest⟩ := List.forall_mem_cons.1 hscan
    have hcursor := cursor_after hs h hle hfirst
    have hs' : (s.after event).Named := (steps_after s event).invariant Step.named hs
    have hle' : (s.after event).cursor ≤ devices.length := by
      rw [hcursor]
      exact Nat.min_le_right _ _
    have hasks : asks (event :: events) = asks [event] + asks events := by
      unfold asks
      rw [← List.countP_append, List.singleton_append]
    refine (ih hs' ((scan_after s hfirst).trans h) hle' hrest).trans ?_
    rw [hcursor, hasks]
    omega

/-- What is delivered next is a matter of the scan and of how often one asked, whatever else happens
in between. -/
theorem nextDevice_run (hs : s.Named) (h : s.scan = some devices) (hle : s.cursor ≤ devices.length)
    {events : List (Event w)} (hscan : ∀ event ∈ events, event.isScan = false) :
    (s.run events).nextDevice =
      if devices = [] then .error .bufferEmpty
      else
        match devices[s.cursor + asks events]? with
        | some device => .ok device
        | none => .error .exceededLimit := by
  have hget : devices[min (s.cursor + asks events) devices.length]? =
      devices[s.cursor + asks events]? := by
    rcases Nat.le_total (s.cursor + asks events) devices.length with hcursor | hcursor
    · rw [Nat.min_eq_left hcursor]
    · rw [Nat.min_eq_right hcursor, List.getElem?_eq_none (Nat.le_refl _),
        List.getElem?_eq_none hcursor]
  rw [nextDevice_eq ((scan_run s hscan).trans h), cursor_run hs h hle hscan, hget]

end Delivery

end PassThru.Emulator
