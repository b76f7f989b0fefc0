import PassThru.Proofs.Emulator.Gates
import PassThru.Proofs.Emulator.Handles

/-!
# The life of a handle

A handle is good from the successful call that returned it to the one that gives it back, or that
takes away what it stands on. As long as the handles fit 32 bits none is returned twice, so this
says of every call, after every run, whether it is refused for its handles.

* `TracksHandles`: the state and the history of a run agree.
* `TracksHandles.run`: they agree after every run.
* `handle_lifecycle`: what follows for the calls after a run.
-/

namespace PassThru.Emulator

variable {w : Width}

/-! ## Runs -/

/-- The handles of the state are those that the history leaves and those that it returned. -/
structure TracksHandles (history : List Deed) (s : State) : Prop where
  agrees : s.handles.Agrees history
  issued : ∀ kind, issuedIn kind history = handlesUpTo (s.issuedOf kind)
  topology : Topology s
  handlesIssued : HandlesIssued s

theorem tracksHandles_initial (registry : Registry) : TracksHandles [] (.initial registry) where
  agrees := Handles.agrees_nil
  issued kind := by rcases kind with _ | _ | _ | _ <;> rfl
  topology := {
    device_open := nofun
    device_registered := nofun
    names_unique := nofun
    logical := nofun
    physical := nofun
    siblings_le := fun _ => Nat.zero_le _
    siblings_unique := nofun }
  handlesIssued := nofun

theorem topology_of_steps {s s' : State} (h : Steps s s')
    (hbound : s'.issued.channels < UInt32.size) (hissued : HandlesIssued s)
    (htopology : Topology s) : HandlesIssued s' ∧ Topology s' := by
  induction h with
  | refl => exact ⟨hissued, htopology⟩
  | tail _ hlast ih =>
    obtain ⟨hissued, htopology⟩ := ih (Nat.lt_of_le_of_lt hlast.issued_le.2.1 hbound)
    exact ⟨hissued.step hlast hbound, htopology.step hissued hlast hbound⟩

theorem Handles.Agrees.accounted {s s' : State} {history : List Deed} {deed? : Option Deed}
    (h : s.handles.Agrees history) (haccounted : Accounted s deed? s')
    (hready : ∀ deed, deed? = some deed → s.handles.Ready deed) :
    s'.handles.Agrees (history ++ deed?.toList) := by
  rw [haccounted.handles]
  cases deed? with
  | none => exact (List.append_nil history).symm ▸ h
  | some deed => exact h.snoc (hready deed rfl)

theorem length_handlesUpTo (n : Nat) : (handlesUpTo n).length = n := by
  unfold handlesUpTo
  rw [List.length_map, List.length_range]

namespace TracksHandles

variable {history : List Deed} {s : State}

/-- As long as the channel handles that are returned fit 32 bits, an event keeps the history true. -/
theorem after (h : TracksHandles history s) (event : Event w)
    (hbound : (issuedIn .channel (history ++ (s.deed? event).toList)).length ≤ maxNumber) :
    TracksHandles (history ++ (s.deed? event).toList) (s.after event) := by
  have haccounted := accounted_after h.topology event
  have hissued : ∀ kind, issuedIn kind (history ++ (s.deed? event).toList) =
      handlesUpTo ((s.after event).issuedOf kind) := by
    intro kind
    rw [haccounted.issued, ← h.issued]
    exact List.filterMap_append
  have hchannels : (s.after event).issued.channels < UInt32.size := by
    rw [hissued, length_handlesUpTo] at hbound
    exact Nat.lt_of_le_of_lt hbound (by decide)
  obtain ⟨hhandlesIssued, htopology⟩ :=
    topology_of_steps (steps_after s event) hchannels h.handlesIssued h.topology
  have hready := haccounted.ready h.handlesIssued hchannels
  exact ⟨h.agrees.accounted haccounted hready, hissued, htopology, hhandlesIssued⟩

theorem run (h : TracksHandles history s) (events : List (Event w))
    (hbound : (issuedIn .channel (history ++ s.history events)).length ≤ maxNumber) :
    TracksHandles (history ++ s.history events) (s.run events) := by
  induction events generalizing history s with
  | nil => exact (List.append_nil history).symm ▸ h
  | cons event events ih =>
    have hsplit : history ++ s.history (event :: events) =
        history ++ (s.deed? event).toList ++ (s.after event).history events :=
      (List.append_assoc _ _ _).symm
    rw [hsplit] at hbound ⊢
    refine ih (h.after event ?_) hbound
    unfold issuedIn at hbound ⊢
    rw [List.filterMap_append, List.length_append] at hbound
    omega

/-! ## What the history says of the state -/

theorem device_iff (h : TracksHandles history s) (d : UInt32) :
    s.devices.contains d = true ↔ DeviceHeld history d := h.agrees.device d

theorem channelOn_iff (h : TracksHandles history s) (c : UInt32) (place : Place) :
    (∃ ch, s.channels.get? c = some ch ∧ ch.holding.place = place) ↔ ChannelOn history c place := by
  rw [← h.agrees.channel]
  unfold Handles.Placed State.handles
  simp only [Option.map_eq_some_iff]
  constructor
  · rintro ⟨ch, hfound, hplace⟩
    exact ⟨_, ⟨ch, hfound, rfl⟩, hplace⟩
  · rintro ⟨_, ⟨ch, hfound, rfl⟩, hplace⟩
    exact ⟨ch, hfound, hplace⟩

theorem channel_iff (h : TracksHandles history s) (c : UInt32) :
    s.channels.contains c = true ↔ ChannelHeld history c := by
  unfold ChannelHeld
  simp only [← h.channelOn_iff, Table.contains_iff]
  constructor
  · rintro ⟨ch, hfound⟩
    exact ⟨_, ch, hfound, rfl⟩
  · rintro ⟨place, ch, hfound, -⟩
    exact ⟨ch, hfound⟩

theorem physical_iff (h : TracksHandles history s) (c : UInt32) :
    (∃ ch, s.channels.get? c = some ch ∧ ch.parent? = none) ↔ ∃ d, PhysicalOn history c d := by
  have hplace : ∀ d, PhysicalOn history c d ↔ _ := fun d => (h.channelOn_iff c ⟨d, none⟩).symm
  simp only [hplace]
  constructor
  · rintro ⟨ch, hfound, hroot⟩
    exact ⟨ch.device, ch, hfound, congrArg (Place.mk _) hroot⟩
  · rintro ⟨d, ch, hfound, hch⟩
    exact ⟨ch, hfound, congrArg Place.parent? hch⟩

theorem logical_iff (h : TracksHandles history s) (c : UInt32) :
    (∃ ch, s.channels.get? c = some ch ∧ ch.parent?.isSome = true) ↔
      ∃ d p, LogicalOn history c d p := by
  have hplace : ∀ d p, LogicalOn history c d p ↔ _ :=
    fun d p => (h.channelOn_iff c ⟨d, some p⟩).symm
  simp only [hplace]
  constructor
  · rintro ⟨ch, hfound, hlogical⟩
    obtain ⟨p, hparent⟩ := Option.isSome_iff_exists.1 hlogical
    exact ⟨ch.device, p, ch, hfound, congrArg (Place.mk _) hparent⟩
  · rintro ⟨d, p, ch, hfound, hch⟩
    exact ⟨ch, hfound, Option.isSome_iff_exists.2 ⟨p, congrArg Place.parent? hch⟩⟩

theorem started_iff (h : TracksHandles history s) (item : Item) (c handle : UInt32) :
    (∃ ch, s.channels.get? c = some ch ∧ ch.holding.items item handle = true) ↔
      StartedOn history item c handle := by
  unfold StartedOn
  simp only [← h.agrees.item, Handles.Carries, State.handles]
  constructor
  · rintro ⟨ch, hfound, hitem⟩
    exact ⟨_, ch.holding, Option.map_eq_some_iff.2 ⟨ch, hfound, rfl⟩, rfl, hitem⟩
  · rintro ⟨place, holding, hfound, -, hitem⟩
    obtain ⟨ch, hch, rfl⟩ := Option.map_eq_some_iff.1 hfound
    exact ⟨ch, hch, hitem⟩

end TracksHandles

/-! ## Handles are returned once -/

theorem handlesUpTo_nodup {n : Nat} (h : n < UInt32.size) : (handlesUpTo n).Nodup := by
  unfold handlesUpTo List.Nodup
  rw [List.pairwise_map]
  refine List.Pairwise.imp_of_mem ?_ (List.nodup_range (n := n))
  intro a b ha hb hne heq
  rw [List.mem_range] at ha hb
  have htoNat := congrArg UInt32.toNat heq
  rw [toNat_nextHandle (by omega), toNat_nextHandle (by omega)] at htoNat
  omega

theorem TracksHandles.issued_nodup {history : List Deed} {s : State} (h : TracksHandles history s)
    {kind : HandleKind} (hbound : (issuedIn kind history).length ≤ maxNumber) :
    (issuedIn kind history).Nodup := by
  have hlength : s.issuedOf kind ≤ maxNumber := by
    rw [h.issued, length_handlesUpTo] at hbound
    exact hbound
  rw [h.issued]
  exact handlesUpTo_nodup (Nat.lt_of_le_of_lt hlength (by decide))

/-! ## The lifecycle -/

/-- What a history says of the calls that come after it. -/
structure Lifecycle (w : Width) (history : List Deed) (s : State) : Prop where
  /-- No handle is returned twice; filters and periodic messages have theirs across all channels. -/
  unique : ∀ kind, (issuedIn kind history).Nodup
  /-- A device can be closed exactly if its handle was returned and not given back since. -/
  closeDevice : ∀ device : Word w,
    (driver (.closeDevice device) s).1.status = Status.noError ↔ DeviceHeld history device.narrow
  /-- Exactly then no call to it is refused for its handle. -/
  device : ∀ (call : Call w) d, AddressesDevice call d →
    (((driver call s).1.status ≠ ErrorCode.deviceNotOpen.asStatus ∧
        (driver call s).1.status ≠ ErrorCode.invalidDeviceId.asStatus) ↔ DeviceHeld history d)
  /-- A call to channels is not refused for their handles exactly if all of them were returned and
  not taken back since, by themselves, with their parent or with their device. -/
  channels : ∀ (call : Call w) ids, Addresses call ids →
    ((driver call s).1.status ≠ ErrorCode.invalidChannelId.asStatus ↔
      ∀ c ∈ ids, ChannelHeld history c)
  /-- The physical ones among them can be disconnected, … -/
  disconnect : ∀ channel : Word w,
    (driver (.disconnect channel) s).1.status = Status.noError ↔
      ∃ d, PhysicalOn history channel.narrow d
  /-- … and the logical ones as logical channels. -/
  logicalDisconnect : ∀ channel : Word w,
    (driver (.logicalDisconnect channel) s).1.status = Status.noError ↔
      ∃ d p, LogicalOn history channel.narrow d p
  /-- A filter can be stopped exactly on the channel that it was started on, until it is stopped or
  cleared or the channel comes to its end. -/
  stopMsgFilter : ∀ channel id : Word w,
    (driver (.stopMsgFilter channel id) s).1.status = Status.noError ↔
      StartedOn history .filter channel.narrow id.narrow
  /-- So can a periodic message. -/
  stopPeriodicMsg : ∀ channel id : Word w,
    (driver (.stopPeriodicMsg channel id) s).1.status = Status.noError ↔
      StartedOn history .periodic channel.narrow id.narrow

/-- **The life of a handle.** After every run that returns no more handles of a kind than 32 bits can
count, which handles the calls accept is what the replies of the run say. -/
theorem handle_lifecycle (registry : Registry) (events : List (Event w))
    (hbound : ∀ kind,
      (issuedIn kind ((State.initial registry).history events)).length ≤ maxNumber) :
    Lifecycle w ((State.initial registry).history events) ((State.initial registry).run events) := by
  have htracks := (tracksHandles_initial registry).run events (hbound .channel)
  rw [List.nil_append] at htracks
  exact {
    unique := fun kind => htracks.issued_nodup (hbound kind)
    closeDevice := fun device => (closeDevice_accepted_iff _ device).trans (htracks.device_iff _)
    device := fun call d h => (device_answered_iff h).trans (htracks.device_iff d)
    channels := fun call ids h => by
      rw [channels_answered_iff h]
      simp only [htracks.channel_iff]
    disconnect := fun channel => (disconnect_accepted_iff _ channel).trans (htracks.physical_iff _)
    logicalDisconnect := fun channel =>
      (logicalDisconnect_accepted_iff _ channel).trans (htracks.logical_iff _)
    stopMsgFilter := fun channel id =>
      (stopMsgFilter_accepted_iff _ channel id).trans (htracks.started_iff .filter _ _)
    stopPeriodicMsg := fun channel id =>
      (stopPeriodicMsg_accepted_iff _ channel id).trans (htracks.started_iff .periodic _ _) }

/-- A logical channel on top of a CAN channel, which is then disconnected and takes it along. -/
theorem handle_lifecycle_openLogical :
    let events : List (Event .w64) :=
      Event.openLogical ++ [.call (.disconnect (.of32 1))]
    let history := (State.initial (Registry.numbered 1)).history events
    history = [.opened 1, .connected 1 1, .logicalConnected 1 2, .disconnected 1] ∧
      (∀ kind, (issuedIn kind history).length ≤ maxNumber) ∧
        Lifecycle .w64 history ((State.initial (Registry.numbered 1)).run events) := by
  intro events history
  have hhistory : history = [.opened 1, .connected 1 1, .logicalConnected 1 2, .disconnected 1] := by
    decide
  have hbound : ∀ kind, (issuedIn kind history).length ≤ maxNumber := by
    rw [hhistory]
    rintro (_ | _ | _ | _) <;> decide
  exact ⟨hhistory, hbound, handle_lifecycle (Registry.numbered 1) events hbound⟩

end PassThru.Emulator
