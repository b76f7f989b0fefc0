import PassThru.Proofs.Emulator.Topology

/-!
# Handles that are left

Handles are numbered in the order in which they are issued, so what is in use has a number that was
issued, and the largest number of 32 bits is no handle as long as one of its kind is left.

* `ItemsIssued`: this for filters and periodic messages; `ItemsIssued.step` preserves it as long as
  their handles fit 32 bits.
* `LargestUnused`: nothing has the largest number for a handle.
* `reachable_largestUnused`: so it is in every state with handles left.
-/

namespace PassThru

/-- The largest number of 32 bits, which a larger one is narrowed to. -/
def largest : UInt32 := 0xFFFFFFFF

namespace Emulator

variable {w : Width}

/-! ## Filters and periodic messages -/

/-- The handles of the filters and the periodic messages of a channel, up to two numbers. -/
structure Channel.NumberedUpTo (ch : Channel) (filters periodic : Nat) : Prop where
  filters_le : ∀ {handle filter}, ch.filters.get? handle = some filter → handle.toNat ≤ filters
  periodic_le : ∀ {handle message}, ch.periodic.get? handle = some message →
    handle.toNat ≤ periodic

/-- Every filter and every periodic message has a handle that was issued. -/
def ItemsIssued (s : State) : Prop :=
  ∀ id ch, s.channels.get? id = some ch → ch.NumberedUpTo s.issued.filters s.issued.periodic

section NumberedUpTo

variable {ch ch' : Channel} {filters filters' periodic periodic' : Nat}

theorem Channel.NumberedUpTo.mono (h : ch.NumberedUpTo filters periodic)
    (hfilters : filters ≤ filters') (hperiodic : periodic ≤ periodic') :
    ch.NumberedUpTo filters' periodic' where
  filters_le hget := Nat.le_trans (h.filters_le hget) hfilters
  periodic_le hget := Nat.le_trans (h.periodic_le hget) hperiodic

theorem Channel.numberedUpTo_of_empty (hfilters : ch.filters = .empty)
    (hperiodic : ch.periodic = .empty) : ch.NumberedUpTo filters periodic where
  filters_le hget := by
    rw [hfilters] at hget
    cases hget
  periodic_le hget := by
    rw [hperiodic] at hget
    cases hget

theorem Channel.NumberedUpTo.change (h : ch.NumberedUpTo filters periodic)
    (hchange : ch.Change ch') : ch'.NumberedUpTo filters periodic := by
  cases hchange with
  | periodicStopped handle =>
    exact ⟨h.filters_le, fun hget => h.periodic_le (Table.get?_erase_eq_some_iff.1 hget).1⟩
  | periodicCleared => exact ⟨h.filters_le, (nomatch ·)⟩
  | filterStopped handle =>
    exact ⟨fun hget => h.filters_le (Table.get?_erase_eq_some_iff.1 hget).1, h.periodic_le⟩
  | filtersCleared => exact ⟨(nomatch ·), h.periodic_le⟩
  | _ => exact ⟨h.filters_le, h.periodic_le⟩

end NumberedUpTo

variable {s s' : State}

/-- A step that changes the channels of a state so that each is numbered as before. -/
theorem ItemsIssued.of_channels (h : ItemsIssued s) (hstep : Step s s')
    (hchannels : ∀ {id ch'}, s'.channels.get? id = some ch' →
      s.channels.get? id = some ch' ∨ ch'.NumberedUpTo s'.issued.filters s'.issued.periodic) :
    ItemsIssued s' := by
  obtain ⟨-, -, hfilters, hperiodic⟩ := hstep.issued_le
  intro id ch' hget
  rcases hchannels hget with hold | hnew
  · exact (h id ch' hold).mono hfilters hperiodic
  · exact hnew

theorem ItemsIssued.setChannel (h : ItemsIssued s) (hstep : Step s s') {id : UInt32} {ch : Channel}
    (hchannels : s'.channels = s.channels.insert id ch)
    (hch : ch.NumberedUpTo s'.issued.filters s'.issued.periodic) : ItemsIssued s' := by
  refine h.of_channels hstep fun hget => ?_
  rw [hchannels] at hget
  rcases Table.get?_insert_cases hget with ⟨-, rfl⟩ | ⟨-, hold⟩
  · exact .inr hch
  · exact .inl hold

/-- As long as the handles fit 32 bits, a step gives no filter and no periodic message a handle that
was not issued. -/
theorem ItemsIssued.step (h : ItemsIssued s) (hstep : Step s s')
    (hfilters : s'.issued.filters < UInt32.size) (hperiodic : s'.issued.periodic < UInt32.size) :
    ItemsIssued s' := by
  have hsame := hstep
  cases hstep with
  | registered | unplugged | failed | scanned | delivered | opened | powered =>
    exact h.of_channels hsame .inl
  | closed id => exact h.of_channels hsame fun hget => .inl (Table.get?_filter_eq_some_iff.1 hget).1
  | disconnected id ch =>
    refine h.of_channels hsame fun hget => .inl ?_
    exact (Table.get?_erase_eq_some_iff.1 (Table.get?_filter_eq_some_iff.1 hget).1).1
  | logicalDisconnected id ch =>
    exact h.of_channels hsame fun hget => .inl (Table.get?_erase_eq_some_iff.1 hget).1
  | connected | logicalConnected =>
    exact h.setChannel hsame rfl (Channel.numberedUpTo_of_empty rfl rfl)
  | pumped id ch hfound =>
    have hch := h id ch hfound
    exact h.setChannel hsame rfl ⟨hch.filters_le, hch.periodic_le⟩
  | changed id ch ch' hfound hchange =>
    exact h.setChannel hsame rfl ((h id ch hfound).change hchange)
  | periodicStarted id ch periodic hfound =>
    have hch := h id ch hfound
    refine h.setChannel hsame rfl ⟨hch.filters_le, fun hget => ?_⟩
    show _ ≤ s.issued.periodic + 1
    rcases Table.get?_insert_cases hget with ⟨rfl, -⟩ | ⟨-, hold⟩
    · exact Nat.le_of_eq (toNat_nextHandle hperiodic)
    · exact Nat.le_succ_of_le (hch.periodic_le hold)
  | filterStarted id ch filter hfound =>
    have hch := h id ch hfound
    refine h.setChannel hsame rfl ⟨fun hget => ?_, hch.periodic_le⟩
    show _ ≤ s.issued.filters + 1
    rcases Table.get?_insert_cases hget with ⟨rfl, -⟩ | ⟨-, hold⟩
    · exact Nat.le_of_eq (toNat_nextHandle hfilters)
    · exact Nat.le_succ_of_le (hch.filters_le hold)

theorem reachable_itemsIssued (h : Reachable w s) (hfilters : s.issued.filters < UInt32.size)
    (hperiodic : s.issued.periodic < UInt32.size) : ItemsIssued s := by
  refine Reachable.invariant (P := fun s => s.issued.filters < UInt32.size →
    s.issued.periodic < UInt32.size → ItemsIssued s) ?_ ?_ h hfilters hperiodic
  · intro n _ _
    exact nofun
  · intro s s' hstep ih hfilters hperiodic
    obtain ⟨-, -, hlefilters, hleperiodic⟩ := hstep.issued_le
    exact (ih (Nat.lt_of_le_of_lt hlefilters hfilters)
      (Nat.lt_of_le_of_lt hleperiodic hperiodic)).step hstep hfilters hperiodic

/-! ## The largest number -/

/-- There are handles of every kind that were not issued. -/
structure HandlesLeft (s : State) : Prop where
  devices : s.issued.devices < UInt32.size - 1
  channels : s.issued.channels < UInt32.size - 1
  filters : s.issued.filters < UInt32.size - 1
  periodic : s.issued.periodic < UInt32.size - 1

/-- The largest number is no handle. -/
structure LargestUnused (s : State) : Prop where
  device : s.devices.get? largest = none
  channel : s.channels.get? largest = none
  filter : ∀ {id ch}, s.channels.get? id = some ch → ch.filters.get? largest = none
  periodic : ∀ {id ch}, s.channels.get? id = some ch → ch.periodic.get? largest = none

/-- What is numbered below the largest number does not have it. -/
theorem get?_largest {α : Type} {t : Table α} {issued : Nat} (hissued : issued < UInt32.size - 1)
    (h : ∀ {key value}, t.get? key = some value → key.toNat ≤ issued) : t.get? largest = none := by
  cases hget : t.get? largest with
  | none => rfl
  | some value =>
    have hle : UInt32.size - 1 ≤ issued := h hget
    omega

theorem reachable_largestUnused (h : Reachable w s) (hleft : HandlesLeft s) : LargestUnused s := by
  have hlt : ∀ {n}, n < UInt32.size - 1 → n < UInt32.size := fun hn => by omega
  obtain ⟨hdevices, hchannels⟩ := reachable_issued h (hlt hleft.devices) (hlt hleft.channels)
  have hitems := reachable_itemsIssued h (hlt hleft.filters) (hlt hleft.periodic)
  exact {
    device := get?_largest hleft.devices (hdevices _ _)
    channel := get?_largest hleft.channels (hchannels _ _)
    filter := fun hget => get?_largest hleft.filters (hitems _ _ hget).filters_le
    periodic := fun hget => get?_largest hleft.periodic (hitems _ _ hget).periodic_le }

end Emulator

end PassThru
