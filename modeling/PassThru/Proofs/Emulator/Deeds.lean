import PassThru.Proofs.Emulator.Run

/-!
# Handles as the caller sees them

A caller sees calls and replies. A `Deed` is what a reply says was done with handles, and the history
of a run is the list of its deeds. Which handles are good can be read off the history: those that
were returned by a successful call and not given back since.

* `Deed.ofReply?` reads a deed off a reply.
* `Held`: something was gained in the history, and not lost since.
* `DeviceHeld`, `ChannelOn` and `StartedOn`: the handles that a history leaves.
* `Handles`: the same as a machine that takes one deed after the other.
-/

namespace PassThru.Emulator

variable {w : Width}

/-! ## Deeds -/

/-- What can be started and stopped on a channel. -/
inductive Item where
  | filter
  | periodic
  deriving DecidableEq

/-- What a call has done with handles. -/
inductive Deed where
  | opened (device : UInt32)
  | closed (device : UInt32)
  | connected (device channel : UInt32)
  | logicalConnected (parent channel : UInt32)
  | disconnected (channel : UInt32)
  | started (item : Item) (channel handle : UInt32)
  | stopped (item : Item) (channel handle : UInt32)
  | cleared (item : Item) (channel : UInt32)
  deriving DecidableEq

/-- What a control request has done if it succeeded. -/
def Deed.ofRequest? (target : UInt32) : Ioctl → Option Deed
  | .clearPeriodicMsgs => some (.cleared .periodic target)
  | .clearMsgFilters => some (.cleared .filter target)
  | _ => none

/-- What a call has done if it succeeded; the handle that it returned is in its memory. -/
def Deed.ofCall? : (call : Call w) → call.Memory → Option Deed
  | .openDevice .., handle => handle.map fun handle => .opened handle.narrow
  | .closeDevice device, _ => some (.closed device.narrow)
  | .connect device .., handle => handle.map fun handle => .connected device.narrow handle.narrow
  | .disconnect channel, _ => some (.disconnected channel.narrow)
  | .logicalConnect physical .., handle =>
    handle.map fun handle => .logicalConnected physical.narrow handle.narrow
  | .logicalDisconnect channel, _ => some (.disconnected channel.narrow)
  | .startPeriodicMsg channel .., handle =>
    handle.map fun handle => .started .periodic channel.narrow handle.narrow
  | .stopPeriodicMsg channel id, _ => some (.stopped .periodic channel.narrow id.narrow)
  | .startMsgFilter channel .., handle =>
    handle.map fun handle => .started .filter channel.narrow handle.narrow
  | .stopMsgFilter channel id, _ => some (.stopped .filter channel.narrow id.narrow)
  | .ioctl target id .., _ => (Ioctl.ofCode? id.narrow).bind (Deed.ofRequest? target.narrow)
  | _, _ => none

/-- What a reply says was done. -/
def Deed.ofReply? {call : Call w} (reply : Reply call) : Option Deed :=
  if reply.status = Status.noError then Deed.ofCall? call reply.memory else none

namespace State

/-- What an event does with handles, as the reply has it. -/
def deed? (s : State) : Event w → Option Deed
  | .call call => Deed.ofReply? (driver call s).1
  | .register _ | .unplug _ | .inject _ _ => none

/-- The deeds of a run. -/
def history (s : State) : List (Event w) → List Deed
  | [] => []
  | event :: events => (s.deed? event).toList ++ (s.after event).history events

end State

/-! ## Handles that were returned -/

/-- The four kinds of handles. -/
inductive HandleKind where
  | device
  | channel
  | item (item : Item)
  deriving DecidableEq

/-- The handle of a kind that was returned with a deed. -/
def Deed.handle? (kind : HandleKind) : Deed → Option UInt32
  | .opened device => if kind = .device then some device else none
  | .connected _ channel => if kind = .channel then some channel else none
  | .logicalConnected _ channel => if kind = .channel then some channel else none
  | .started item _ handle => if kind = .item item then some handle else none
  | _ => none

/-- The handles of a kind that were returned, in order. -/
def issuedIn (kind : HandleKind) (history : List Deed) : List UInt32 :=
  history.filterMap (Deed.handle? kind)

/-! ## Handles that are good -/

/-- Something was gained by a deed, given the deeds before it, and lost by none since. -/
def Held (gain : List Deed → Deed → Prop) (lose : Deed → Prop) (history : List Deed) : Prop :=
  ∃ before deed after, history = before ++ deed :: after ∧ gain before deed ∧
    ∀ later ∈ after, ¬ lose later

section Held

variable {gain : List Deed → Deed → Prop} {lose : Deed → Prop} {history : List Deed}

theorem not_held_nil : ¬ Held gain lose [] := by
  rintro ⟨before, deed, after, h, -⟩
  simp at h

/-- The last deed decides, or leaves it as it was. -/
theorem held_snoc (deed : Deed) :
    Held gain lose (history ++ [deed]) ↔
      gain history deed ∨ (Held gain lose history ∧ ¬ lose deed) := by
  constructor
  · rintro ⟨before, found, after, hsplit, hgain, hkept⟩
    rcases List.eq_nil_or_concat after with rfl | ⟨after, last, rfl⟩
    · obtain ⟨rfl, hlast⟩ := List.append_inj' hsplit rfl
      obtain rfl := List.head_eq_of_cons_eq hlast
      exact .inl hgain
    · rw [List.concat_eq_append, ← List.cons_append, ← List.append_assoc] at hsplit
      obtain ⟨rfl, hlast⟩ := List.append_inj' hsplit rfl
      obtain rfl := List.head_eq_of_cons_eq hlast
      rw [List.concat_eq_append] at hkept
      refine .inr ⟨⟨before, found, after, rfl, hgain, fun later hmem => ?_⟩, ?_⟩
      · exact hkept later (List.mem_append_left _ hmem)
      · exact hkept deed (List.mem_append_right _ (List.mem_singleton_self _))
  · rintro (hgain | ⟨⟨before, found, after, rfl, hgain, hkept⟩, hlast⟩)
    · exact ⟨history, deed, [], rfl, hgain, by simp⟩
    · refine ⟨before, found, after ++ [deed], by simp, hgain, fun later hmem => ?_⟩
      rcases List.mem_append.1 hmem with hmem | hmem
      · exact hkept later hmem
      · obtain rfl := List.mem_singleton.1 hmem
        exact hlast

end Held

/-- Where a channel is: its device, and the channel that it stands on if it is a logical one. -/
structure Place where
  device : UInt32
  parent? : Option UInt32
  deriving DecidableEq

/-- The channel is disconnected, or its parent is, or its device is closed. -/
def Deed.Ends (c : UInt32) (place : Place) : Deed → Prop
  | .disconnected k => k = c ∨ place.parent? = some k
  | .closed d => d = place.device
  | _ => False

/-- The device handle was returned by a successful open, and not closed since. -/
def DeviceHeld (history : List Deed) (d : UInt32) : Prop :=
  Held (fun _ deed => deed = .opened d) (fun deed => deed = .closed d) history

/-- The channel was connected to the device, and neither disconnected nor the device closed since. -/
def PhysicalOn (history : List Deed) (c d : UInt32) : Prop :=
  Held (fun _ deed => deed = .connected d c) (Deed.Ends c ⟨d, none⟩) history

/-- The logical channel was connected to the channel `p` of the device, and since then neither it
nor `p` was disconnected, nor the device closed. -/
def LogicalOn (history : List Deed) (c d p : UInt32) : Prop :=
  Held (fun before deed => deed = .logicalConnected p c ∧ PhysicalOn before p d)
    (Deed.Ends c ⟨d, some p⟩) history

/-- The channel is at a place. -/
def ChannelOn (history : List Deed) (c : UInt32) : Place → Prop
  | ⟨d, none⟩ => PhysicalOn history c d
  | ⟨d, some p⟩ => LogicalOn history c d p

/-- The channel handle is good. -/
def ChannelHeld (history : List Deed) (c : UInt32) : Prop := ∃ place, ChannelOn history c place

/-- The item was started on the channel at that place, and since then neither stopped nor cleared,
nor has the channel come to its end. -/
def StartedAt (history : List Deed) (item : Item) (c handle : UInt32) (place : Place) : Prop :=
  Held (fun before deed => deed = .started item c handle ∧ ChannelOn before c place)
    (fun deed => deed = .stopped item c handle ∨ deed = .cleared item c ∨ deed.Ends c place) history

/-- The handle of an item is good on the channel. -/
def StartedOn (history : List Deed) (item : Item) (c handle : UInt32) : Prop :=
  ∃ place, StartedAt history item c handle place

/-! ## The machine of handles -/

/-- What the machine knows of a channel: its place, and the handles of its items. -/
structure Holding where
  place : Place
  items : Item → UInt32 → Bool

/-- A channel that nothing was started on. -/
def Holding.new (place : Place) : Holding := ⟨place, fun _ _ => false⟩

/-- The holding with the handles of one kind of items changed. -/
def Holding.change (holding : Holding) (item : Item) (f : (UInt32 → Bool) → UInt32 → Bool) :
    Holding where
  place := holding.place
  items := fun i => if i = item then f (holding.items i) else holding.items i

/-- The handles that are good. -/
structure Handles where
  devices : UInt32 → Bool
  channels : UInt32 → Option Holding

namespace Handles

def put (v : Handles) (c : UInt32) (place : Place) : Handles :=
  { v with channels := fun k => if k = c then some (.new place) else v.channels k }

/-- Change what is known of a channel. -/
def change (v : Handles) (c : UInt32) (f : Holding → Holding) : Handles :=
  { v with channels := fun k => if k = c then (v.channels k).map f else v.channels k }

/-- Keep the channels that a test of their handles and places accepts. -/
def keep (v : Handles) (test : UInt32 → Place → Bool) : Handles :=
  { v with channels := fun k => (v.channels k).filter fun holding => test k holding.place }

def deviceOf (v : Handles) (c : UInt32) : UInt32 :=
  ((v.channels c).map fun holding => holding.place.device).getD 0

/-- The handles after a deed. -/
def after (v : Handles) : Deed → Handles
  | .opened d => { v with devices := fun k => k == d || v.devices k }
  | .closed d =>
    { v.keep (fun _ place => place.device != d) with devices := fun k => k != d && v.devices k }
  | .connected d c => v.put c ⟨d, none⟩
  | .logicalConnected p c => v.put c ⟨v.deviceOf p, some p⟩
  | .disconnected c => v.keep fun k place => k != c && place.parent? != some c
  | .started item c handle => v.change c (·.change item fun handles k => k == handle || handles k)
  | .stopped item c handle => v.change c (·.change item fun handles k => k != handle && handles k)
  | .cleared item c => v.change c (·.change item fun _ _ => false)

/-- The channel is there, at a place. -/
def Placed (v : Handles) (c : UInt32) (place : Place) : Prop :=
  ∃ holding, v.channels c = some holding ∧ holding.place = place

/-- The channel is there, at a place, with an item of that handle. -/
def Carries (v : Handles) (item : Item) (c handle : UInt32) (place : Place) : Prop :=
  ∃ holding, v.channels c = some holding ∧ holding.place = place ∧
    holding.items item handle = true

/-- What a deed presupposes: a new channel has a new handle, and its parent is a physical one. -/
def Ready (v : Handles) : Deed → Prop
  | .connected _ c => v.channels c = none
  | .logicalConnected p c => v.channels c = none ∧ ∃ d, v.Placed p ⟨d, none⟩
  | _ => True

/-- The deed puts the channel at a place. -/
def Puts (v : Handles) (c : UInt32) (place : Place) : Deed → Prop
  | .connected d k => k = c ∧ place = ⟨d, none⟩
  | .logicalConnected p k => k = c ∧ ∃ d, place = ⟨d, some p⟩ ∧ v.Placed p ⟨d, none⟩
  | _ => False

section Changes

variable {v : Handles}

theorem placed_put {c : UInt32} (hnew : v.channels c = none) (place place' : Place) (k : UInt32) :
    (v.put c place).Placed k place' ↔ (c = k ∧ place' = place) ∨ v.Placed k place' := by
  unfold Placed put
  dsimp only
  split
  · next hk =>
    subst hk
    simp [hnew, Holding.new, eq_comm]
  · next hk => simp [Ne.symm hk]

theorem carries_put {c : UInt32} (hnew : v.channels c = none) (place place' : Place) (item : Item)
    (k handle : UInt32) :
    (v.put c place).Carries item k handle place' ↔ v.Carries item k handle place' := by
  unfold Carries put
  dsimp only
  split
  · next hk =>
    subst hk
    simp [hnew, Holding.new]
  · rfl

theorem placed_change (v : Handles) (c k : UInt32) (item : Item)
    (f : (UInt32 → Bool) → UInt32 → Bool) (place : Place) :
    (v.change c (·.change item f)).Placed k place ↔ v.Placed k place := by
  unfold Placed change Holding.change
  dsimp only
  split
  · cases v.channels k <;> simp
  · rfl

theorem carries_change_of_not {c k : UInt32} {item i : Item} (h : ¬ (c = k ∧ item = i))
    (v : Handles) (f : (UInt32 → Bool) → UInt32 → Bool) (handle : UInt32) (place : Place) :
    (v.change k (·.change i f)).Carries item c handle place ↔ v.Carries item c handle place := by
  unfold Carries change Holding.change
  dsimp only
  by_cases hc : c = k
  · have hitem : item ≠ i := fun hitem => h ⟨hc, hitem⟩
    rw [if_pos hc]
    cases v.channels c <;> simp [hitem]
  · rw [if_neg hc]

theorem carries_change_self (v : Handles) (c : UInt32) (item : Item)
    (f : (UInt32 → Bool) → UInt32 → Bool) (handle : UInt32) (place : Place) :
    (v.change c (·.change item f)).Carries item c handle place ↔
      ∃ holding, v.channels c = some holding ∧ holding.place = place ∧
        f (holding.items item) handle = true := by
  unfold Carries change Holding.change
  dsimp only
  rw [if_pos rfl]
  cases v.channels c <;> simp

theorem placed_keep (v : Handles) (test : UInt32 → Place → Bool) (k : UInt32) (place : Place) :
    (v.keep test).Placed k place ↔ v.Placed k place ∧ test k place = true := by
  unfold Placed keep
  simp only [Option.filter_eq_some_iff]
  constructor
  · rintro ⟨holding, ⟨hfound, htest⟩, rfl⟩
    exact ⟨⟨holding, hfound, rfl⟩, htest⟩
  · rintro ⟨⟨holding, hfound, rfl⟩, htest⟩
    exact ⟨holding, ⟨hfound, htest⟩, rfl⟩

theorem carries_keep (v : Handles) (test : UInt32 → Place → Bool) (item : Item)
    (k handle : UInt32) (place : Place) :
    (v.keep test).Carries item k handle place ↔
      v.Carries item k handle place ∧ test k place = true := by
  unfold Carries keep
  simp only [Option.filter_eq_some_iff]
  constructor
  · rintro ⟨holding, ⟨hfound, htest⟩, rfl, hitem⟩
    exact ⟨⟨holding, hfound, rfl, hitem⟩, htest⟩
  · rintro ⟨⟨holding, hfound, rfl, hitem⟩, htest⟩
    exact ⟨holding, ⟨hfound, htest⟩, rfl, hitem⟩

end Changes

/-! ### What each deed does to them -/

section After

variable (v : Handles) (deed : Deed)

theorem devices_after (d : UInt32) :
    (v.after deed).devices d = true ↔
      deed = .opened d ∨ (v.devices d = true ∧ deed ≠ .closed d) := by
  cases deed with
  | opened k => simp [after, eq_comm (a := k)]
  | closed k => simp [after, eq_comm (a := k), and_comm]
  | _ => simp [after, put, change, keep]

variable {v deed}

theorem keeps_iff_of_closed {c d : UInt32} {place : Place} :
    (place.device != d) = true ↔ ¬ (Deed.closed d).Ends c place := by
  rw [bne_iff_ne, ne_comm]
  rfl

theorem keeps_iff_of_disconnected {c k : UInt32} {place : Place} :
    (c != k && place.parent? != some k) = true ↔ ¬ (Deed.disconnected k).Ends c place := by
  rw [Bool.and_eq_true, bne_iff_ne, bne_iff_ne, ne_comm, Deed.Ends, not_or]

theorem placed_after (h : v.Ready deed) (c : UInt32) (place : Place) :
    (v.after deed).Placed c place ↔
      v.Puts c place deed ∨ (v.Placed c place ∧ ¬ deed.Ends c place) := by
  cases deed with
  | opened d => simp [after, Puts, Deed.Ends, Placed]
  | closed d =>
    rw [← keeps_iff_of_closed, ← placed_keep v (fun _ place => place.device != d)]
    exact (false_or _).symm ▸ Iff.rfl
  | connected d k => simp [after, placed_put h, Puts, Deed.Ends]
  | logicalConnected p k =>
    obtain ⟨hnew, d, holding, hparent, hplace⟩ := h
    have hdevice : v.deviceOf p = d := by
      unfold deviceOf
      rw [hparent, Option.map_some, hplace]
      rfl
    have hunique : ∀ d', v.Placed p ⟨d', none⟩ ↔ d' = d := by
      intro d'
      unfold Placed
      simp [hparent, hplace, eq_comm]
    simp only [after, placed_put hnew, Puts, Deed.Ends, hdevice, hunique, exists_eq_right,
      not_false_eq_true, and_true, eq_comm (a := k)]
  | disconnected k =>
    rw [← keeps_iff_of_disconnected, ← placed_keep v (fun k' place => k' != k && place.parent? != some k)]
    exact (false_or _).symm ▸ Iff.rfl
  | started item k handle => simp [after, placed_change, Puts, Deed.Ends]
  | stopped item k handle => simp [after, placed_change, Puts, Deed.Ends]
  | cleared item k => simp [after, placed_change, Puts, Deed.Ends]

theorem carries_after (h : v.Ready deed) (item : Item) (c handle : UInt32) (place : Place) :
    (v.after deed).Carries item c handle place ↔
      (deed = .started item c handle ∧ v.Placed c place) ∨
        (v.Carries item c handle place ∧
          ¬ (deed = .stopped item c handle ∨ deed = .cleared item c ∨ deed.Ends c place)) := by
  cases deed with
  | opened d => simp [after, Deed.Ends, Carries]
  | closed d =>
    simp only [reduceCtorEq, false_and, false_or]
    rw [← keeps_iff_of_closed]
    exact carries_keep v (fun _ place => place.device != d) item c handle place
  | connected d k => simp [after, carries_put h, Deed.Ends]
  | logicalConnected p k => simp [after, carries_put h.1, Deed.Ends]
  | disconnected k =>
    simp only [reduceCtorEq, false_and, false_or]
    rw [← keeps_iff_of_disconnected]
    exact carries_keep v (fun k' place => k' != k && place.parent? != some k) item c handle place
  | started i k started =>
    simp only [Deed.started.injEq, reduceCtorEq, Deed.Ends, or_self, not_false_eq_true, and_true]
    by_cases hc : c = k ∧ item = i
    · obtain ⟨rfl, rfl⟩ := hc
      refine (carries_change_self v c item _ handle place).trans ?_
      simp only [Bool.or_eq_true, beq_iff_eq, and_or_left, exists_or, true_and]
      refine or_congr ⟨?_, ?_⟩ Iff.rfl
      · rintro ⟨holding, hfound, hplace, rfl⟩
        exact ⟨rfl, holding, hfound, hplace⟩
      · rintro ⟨rfl, holding, hfound, hplace⟩
        exact ⟨holding, hfound, hplace, rfl⟩
    · refine (carries_change_of_not hc v _ handle place).trans ?_
      have hother : ¬ (i = item ∧ k = c ∧ started = handle) :=
        fun hall => hc ⟨hall.2.1.symm, hall.1.symm⟩
      simp only [hother, false_and, false_or]
  | stopped i k stopped =>
    simp only [Deed.stopped.injEq, reduceCtorEq, Deed.Ends, or_false, false_and, false_or]
    by_cases hc : c = k ∧ item = i
    · obtain ⟨rfl, rfl⟩ := hc
      refine (carries_change_self v c item _ handle place).trans ?_
      simp only [Bool.and_eq_true, bne_iff_ne, true_and]
      constructor
      · rintro ⟨holding, hfound, hplace, hne, hitem⟩
        exact ⟨⟨holding, hfound, hplace, hitem⟩, Ne.symm hne⟩
      · rintro ⟨⟨holding, hfound, hplace, hitem⟩, hne⟩
        exact ⟨holding, hfound, hplace, Ne.symm hne, hitem⟩
    · refine (carries_change_of_not hc v _ handle place).trans ?_
      have hother : ¬ (i = item ∧ k = c ∧ stopped = handle) :=
        fun hall => hc ⟨hall.2.1.symm, hall.1.symm⟩
      simp only [hother, not_false_eq_true, and_true]
  | cleared i k =>
    simp only [Deed.cleared.injEq, reduceCtorEq, Deed.Ends, or_false, false_and, false_or]
    by_cases hc : c = k ∧ item = i
    · obtain ⟨rfl, rfl⟩ := hc
      refine (carries_change_self v c item _ handle place).trans ?_
      simp
    · refine (carries_change_of_not hc v _ handle place).trans ?_
      have hother : ¬ (i = item ∧ k = c) := fun hboth => hc ⟨hboth.2.symm, hboth.1.symm⟩
      simp only [hother, not_false_eq_true, and_true]

end After

/-! ### The machine and the history -/

/-- The machine has what the history leaves. -/
structure Agrees (v : Handles) (history : List Deed) : Prop where
  device : ∀ d, v.devices d = true ↔ DeviceHeld history d
  channel : ∀ c place, v.Placed c place ↔ ChannelOn history c place
  item : ∀ item c handle place,
    v.Carries item c handle place ↔ StartedAt history item c handle place

theorem agrees_nil : Agrees ⟨fun _ => false, fun _ => none⟩ [] where
  device d := iff_of_false Bool.false_ne_true not_held_nil
  channel c place := by
    refine iff_of_false (fun ⟨_, hfound, _⟩ => nomatch hfound) ?_
    obtain ⟨d, parent?⟩ := place
    cases parent? with
    | none => exact not_held_nil
    | some p => exact not_held_nil
  item _ _ _ _ := iff_of_false (fun ⟨_, hfound, _⟩ => nomatch hfound) not_held_nil

theorem puts_physical_iff {v : Handles} {deed : Deed} {c d : UInt32} :
    v.Puts c ⟨d, none⟩ deed ↔ deed = .connected d c := by
  cases deed <;> simp [Puts, and_comm, eq_comm]

theorem puts_logical_iff {v : Handles} {deed : Deed} {c d p : UInt32} :
    v.Puts c ⟨d, some p⟩ deed ↔ deed = .logicalConnected p c ∧ v.Placed p ⟨d, none⟩ := by
  cases deed with
  | logicalConnected q k =>
    simp only [Puts, Place.mk.injEq, Option.some.injEq, Deed.logicalConnected.injEq]
    constructor
    · rintro ⟨rfl, d', ⟨rfl, rfl⟩, hplaced⟩
      exact ⟨⟨rfl, rfl⟩, hplaced⟩
    · rintro ⟨⟨rfl, rfl⟩, hplaced⟩
      exact ⟨rfl, d, ⟨rfl, rfl⟩, hplaced⟩
  | _ => simp [Puts]

/-- One more deed is one more step of the machine. -/
theorem Agrees.snoc {v : Handles} {history : List Deed} (h : v.Agrees history) {deed : Deed}
    (hready : v.Ready deed) : (v.after deed).Agrees (history ++ [deed]) where
  device d := by
    rw [devices_after, h.device]
    unfold DeviceHeld
    rw [held_snoc]
  channel c place := by
    rw [placed_after hready, h.channel]
    obtain ⟨d, parent?⟩ := place
    cases parent? with
    | none =>
      rw [puts_physical_iff]
      show _ ∨ (PhysicalOn history c d ∧ _) ↔ PhysicalOn (history ++ [deed]) c d
      unfold PhysicalOn
      rw [held_snoc]
    | some p =>
      rw [puts_logical_iff, h.channel]
      show (_ ∧ PhysicalOn history p d) ∨ (LogicalOn history c d p ∧ _) ↔
        LogicalOn (history ++ [deed]) c d p
      unfold LogicalOn
      rw [held_snoc]
  item item c handle place := by
    rw [carries_after hready, h.channel, h.item]
    unfold StartedAt
    rw [held_snoc]

end Handles

end PassThru.Emulator
