import PassThru.Proofs.Emulator.Run

/-!
# Who moves the frames of a channel

The bus and the receive queue of a channel change when the channel is connected, when it is read or
selected, when messages are queued on it, when its receive queue is cleared, and when a frame is put
on its bus.

* `State.QueuesKept`: a channel has the queues that it had before.
* `Effect.queuesKept`: a call that does none of these things moves no frame.
* `readyAmong_queues`: a select moves the frames of the channels that it looks at.
* `messagesIn_accept`: what is sent are the messages in front of the first that is wrong.
-/

namespace PassThru.Emulator

variable {w : Width}

/-- The channel `c`, if it is open afterwards, was open before and had the same queues. -/
def State.QueuesKept (c : UInt32) (s s' : State) : Prop :=
  ∀ ch', s'.channels.get? c = some ch' →
    ∃ ch, s.channels.get? c = some ch ∧ ch'.bus = ch.bus ∧ ch'.rx = ch.rx

/-- Whether a call may move frames of the channel `c`. -/
def MovesFrames (c : UInt32) : Call w → Prop
  | .connect .. | .logicalConnect .. | .select .. => True
  | .readMsgs channel .. => channel.narrow = c
  | .queueMsgs channel .. => channel.narrow = c
  | .ioctl target id .. => target.narrow = c ∧ Ioctl.ofCode? id.narrow = some .clearRxQueue
  | _ => False

namespace State

variable {c id : UInt32} {s s' : State}

theorem QueuesKept.refl (c : UInt32) (s : State) : QueuesKept c s s :=
  fun ch' hget => ⟨ch', hget, rfl, rfl⟩

theorem queuesKept_of_channels (h : s'.channels = s.channels) : QueuesKept c s s' := by
  intro ch' hget
  rw [h] at hget
  exact ⟨ch', hget, rfl, rfl⟩

theorem queuesKept_setChannel_of_ne (hne : c ≠ id) (ch' : Channel) :
    QueuesKept c s (s.setChannel id ch') := by
  intro other hget
  rw [show (s.setChannel id ch').channels.get? c = s.channels.get? c from
    Table.get?_insert_of_ne _ _ hne] at hget
  exact ⟨other, hget, rfl, rfl⟩

theorem queuesKept_setChannel {ch ch' : Channel} (hfound : s.channels.get? id = some ch)
    (hbus : ch'.bus = ch.bus) (hrx : ch'.rx = ch.rx) : QueuesKept c s (s.setChannel id ch') := by
  intro other hget
  rcases Table.get?_insert_cases hget with ⟨rfl, rfl⟩ | ⟨-, hold⟩
  · exact ⟨ch, hfound, hbus, hrx⟩
  · exact ⟨other, hold, rfl, rfl⟩

/-- Channels that are closed concern none that stays open. -/
theorem queuesKept_of_imp (h : ∀ {ch}, s'.channels.get? c = some ch → s.channels.get? c = some ch) :
    QueuesKept c s s' :=
  fun ch' hget => ⟨ch', h hget, rfl, rfl⟩

end State

open State

variable {c : UInt32} {s : State}

theorem queuesKept_afterRead {id : UInt32} (hne : c ≠ id) (ch : Channel) (n : Nat) :
    QueuesKept c s (s.afterRead id ch n) :=
  queuesKept_of_imp fun hget => (Table.get?_insert_of_ne _ _ hne).symm.trans hget

/-- Of the requests without arguments only one moves frames. -/
theorem cleared_queues {request : Ioctl} {ch ch' : Channel} (hne : request ≠ .clearRxQueue)
    (h : State.cleared request ch = .ok ch') : ch'.bus = ch.bus ∧ ch'.rx = ch.rx := by
  unfold State.cleared at h
  split at h
  · exact absurd rfl hne
  · cases h; exact ⟨rfl, rfl⟩
  · cases h; exact ⟨rfl, rfl⟩
  · cases h; exact ⟨rfl, rfl⟩
  · split at h
    · cases h; exact ⟨rfl, rfl⟩
    · cases h
  · cases h; exact ⟨rfl, rfl⟩

/-- A call that is none of those that move frames of a channel leaves its queues alone. -/
theorem Effect.queuesKept {call : Call w} {failure? : Option ErrorCode} {s' : State}
    (h : Effect s call failure? s') (hother : ¬ MovesFrames c call) : QueuesKept c s s' := by
  cases h with
  | refused | answered | scanned | delivered => exact queuesKept_of_channels rfl
  | opened _ _ _ _ hok =>
    obtain ⟨-, -, rfl⟩ := State.openDevice_eq_ok_iff.1 hok
    exact queuesKept_of_channels rfl
  | closed _ _ hok =>
    obtain ⟨-, rfl⟩ := State.closeDevice_eq_ok_iff.1 hok
    exact queuesKept_of_imp fun hget => (Table.get?_filter_eq_some_iff.1 hget).1
  | connected | logicalConnected | selected => exact absurd trivial hother
  | disconnected _ _ hok =>
    obtain ⟨ch, -, -, rfl⟩ := State.disconnect_eq_ok_iff.1 hok
    refine queuesKept_of_imp fun hget => ?_
    exact (Table.get?_erase_eq_some_iff.1 (Table.get?_filter_eq_some_iff.1 hget).1).1
  | logicalDisconnected _ _ hok =>
    obtain ⟨ch, -, -, rfl⟩ := State.logicalDisconnect_eq_ok_iff.1 hok
    exact queuesKept_of_imp fun hget => (Table.get?_erase_eq_some_iff.1 hget).1
  | read => exact queuesKept_afterRead (Ne.symm hother) _ _
  | queued => exact queuesKept_setChannel_of_ne (Ne.symm hother) _
  | periodicStarted _ _ _ _ _ _ hok =>
    obtain ⟨ch, hfound, -, frame, -, -, -, hresult⟩ := State.startPeriodicMsg_eq_ok_iff.1 hok
    obtain ⟨-, rfl⟩ := Prod.mk.inj hresult
    exact queuesKept_setChannel (s := s) hfound rfl rfl
  | periodicStopped _ _ _ hok =>
    obtain ⟨ch, hfound, -, rfl⟩ := State.stopPeriodicMsg_eq_ok_iff.1 hok
    exact queuesKept_setChannel hfound rfl rfl
  | filterStarted _ _ _ _ _ _ _ hok =>
    obtain ⟨ch, hfound, filter, -, -, -, -, -, -, -, -, hresult⟩ :=
      State.startMsgFilter_eq_ok_iff.1 hok
    obtain ⟨-, rfl⟩ := Prod.mk.inj hresult
    exact queuesKept_setChannel (s := s) hfound rfl rfl
  | filterStopped _ _ _ hok =>
    obtain ⟨ch, hfound, -, rfl⟩ := State.stopMsgFilter_eq_ok_iff.1 hok
    exact queuesKept_setChannel hfound rfl rfl
  | powered _ _ _ _ hok =>
    obtain ⟨device, -, pin, -, -, -, pins, -, rfl⟩ := State.setProgrammingVoltage_eq_ok_iff.1 hok
    exact queuesKept_of_channels rfl
  | configured _ _ _ _ _ _ hok =>
    obtain ⟨-, ch, hfound, entries, -, -, rfl⟩ := State.setConfig_eq_ok_iff.1 hok
    exact queuesKept_setChannel hfound rfl rfl
  | functionalChanged _ _ _ _ _ _ hok =>
    obtain ⟨-, ch, hfound, -, addresses, -, rfl⟩ := State.changeFunctional_eq_ok_iff.1 hok
    exact queuesKept_setChannel hfound rfl rfl
  | cleared target id _ _ request _ hrequest hok =>
    obtain ⟨-, -, ch, hfound, ch', hcleared, rfl⟩ := State.clear_eq_ok_iff.1 hok
    by_cases htarget : target.narrow = c
    · -- on this channel it is another request
      have hne : request ≠ .clearRxQueue := by
        rintro rfl
        exact hother ⟨htarget, hrequest⟩
      obtain ⟨hbus, hrx⟩ := cleared_queues hne hcleared
      exact queuesKept_setChannel hfound hbus hrx
    · exact queuesKept_setChannel_of_ne (Ne.symm htarget) _

/-! ## Selecting -/

/-- The channels that a select looks at: those in front of the first that is not open. -/
def State.lookedAt (s : State) (ids : List UInt32) : List UInt32 :=
  ids.takeWhile s.channels.contains

theorem contains_setChannel {id : UInt32} {ch : Channel} (hfound : s.channels.get? id = some ch)
    (ch' : Channel) : (s.setChannel id ch').channels.contains = s.channels.contains := by
  funext k
  unfold Table.contains State.setChannel
  by_cases hk : k = id
  · rw [hk, Table.get?_insert_self, hfound]
    rfl
  · rw [Table.get?_insert_of_ne _ _ hk]

theorem readyAmong_queues (c : UInt32) (ids : List UInt32) (s : State) (ch' : Channel)
    (hafter : (State.readyAmong ids s).2.channels.get? c = some ch') :
    ∃ ch, s.channels.get? c = some ch ∧
      if c ∈ s.lookedAt ids then
        ch'.bus = [] ∧ ch'.rx.map Message.untimed = (ch.rx ++ ch.admitted).map Message.untimed
      else ch'.bus = ch.bus ∧ ch'.rx = ch.rx := by
  induction ids, s using State.readyAmong.induct with
  | case1 s =>
    have hnone : c ∉ s.lookedAt [] := List.not_mem_nil
    exact ⟨ch', hafter, by rw [if_neg hnone]; exact ⟨rfl, rfl⟩⟩
  | case2 id ids s code herror =>
    rw [State.readyAmong, herror] at hafter
    have hgone : s.channels.contains id = false :=
      Table.contains_eq_false_iff.2 (State.pump_eq_error_iff.1 herror).1
    have hnone : s.lookedAt (id :: ids) = [] := List.takeWhile_cons_of_neg (by rw [hgone]; decide)
    exact ⟨ch', hafter, by rw [hnone, if_neg List.not_mem_nil]; exact ⟨rfl, rfl⟩⟩
  | case3 id ids s ch s₁ hok ready s₂ hrest ih =>
    have hwalk : (State.readyAmong ids s₁).2.channels.get? c = some ch' := by
      rw [State.readyAmong, hok] at hafter
      exact hafter
    obtain ⟨before, hfound, hresult⟩ := State.pump_eq_ok_iff.1 hok
    obtain ⟨rfl, rfl⟩ := Prod.mk.inj hresult
    obtain ⟨ch₁, hch₁, hrest⟩ := ih hwalk
    have hlooked : s.lookedAt (id :: ids) = id :: s.lookedAt ids :=
      List.takeWhile_cons_of_pos (Table.contains_iff.2 ⟨before, hfound⟩)
    have hsame : State.lookedAt { s.setChannel id (before.pump s.clock) with
        clock := clockAfter s.clock before.admitted.length } ids = s.lookedAt ids := by
      unfold State.lookedAt
      rw [← contains_setChannel hfound (before.pump s.clock)]
    rw [hsame] at hrest
    rw [hlooked]
    rcases Table.get?_insert_cases hch₁ with ⟨rfl, rfl⟩ | ⟨hne, hold⟩
    · -- after this pump the bus is empty, and another one does nothing
      refine ⟨before, hfound, ?_⟩
      have hadmitted : (before.pump s.clock).admitted = [] := rfl
      have hrx : (before.pump s.clock).rx.map Message.untimed =
          (before.rx ++ before.admitted).map Message.untimed := by
        rw [Channel.pump_rx, Channel.pending, List.map_append, List.map_append,
          map_untimed_stampFrom]
      rw [if_pos List.mem_cons_self, ← hrx]
      rw [hadmitted, List.append_nil] at hrest
      split at hrest
      · exact hrest
      · exact ⟨hrest.1, by rw [hrest.2]⟩
    · refine ⟨ch₁, hold, ?_⟩
      have hmem : c ∈ id :: s.lookedAt ids ↔ c ∈ s.lookedAt ids := by
        rw [List.mem_cons]
        exact ⟨fun h => h.resolve_left hne, .inr⟩
      simp only [hmem]
      exact hrest

/-! ## Queueing -/

/-- What is wrong with a message that cannot be sent on a channel. -/
def fault? (protocol : Protocol) (message : NativeMessage w) : Option ErrorCode :=
  match message.read with
  | .error _ => some .invalidMsg
  | .ok frame =>
    if frame.protocolId ≠ protocol.code then some .msgProtocolId
    else if frame.data = [] then some .invalidMsg
    else none

theorem fault?_mem {protocol : Protocol} {message : NativeMessage w} {code : ErrorCode}
    (h : fault? protocol message = some code) : code ∈ [.invalidMsg, .msgProtocolId] := by
  unfold fault? at h
  repeat' split at h
  all_goals first | (obtain rfl := Option.some.inj h; simp) | cases h

theorem accept_of_fault {protocol : Protocol} {message : NativeMessage w} {code : ErrorCode}
    (h : fault? protocol message = some code) (rest : List (NativeMessage w)) :
    accept protocol (message :: rest) = ([], some code) := by
  unfold fault? at h
  rw [accept]
  cases hread : message.read with
  | error e =>
    rw [hread] at h
    exact congrArg (Prod.mk []) h
  | ok frame =>
    rw [hread] at h
    dsimp only at h ⊢
    split at h
    · rw [if_pos ‹_›, h]
    · split at h
      · rw [if_neg ‹_›, if_pos ‹_›, h]
      · cases h

theorem accept_of_faultless {protocol : Protocol} {message : NativeMessage w}
    (h : fault? protocol message = none) (rest : List (NativeMessage w)) :
    ∃ frame, accept protocol (message :: rest) =
      (frame :: (accept protocol rest).1, (accept protocol rest).2) := by
  unfold fault? at h
  split at h
  · cases h
  · next frame hread =>
    split at h
    · cases h
    · split at h
      · cases h
      · refine ⟨frame, ?_⟩
        rw [accept, hread]
        dsimp only
        rw [if_neg ‹_›, if_neg ‹_›]

/-- Queueing stops at the first message with a fault, and reports that. -/
theorem fault?_of_accept {protocol : Protocol} {messages : List (NativeMessage w)}
    {code : ErrorCode} (h : (accept protocol messages).2 = some code) :
    ∃ bad, messages[(accept protocol messages).1.length]? = some bad ∧
      fault? protocol bad = some code := by
  induction messages with
  | nil => cases h
  | cons message rest ih =>
    cases hfault : fault? protocol message with
    | some found =>
      rw [accept_of_fault hfault] at h ⊢
      exact ⟨message, rfl, hfault.trans h⟩
    | none =>
      obtain ⟨frame, heq⟩ := accept_of_faultless hfault rest
      rw [heq] at h ⊢
      exact ih h

theorem fault?_of_mem_take {protocol : Protocol} {messages : List (NativeMessage w)}
    {message : NativeMessage w}
    (h : message ∈ messages.take (accept protocol messages).1.length) :
    fault? protocol message = none := by
  induction messages with
  | nil => cases h
  | cons head rest ih =>
    cases hfault : fault? protocol head with
    | some found =>
      rw [accept_of_fault hfault] at h
      cases h
    | none =>
      obtain ⟨frame, heq⟩ := accept_of_faultless hfault rest
      rw [heq, List.length_cons, List.take_succ_cons] at h
      rcases List.mem_cons.1 h with rfl | hmem
      · exact hfault
      · exact ih hmem

theorem length_accept_le (protocol : Protocol) (messages : List (NativeMessage w)) :
    (accept protocol messages).1.length ≤ messages.length := by
  induction messages with
  | nil => exact Nat.le_refl 0
  | cons message rest ih =>
    unfold accept
    split
    · exact Nat.zero_le _
    · split
      · exact Nat.zero_le _
      · split
        · exact Nat.zero_le _
        · exact Nat.succ_le_succ ih

/-- The messages that are sent are the first ones, as many as are counted. -/
theorem messagesIn_accept (protocol : Protocol) (messages : List (NativeMessage w)) :
    messagesIn (accept protocol messages).1.length messages = (accept protocol messages).1 := by
  induction messages with
  | nil => rfl
  | cons message rest ih =>
    unfold accept
    split
    · rfl
    · next frame hread =>
      split
      · rfl
      · split
        · rfl
        · unfold messagesIn at ih ⊢
          rw [List.length_cons, List.take_succ_cons, List.filterMap_cons, hread]
          exact congrArg (List.cons frame) ih

theorem messagesIn_take {n k : Nat} (h : n ≤ k) (slots : List (NativeMessage w)) :
    messagesIn n (slots.take k) = messagesIn n slots := by
  unfold messagesIn
  rw [List.take_take, Nat.min_eq_left h]

end PassThru.Emulator
