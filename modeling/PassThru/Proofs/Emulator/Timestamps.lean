import Mathlib.Data.List.Perm.Subperm
import PassThru.Proofs.Emulator.Atomicity
import PassThru.Proofs.Emulator.Delivery

/-!
# Timestamps

The clock goes on by one tick for each frame that a channel admits, and the frame gets that time. So
the times number the admissions of all channels together, in the order in which channels are looked
at.

* `State.admissionLog`: the frames that are admitted in a run, as they were on the bus.
* `timedFrom`: these frames with the times that their numbers give them.
* `logged_after`: what one event adds to the receive queue of a channel and takes from it.
* `Account`: what the log says of the clock, of the receive queues and of what was handed over;
  `Account.run` is the induction.
* `pairwise_timedFrom`: as long as the numbers fit the clock, times go up, and so they do in the
  receive queues and in what is handed over.
-/

namespace PassThru.Emulator

variable {w : Width} {s s' : State}

/-! ## Numbers and times -/

/-- The time of the admission with a number. -/
def timeOf (n : Nat) : UInt32 := UInt32.ofNat (1000 * n)

theorem timeOf_add_tick (n : Nat) : timeOf n + tick = timeOf (n + 1) := by
  unfold timeOf
  rw [Nat.mul_add, UInt32.ofNat_add]
  rfl

/-- The largest number of admissions for which the clock has not wrapped around. -/
def lastUnwrapped : Nat := 4294967

theorem toNat_timeOf {n : Nat} (h : n ≤ lastUnwrapped) : (timeOf n).toNat = 1000 * n := by
  have hlt : 1000 * n < UInt32.size := by
    have : n ≤ 4294967 := h
    have hsize : UInt32.size = 4294967296 := rfl
    omega
  exact UInt32.toNat_ofNat_of_lt' hlt

/-- Admitted frames, each with its channel, with the times that the clock gives them after `k`
earlier admissions. -/
def timedFrom (k : Nat) (log : List (UInt32 × Message)) : List (UInt32 × Message) :=
  log.mapIdx fun i entry => (entry.1, { entry.2 with timestamp := timeOf (k + i + 1) })

/-- The frames of one channel. -/
def framesOf (c : UInt32) (log : List (UInt32 × Message)) : List Message :=
  (log.filter fun entry => entry.1 == c).map Prod.snd

section Logs

variable {c id : UInt32} (k : Nat) (log log' : List (UInt32 × Message)) (frames : List Message)

@[simp] theorem length_timedFrom : (timedFrom k log).length = log.length := List.length_mapIdx

theorem timedFrom_cons (entry : UInt32 × Message) :
    timedFrom k (entry :: log) =
      (entry.1, { entry.2 with timestamp := timeOf (k + 1) }) :: timedFrom (k + 1) log := by
  unfold timedFrom
  rw [List.mapIdx_cons]
  refine congrArg _ (congrArg (List.mapIdx · log) ?_)
  funext i entry
  rw [Nat.add_right_comm k 1 i, Nat.add_assoc k i 1]

theorem timedFrom_append :
    timedFrom k (log ++ log') = timedFrom k log ++ timedFrom (k + log.length) log' := by
  induction log generalizing k with
  | nil => rfl
  | cons entry log ih =>
    rw [List.cons_append, timedFrom_cons, timedFrom_cons, ih, List.length_cons, List.cons_append,
      Nat.add_assoc, Nat.add_comm 1]

theorem framesOf_append : framesOf c (log ++ log') = framesOf c log ++ framesOf c log' := by
  unfold framesOf
  rw [List.filter_append, List.map_append]

theorem framesOf_map_self : framesOf c (frames.map (c, ·)) = frames := by
  unfold framesOf
  rw [List.filter_eq_self.2, List.map_map]
  · exact List.map_id _
  · intro entry hmem
    obtain ⟨frame, -, rfl⟩ := List.mem_map.1 hmem
    exact beq_self_eq_true _

theorem framesOf_map_of_ne (hne : id ≠ c) : framesOf c (frames.map (id, ·)) = [] := by
  unfold framesOf
  rw [List.filter_eq_nil_iff.2, List.map_nil]
  intro entry hmem
  obtain ⟨frame, -, rfl⟩ := List.mem_map.1 hmem
  simpa using hne

theorem timedFrom_map : timedFrom k (frames.map (id, ·)) =
    (stampFrom (timeOf k) frames).map (id, ·) := by
  induction frames generalizing k with
  | nil => rfl
  | cons frame frames ih =>
    rw [List.map_cons, timedFrom_cons, ih, stampFrom, timeOf_add_tick, List.map_cons]

theorem clockAfter_timeOf (n : Nat) : clockAfter (timeOf k) n = timeOf (k + n) := by
  induction n generalizing k with
  | zero => rw [clockAfter.eq_def, Nat.add_zero]
  | succ n ih =>
    rw [clockAfter.eq_def]
    dsimp only
    rw [timeOf_add_tick, ih, Nat.add_assoc, Nat.add_comm 1]

end Logs

/-! ## What is admitted -/

namespace State

/-- What is admitted when channels are looked at one after the other, as far as the first that is not
open: the frames on their buses that their filters admit, each with its channel. -/
def admittedAmong : List UInt32 → State → List (UInt32 × Message)
  | [], _ => []
  | id :: ids, s =>
    match s.channels.get? id with
    | none => []
    | some ch => ch.admitted.map (id, ·) ++ admittedAmong ids (s.pumped id)

/-- What an event admits. -/
def admissions (s : State) : Event w → List (UInt32 × Message)
  | .call (.readMsgs channel (some _) (some _) _) => s.admittedAmong [channel.narrow]
  | .call (.select set kind _) =>
    match selectArguments set kind.narrow with
    | .ok (_, ids) => s.admittedAmong ids
    | .error _ => []
  | _ => []

/-- What is admitted in a run, in order. -/
def admissionLog : State → List (Event w) → List (UInt32 × Message)
  | _, [] => []
  | s, event :: events => s.admissions event ++ (s.after event).admissionLog events

/-- The frames that an event hands over according to its reply, each with its channel. -/
def handedOver (s : State) : Event w → List (UInt32 × Message)
  | .call (.readMsgs channel (some slots) (some count) timeout) =>
    let memory := (driver (.readMsgs channel (some slots) (some count) timeout) s).1.memory
    (messagesIn (memory.count.getD .zero).toNat (memory.slots.getD [])).map (channel.narrow, ·)
  | _ => []

/-- What the events of a run hand over, one list for each of them. -/
def deliveryLog : State → List (Event w) → List (List (UInt32 × Message))
  | _, [] => []
  | s, event :: events => s.handedOver event :: (s.after event).deliveryLog events

/-- The frames that can be read on a channel; there are none on one that is not open. -/
def queue (s : State) (c : UInt32) : List Message := ((s.channels.get? c).map Channel.rx).getD []

/-- An event after which the receive queue of a channel may be a new one: the channel is connected,
or its receive queue is cleared. -/
def Restarts (s : State) (c : UInt32) : Event w → Prop
  | .call (.connect ..) | .call (.logicalConnect ..) => c = nextHandle s.issued.channels
  | .call (.ioctl target id ..) =>
    target.narrow = c ∧ Ioctl.ofCode? id.narrow = some .clearRxQueue
  | _ => False

theorem admittedAmong_singleton {s : State} {c : UInt32} {ch : Channel}
    (h : s.channels.get? c = some ch) : s.admittedAmong [c] = ch.admitted.map (c, ·) := by
  unfold admittedAmong
  rw [h]
  exact List.append_nil _

theorem queue_of_get? {c : UInt32} {ch : Channel} (h : s.channels.get? c = some ch) :
    s.queue c = ch.rx := by
  unfold queue
  rw [h]
  rfl

theorem queue_of_closed {c : UInt32} (h : s.channels.get? c = none) : s.queue c = [] := by
  unfold queue
  rw [h]
  rfl

theorem queue_setChannel_self (s : State) (c : UInt32) (ch : Channel) :
    (s.setChannel c ch).queue c = ch.rx := queue_of_get? (Table.get?_insert_self _ _ _)

theorem queue_setChannel_of_ne {c id : UInt32} (h : c ≠ id) (s : State) (ch : Channel) :
    (s.setChannel id ch).queue c = s.queue c := by
  unfold queue
  rw [show (s.setChannel id ch).channels.get? c = _ from Table.get?_insert_of_ne _ _ h]

end State

open State

theorem State.queue_congr {c : UInt32} (h : s'.channels.get? c = s.channels.get? c) :
    s'.queue c = s.queue c := by
  unfold queue
  rw [h]

/-! ## One event -/

/-- What an event does to the receive queue of a channel. Frames enter at its end, and after that
frames leave at its front, which are handed over. Apart from this, the queue may be a new one, or end
with its channel. -/
inductive QueueStep (s s' : State) (c : UInt32) (restarts : Prop) :
    List Message → List Message → Prop
  | moved (new out : List Message) (opened : s'.channels.contains c = s.channels.contains c)
      (queue_eq : s'.queue c = (s.queue c ++ new).drop out.length)
      (out_eq : out.map (Message.inBuffer 0) =
        ((s.queue c ++ new).take out.length).map (Message.inBuffer 0)) :
      QueueStep s s' c restarts new out
  | restarted (allowed : restarts) (empty : s'.queue c = []) : QueueStep s s' c restarts [] []
  | closed (gone : s'.channels.get? c = none) : QueueStep s s' c restarts [] []

section QueueStep

variable {c : UInt32} {restarts : Prop}

theorem queueStep_of_queuesKept (h : State.QueuesKept c s s') :
    QueueStep s s' c restarts [] [] := by
  cases hget : s'.channels.get? c with
  | none => exact .closed hget
  | some ch' =>
    obtain ⟨ch, hfound, -, hrx⟩ := h ch' hget
    refine .moved [] [] ?_ ?_ rfl
    · unfold Table.contains
      rw [hget, hfound]
      rfl
    · rw [queue_of_get? hget, queue_of_get? hfound, hrx, List.append_nil]
      rfl

/-- What is done to a channel does not concern the receive queues, unless it changes that of the
channel. -/
theorem queueStep_of_rx {id : UInt32} {ch ch' : Channel} (hfound : s.channels.get? id = some ch)
    (hrx : ch'.rx = ch.rx) : QueueStep s (s.setChannel id ch') c restarts [] [] := by
  refine .moved [] [] (congrFun (contains_setChannel hfound ch') c) ?_ rfl
  by_cases hc : c = id
  · subst hc
    rw [queue_setChannel_self, queue_of_get? hfound, hrx, List.append_nil]
    rfl
  · rw [queue_setChannel_of_ne hc, List.append_nil]
    rfl

/-- Only the channel itself is looked at. -/
theorem QueueStep.congr {s'' : State} {new out : List Message}
    (h : QueueStep s s' c restarts new out)
    (hchannel : s''.channels.get? c = s'.channels.get? c) : QueueStep s s'' c restarts new out := by
  have hqueue : s''.queue c = s'.queue c := queue_congr hchannel
  cases h with
  | moved _ _ hopened hmoved hout =>
    refine .moved _ _ (.trans ?_ hopened) (hqueue.trans hmoved) hout
    unfold Table.contains
    rw [hchannel]
  | restarted hallowed hempty => exact .restarted hallowed (hqueue.trans hempty)
  | closed hgone => exact .closed (hchannel.trans hgone)

end QueueStep

/-! ### Looking at channels -/

/-- A select lets frames into the queues of the channels that it looks at, one channel after the
other. -/
theorem readyAmong_enters {k : Nat} (ids : List UInt32) (s : State) (hclock : s.clock = timeOf k) :
    (State.readyAmong ids s).2.clock = timeOf (k + (s.admittedAmong ids).length) ∧
      ∀ c, (State.readyAmong ids s).2.channels.contains c = s.channels.contains c ∧
        (State.readyAmong ids s).2.queue c =
          s.queue c ++ framesOf c (timedFrom k (s.admittedAmong ids)) := by
  induction ids, s using State.readyAmong.induct generalizing k with
  | case1 s => exact ⟨hclock, fun c => ⟨rfl, (List.append_nil _).symm⟩⟩
  | case2 id ids s code herror =>
    have hclosed := (State.pump_eq_error_iff.1 herror).1
    rw [State.readyAmong, herror, admittedAmong, hclosed]
    exact ⟨hclock, fun c => ⟨rfl, (List.append_nil _).symm⟩⟩
  | case3 id ids s ch s₁ hok ready s₂ hrest ih =>
    have hpumped := pumped_of_open hok
    obtain ⟨before, hfound, hresult⟩ := State.pump_eq_ok_iff.1 hok
    obtain ⟨rfl, rfl⟩ := Prod.mk.inj hresult
    rw [State.readyAmong, hok, admittedAmong, hfound]
    dsimp only
    rw [hpumped]
    have hclock₁ : clockAfter s.clock before.admitted.length =
        timeOf (k + before.admitted.length) := by rw [hclock, clockAfter_timeOf]
    obtain ⟨hlast, hqueues⟩ := ih hclock₁
    refine ⟨?_, fun c => ?_⟩
    · rw [List.length_append, List.length_map, ← Nat.add_assoc]
      exact hlast
    obtain ⟨hopened, hqueue⟩ := hqueues c
    refine ⟨hopened.trans (congrFun (contains_setChannel hfound _) c), hqueue.trans ?_⟩
    rw [timedFrom_append, framesOf_append, timedFrom_map, List.length_map, ← List.append_assoc]
    refine congrArg (· ++ _) ?_
    by_cases hc : c = id
    · subst hc
      rw [framesOf_map_self, queue_of_get? hfound, ← hclock]
      exact queue_setChannel_self s c _
    · rw [framesOf_map_of_ne _ (Ne.symm hc), List.append_nil]
      exact queue_setChannel_of_ne hc s _

/-! ### Reading a channel -/

section Read

variable {channel : Word w} (slots : List (NativeMessage w)) (count timeout : Word w)

theorem admissions_read {ch : Channel} (hfound : s.channels.get? channel.narrow = some ch) :
    s.admissions (.call (.readMsgs channel (some slots) (some count) timeout)) =
      ch.admitted.map (channel.narrow, ·) := admittedAmong_singleton hfound

theorem handedOver_read {ch : Channel} (hfound : s.channels.get? channel.narrow = some ch) :
    let delivery := deliver count.narrow.toNat (ch.pending s.clock) slots
    s.handedOver (.call (.readMsgs channel (some slots) (some count) timeout)) =
      (messagesIn delivery.count delivery.slots).map (channel.narrow, ·) := by
  intro delivery
  have hmemory : (driver (.readMsgs channel (some slots) (some count) timeout) s).1.memory =
      ⟨some delivery.slots, some (.of32 (UInt32.ofNat delivery.count))⟩ :=
    congrArg Outcome.memory (performRead_eq hfound slots count timeout)
  have hcount : delivery.count ≤ count.narrow.toNat := (deliver_count_le _ _ slots).1
  simp only [handedOver, hmemory, Option.getD_some, Word.toNat_of32_ofNat hcount]

theorem handedOver_read_closed (hclosed : s.channels.get? channel.narrow = none) :
    s.handedOver (.call (.readMsgs channel (some slots) (some count) timeout)) = [] := by
  have hmemory : (driver (.readMsgs channel (some slots) (some count) timeout) s).1.memory =
      ⟨some slots, some .zero⟩ :=
    congrArg Outcome.memory (performRead_closed hclosed slots count timeout)
  have hzero : (Word.zero (w := w)).toNat = 0 := by cases w <;> rfl
  simp only [handedOver, hmemory, Option.getD_some, hzero]
  rfl

/-- A read of an open channel lets frames in, and then hands some over. -/
theorem afterRead_enters {k : Nat} {ch : Channel}
    (hfound : s.channels.get? channel.narrow = some ch) (hclock : s.clock = timeOf k)
    (c : UInt32) (restarts : Prop) :
    let delivery := deliver count.narrow.toNat (ch.pending s.clock) slots
    QueueStep s (s.afterRead channel.narrow ch delivery.count) c restarts
      (framesOf c (timedFrom k
        (s.admissions (.call (.readMsgs channel (some slots) (some count) timeout)))))
      (framesOf c (s.handedOver (.call (.readMsgs channel (some slots) (some count) timeout)))) := by
  intro delivery
  have hlength : delivery.count ≤ (ch.pending s.clock).length := (deliver_count_le _ _ slots).2
  have hpending : ch.pending s.clock = ch.rx ++ stampFrom (timeOf k) ch.admitted := by
    rw [← hclock]
    rfl
  have hslots := deliver_slots count.narrow.toNat (ch.pending s.clock) slots
  have hout : (messagesIn delivery.count delivery.slots).length = delivery.count := by
    have := congrArg List.length hslots
    rw [List.length_map, List.length_map, List.length_take, Nat.min_eq_left hlength] at this
    exact this
  rw [admissions_read slots count timeout hfound, handedOver_read slots count timeout hfound,
    timedFrom_map]
  by_cases hc : c = channel.narrow
  · subst hc
    rw [framesOf_map_self, framesOf_map_self]
    refine .moved _ _ ?_ ?_ ?_
    · exact congrFun (contains_setChannel hfound _) _
    · rw [queue_of_get? hfound, ← hpending, hout]
      exact queue_setChannel_self s channel.narrow _
    · rw [queue_of_get? hfound, ← hpending, hout]
      exact hslots
  · rw [framesOf_map_of_ne _ (Ne.symm hc), framesOf_map_of_ne _ (Ne.symm hc)]
    exact queueStep_of_queuesKept (queuesKept_afterRead hc ch _)

end Read

/-! ### Every event -/

/-- Only a read and a select move the clock. -/
theorem Effect.clock_eq {call : Call w} {failure? : Option ErrorCode}
    (h : Effect s call failure? s') (hread : call.entry ≠ .readMsgs)
    (hselect : call.entry ≠ .select) : s'.clock = s.clock := by
  cases h with
  | opened _ _ _ _ hok =>
    obtain ⟨-, -, rfl⟩ := State.openDevice_eq_ok_iff.1 hok
    rfl
  | closed _ _ hok =>
    obtain ⟨-, rfl⟩ := State.closeDevice_eq_ok_iff.1 hok
    rfl
  | connected _ _ _ _ _ _ _ _ hok =>
    obtain ⟨_, _, _, -, -, -, hresult⟩ := State.connect_eq_ok hok
    obtain ⟨-, rfl⟩ := Prod.mk.inj hresult
    rfl
  | disconnected _ _ hok =>
    obtain ⟨-, -, -, rfl⟩ := State.disconnect_eq_ok_iff.1 hok
    rfl
  | logicalConnected _ _ _ _ _ _ _ hok =>
    obtain ⟨_, -, -, -, -, -, hresult⟩ := State.logicalConnect_eq_ok_iff.1 hok
    obtain ⟨-, rfl⟩ := Prod.mk.inj hresult
    rfl
  | logicalDisconnected _ _ hok =>
    obtain ⟨-, -, -, rfl⟩ := State.logicalDisconnect_eq_ok_iff.1 hok
    rfl
  | selected => exact absurd rfl hselect
  | read => exact absurd rfl hread
  | periodicStarted _ _ _ _ _ _ hok =>
    obtain ⟨_, -, -, _, -, -, -, hresult⟩ := State.startPeriodicMsg_eq_ok_iff.1 hok
    obtain ⟨-, rfl⟩ := Prod.mk.inj hresult
    rfl
  | periodicStopped _ _ _ hok =>
    obtain ⟨_, -, -, rfl⟩ := State.stopPeriodicMsg_eq_ok_iff.1 hok
    rfl
  | filterStarted _ _ _ _ _ _ _ hok =>
    obtain ⟨_, -, _, -, -, -, -, -, -, -, -, hresult⟩ := State.startMsgFilter_eq_ok_iff.1 hok
    obtain ⟨-, rfl⟩ := Prod.mk.inj hresult
    rfl
  | filterStopped _ _ _ hok =>
    obtain ⟨_, -, -, rfl⟩ := State.stopMsgFilter_eq_ok_iff.1 hok
    rfl
  | powered _ _ _ _ hok =>
    obtain ⟨_, -, _, -, -, -, _, -, rfl⟩ := State.setProgrammingVoltage_eq_ok_iff.1 hok
    rfl
  | configured _ _ _ _ _ _ hok =>
    obtain ⟨-, _, -, _, -, -, rfl⟩ := State.setConfig_eq_ok_iff.1 hok
    rfl
  | functionalChanged _ _ _ _ _ _ hok =>
    obtain ⟨-, _, -, -, _, -, rfl⟩ := State.changeFunctional_eq_ok_iff.1 hok
    rfl
  | cleared _ _ _ _ _ _ _ hok =>
    obtain ⟨-, -, _, -, _, -, rfl⟩ := State.clear_eq_ok_iff.1 hok
    rfl
  | refused | answered | scanned | delivered | queued => rfl

/-- What an event does to the clock and to the receive queues, if `k` frames were admitted before. -/
structure Logged (s s' : State) (event : Event w) (k : Nat) : Prop where
  clock_eq : s'.clock = timeOf (k + (s.admissions event).length)
  queues (c : UInt32) : QueueStep s s' c (s.Restarts c event)
    (framesOf c (timedFrom k (s.admissions event))) (framesOf c (s.handedOver event))

section Logged

variable {event : Event w} {k : Nat}

theorem Logged.congr {s'' : State} (h : Logged s s' event k) (hclock : s''.clock = s'.clock)
    (hchannels : s''.channels = s'.channels) : Logged s s'' event k where
  clock_eq := hclock.trans h.clock_eq
  queues c := (h.queues c).congr (by rw [hchannels])

variable (hclock : s.clock = timeOf k)

include hclock

/-- An event that looks at no channel admits nothing and hands nothing over. -/
theorem logged_of_silent (hadmissions : s.admissions event = [])
    (hhandedOver : s.handedOver event = []) (hsame : s'.clock = s.clock)
    (hqueues : ∀ c, QueueStep s s' c (s.Restarts c event) [] []) : Logged s s' event k where
  clock_eq := by
    rw [hadmissions]
    exact hsame.trans hclock
  queues c := by
    rw [hadmissions, hhandedOver]
    exact hqueues c

theorem logged_of_kept (hadmissions : s.admissions event = [])
    (hhandedOver : s.handedOver event = []) (hsame : s'.clock = s.clock)
    (hkept : ∀ c, State.QueuesKept c s s') : Logged s s' event k :=
  logged_of_silent hclock hadmissions hhandedOver hsame fun c => queueStep_of_queuesKept (hkept c)

theorem logged_issue {output : Option (Word w)} {attempt : Attempt (UInt32 × State)}
    (hadmissions : s.admissions event = []) (hhandedOver : s.handedOver event = [])
    (hrestarts : ∀ c, c = nextHandle s.issued.channels → s.Restarts c event)
    (hok : ∀ result, attempt = .ok result → ∃ ch, result = s.addChannel ch ∧ ch.rx = []) :
    Logged s (issue s output attempt).state event k := by
  cases attempt with
  | error code =>
    exact logged_of_kept hclock hadmissions hhandedOver rfl fun c => .refl c s
  | ok result =>
    obtain ⟨ch, rfl, hrx⟩ := hok result rfl
    refine logged_of_silent hclock hadmissions hhandedOver rfl fun c => ?_
    by_cases hc : c = nextHandle s.issued.channels
    · refine .restarted (hrestarts c hc) ?_
      subst hc
      exact (queue_setChannel_self s _ ch).trans hrx
    · exact queueStep_of_queuesKept (State.queuesKept_setChannel_of_ne hc ch)

theorem logged_select (set : Option (NativeChannelSet w)) (kind timeout : Word w) :
    Logged s (perform s (.select set kind timeout)).state (.call (.select set kind timeout)) k := by
  show Logged s (performSelect s set kind).state _ k
  rw [performSelect_state]
  cases harguments : selectArguments set kind.narrow with
  | error code =>
    have hnone : s.admissions (.call (.select set kind timeout)) = [] := by
      simp only [admissions, harguments]
    exact logged_of_kept hclock hnone rfl rfl fun c => .refl c s
  | ok arguments =>
    obtain ⟨native, ids⟩ := arguments
    have hsome : s.admissions (.call (.select set kind timeout)) = s.admittedAmong ids := by
      simp only [admissions, harguments]
    obtain ⟨hlast, hqueues⟩ := readyAmong_enters ids s hclock
    constructor
    case clock_eq => rw [hsome]; exact hlast
    case queues =>
      intro c
      rw [hsome]
      exact .moved _ [] (hqueues c).1 (hqueues c).2 rfl

theorem logged_readMsgs (channel : Word w) (slots : Option (List (NativeMessage w)))
    (count : Option (Word w)) (timeout : Word w) :
    Logged s (perform s (.readMsgs channel slots count timeout)).state
      (.call (.readMsgs channel slots count timeout)) k := by
  cases slots with
  | none => exact logged_of_kept hclock rfl rfl rfl fun c => .refl c s
  | some slots =>
    cases count with
    | none => exact logged_of_kept hclock rfl rfl rfl fun c => .refl c s
    | some count =>
      show Logged s (performRead s channel ⟨some slots, some count⟩ timeout).state _ k
      cases hfound : s.channels.get? channel.narrow with
      | none =>
        rw [performRead_closed hfound]
        have hnone : s.admissions
            (.call (.readMsgs channel (some slots) (some count) timeout)) = [] := by
          show s.admittedAmong [channel.narrow] = []
          unfold admittedAmong
          rw [hfound]
        exact logged_of_kept hclock hnone (handedOver_read_closed slots count timeout hfound) rfl
          fun c => .refl c s
      | some ch =>
        rw [performRead_eq hfound]
        constructor
        case clock_eq =>
          rw [admissions_read slots count timeout hfound, List.length_map]
          show clockAfter s.clock ch.admitted.length = _
          rw [hclock, clockAfter_timeOf]
        case queues => exact fun c => afterRead_enters slots count timeout hfound hclock c _

theorem logged_queueMsgs (channel : Word w) (messages : Option (List (NativeMessage w)))
    (count : Option (Word w)) :
    Logged s (perform s (.queueMsgs channel messages count)).state
      (.call (.queueMsgs channel messages count)) k := by
  cases messages with
  | none => exact logged_of_kept hclock rfl rfl rfl fun c => .refl c s
  | some messages =>
    cases count with
    | none => exact logged_of_kept hclock rfl rfl rfl fun c => .refl c s
    | some count =>
      show Logged s (performQueue s channel ⟨some messages, some count⟩).state _ k
      cases hfound : s.channels.get? channel.narrow with
      | none =>
        rw [performQueue_closed hfound]
        exact logged_of_kept hclock rfl rfl rfl fun c => .refl c s
      | some ch =>
        rw [performQueue_eq hfound, transmit_eq]
        exact logged_of_silent hclock rfl rfl rfl fun c => queueStep_of_rx hfound rfl

/-- The request to clear the receive queue of a channel, and no other, does that. -/
theorem logged_ioctl (target id : Word w) (input output : NativeControl w) :
    Logged s (perform s (.ioctl target id input output)).state
      (.call (.ioctl target id input output)) k := by
  have heffect := perform_effect s (.ioctl target id input output)
  refine logged_of_silent hclock rfl rfl
    (heffect.clock_eq EntryPoint.noConfusion EntryPoint.noConfusion) fun c => ?_
  by_cases hclears : target.narrow = c ∧ Ioctl.ofCode? id.narrow = some .clearRxQueue
  · have hperform : perform s (.ioctl target id input output) =
        controlChange s ⟨input, output⟩ (s.clear .clearRxQueue target.narrow input output) := by
      show performIoctl s target id ⟨input, output⟩ = _
      unfold performIoctl
      dsimp only
      rw [hclears.2]
    rw [hperform]
    cases hclear : s.clear .clearRxQueue target.narrow input output with
    | error code => exact queueStep_of_queuesKept (.refl c s)
    | ok s' =>
      obtain ⟨-, -, ch, hfound, ch', hcleared, rfl⟩ := State.clear_eq_ok_iff.1 hclear
      obtain rfl := Except.ok.inj hcleared
      refine .restarted hclears ?_
      rw [← hclears.1]
      exact queue_setChannel_self s target.narrow _
  · exact queueStep_of_queuesKept (heffect.queuesKept hclears)

theorem logged_call (call : Call w) : Logged s (s.after (.call call)) (.call call) k := by
  have hperform : Logged s (perform s call).state (.call call) k := by
    cases call with
    | connect device protocol flags baud resource channel =>
      refine logged_issue hclock rfl rfl (fun c hc => hc) fun result hok => ?_
      obtain ⟨opened, p, pins, -, -, -, hresult⟩ := State.connect_eq_ok hok
      exact ⟨_, hresult, rfl⟩
    | logicalConnect physical protocol flags descriptor channel =>
      refine logged_issue hclock rfl rfl (fun c hc => hc) fun result hok => ?_
      simp only [Attempt.bind_eq_ok_iff, Attempt.present_eq_ok_iff] at hok
      obtain ⟨descriptor, rfl, out, rfl, hok⟩ := hok
      obtain ⟨parent, -, -, -, -, -, hresult⟩ := State.logicalConnect_eq_ok_iff.1 hok
      exact ⟨_, hresult, rfl⟩
    | select set kind timeout => exact logged_select hclock set kind timeout
    | readMsgs channel slots count timeout =>
      exact logged_readMsgs hclock channel slots count timeout
    | queueMsgs channel messages count => exact logged_queueMsgs hclock channel messages count
    | ioctl target id input output => exact logged_ioctl hclock target id input output
    | _ =>
      exact logged_of_kept hclock rfl rfl
        ((perform_effect s _).clock_eq EntryPoint.noConfusion EntryPoint.noConfusion)
        fun c => (perform_effect s _).queuesKept id
  obtain ⟨last, hlast⟩ := remember_eq call.entry (perform s call).failure? (perform s call).state
  have hafter : s.after (.call call) = { (perform s call).state with lastFailure := last } := hlast
  rw [hafter]
  exact hperform.congr rfl rfl

/-- Only reads and selects admit frames, and only they move the clock. -/
theorem logged_after (event : Event w) : Logged s (s.after event) event k := by
  cases event with
  | call call => exact logged_call hclock call
  | register interface =>
    rcases after_register (w := w) s interface with hsame | ⟨-, hregistered⟩
    · rw [hsame]
      exact logged_of_kept hclock rfl rfl rfl fun c => .refl c s
    · rw [hregistered]
      exact logged_of_kept hclock rfl rfl rfl fun c => State.queuesKept_of_channels rfl
  | unplug name =>
    exact logged_of_kept hclock rfl rfl rfl fun c => State.queuesKept_of_channels rfl
  | inject channel frame =>
    show Logged s (s.inject channel frame) _ k
    unfold State.inject
    cases hfound : s.channels.get? channel with
    | none => exact logged_of_kept hclock rfl rfl rfl fun c => .refl c s
    | some ch => exact logged_of_silent hclock rfl rfl rfl fun c => queueStep_of_rx hfound rfl

end Logged

/-! ## Every run -/

section Ledger

variable {c : UInt32} {restarts : Prop} {new out log delivered : List Message}
  (h : QueueStep s s' c restarts new out)

include h

/-- What was handed over and what can be read are still frames that were admitted, in order. -/
theorem QueueStep.ledger
    (hledger : ((delivered ++ s.queue c).map (Message.inBuffer 0)).Sublist
      (log.map (Message.inBuffer 0))) :
    ((delivered ++ out ++ s'.queue c).map (Message.inBuffer 0)).Sublist
      ((log ++ new).map (Message.inBuffer 0)) := by
  have hempty : (delivered.map (Message.inBuffer 0)).Sublist (log.map (Message.inBuffer 0)) := by
    refine .trans ?_ hledger
    rw [List.map_append]
    exact List.sublist_append_left _ _
  cases h with
  | moved _ _ _ hqueue hout =>
    calc (delivered ++ out ++ s'.queue c).map (Message.inBuffer 0)
        = delivered.map (Message.inBuffer 0) ++
            ((s.queue c ++ new).take out.length).map (Message.inBuffer 0) ++
            ((s.queue c ++ new).drop out.length).map (Message.inBuffer 0) := by
          rw [List.map_append, List.map_append, hout, hqueue]
      _ = (delivered ++ s.queue c).map (Message.inBuffer 0) ++ new.map (Message.inBuffer 0) := by
          rw [List.append_assoc, ← List.map_append, List.take_append_drop, List.map_append,
            List.map_append, List.append_assoc]
      List.Sublist _ (log.map (Message.inBuffer 0) ++ new.map (Message.inBuffer 0)) :=
          hledger.append_right _
      _ = (log ++ new).map (Message.inBuffer 0) := List.map_append.symm
  | restarted _ hqueue =>
    rw [hqueue, List.append_nil, List.append_nil, List.append_nil]
    exact hempty
  | closed hgone =>
    rw [queue_of_closed hgone, List.append_nil, List.append_nil, List.append_nil]
    exact hempty

/-- What can be read are the frames that were admitted last. -/
theorem QueueStep.suffix (hsuffix : s.queue c <:+ log) : s'.queue c <:+ log ++ new := by
  cases h with
  | moved _ _ _ hqueue =>
    obtain ⟨front, rfl⟩ := hsuffix
    rw [hqueue, List.append_assoc]
    exact (List.drop_suffix _ _).trans (List.suffix_append _ _)
  | restarted _ hqueue => rw [hqueue]; exact List.nil_suffix
  | closed hgone => rw [queue_of_closed hgone]; exact List.nil_suffix

end Ledger

/-- What the frames that were admitted so far, and those that were handed over, say of a state. -/
structure Account (s : State) (log delivered : List (UInt32 × Message)) : Prop where
  clock_eq : s.clock = timeOf log.length
  ledger (c : UInt32) : ((framesOf c delivered ++ s.queue c).map (Message.inBuffer 0)).Sublist
    ((framesOf c (timedFrom 0 log)).map (Message.inBuffer 0))
  suffix (c : UInt32) : s.queue c <:+ framesOf c (timedFrom 0 log)

section Account

variable {log delivered : List (UInt32 × Message)}

theorem account_start (n : Nat) : Account (.start n) [] [] where
  clock_eq := rfl
  ledger _ := List.Sublist.slnil
  suffix _ := List.nil_suffix

theorem Account.after (h : Account s log delivered) (event : Event w) :
    Account (s.after event) (log ++ s.admissions event) (delivered ++ s.handedOver event) := by
  have hlogged := logged_after h.clock_eq event
  have hlog (c : UInt32) : framesOf c (timedFrom 0 (log ++ s.admissions event)) =
      framesOf c (timedFrom 0 log) ++ framesOf c (timedFrom log.length (s.admissions event)) := by
    rw [timedFrom_append, framesOf_append, Nat.zero_add]
  constructor
  case clock_eq =>
    rw [List.length_append]
    exact hlogged.clock_eq
  case ledger =>
    intro c
    rw [hlog, framesOf_append]
    exact (hlogged.queues c).ledger (h.ledger c)
  case suffix =>
    intro c
    rw [hlog]
    exact (hlogged.queues c).suffix (h.suffix c)

theorem Account.run (h : Account s log delivered) (events : List (Event w)) :
    Account (s.run events) (log ++ s.admissionLog events)
      (delivered ++ (s.deliveryLog events).flatten) := by
  induction events generalizing s log delivered with
  | nil =>
    show Account s (log ++ []) (delivered ++ [])
    rw [List.append_nil, List.append_nil]
    exact h
  | cons event events ih =>
    have hrest := ih (h.after event)
    rw [List.append_assoc, List.append_assoc] at hrest
    exact hrest

end Account

/-! ## Times that go up -/

/-- Each frame has a later time than the one in front of it. -/
def Increasing (frames : List Message) : Prop := (frames.map Message.timestamp).Pairwise (· < ·)

instance (frames : List Message) : Decidable (Increasing frames) :=
  inferInstanceAs (Decidable (List.Pairwise _ _))

/-- The time of a frame is not a matter of its buffer. -/
theorem increasing_map_inBuffer {size : UInt32} {frames : List Message} :
    Increasing (frames.map (Message.inBuffer size)) ↔ Increasing frames := by
  unfold Increasing
  rw [List.map_map]
  rfl

theorem Increasing.of_sublist {frames later : List Message} (h : Increasing later)
    (hsublist : frames.Sublist later) : Increasing frames := h.sublist (hsublist.map _)

section Times

variable {c : UInt32} {log : List (UInt32 × Message)}

theorem timestamp_timedFrom {k i : Nat} {entry : UInt32 × Message}
    (h : (timedFrom k log)[i]? = some entry) : entry.2.timestamp = timeOf (k + i + 1) := by
  unfold timedFrom at h
  rw [List.getElem?_mapIdx] at h
  obtain ⟨frame, -, rfl⟩ := Option.map_eq_some_iff.1 h
  rfl

/-- As long as the numbers fit the clock, times go up. -/
theorem pairwise_timedFrom (h : log.length ≤ lastUnwrapped) :
    (timedFrom 0 log).Pairwise fun a b => a.2.timestamp < b.2.timestamp := by
  refine List.pairwise_iff_getElem.2 fun i j hi hj hlt => ?_
  rw [timestamp_timedFrom (List.getElem?_eq_getElem hi),
    timestamp_timedFrom (List.getElem?_eq_getElem hj), UInt32.lt_iff_toNat_lt]
  rw [length_timedFrom] at hi hj
  rw [toNat_timeOf (by omega), toNat_timeOf (by omega)]
  omega

theorem increasing_framesOf (h : log.length ≤ lastUnwrapped) :
    Increasing (framesOf c (timedFrom 0 log)) :=
  List.pairwise_map.2 (List.pairwise_map.2 ((pairwise_timedFrom h).filter _))

theorem framesOf_sublist {log' : List (UInt32 × Message)} (h : log.Sublist log') :
    (framesOf c log).Sublist (framesOf c log') := (h.filter _).map _

/-- How often a time is that of a frame of a channel. -/
theorem count_time (time : UInt32) :
    (log.map fun entry => (entry.1, entry.2.timestamp)).count (c, time) =
      ((framesOf c log).map Message.timestamp).count time := by
  unfold framesOf List.count
  rw [List.map_map, List.countP_map, List.countP_map, List.countP_filter]
  refine List.countP_congr fun entry _ => ?_
  simp only [Function.comp, Bool.and_eq_true, beq_iff_eq, Prod.mk.injEq]
  exact And.comm

end Times

namespace Account

variable {c : UInt32} {log delivered : List (UInt32 × Message)} (h : Account s log delivered)

include h

/-- What was handed over on a channel are frames that were admitted, in order. -/
theorem delivered_sublist : ((framesOf c delivered).map (Message.inBuffer 0)).Sublist
    ((framesOf c (timedFrom 0 log)).map (Message.inBuffer 0)) := by
  refine .trans ?_ (h.ledger c)
  rw [List.map_append]
  exact List.sublist_append_left _ _

/-- The frames that a read would find have increasing times. -/
theorem increasing_pending {ch : Channel} (hfound : s.channels.get? c = some ch)
    (hle : log.length + ch.admitted.length ≤ lastUnwrapped) :
    Increasing (ch.pending s.clock) := by
  have hlength : (log ++ ch.admitted.map (c, ·)).length ≤ lastUnwrapped := by
    rw [List.length_append, List.length_map]
    exact hle
  have hlog : framesOf c (timedFrom 0 (log ++ ch.admitted.map (c, ·))) =
      framesOf c (timedFrom 0 log) ++ stampFrom s.clock ch.admitted := by
    rw [timedFrom_append, framesOf_append, timedFrom_map, framesOf_map_self, Nat.zero_add,
      h.clock_eq]
  have hqueue := (h.suffix c).sublist
  rw [queue_of_get? hfound] at hqueue
  refine (increasing_framesOf (c := c) hlength).of_sublist ?_
  rw [hlog]
  exact hqueue.append_right _

variable (hle : log.length ≤ lastUnwrapped)

include hle

theorem increasing_queue : Increasing (s.queue c) :=
  (increasing_framesOf hle).of_sublist (h.suffix c).sublist

theorem increasing_delivered : Increasing (framesOf c delivered) :=
  increasing_map_inBuffer.1
    ((increasing_map_inBuffer.2 (increasing_framesOf hle)).of_sublist h.delivered_sublist)

/-- Frames of one channel are handed over once each, and frames of different channels have different
times. -/
theorem nodup_delivered : (delivered.map fun entry => entry.2.timestamp).Nodup := by
  have hchannels : (delivered.map fun entry => (entry.1, entry.2.timestamp)).Subperm
      ((timedFrom 0 log).map fun entry => (entry.1, entry.2.timestamp)) := by
    refine List.subperm_ext_iff.2 fun ⟨c, time⟩ _ => ?_
    rw [count_time, count_time]
    have htimes := (h.delivered_sublist (c := c)).map Message.timestamp
    rw [List.map_map, List.map_map] at htimes
    exact htimes.count_le time
  have hlog : ((timedFrom 0 log).map fun entry => entry.2.timestamp).Nodup := by
    refine List.pairwise_map.2 ((pairwise_timedFrom hle).imp fun hlt heq => ?_)
    exact UInt32.ne_of_lt hlt heq
  obtain ⟨pairs, hperm, hsublist⟩ := hchannels
  have htimes := hsublist.map Prod.snd
  rw [List.map_map] at htimes
  have hdelivered := hperm.map Prod.snd
  rw [List.map_map] at hdelivered
  exact hdelivered.nodup_iff.1 (hlog.sublist htimes)

end Account

theorem handedOver_channel (s : State) (event : Event w) :
    ∃ c, framesOf c (s.handedOver event) = (s.handedOver event).map Prod.snd := by
  unfold handedOver
  split
  · next channel slots count timeout =>
    refine ⟨channel.narrow, ?_⟩
    dsimp only
    rw [framesOf_map_self, List.map_map]
    exact (List.map_id _).symm
  · exact ⟨0, rfl⟩

theorem deliveryLog_channel (s : State) (events : List (Event w)) :
    ∀ delivery ∈ s.deliveryLog events, ∃ c, framesOf c delivery = delivery.map Prod.snd := by
  induction events generalizing s with
  | nil => exact fun _ hmem => absurd hmem List.not_mem_nil
  | cons event events ih =>
    intro delivery hmem
    rcases List.mem_cons.1 hmem with rfl | hmem
    · exact handedOver_channel s event
    · exact ih (s.after event) delivery hmem

/-- What one event of a run hands over has increasing times. -/
theorem increasing_delivery {n : Nat} {events : List (Event w)}
    (hle : ((State.start n).admissionLog events).length ≤ lastUnwrapped)
    {delivery : List (UInt32 × Message)} (hmem : delivery ∈ (State.start n).deliveryLog events) :
    Increasing (delivery.map Prod.snd) := by
  obtain ⟨c, heq⟩ := deliveryLog_channel _ events delivery hmem
  have hall := ((account_start n).run events).increasing_delivered (c := c) hle
  rw [← heq]
  exact hall.of_sublist (framesOf_sublist (List.sublist_flatten_of_mem hmem))

end PassThru.Emulator
