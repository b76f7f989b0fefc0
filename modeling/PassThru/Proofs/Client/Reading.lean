import Mathlib.Data.List.TakeWhile
import PassThru.Client
import PassThru.Proofs.Emulator.Run

/-!
# Reading through a client

A client reads into buffers of one size, and the library hands over frames until it meets one that
is longer. What the client then answers is the failure; the frames in front of the long one have
left the receive queue and are answered to nobody.

* `readMsgs_eq`: what a read answers, and the state it leaves.
* `readMsgs_first`: it answers exactly the first frames of what is pending, whatever the timeout, or
  fails for one of three reasons.
* `lost`: how many frames it loses.
* `reads_conserve_iff`: otherwise the frames that are answered and the frames that stay are what was
  pending, in order; a read loses nothing exactly if `lost` is zero.
-/

namespace PassThru.Emulator

variable {w : Width}

/-- The frames of an answer; a failure has none. -/
def answered : Answer (List Message) → List Message
  | .ok frames => frames
  | .error _ => []

/-- The frames of an answer and those that stay are `frames`, up to the size of their buffers. -/
def Conserves (answer : Answer (List Message)) (stay frames : List Message) : Prop :=
  (answered answer ++ stay).map (Message.inBuffer 0) = frames.map (Message.inBuffer 0)

instance (answer : Answer (List Message)) (stay frames : List Message) :
    Decidable (Conserves answer stay frames) := inferInstanceAs (Decidable (_ = _))

/-- How many frames are lost when at most `max` of those that are pending are read into buffers of
a size: those in front of one that is too long. A read of more frames than a native count can say
is not put to the library. -/
def lost (size : UInt32) (max : Nat) (pending : List Message) : Nat :=
  if max ≤ maxNumber ∧ (fitting size (pending.take max)).length < (pending.take max).length then
    (fitting size (pending.take max)).length
  else 0

/-- What a client gets, and leaves, when it reads at most `max` frames of a channel, with a timeout
of its own or a batch as its settings say. -/
def IsRead (w : Width) (settings : Settings) (id : UInt32) (max : Nat) (s : State)
    (result : Answer (List Message) × State) : Prop :=
  let client : Client w State := ⟨driver, settings⟩
  (∃ timeout, result = client.readMsgs ⟨id⟩ max timeout s) ∨
    (result = client.readBatch ⟨id⟩ s ∧ max = settings.readBatchSize.toNat)

theorem fitting_length_le (size : UInt32) (frames : List Message) :
    (fitting size frames).length ≤ frames.length := (List.takeWhile_sublist _).length_le

theorem fitting_eq_iff {size : UInt32} {frames : List Message} :
    fitting size frames = frames ↔ ∀ frame ∈ frames, frame.data.length ≤ size.toNat := by
  unfold fitting
  rw [List.takeWhile_eq_self_iff]
  simp only [decide_eq_true_eq]

theorem fitting_eq_of_length {size : UInt32} {frames : List Message}
    (h : ¬ (fitting size frames).length < frames.length) : fitting size frames = frames := by
  refine (List.takeWhile_prefix _).eq_of_length ?_
  exact Nat.le_antisymm (fitting_length_le size frames) (Nat.not_lt.1 h)

/-! ## The reply to a read -/

/-- How many of the slots that it handed over a client takes for filled. -/
theorem finishRead_count {count max : Nat} (hcount : count ≤ max) (hmax : max ≤ maxNumber)
    (slot : NativeMessage w) :
    min (Word.of32 (w := w) (UInt32.ofNat count)).toNat (List.replicate max slot).length = count := by
  have hsmall : count < UInt32.size := by
    unfold maxNumber at hmax
    have : 0 < UInt32.size := by decide
    omega
  rw [Word.toNat_of32, UInt32.toNat_ofNat_of_lt' hsmall, List.length_replicate]
  exact Nat.min_eq_left hcount

section FinishRead

variable {slots written : List (NativeMessage w)} {count : Nat} {status : Status}
  {number : Word w} (hnumber : min number.toNat slots.length = count)

include hnumber

theorem finishRead_eq_error {e : Error} (hcheck : ErrorCode.check status = .error e)
    (hhard : status = ErrorCode.timeout.asStatus → count = 0) :
    Request.finishRead slots status ⟨some written, some number⟩ = .error e := by
  have hskip : ¬ (status = ErrorCode.timeout.asStatus ∧ 0 < min number.toNat slots.length) := by
    rintro ⟨hstatus, hpos⟩
    rw [hnumber, hhard hstatus] at hpos
    exact Nat.lt_irrefl 0 hpos
  unfold Request.finishRead
  simp only [Option.getD_some, if_neg hskip, hcheck, bind, Except.bind]

theorem finishRead_eq_decode
    (hsoft : status = Status.noError ∨ status = ErrorCode.timeout.asStatus ∧ 0 < count) :
    Request.finishRead slots status ⟨some written, some number⟩ =
      Message.decodeFirst count (NativeMessage.receivedAll (slots.take count) written) := by
  unfold Request.finishRead
  simp only [Option.getD_some, hnumber]
  by_cases hskip : status = ErrorCode.timeout.asStatus ∧ 0 < count
  · rw [if_pos hskip]
  · obtain rfl := hsoft.resolve_right hskip
    rw [if_neg hskip]
    rfl

end FinishRead

theorem finishRead_deliver (size : UInt32) {max : Nat} (hpos : 0 < max) (hle : max ≤ maxNumber)
    (timeout : UInt32) (pending : List Message) (s : State) :
    let slot : NativeMessage w := Message.emptySlot size
    let delivery := deliver max pending (List.replicate max slot)
    let outcome : Outcome (MessageMemory w) :=
      ⟨delivery.failure? max timeout,
        ⟨some delivery.slots, some (.of32 (UInt32.ofNat delivery.count))⟩, s⟩
    Request.finishRead (List.replicate max slot) outcome.status outcome.memory =
      if (fitting size (pending.take max)).length < (pending.take max).length then
        .error (.vendor .bufferTooSmall)
      else if pending = [] then
        .error (.vendor (if timeout = 0 then .bufferEmpty else .timeout))
      else .ok ((fitting size (pending.take max)).map (Message.inBuffer size)) := by
  intro slot delivery outcome
  have hcount : delivery.count = (fitting size (pending.take max)).length :=
    deliver_count_emptySlots size max pending
  have hrefused := deliver_refused_emptySlots (w := w) size max pending
  have hdecode := decode_deliver (w := w) size max pending
  have hnumber := finishRead_count (deliver_count_le max pending (List.replicate max slot)).1 hle slot
  show Request.finishRead _ (Outcome.status ⟨delivery.failure? max timeout, _, s⟩) _ = _
  unfold Delivery.failure?
  by_cases hshort : (fitting size (pending.take max)).length < (pending.take max).length
  · -- a frame was too long
    have htrue : delivery.refused = true := hrefused.trans (decide_eq_true hshort)
    have hother : ErrorCode.bufferTooSmall.asStatus ≠ ErrorCode.timeout.asStatus := by decide
    rw [if_pos htrue, if_pos hshort]
    exact finishRead_eq_error hnumber rfl fun h => absurd h hother
  · have hfalse : ¬ delivery.refused = true := by
      rw [show delivery.refused = _ from hrefused, decide_eq_true_eq]
      exact hshort
    rw [fitting_eq_of_length hshort] at hcount
    rw [if_neg hfalse, if_neg hshort]
    by_cases hempty : pending = []
    · have hzero : delivery.count = 0 := by rw [hcount, hempty, List.take_nil, List.length_nil]
      rw [if_pos ⟨hpos, hzero⟩, if_pos hempty]
      by_cases htimeout : timeout = 0
      · have hother : ErrorCode.bufferEmpty.asStatus ≠ ErrorCode.timeout.asStatus := by decide
        rw [if_pos htimeout]
        exact finishRead_eq_error hnumber rfl fun h => absurd h hother
      · rw [if_neg htimeout]
        exact finishRead_eq_error hnumber rfl fun _ => hzero
    · have hsome : 0 < delivery.count := by
        rw [hcount, List.length_take]
        have := List.length_pos_iff.2 hempty
        omega
      rw [if_neg (fun h => absurd h.2 (Nat.ne_of_gt hsome)), if_neg hempty]
      have htake : (List.replicate max slot).take delivery.count =
          List.replicate delivery.count slot := by
        rw [List.take_replicate, Nat.min_eq_left (deliver_count_le _ _ _).1]
      rw [finishRead_eq_decode hnumber, htake]
      · exact hdecode
      · split
        · exact .inr ⟨rfl, hsome⟩
        · exact .inl rfl

theorem readMsgs_of_lt (settings : Settings) (id : UInt32) {max : Nat} (timeout : UInt32) (s : State)
    (hgt : maxNumber < max) :
    (⟨driver, settings⟩ : Client w State).readMsgs ⟨id⟩ max timeout s =
      (.error (.valueTooLarge "num_msgs" maxNumber max), s) := by
  have hpos : max ≠ 0 := by omega
  unfold Client.readMsgs Client.ask Request.readMsgs Word.count
  rw [if_neg hpos, if_neg (Nat.not_le.2 hgt)]
  rfl

/-- The call of a client that reads at most `max` frames of a channel into buffers of a size. -/
def readCall (w : Width) (size id : UInt32) (max : Nat) (timeout : UInt32) : Call w :=
  .readMsgs (.of32 id) (some (List.replicate max (Message.emptySlot size)))
    (some (.of32 (UInt32.ofNat max))) (.of32 timeout)

theorem readMsgs_request (size id timeout : UInt32) {max : Nat} (hpos : 0 < max)
    (hle : max ≤ maxNumber) :
    Request.readMsgs (w := w) size ⟨id⟩ max timeout =
      .ask (readCall w size id max timeout) fun reply =>
        Request.finishRead (List.replicate max (Message.emptySlot size)) reply.status
          reply.memory := by
  unfold Request.readMsgs Word.count
  rw [if_neg (Nat.ne_of_gt hpos), if_pos hle, Message.receiveSlots_eq]
  rfl

section Read

variable {s : State} {id : UInt32} {ch : Channel} (hfound : s.channels.get? id = some ch)
  (settings : Settings) {max : Nat} (timeout : UInt32)

include hfound

theorem perform_readCall (size : UInt32) (hle : max ≤ maxNumber) :
    let delivery := deliver max (ch.pending s.clock)
      (List.replicate max (Message.emptySlot (w := w) size))
    perform s (readCall w size id max timeout) =
      ⟨delivery.failure? max timeout,
        ⟨some delivery.slots, some (.of32 (UInt32.ofNat delivery.count))⟩,
        s.afterRead id ch delivery.count⟩ := by
  have hnarrow : (UInt32.ofNat max).toNat = max :=
    UInt32.toNat_ofNat_of_lt' (Nat.lt_of_le_of_lt hle (by decide))
  have hopen : s.channels.get? (Word.of32 id : Word w).narrow = some ch := by
    rw [Word.narrow_of32]
    exact hfound
  have hread := performRead_eq hopen (List.replicate max (Message.emptySlot size))
    (.of32 (UInt32.ofNat max)) (.of32 timeout)
  simp only [Word.narrow_of32, hnarrow] at hread
  exact hread

theorem readMsgs_eq (hpos : 0 < max) (hle : max ≤ maxNumber) :
    let pending := ch.pending s.clock
    let whole := fitting settings.rxBufferSize (pending.take max)
    let result := (⟨driver, settings⟩ : Client w State).readMsgs ⟨id⟩ max timeout s
    result.1 =
        (if whole.length < (pending.take max).length then .error (.vendor .bufferTooSmall)
        else if pending = [] then
          .error (.vendor (if timeout = 0 then .bufferEmpty else .timeout))
        else .ok (whole.map (Message.inBuffer settings.rxBufferSize))) ∧
      result.2.channels = (s.afterRead id ch whole.length).channels := by
  intro pending whole result
  have hresult : result = (Request.readMsgs (w := w) settings.rxBufferSize ⟨id⟩ max timeout).perform
    driver s := rfl
  rw [hresult, readMsgs_request _ _ _ hpos hle]
  unfold Request.perform driver
  dsimp only
  rw [perform_readCall hfound timeout settings.rxBufferSize hle]
  constructor
  · exact finishRead_deliver settings.rxBufferSize hpos hle timeout pending _
  · rw [remember_channels]
    dsimp only
    rw [deliver_count_emptySlots]

/-- A read leaves everything else as it was, but for the clock and what the library remembers. -/
theorem readMsgs_state (hpos : 0 < max) (hle : max ≤ maxNumber) :
    ∃ last, ((⟨driver, settings⟩ : Client w State).readMsgs ⟨id⟩ max timeout s).2 =
      { s.afterRead id ch (fitting settings.rxBufferSize ((ch.pending s.clock).take max)).length with
        lastFailure := last } := by
  have hresult : (⟨driver, settings⟩ : Client w State).readMsgs ⟨id⟩ max timeout s =
    (Request.readMsgs (w := w) settings.rxBufferSize ⟨id⟩ max timeout).perform driver s := rfl
  rw [hresult, readMsgs_request _ _ _ hpos hle]
  unfold Request.perform driver
  dsimp only
  rw [perform_readCall hfound timeout settings.rxBufferSize hle, ← deliver_count_emptySlots (w := w)]
  exact remember_eq _ _ _

/-- The library reports a timeout for a read that was to wait and got fewer frames than it asked
for, also if there were some. -/
theorem readCall_status {size : UInt32} (hle : max ≤ maxNumber)
    (hfit : fitting size ((ch.pending s.clock).take max) = (ch.pending s.clock).take max)
    (hsome : ch.pending s.clock ≠ []) (hshort : (ch.pending s.clock).length < max)
    (htimeout : timeout ≠ 0) :
    (driver (readCall w size id max timeout) s).1.status = ErrorCode.timeout.asStatus := by
  have hperform := perform_readCall (w := w) hfound timeout size hle
  have hcount := deliver_count_emptySlots (w := w) size max (ch.pending s.clock)
  have hrefused := deliver_refused_emptySlots (w := w) size max (ch.pending s.clock)
  have hpos := List.length_pos_iff.2 hsome
  rw [hfit, List.length_take, Nat.min_eq_right (Nat.le_of_lt hshort)] at hcount
  rw [hfit, decide_eq_false (Nat.lt_irrefl _)] at hrefused
  show (perform s (readCall w size id max timeout)).status = _
  rw [hperform]
  unfold Outcome.status Delivery.failure?
  dsimp only
  rw [hrefused, hcount, if_neg Bool.false_ne_true, if_neg (by omega), if_pos ⟨hshort, htimeout⟩]

end Read

/-! ## What a read does to the frames that are pending -/

theorem lost_le (size : UInt32) (max : Nat) (pending : List Message) :
    lost size max pending ≤ pending.length := by
  have hfit := fitting_length_le size (pending.take max)
  have htake := List.length_take_le' max pending
  unfold lost
  split <;> omega

theorem conserves_iff {answer : Answer (List Message)} {stay frames : List Message} {n : Nat}
    (hn : n ≤ frames.length) (h : Conserves answer stay (frames.drop n)) :
    Conserves answer stay frames ↔ n = 0 := by
  constructor
  · intro hall
    have hlength := congrArg List.length (hall.symm.trans h)
    simp only [List.length_map, List.length_drop] at hlength
    omega
  · rintro rfl
    exact h

/-- The frames that are answered are the first ones, and the others stay. -/
theorem conserves_take (size : UInt32) (n : Nat) (frames : List Message) :
    Conserves (.ok ((frames.take n).map (Message.inBuffer size))) (frames.drop n) frames := by
  have hsize : Message.inBuffer 0 ∘ Message.inBuffer size = Message.inBuffer 0 := by
    funext frame
    rfl
  unfold Conserves answered
  rw [List.map_append, List.map_map, hsize, ← List.map_append, List.take_append_drop]

/-- **Reading.** Whatever a client answers to a read of a channel, the frames that it answers and
those that are still pending are what was pending, in order, but for the `lost` ones at the front.
Nothing is missing exactly if that is none, and otherwise the answer is that a buffer was too
small. -/
theorem reads_conserve_iff {s : State} {id : UInt32} {ch : Channel}
    (hfound : s.channels.get? id = some ch) {settings : Settings} {max : Nat} (hpos : 0 < max)
    {result : Answer (List Message) × State} (hread : IsRead w settings id max s result) :
    let pending := ch.pending s.clock
    let gone := lost settings.rxBufferSize max pending
    ∃ ch', result.2.channels.get? id = some ch' ∧ (max ≤ maxNumber → ch'.bus = []) ∧
      Conserves result.1 (ch'.pending result.2.clock) (pending.drop gone) ∧
      (Conserves result.1 (ch'.pending result.2.clock) pending ↔ gone = 0) ∧
      (gone ≠ 0 → result.1 = .error (.vendor .bufferTooSmall)) := by
  intro pending gone
  obtain ⟨timeout, rfl⟩ : ∃ timeout,
      result = (⟨driver, settings⟩ : Client w State).readMsgs ⟨id⟩ max timeout s := by
    rcases hread with hmsgs | ⟨hbatch, hmax⟩
    · exact hmsgs
    · exact ⟨settings.defaultTimeoutMs, by rw [hbatch, hmax]; rfl⟩
  have hiff : ∀ {answer stay}, Conserves answer stay (pending.drop gone) →
      (Conserves answer stay pending ↔ gone = 0) := conserves_iff (lost_le _ max pending)
  by_cases hle : max ≤ maxNumber
  · obtain ⟨hanswer, hchannels⟩ := readMsgs_eq (w := w) hfound settings timeout hpos hle
    have hafter : ((⟨driver, settings⟩ : Client w State).readMsgs ⟨id⟩ max timeout
        s).2.channels.get? id = some { ch with
          bus := []
          rx := pending.drop (fitting settings.rxBufferSize (pending.take max)).length } := by
      rw [hchannels]
      exact Table.get?_insert_self _ _ _
    refine ⟨_, hafter, fun _ => rfl, ?_⟩
    rw [Channel.pending_of_bus_nil rfl, hanswer]
    dsimp only
    by_cases hshort : (fitting settings.rxBufferSize (pending.take max)).length <
        (pending.take max).length
    · -- the frames in front of the one that is too long are gone
      have hgone : gone = (fitting settings.rxBufferSize (pending.take max)).length :=
        if_pos ⟨hle, hshort⟩
      rw [if_pos hshort, ← hgone]
      have hrest : Conserves (.error (.vendor .bufferTooSmall)) (pending.drop gone)
          (pending.drop gone) := rfl
      exact ⟨hrest, hiff hrest, fun _ => rfl⟩
    · have hnone : gone = 0 := if_neg fun h => hshort h.2
      have hrest : Conserves
          (if pending = [] then .error (.vendor (if timeout = 0 then .bufferEmpty else .timeout))
          else .ok ((pending.take max).map (Message.inBuffer settings.rxBufferSize)))
          (pending.drop (pending.take max).length) (pending.drop gone) := by
        rw [hnone, List.drop_zero, List.length_take, ← List.drop_eq_drop_min]
        split
        · next hempty => rw [hempty, List.drop_nil]; rfl
        · exact conserves_take _ max pending
      rw [if_neg hshort, fitting_eq_of_length hshort]
      exact ⟨hrest, hiff hrest, fun h => absurd hnone h⟩
  · have hsame := readMsgs_of_lt (w := w) settings id timeout s (Nat.not_le.1 hle)
    have hnone : gone = 0 := if_neg fun h => hle h.1
    rw [hsame, hnone]
    refine ⟨ch, hfound, fun h => absurd h hle, ?_, ?_, fun h => absurd rfl h⟩
    · rfl
    · exact iff_of_true rfl rfl

/-- Read into buffers of four bytes, the first of the two frames is lost. -/
theorem read_loses_frame :
    let s := (State.start 1).run (Event.twoFrames (w := .w64))
    let client : Client .w64 State := ⟨driver, { rxBufferSize := 4 }⟩
    let result := client.readMsgs ⟨1⟩ 2 0 s
    Reachable .w64 s ∧ result.1 = .error (.vendor .bufferTooSmall) ∧
      ∃ ch ch', s.channels.get? 1 = some ch ∧ result.2.channels.get? 1 = some ch' ∧
        ¬ Conserves result.1 (ch'.pending result.2.clock) (ch.pending s.clock) := by
  intro s client result
  exact ⟨⟨1, Event.twoFrames, rfl⟩, rfl, _, _, rfl, rfl, by decide⟩

/-- That is the one frame that `lost` counts. -/
theorem reads_conserve_iff_twoFrames :
    let s := (State.start 1).run (Event.twoFrames (w := .w64))
    let settings : Settings := { rxBufferSize := 4 }
    let result := (⟨driver, settings⟩ : Client .w64 State).readMsgs ⟨1⟩ 2 0 s
    ∃ ch ch', s.channels.get? 1 = some ch ∧ result.2.channels.get? 1 = some ch' ∧
      lost 4 2 (ch.pending s.clock) = 1 ∧
      Conserves result.1 (ch'.pending result.2.clock) ((ch.pending s.clock).drop 1) := by
  intro s settings result
  obtain ⟨ch, hfound⟩ : ∃ ch, s.channels.get? 1 = some ch := ⟨_, rfl⟩
  have hread : IsRead .w64 settings 1 2 s result := .inl ⟨0, rfl⟩
  obtain ⟨ch', hafter, -, hconserves, -⟩ := reads_conserve_iff hfound (by decide) hread
  have hlost : lost 4 2 (ch.pending s.clock) = 1 := by
    obtain rfl := Option.some.inj hfound
    decide
  refine ⟨ch, ch', hfound, hafter, hlost, ?_⟩
  rw [← hlost]
  exact hconserves

/-! ## What a read answers -/

/-- What a read answers, in terms of the first `k` frames that are pending. -/
theorem readMsgs_answer {s : State} {id : UInt32} {ch : Channel}
    (hfound : s.channels.get? id = some ch) (settings : Settings) {max : Nat} (hpos : 0 < max)
    (hle : max ≤ maxNumber) (timeout : UInt32) :
    let q := ch.pending s.clock
    let k := min max q.length
    let size := settings.rxBufferSize
    ((⟨driver, settings⟩ : Client w State).readMsgs ⟨id⟩ max timeout s).1 =
      if ∀ frame ∈ q.take k, frame.data.length ≤ size.toNat then
        if k = 0 then .error (.vendor (if timeout = 0 then .bufferEmpty else .timeout))
        else .ok ((q.take k).map (Message.inBuffer size))
      else .error (.vendor .bufferTooSmall) := by
  intro q k size
  have htake : q.take max = q.take k := List.take_eq_take_min
  have hempty : q = [] ↔ k = 0 := by
    rw [← List.length_eq_zero_iff]
    omega
  have hanswer := (readMsgs_eq (w := w) hfound settings timeout hpos hle).1
  change _ = (if (fitting size (q.take max)).length < (q.take max).length then _
    else if q = [] then _ else Except.ok ((fitting size (q.take max)).map _)) at hanswer
  rw [hanswer, htake]
  by_cases hfit : ∀ frame ∈ q.take k, frame.data.length ≤ size.toNat
  · rw [fitting_eq_iff.2 hfit, if_neg (Nat.lt_irrefl _), if_pos hfit]
    simp only [hempty]
    rfl
  · have hshort : (fitting size (q.take k)).length < (q.take k).length := by
      by_contra hshort
      exact hfit (fitting_eq_iff.1 (fitting_eq_of_length hshort))
    rw [if_pos hshort, if_neg hfit]

/-- **What a read answers.** Let `q` be the receive queue and, behind it, the frames on the bus that
the filters admit, with their times; a read of at most `max` frames is about the first `k` of them.
If all of these fit their buffers, they are the answer, in order and as they are but for the size of
their buffers, even if the library reports that it ran out of time; the rest stays. Without any
frame the answer is that the buffer is empty, or that time ran out if there was any to wait. If one
does not fit, the answer says so. No answer is an empty list. -/
theorem readMsgs_first {s : State} {id : UInt32} {ch : Channel}
    (hfound : s.channels.get? id = some ch) (settings : Settings) {max : Nat} (hpos : 1 ≤ max)
    (hle : max ≤ UInt32.size - 1) (timeout : UInt32) :
    let q := ch.rx ++ stampFrom s.clock (ch.bus.filter ch.admits)
    let k := min max q.length
    let size := settings.rxBufferSize
    let result := (⟨driver, settings⟩ : Client w State).readMsgs ⟨id⟩ max timeout s
    ((∀ frame ∈ q.take k, frame.data.length ≤ size.toNat) →
      (1 ≤ k →
        result.1 = .ok ((q.take k).map fun frame => { frame with bufferSize := size })) ∧
      (k = 0 → result.1 = .error (.vendor (if timeout = 0 then .bufferEmpty else .timeout))) ∧
      (1 ≤ k → k < max → timeout ≠ 0 →
        (driver (readCall w size id max timeout) s).1.status = ErrorCode.timeout.asStatus) ∧
      result.2.channels.get? id = some { ch with bus := [], rx := q.drop k }) ∧
    ((∃ frame ∈ q.take k, size.toNat < frame.data.length) →
      result.1 = .error (.vendor .bufferTooSmall)) ∧
    ∀ frames, result.1 = .ok frames → frames ≠ [] := by
  intro q k size result
  have hanswer : result.1 = if ∀ frame ∈ q.take k, frame.data.length ≤ size.toNat then
      if k = 0 then .error (.vendor (if timeout = 0 then .bufferEmpty else .timeout))
      else .ok ((q.take k).map (Message.inBuffer size))
    else .error (.vendor .bufferTooSmall) := readMsgs_answer hfound settings hpos hle timeout
  refine ⟨fun hfit => ?_, ?_, ?_⟩
  · rw [if_pos hfit] at hanswer
    have htake : q.take max = q.take k := List.take_eq_take_min
    have hwhole : fitting size (q.take max) = q.take max := by
      rw [htake]
      exact fitting_eq_iff.2 hfit
    refine ⟨fun hk => ?_, fun hk => ?_, fun hk hlt htimeout => ?_, ?_⟩
    · rw [hanswer, if_neg (Nat.ne_of_gt hk)]
      rfl
    · rw [hanswer, if_pos hk]
    · have hsome : q ≠ [] := List.length_pos_iff.1 (by omega)
      have hshort : q.length < max := by omega
      exact readCall_status hfound timeout hle hwhole hsome hshort htimeout
    · have hchannels : result.2.channels = s.channels.insert id { ch with
          bus := []
          rx := q.drop (fitting size (q.take max)).length } :=
        (readMsgs_eq (w := w) hfound settings timeout hpos hle).2
      rw [hchannels, Table.get?_insert_self, hwhole, List.length_take]
  · rintro ⟨frame, hframe, hlong⟩
    rw [hanswer, if_neg fun hfit => absurd (hfit frame hframe) (Nat.not_le.2 hlong)]
  · rintro frames hframes rfl
    rw [hframes] at hanswer
    split at hanswer
    · split at hanswer
      · cases hanswer
      · next hk =>
        have hlength := congrArg List.length (Except.ok.inj hanswer)
        rw [List.length_map, List.length_take, List.length_nil] at hlength
        omega
    · cases hanswer

/-- Two frames of four and six bytes are read into buffers of eight. -/
theorem readMsgs_first_twoFrames :
    let s := (State.start 1).run (Event.twoFrames (w := .w64))
    let settings : Settings := { rxBufferSize := 8 }
    let result := (⟨driver, settings⟩ : Client .w64 State).readMsgs ⟨1⟩ 3 10 s
    Reachable .w64 s ∧ ∃ first second : Message, result.1 = .ok [first, second] ∧
      first.data = [0, 0, 7, 0xE8] ∧ second.data = [0, 0, 7, 0xE8, 1, 2] := by
  intro s settings result
  obtain ⟨ch, hfound⟩ : ∃ ch, s.channels.get? 1 = some ch := ⟨_, rfl⟩
  have hpos : 1 ≤ 3 := by decide
  obtain ⟨hfits, -, -⟩ := readMsgs_first (w := .w64) hfound settings hpos (by decide) 10
  obtain rfl := Option.some.inj hfound
  obtain ⟨hok, -⟩ := hfits (by decide)
  exact ⟨⟨1, Event.twoFrames, rfl⟩, _, _, hok (by decide), rfl, rfl⟩

end PassThru.Emulator
