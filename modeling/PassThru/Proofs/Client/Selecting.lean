import PassThru.Proofs.Client.Answers
import PassThru.Proofs.Client.Reading
import PassThru.Proofs.Emulator.Waiting

/-!
# Selecting through a client

A client asks which of several channels are ready. The library lets in the frames of each channel
that it looks at, so the answer is exact; and letting frames in decides about their times only, so
that a reader does not notice whether a select came before.

* `readMsgs_untimed`: what a read answers and leaves is a matter of the frames that wait.
* `readMsgs_congr`: so two states with the same frames waiting read alike.
* `select_answer`: the channels that are answered.
* `waiting_select`: a select leaves what waits, whatever becomes of it.
* `selects_ready` puts these together.
-/

namespace PassThru.Emulator

variable {w : Width}

/-! ## What a read makes of the frames that wait -/

/-- An answer with the times of its frames forgotten. -/
def untimed (answer : Answer (List Message)) : Answer (List Message) :=
  answer.map (List.map Message.untimed)

theorem fitting_map_untimed (size : UInt32) (frames : List Message) :
    fitting size (frames.map Message.untimed) = (fitting size frames).map Message.untimed :=
  List.takeWhile_map ..

/-- What a read of at most `max` frames answers, given those that wait. -/
def readAnswer (size : UInt32) (max : Nat) (timeout : UInt32) (waiting : List Message) :
    Answer (List Message) :=
  let whole := fitting size (waiting.take max)
  if whole.length < (waiting.take max).length then .error (.vendor .bufferTooSmall)
  else if waiting = [] then .error (.vendor (if timeout = 0 then .bufferEmpty else .timeout))
  else .ok (whole.map (Message.inBuffer size))

/-- The frames that a read of at most `max` leaves, of those that wait. -/
def readLeaves (size : UInt32) (max : Nat) (waiting : List Message) : List Message :=
  waiting.drop (fitting size (waiting.take max)).length

/-- The times of the frames that are read decide about nothing but the times in the answer. -/
theorem untimed_readAnswer (size : UInt32) (max : Nat) (timeout : UInt32) (frames : List Message) :
    untimed (readAnswer size max timeout frames) =
      readAnswer size max timeout (frames.map Message.untimed) := by
  unfold readAnswer
  dsimp only
  rw [← List.map_take, fitting_map_untimed, List.length_map, List.length_map]
  simp only [List.map_eq_nil_iff]
  split
  · rfl
  · split
    · rfl
    · show Except.ok _ = Except.ok _
      rw [List.map_map, List.map_map]
      rfl

section Read

variable {s : State} {id : UInt32} (settings : Settings) {max : Nat} (timeout : UInt32)

theorem readMsgs_closed (hclosed : s.channels.get? id = none) (hpos : 0 < max)
    (hle : max ≤ maxNumber) :
    let result := (⟨driver, settings⟩ : Client w State).readMsgs ⟨id⟩ max timeout s
    result.1 = .error (.vendor .invalidChannelId) ∧ result.2.channels = s.channels := by
  intro result
  have hresult : result = (Request.readMsgs (w := w) settings.rxBufferSize ⟨id⟩ max timeout).perform
    driver s := rfl
  have hgone : s.channels.get? (Word.of32 id : Word w).narrow = none := by
    rw [Word.narrow_of32]
    exact hclosed
  have hperform : perform s (readCall w settings.rxBufferSize id max timeout) = _ :=
    performRead_closed hgone _ _ _
  rw [hresult, readMsgs_request _ _ _ hpos hle]
  unfold Request.perform driver
  dsimp only
  rw [hperform]
  constructor
  · have hnone : min (Word.zero : Word w).toNat
        (List.replicate max (Message.emptySlot (w := w) settings.rxBufferSize)).length = 0 :=
      Nat.min_eq_left (Nat.zero_le _)
    exact finishRead_eq_error hnone rfl fun _ => rfl
  · rw [remember_channels]

variable {ch : Channel} (hfound : s.channels.get? id = some ch)

include hfound

/-- A read is about the frames that wait: they decide about the answer and about what is left. -/
theorem readMsgs_waiting (hpos : 0 < max) (hle : max ≤ maxNumber) :
    let size := settings.rxBufferSize
    let result := (⟨driver, settings⟩ : Client w State).readMsgs ⟨id⟩ max timeout s
    untimed result.1 = readAnswer size max timeout ch.waiting ∧
      ∃ ch', result.2.channels = s.channels.insert id ch' ∧ ch'.bus = [] ∧
        ch'.rx.map Message.untimed = readLeaves size max ch.waiting := by
  intro size result
  obtain ⟨hanswer, hchannels⟩ := readMsgs_eq (w := w) hfound settings timeout hpos hle
  have hanswer' : result.1 = readAnswer size max timeout (ch.pending s.clock) := hanswer
  refine ⟨?_, _, hchannels, rfl, ?_⟩
  · rw [hanswer', untimed_readAnswer, ch.untimed_pending]
  · show ((ch.pending s.clock).drop (fitting size ((ch.pending s.clock).take max)).length).map _ = _
    unfold readLeaves
    rw [List.map_drop, ch.untimed_pending, ← ch.untimed_pending s.clock, ← List.map_take,
      fitting_map_untimed, List.length_map]

end Read

/-- Whatever channel is read, what waits there decides about the answer and about what is left. -/
theorem readMsgs_untimed (s : State) (settings : Settings) (id : UInt32) {max : Nat}
    (timeout : UInt32) (hpos : 0 < max) (hle : max ≤ maxNumber) :
    let size := settings.rxBufferSize
    let result := (⟨driver, settings⟩ : Client w State).readMsgs ⟨id⟩ max timeout s
    untimed result.1 =
        (match s.waiting id with
        | some waiting => readAnswer size max timeout waiting
        | none => .error (.vendor .invalidChannelId)) ∧
      result.2.waiting = (fun k =>
        if k = id then (s.waiting id).map (readLeaves size max) else s.waiting k) ∧
      ∀ ch, result.2.channels.get? id = some ch → ch.bus = [] := by
  intro size result
  cases hfound : s.channels.get? id with
  | none =>
    obtain ⟨hanswer, hchannels⟩ :=
      readMsgs_closed (w := w) settings timeout hfound hpos hle
    have hwaiting : s.waiting id = none := congrArg (Option.map _) hfound
    refine ⟨?_, ?_, fun ch hget => ?_⟩
    · rw [hwaiting, hanswer]
      rfl
    · rw [waiting_congr hchannels]
      funext k
      split
      · next hk => rw [hk, hwaiting]; rfl
      · rfl
    · rw [hchannels, hfound] at hget
      cases hget
  | some ch =>
    obtain ⟨hanswer, ch', hchannels, hbus, hrx⟩ :=
      readMsgs_waiting (w := w) settings timeout hfound hpos hle
    have hwaiting : s.waiting id = some ch.waiting := congrArg (Option.map _) hfound
    refine ⟨?_, ?_, fun c hget => ?_⟩
    · rw [hwaiting]
      exact hanswer
    · funext k
      unfold State.waiting at hwaiting ⊢
      rw [hchannels, Table.get?_insert]
      split
      · rw [hwaiting, Option.map_some, Option.map_some, Channel.waiting_of_bus_nil hbus, hrx]
      · rfl
    · rw [hchannels] at hget
      rw [Table.eq_of_get?_insert_self hget]
      exact hbus

/-- A read is about what waits, whatever has been let in before. -/
theorem readMsgs_congr {s s' : State} (h : s'.waiting = s.waiting) (settings : Settings)
    (id : UInt32) (max : Nat) (timeout : UInt32) :
    let client : Client w State := ⟨driver, settings⟩
    let result := client.readMsgs ⟨id⟩ max timeout s
    let result' := client.readMsgs ⟨id⟩ max timeout s'
    untimed result'.1 = untimed result.1 ∧ result'.2.waiting = result.2.waiting := by
  intro client result result'
  rcases Nat.eq_zero_or_pos max with rfl | hpos
  · exact ⟨rfl, h⟩
  · by_cases hle : max ≤ maxNumber
    · obtain ⟨hanswer, hleft, -⟩ :=
        readMsgs_untimed (w := w) s settings id timeout hpos hle
      obtain ⟨hanswer', hleft', -⟩ :=
        readMsgs_untimed (w := w) s' settings id timeout hpos hle
      exact ⟨by rw [hanswer, hanswer', h], by rw [hleft, hleft', h]⟩
    · have hsame : result = _ := readMsgs_of_lt settings id timeout s (Nat.not_le.1 hle)
      have hsame' : result' = _ := readMsgs_of_lt settings id timeout s' (Nat.not_le.1 hle)
      exact ⟨by rw [hsame, hsame'], by rw [hsame, hsame']; exact h⟩

/-- After a read the bus is empty, so that what waits is the receive queue. -/
theorem rx_of_readMsgs {s s' : State} (h : s'.waiting = s.waiting) (settings : Settings)
    (id : UInt32) {max : Nat} (timeout : UInt32) (hpos : 1 ≤ max) (hle : max ≤ maxNumber)
    {ch ch' : Channel} :
    let client : Client w State := ⟨driver, settings⟩
    (client.readMsgs ⟨id⟩ max timeout s).2.channels.get? id = some ch →
      (client.readMsgs ⟨id⟩ max timeout s').2.channels.get? id = some ch' →
      ch.bus = [] ∧ ch'.bus = [] ∧ ch'.rx.map Message.untimed = ch.rx.map Message.untimed := by
  intro client hget hget'
  have hbus := (readMsgs_untimed (w := w) s settings id timeout hpos hle).2.2 ch hget
  have hbus' := (readMsgs_untimed (w := w) s' settings id timeout hpos hle).2.2 ch' hget'
  have hleft := congrFun (readMsgs_congr (w := w) h settings id max timeout).2 id
  unfold State.waiting at hleft
  rw [hget, hget', Option.map_some, Option.map_some, Option.some.injEq,
    Channel.waiting_of_bus_nil hbus, Channel.waiting_of_bus_nil hbus'] at hleft
  exact ⟨hbus, hbus', hleft⟩

/-! ## Selecting -/

/-- Channels as native numbers. -/
def nativeIds (channels : List ChannelId) : List (Word w) :=
  channels.map fun channel => .of32 channel.raw

@[simp] theorem length_nativeIds (channels : List ChannelId) :
    (nativeIds channels : List (Word w)).length = channels.length := List.length_map _

theorem narrow_nativeIds (channels : List ChannelId) :
    (nativeIds channels : List (Word w)).map Word.narrow = channels.map ChannelId.raw := by
  unfold nativeIds
  rw [List.map_map]
  exact List.map_congr_left fun channel _ => Word.narrow_of32 channel.raw

/-- The native form of a channel set that can be counted. -/
def nativeSet (set : ChannelSet) : NativeChannelSet w where
  count := .of32 (UInt32.ofNat set.channels.length)
  threshold := .of32 set.threshold
  list := pointerTo (nativeIds set.channels)

theorem encode_eq_nativeSet {set : ChannelSet} (h : Counts set.channels.length) :
    set.encode = .ok (nativeSet set : NativeChannelSet w) := by
  unfold ChannelSet.encode
  rw [count_of_counts _ h]
  rfl

theorem select_of_not_counts {set : ChannelSet} (h : ¬ Counts set.channels.length)
    (kind : SelectType) (timeout : UInt32) :
    (Request.select set kind timeout : Request w ChannelSet) =
      .settled (.error (.valueTooLarge "channel_count" maxNumber set.channels.length)) := by
  unfold Request.select
  rw [channelSet_roundTrip.refuses set h]
  rfl

/-- The call of a client that waits for channels. -/
def selectCall (set : ChannelSet) (kind : SelectType) (timeout : UInt32) : Call w :=
  .select (some (nativeSet set)) (.of32 (Coded.code kind)) (.of32 timeout)

theorem select_request {set : ChannelSet} (h : Counts set.channels.length) (kind : SelectType)
    (timeout : UInt32) :
    (Request.select set kind timeout : Request w ChannelSet) =
      .afterSuccess (selectCall set kind timeout) fun written =>
        ChannelSet.decode ((written.map (nativeSet set).received).getD (nativeSet set)) := by
  unfold Request.select
  rw [encode_eq_nativeSet h]
  rfl

theorem selectArguments_nativeSet {set : ChannelSet} (h : Counts set.channels.length)
    (hsome : set.channels ≠ []) (hthreshold : set.threshold.toNat ≤ set.channels.length) :
    selectArguments (some (nativeSet set : NativeChannelSet w)) (Coded.code SelectType.readable) =
      .ok (nativeSet set, set.channels.map ChannelId.raw) := by
  have hread : readList (nativeSet (w := w) set).count (nativeSet (w := w) set).list =
      .ok (nativeIds set.channels) := by
    unfold nativeSet
    dsimp only
    rw [← length_nativeIds (w := w)]
    exact readList_pointerTo (by rwa [length_nativeIds])
  have hempty : (nativeIds set.channels : List (Word w)).isEmpty = false := by
    rw [List.isEmpty_eq_false_iff]
    exact fun hnil => hsome (List.map_eq_nil_iff.1 hnil)
  have hnarrowThreshold : (nativeSet (w := w) set).threshold.narrow = set.threshold :=
    Word.narrow_of32 set.threshold
  unfold selectArguments
  simp only [Attempt.present, bind, Except.bind, beq_self_eq_true, Attempt.require, if_true, hread,
    hempty, Bool.not_false, hnarrowThreshold, length_nativeIds, hthreshold, decide_true,
    narrow_nativeIds]
  rfl

theorem decode_answerSelect {set : ChannelSet} (h : Counts set.channels.length)
    {ready : List UInt32} (hle : ready.length ≤ set.channels.length) :
    let own : NativeChannelSet w := nativeSet set
    ChannelSet.decode (own.received (answerSelect own ready)) =
      .ok ⟨set.threshold, ready.map ChannelId.mk⟩ := by
  intro own
  have hcount : (own.received (answerSelect own ready)).count.read "channel_count" =
      .ok (UInt32.ofNat ready.length) := Word.read_of32 _ _
  have hthreshold : (own.received (answerSelect own ready)).threshold.read "channel_threshold" =
      .ok set.threshold := Word.read_of32 _ _
  have hlist : ((own.received (answerSelect own ready)).list.getD []).take ready.length =
      ready.map Word.of32 := by
    obtain ⟨threshold, channels⟩ := set
    cases channels with
    | nil =>
      obtain rfl := List.length_eq_zero_iff.1 (Nat.le_zero.1 hle)
      rfl
    | cons channel channels =>
      let list : List (Word w) := nativeIds (channel :: channels)
      show (overwrite list (ready.map Word.of32 ++ list.drop ready.length)).take ready.length = _
      have hlength : (ready.map Word.of32 ++ list.drop ready.length).length = list.length := by
        rw [List.length_append, List.length_map, List.length_drop, length_nativeIds]
        exact Nat.add_sub_cancel' hle
      rw [overwrite_of_length hlength, List.take_left' (List.length_map _)]
  have hread := mapM_map_of_left_inverse (Word.read_of32 (w := w) "channel_list") ready
  unfold ChannelSet.decode
  simp only [hcount, hthreshold, toNat_count (Nat.le_trans hle h), hlist, hread, bind, Except.bind]
  rfl

theorem perform_selectCall {s : State} {set : ChannelSet} (h : Counts set.channels.length)
    (hsome : set.channels ≠ []) (hthreshold : set.threshold.toNat ≤ set.channels.length)
    (hopen : ∀ channel ∈ set.channels, s.channels.contains channel.raw = true) (timeout : UInt32) :
    let ids := set.channels.map ChannelId.raw
    let ready := ids.filter s.isReady
    let outcome := perform s (selectCall set .readable timeout : Call w)
    if ready.length < set.threshold.toNat then outcome.failure? = some .timeout
    else outcome.failure? = none ∧ outcome.memory = some (answerSelect (nativeSet set) ready) := by
  intro ids ready outcome
  have hready : (State.readyAmong ids s).1 = .ok ready := by
    refine readyAmong_answer fun id hmem => ?_
    obtain ⟨channel, hchannel, rfl⟩ := List.mem_map.1 hmem
    exact hopen channel hchannel
  have houtcome : outcome = performSelect s (some (nativeSet set))
      (.of32 (Coded.code SelectType.readable)) := rfl
  have hnarrow : (nativeSet (w := w) set).threshold.narrow = set.threshold :=
    Word.narrow_of32 set.threshold
  unfold performSelect at houtcome
  rw [Word.narrow_of32, selectArguments_nativeSet h hsome hthreshold] at houtcome
  dsimp only at houtcome
  generalize State.readyAmong ids s = result at hready houtcome
  obtain ⟨answer, s'⟩ := result
  obtain rfl : answer = .ok ready := hready
  dsimp only at houtcome
  rw [hnarrow] at houtcome
  by_cases hfew : ready.length < set.threshold.toNat
  · rw [if_pos hfew] at houtcome ⊢
    rw [houtcome]
  · rw [if_neg hfew] at houtcome ⊢
    rw [houtcome]
    exact ⟨rfl, rfl⟩

/-- A select leaves what waits on each channel, whatever it is about and whatever becomes of it. -/
theorem waiting_select (s : State) (settings : Settings) (set : ChannelSet) (kind : SelectType)
    (timeout : UInt32) :
    ((⟨driver, settings⟩ : Client w State).ask (.select set kind timeout) s).2.waiting =
      s.waiting := by
  by_cases h : Counts set.channels.length
  · show ((Request.select set kind timeout : Request w ChannelSet).perform driver s).2.waiting = _
    rw [select_request h]
    show (remember _ _ (performSelect s (some (nativeSet set)) _).state).waiting = _
    rw [waiting_congr (remember_channels _ _ _), performSelect_state]
    split
    · rfl
    · exact waiting_readyAmong _ s
  · show ((Request.select set kind timeout : Request w ChannelSet).perform driver s).2.waiting = _
    rw [select_of_not_counts h]
    rfl

theorem select_answer {s : State} {set : ChannelSet} (h : Counts set.channels.length)
    (hsome : set.channels ≠ []) (hthreshold : set.threshold.toNat ≤ set.channels.length)
    (hopen : ∀ channel ∈ set.channels, s.channels.contains channel.raw = true)
    (settings : Settings) (timeout : UInt32) :
    let ready := set.channels.filter fun channel => s.isReady channel.raw
    ((⟨driver, settings⟩ : Client w State).ask (.select set .readable timeout) s).1 =
      if set.threshold.toNat ≤ ready.length then .ok ⟨set.threshold, ready⟩
      else .error (.vendor .timeout) := by
  intro ready
  have hids : (set.channels.map ChannelId.raw).filter s.isReady = ready.map ChannelId.raw := by
    rw [List.filter_map]
    rfl
  have hcall := perform_selectCall (w := w) h hsome hthreshold hopen timeout
  dsimp only at hcall
  rw [hids, List.length_map] at hcall
  show ((Request.select set .readable timeout : Request w ChannelSet).perform driver s).1 = _
  rw [select_request h]
  by_cases hfew : ready.length < set.threshold.toNat
  · rw [if_pos hfew] at hcall
    rw [if_neg (Nat.not_le.2 hfew), perform_of_failed hcall rfl]
  · rw [if_neg hfew] at hcall
    have hle : (ready.map ChannelId.raw).length ≤ set.channels.length := by
      rw [List.length_map]
      exact List.length_filter_le ..
    have hmk : (ready.map ChannelId.raw).map ChannelId.mk = ready := by
      rw [List.map_map]
      exact List.map_id _
    rw [if_pos (Nat.not_lt.1 hfew), perform_of_succeeded hcall.1, hcall.2]
    show ChannelSet.decode ((nativeSet set).received _) = _
    rw [decode_answerSelect h hle, hmk]

/-- **Selecting.** A client that waits for channels that are open is answered with those where
something waits, in order and as often as it asked about them, if they are enough, and otherwise
that time ran out; only more channels than can be counted are not asked about at all. Whatever is
asked and answered, each channel has the frames that it had: a read after the select answers the
same but for the times of the frames, and leaves the same. -/
theorem selects_ready (s : State) (settings : Settings) :
    let client : Client w State := ⟨driver, settings⟩
    (∀ threshold channels timeout, channels ≠ [] →
      (∀ channel ∈ channels, s.channels.contains channel.raw = true) →
      threshold.toNat ≤ channels.length →
      let ready := channels.filter fun channel => s.isReady channel.raw
      let result := client.ask (.select ⟨threshold, channels⟩ .readable timeout) s
      (channels.length < UInt32.size →
        result.1 = if threshold.toNat ≤ ready.length then .ok ⟨threshold, ready⟩
          else .error (.vendor .timeout)) ∧
      (UInt32.size ≤ channels.length →
        result = (.error (.valueTooLarge "channel_count" maxNumber channels.length), s))) ∧
    ∀ set kind timeout,
      let s' := (client.ask (.select set kind timeout) s).2
      s'.waiting = s.waiting ∧
      ∀ id max timeout,
        let read := client.readMsgs ⟨id⟩ max timeout
        untimed (read s').1 = untimed (read s).1 ∧
        (read s').2.waiting = (read s).2.waiting ∧
        (1 ≤ max → max < UInt32.size → ∀ ch ch',
          (read s).2.channels.get? id = some ch → (read s').2.channels.get? id = some ch' →
          ch.bus = [] ∧ ch'.bus = [] ∧
            ch'.rx.map Message.untimed = ch.rx.map Message.untimed) := by
  intro client
  constructor
  · intro threshold channels timeout hsome hopen hthreshold ready result
    constructor
    · intro hlt
      have hcounts : Counts channels.length := Nat.le_pred_of_lt hlt
      show (client.ask (.select ⟨threshold, channels⟩ .readable timeout) s).1 = _
      exact select_answer hcounts hsome hthreshold hopen settings timeout
    · intro hge
      have hcounts : ¬ Counts channels.length := by
        unfold Counts maxNumber
        have : 0 < UInt32.size := by decide
        omega
      show (Request.select ⟨threshold, channels⟩ .readable timeout : Request w ChannelSet).perform
        driver s = _
      rw [select_of_not_counts hcounts]
      rfl
  · intro set kind timeout s'
    have hwaiting : s'.waiting = s.waiting := waiting_select s settings set kind timeout
    refine ⟨hwaiting, fun id max timeout => ?_⟩
    obtain ⟨hanswer, hleft⟩ := readMsgs_congr (w := w) hwaiting settings id max timeout
    refine ⟨hanswer, hleft, fun hpos hlt ch ch' hget hget' => ?_⟩
    exact rx_of_readMsgs hwaiting settings id timeout hpos (Nat.le_pred_of_lt hlt) hget hget'

/-- Of two channels one has frames; asked about it twice, a client is answered twice. A select that
ends at a channel that is not open loses nothing. -/
theorem selects_ready_twice :
    let second : Call .w64 :=
      .connect (.of32 1) (.of32 Protocol.can.code) .zero (.of32 500000)
        ⟨.of32 Connector.j1962, .of32 2, some [.of32 3, .of32 11]⟩ (some .zero)
    let s := (State.start 1).run (Event.twoFrames ++ [.call second])
    let client : Client .w64 State := ⟨driver, {}⟩
    let unknown := client.ask (.select ⟨1, [⟨1⟩, ⟨9⟩]⟩ .readable 0) s
    Reachable .w64 s ∧
      (client.ask (.select ⟨2, [⟨1⟩, ⟨2⟩, ⟨1⟩]⟩ .readable 0) s).1 = .ok ⟨2, [⟨1⟩, ⟨1⟩]⟩ ∧
      unknown.1 = .error (.vendor .invalidChannelId) ∧
      untimed (client.readMsgs ⟨1⟩ 2 0 unknown.2).1 = untimed (client.readMsgs ⟨1⟩ 2 0 s).1 := by
  intro second s client unknown
  obtain ⟨hanswers, hkeeps⟩ := selects_ready (w := .w64) s {}
  have htwice := (hanswers 2 [⟨1⟩, ⟨2⟩, ⟨1⟩] 0 (by decide) (by decide) (by decide)).1 (by decide)
  have hread := ((hkeeps ⟨1, [⟨1⟩, ⟨9⟩]⟩ .readable 0).2 1 2 0).1
  exact ⟨⟨1, _, rfl⟩, htwice.trans rfl, rfl, hread⟩

end PassThru.Emulator
