import PassThru.Proofs.Emulator.Queues
import PassThru.Proofs.Standard.Codes

/-!
# Delivery in order

A `Ledger` is what somebody who sees every call and its reply, and every frame that is put on a bus,
can write down about one channel: which frames arrived, which of them were looked at and whether the
filters admitted them then, and which frames were taken. It starts anew when the channel is
connected and when its receive queue is cleared.

* `Ledger.after`: the ledger after an event.
* `Ledger.Matches`: what the ledger says of the two queues of the channel.
* `tracks_after`: every event keeps the ledger true.
* `delivered_in_order`: so does every run.
-/

namespace PassThru.Emulator

variable {w : Width}

/-! ## Ledgers -/

/-- What is known of the frames of a channel. -/
structure Ledger where
  /-- The frames that were put on the bus. -/
  arrived : List Message := []
  /-- The first of them, with whether the filters admitted them when a call looked at them. -/
  judged : List (Message × Bool) := []
  /-- The frames that were taken off the receive queue. -/
  taken : List Message := []
  /-- The messages in the slots that reads said were filled. -/
  handedOver : List Message := []

namespace Ledger

/-- The frames that were looked at. -/
def seen (l : Ledger) : List Message := l.judged.map Prod.fst

/-- The frames that were admitted. -/
def admitted (l : Ledger) : List Message := (l.judged.filter Prod.snd).map Prod.fst

/-- Frames are put on the bus. -/
def arrive (l : Ledger) (frames : List Message) : Ledger := { l with arrived := l.arrived ++ frames }

/-- The channel is looked at, and its filters judge what was not looked at before. -/
def judge (l : Ledger) (ch : Channel) : Ledger :=
  { l with
    judged := l.judged ++
      (l.arrived.drop l.judged.length).map fun frame => (frame, ch.admits frame) }

/-- Frames are taken off the receive queue and handed over. -/
def take (l : Ledger) (frames messages : List Message) : Ledger :=
  { l with taken := l.taken ++ frames, handedOver := l.handedOver ++ messages }

/-- The ledger is true of the two queues of a channel. -/
structure Matches (l : Ledger) (ch : Channel) : Prop where
  /-- What was not looked at is on the bus. -/
  arrived_eq : l.arrived = l.seen ++ ch.bus
  /-- What was taken and what can be read is what was admitted, in order, up to the time. -/
  admitted_eq : (l.taken ++ ch.rx).map Message.untimed = l.admitted.map Message.untimed
  /-- What was handed over is what was taken, up to the size of the buffers. -/
  handedOver_eq : l.handedOver.map (Message.inBuffer 0) = l.taken.map (Message.inBuffer 0)

section Matches

variable {l : Ledger} {ch ch' : Channel}

theorem matches_fresh {frames : List Message} (hbus : ch.bus = frames) (hrx : ch.rx = []) :
    Matches { arrived := frames } ch where
  arrived_eq := hbus.symm
  admitted_eq := by rw [hrx]; rfl
  handedOver_eq := rfl

variable (h : l.Matches ch)

include h

theorem Matches.of_queues (hbus : ch'.bus = ch.bus) (hrx : ch'.rx = ch.rx) : l.Matches ch' where
  arrived_eq := by rw [hbus]; exact h.arrived_eq
  admitted_eq := by rw [hrx]; exact h.admitted_eq
  handedOver_eq := h.handedOver_eq

theorem Matches.arrive {frames : List Message} (hbus : ch'.bus = ch.bus ++ frames)
    (hrx : ch'.rx = ch.rx) : (l.arrive frames).Matches ch' where
  arrived_eq := by
    show l.arrived ++ frames = l.seen ++ ch'.bus
    rw [hbus, h.arrived_eq, List.append_assoc]
  admitted_eq := by rw [hrx]; exact h.admitted_eq
  handedOver_eq := h.handedOver_eq

theorem Matches.drop_arrived : l.arrived.drop l.judged.length = ch.bus := by
  rw [h.arrived_eq]
  exact List.drop_left' (List.length_map _)

theorem Matches.judge (hbus : ch'.bus = [])
    (hrx : ch'.rx.map Message.untimed = (ch.rx ++ ch.admitted).map Message.untimed) :
    (l.judge ch).Matches ch' := by
  have hseen : (l.judge ch).seen = l.seen ++ ch.bus := by
    unfold seen Ledger.judge
    rw [h.drop_arrived, List.map_append, List.map_map]
    exact congrArg _ (List.map_id _)
  have hadmitted : (l.judge ch).admitted = l.admitted ++ ch.admitted := by
    unfold admitted Ledger.judge Channel.admitted
    rw [h.drop_arrived, List.filter_append, List.map_append, List.filter_map, List.map_map]
    exact congrArg _ (List.map_id _)
  constructor
  case arrived_eq =>
    rw [hseen, hbus, List.append_nil]
    exact h.arrived_eq
  case admitted_eq =>
    show (l.taken ++ ch'.rx).map _ = _
    calc (l.taken ++ ch'.rx).map Message.untimed
        = l.taken.map Message.untimed ++ (ch.rx ++ ch.admitted).map Message.untimed := by
          rw [List.map_append, hrx]
      _ = (l.taken ++ ch.rx).map Message.untimed ++ ch.admitted.map Message.untimed := by
          rw [List.map_append, List.map_append, List.append_assoc]
      _ = (l.judge ch).admitted.map Message.untimed := by
          rw [h.admitted_eq, hadmitted, List.map_append]
  case handedOver_eq => exact h.handedOver_eq

theorem Matches.take {n : Nat} {messages : List Message} (hbus : ch'.bus = ch.bus)
    (hrx : ch'.rx = ch.rx.drop n)
    (hmessages : messages.map (Message.inBuffer 0) = (ch.rx.take n).map (Message.inBuffer 0)) :
    (l.take (ch.rx.take n) messages).Matches ch' where
  arrived_eq := by rw [hbus]; exact h.arrived_eq
  admitted_eq := by
    show (l.taken ++ ch.rx.take n ++ ch'.rx).map _ = _
    rw [hrx, List.append_assoc, List.take_append_drop]
    exact h.admitted_eq
  handedOver_eq := by
    show (l.handedOver ++ messages).map _ = (l.taken ++ ch.rx.take n).map _
    rw [List.map_append, List.map_append, h.handedOver_eq, hmessages]

end Matches

end Ledger

/-! ## What events write into the ledger -/

/-- The traffic of a protocol that is recorded for an open device. -/
def State.recorded (s : State) (device protocolId : UInt32) : List Message :=
  match s.devices.get? device with
  | none => []
  | some opened =>
    match s.registry.find? opened.name with
    | none => []
    | some interface => interface.traffic.filter fun frame => frame.protocolId == protocolId

/-- The call succeeded, and answered the handle `c`. -/
def Outcome.Issued (outcome : Outcome (Option (Word w))) (c : UInt32) : Prop :=
  outcome.failure? = none ∧ outcome.memory = some (.of32 c)

instance (outcome : Outcome (Option (Word w))) (c : UInt32) : Decidable (outcome.Issued c) :=
  inferInstanceAs (Decidable (_ ∧ _))

namespace Ledger

/-- The ledger of the open channel `c` after a call that may move its frames. -/
def record (l : Ledger) (c : UInt32) (ch : Channel) (s : State) : Call w → Ledger
  | .select (some set) kind _ =>
    match selectArguments (some set) kind.narrow with
    | .ok (_, ids) => if c ∈ s.lookedAt ids then l.judge ch else l
    | .error _ => l
  | .readMsgs channel (some slots) (some count) timeout =>
    if channel.narrow = c then
      let memory := (driver (.readMsgs channel (some slots) (some count) timeout) s).1.memory
      let n := (memory.count.getD .zero).toNat
      (l.judge ch).take ((ch.pending s.clock).take n) (messagesIn n (memory.slots.getD []))
    else l
  | .queueMsgs channel (some messages) (some count) =>
    if channel.narrow = c ∧ ch.loopback = true then
      let memory := (driver (.queueMsgs channel (some messages) (some count)) s).1.memory
      l.arrive ((messagesIn (memory.count.getD .zero).toNat messages).map echo)
    else l
  | .ioctl target id input output =>
    if target.narrow = c ∧ Ioctl.ofCode? id.narrow = some .clearRxQueue ∧
        (perform s (.ioctl target id input output)).failure? = none then {}
    else l
  | _ => l

/-- The ledger of the channel `c` after a call in the state `s`. -/
def afterCall (l : Ledger) (c : UInt32) (s : State) : Call w → Ledger
  | .connect device protocol flags baud resource channel =>
    if (perform s (.connect device protocol flags baud resource channel)).Issued c then
      { arrived := s.recorded device.narrow protocol.narrow }
    else l
  | .logicalConnect physical protocol flags descriptor channel =>
    if (perform s (.logicalConnect physical protocol flags descriptor channel)).Issued c then {}
    else l
  | call => ((s.channels.get? c).map fun ch => l.record c ch s call).getD l

/-- The ledger of the channel `c` after an event in the state `s`. -/
def after (l : Ledger) (c : UInt32) (s : State) : Event w → Ledger
  | .call call => l.afterCall c s call
  | .inject channel frame => if channel = c then l.arrive [frame] else l
  | .register _ | .unplug _ => l

/-- The ledger after a list of events that starts in the state `s`. -/
def afterAll (c : UInt32) : Ledger → State → List (Event w) → Ledger
  | l, _, [] => l
  | l, s, event :: events => afterAll c (l.after c s event) (s.after event) events

/-- The ledger is true of the channel `c`, if that is open. -/
def Tracks (l : Ledger) (c : UInt32) (s : State) : Prop :=
  ∀ ch, s.channels.get? c = some ch → l.Matches ch

/-! ## Connecting -/

section Tracks

variable {l : Ledger} {c : UInt32} {s : State}

theorem Tracks.of_queuesKept {s' : State} (h : l.Tracks c s) (hkept : State.QueuesKept c s s') :
    l.Tracks c s' := by
  intro ch' hget
  obtain ⟨ch, hch, hbus, hrx⟩ := hkept ch' hget
  exact (h ch hch).of_queues hbus hrx

/-- A new channel starts a new ledger, and concerns no other. -/
theorem tracks_issue (h : l.Tracks c s) {new : Ledger} {output : Option (Word w)}
    {attempt : Attempt (UInt32 × State)}
    (hok : ∀ result, attempt = .ok result →
      output.isSome = true ∧ ∃ ch, result = s.addChannel ch ∧ new.Matches ch) :
    Tracks (if (issue s output attempt).Issued c then new else l) c
      (issue s output attempt).state := by
  cases attempt with
  | error code =>
    have hfailed : ¬ (issue s output (.error code)).Issued c := by
      rintro ⟨hnone, -⟩
      cases hnone
    rw [if_neg hfailed]
    exact h
  | ok result =>
    obtain ⟨hsome, ch, rfl, hnew⟩ := hok result rfl
    obtain ⟨out, rfl⟩ := Option.isSome_iff_exists.1 hsome
    by_cases hc : c = nextHandle s.issued.channels
    · subst hc
      rw [if_pos ⟨rfl, rfl⟩]
      intro ch' hget
      obtain rfl := Table.eq_of_get?_insert_self hget
      exact hnew
    · have hother : ¬ (issue s (some out) (.ok (s.addChannel ch))).Issued c := by
        rintro ⟨-, hmemory⟩
        have hhandle : Word.of32 (w := w) (nextHandle s.issued.channels) = .of32 c :=
          Option.some.inj hmemory
        have hnarrow := congrArg Word.narrow hhandle
        rw [Word.narrow_of32, Word.narrow_of32] at hnarrow
        exact hc hnarrow.symm
      rw [if_neg hother]
      exact h.of_queuesKept (State.queuesKept_setChannel_of_ne hc ch)

/-- The bus of a new physical channel holds the recorded traffic of its protocol. -/
theorem recorded_eq {deviceId protocolId flags baud : UInt32} {request : PinRequest}
    {device : OpenDevice} {protocol : Protocol} {pins : List UInt32}
    (h : s.ConnectRequest deviceId protocolId flags baud request device protocol pins) :
    s.recorded deviceId protocolId =
      (s.physicalChannel deviceId device protocol baud pins).bus := by
  have hcode : protocol.code = protocolId := Protocol.ofCode?_eq_some_iff.1 h.protocol_eq
  unfold State.recorded State.physicalChannel
  rw [h.opened, ← hcode]
  dsimp only
  cases s.registry.find? device.name <;> rfl

theorem tracks_connect (h : l.Tracks c s) (device protocol flags baud : Word w)
    (resource : NativeResource w) (channel : Option (Word w)) :
    Tracks (l.afterCall c s (.connect device protocol flags baud resource channel)) c
      (perform s (.connect device protocol flags baud resource channel)).state := by
  refine tracks_issue h fun result hok => ?_
  obtain ⟨opened, p, pins, hrequest, -, -, hresult⟩ := State.connect_eq_ok hok
  refine ⟨(State.connectRequest_of_connect hok).1, _, hresult, ?_⟩
  exact matches_fresh (recorded_eq hrequest).symm rfl

theorem tracks_logicalConnect (h : l.Tracks c s) (physical protocol flags : Word w)
    (descriptor : Option (NativeDescriptor w)) (channel : Option (Word w)) :
    Tracks (l.afterCall c s (.logicalConnect physical protocol flags descriptor channel)) c
      (perform s (.logicalConnect physical protocol flags descriptor channel)).state := by
  refine tracks_issue h fun result hok => ?_
  simp only [Attempt.bind_eq_ok_iff, Attempt.present_eq_ok_iff] at hok
  obtain ⟨descriptor, rfl, out, rfl, hok⟩ := hok
  obtain ⟨parent, -, -, -, -, -, hresult⟩ := State.logicalConnect_eq_ok_iff.1 hok
  exact ⟨rfl, _, hresult, matches_fresh rfl rfl⟩

/-! ## The other calls -/

/-- It is enough to look at a channel that was open before. -/
theorem tracks_record {call : Call w} {s' : State}
    (hcall : l.afterCall c s call = ((s.channels.get? c).map fun ch => l.record c ch s call).getD l)
    (hrecord : ∀ ch', s'.channels.get? c = some ch' →
      ∃ ch, s.channels.get? c = some ch ∧ (l.record c ch s call).Matches ch') :
    Tracks (l.afterCall c s call) c s' := by
  intro ch' hget
  obtain ⟨ch, hch, hmatches⟩ := hrecord ch' hget
  rw [hcall, hch]
  exact hmatches

theorem tracks_of_queuesKept {call : Call w} {s' : State} (h : l.Tracks c s)
    (hcall : l.afterCall c s call = ((s.channels.get? c).map fun ch => l.record c ch s call).getD l)
    (hrecord : ∀ ch, l.record c ch s call = l) (hkept : State.QueuesKept c s s') :
    Tracks (l.afterCall c s call) c s' := by
  refine tracks_record hcall fun ch' hget => ?_
  obtain ⟨ch, hch, hbus, hrx⟩ := hkept ch' hget
  refine ⟨ch, hch, ?_⟩
  rw [hrecord]
  exact (h ch hch).of_queues hbus hrx

theorem tracks_select (h : l.Tracks c s) (set : Option (NativeChannelSet w)) (kind timeout : Word w) :
    Tracks (l.afterCall c s (.select set kind timeout)) c
      (perform s (.select set kind timeout)).state := by
  show Tracks _ c (performSelect s set kind).state
  rw [performSelect_state]
  cases set with
  | none => exact tracks_of_queuesKept h rfl (fun _ => rfl) (.refl c s)
  | some set =>
    refine tracks_record rfl fun ch' hget => ?_
    split at hget
    · next code harguments =>
      simp only [record, harguments]
      exact ⟨ch', hget, h ch' hget⟩
    · next native ids harguments =>
      simp only [record, harguments]
      obtain ⟨ch, hch, hmoved⟩ := readyAmong_queues c ids s ch' hget
      refine ⟨ch, hch, ?_⟩
      split at hmoved
      · next hlooked =>
        rw [if_pos hlooked]
        exact (h ch hch).judge hmoved.1 hmoved.2
      · next hother =>
        rw [if_neg hother]
        exact (h ch hch).of_queues hmoved.1 hmoved.2

/-- A read of the channel: first everything on the bus arrives, then the frames that the reply
counts are taken. -/
theorem matches_read {ch : Channel} (h : l.Matches ch) {channel : Word w}
    (hfound : s.channels.get? channel.narrow = some ch) (slots : List (NativeMessage w))
    (count timeout : Word w) :
    let delivery := deliver count.narrow.toNat (ch.pending s.clock) slots
    (l.record channel.narrow ch s (.readMsgs channel (some slots) (some count) timeout)).Matches
      { ch with bus := [], rx := (ch.pending s.clock).drop delivery.count } := by
  intro delivery
  have hpumped : (l.judge ch).Matches (ch.pump s.clock) := by
    refine h.judge rfl ?_
    rw [Channel.pump_rx, Channel.pending, List.map_append, List.map_append, map_untimed_stampFrom]
  have hmemory : (driver (.readMsgs channel (some slots) (some count) timeout) s).1.memory =
      ⟨some delivery.slots, some (.of32 (UInt32.ofNat delivery.count))⟩ :=
    congrArg Outcome.memory (performRead_eq hfound slots count timeout)
  have hcount : delivery.count ≤ count.narrow.toNat := (deliver_count_le _ _ slots).1
  simp only [record, if_true, hmemory, Option.getD_some, Word.toNat_of32_ofNat hcount]
  exact hpumped.take rfl rfl (deliver_slots count.narrow.toNat _ slots)

theorem tracks_readMsgs (h : l.Tracks c s) (channel : Word w)
    (slots : Option (List (NativeMessage w))) (count : Option (Word w)) (timeout : Word w) :
    Tracks (l.afterCall c s (.readMsgs channel slots count timeout)) c
      (perform s (.readMsgs channel slots count timeout)).state := by
  cases slots with
  | none => exact tracks_of_queuesKept h rfl (fun _ => rfl) (.refl c s)
  | some slots =>
    cases count with
    | none => exact tracks_of_queuesKept h rfl (fun _ => rfl) (.refl c s)
    | some count =>
      by_cases hc : channel.narrow = c
      · subst hc
        refine tracks_record rfl fun ch' hget => ?_
        replace hget : (performRead s channel ⟨some slots, some count⟩ timeout).state.channels.get?
          channel.narrow = some ch' := hget
        cases hfound : s.channels.get? channel.narrow with
        | none =>
          rw [performRead_closed hfound, hfound] at hget
          cases hget
        | some ch =>
          rw [performRead_eq hfound] at hget
          obtain rfl := Table.eq_of_get?_insert_self hget
          exact ⟨ch, rfl, matches_read (h ch hfound) hfound slots count timeout⟩
      · refine tracks_of_queuesKept h rfl (fun _ => if_neg hc) ?_
        exact (perform_effect s _).queuesKept hc

/-- Messages are queued on the channel: with loopback, those that the reply counts come back. -/
theorem matches_queue {ch : Channel} (h : l.Matches ch) {channel : Word w}
    (hfound : s.channels.get? channel.narrow = some ch) (messages : List (NativeMessage w))
    (count : Word w) :
    let accepted := accept ch.protocol (messages.take count.narrow.toNat)
    (l.record channel.narrow ch s (.queueMsgs channel (some messages) (some count))).Matches
      (ch.transmit accepted.1) := by
  intro accepted
  have hmemory : (driver (.queueMsgs channel (some messages) (some count)) s).1.memory =
      ⟨some messages, some (.of32 (UInt32.ofNat accepted.1.length))⟩ :=
    congrArg Outcome.memory (performQueue_eq hfound messages count)
  have hlength : accepted.1.length ≤ count.narrow.toNat :=
    Nat.le_trans (length_accept_le _ _) (List.length_take_le _ _)
  have hframes : messagesIn accepted.1.length messages = accepted.1 := by
    rw [← messagesIn_take hlength]
    exact messagesIn_accept _ _
  unfold Channel.transmit
  by_cases hloopback : ch.loopback = true
  · simp only [record, hloopback, and_self, if_true, hmemory, Option.getD_some,
      Word.toNat_of32_ofNat hlength, hframes]
    exact h.arrive rfl rfl
  · have hsilent : ¬ (channel.narrow = channel.narrow ∧ ch.loopback = true) :=
      fun hboth => hloopback hboth.2
    show Matches (if channel.narrow = channel.narrow ∧ ch.loopback = true then _ else l) _
    rw [if_neg hsilent, if_neg hloopback]
    exact h

theorem tracks_queueMsgs (h : l.Tracks c s) (channel : Word w)
    (messages : Option (List (NativeMessage w))) (count : Option (Word w)) :
    Tracks (l.afterCall c s (.queueMsgs channel messages count)) c
      (perform s (.queueMsgs channel messages count)).state := by
  cases messages with
  | none => exact tracks_of_queuesKept h rfl (fun _ => rfl) (.refl c s)
  | some messages =>
    cases count with
    | none => exact tracks_of_queuesKept h rfl (fun _ => rfl) (.refl c s)
    | some count =>
      by_cases hc : channel.narrow = c
      · subst hc
        refine tracks_record rfl fun ch' hget => ?_
        replace hget : (performQueue s channel ⟨some messages, some count⟩).state.channels.get?
          channel.narrow = some ch' := hget
        cases hfound : s.channels.get? channel.narrow with
        | none =>
          rw [performQueue_closed hfound, hfound] at hget
          cases hget
        | some ch =>
          rw [performQueue_eq hfound] at hget
          obtain rfl := Table.eq_of_get?_insert_self hget
          exact ⟨ch, rfl, matches_queue (h ch hfound) hfound messages count⟩
      · refine tracks_of_queuesKept h rfl (fun _ => if_neg fun hboth => hc hboth.1) ?_
        exact (perform_effect s _).queuesKept hc

theorem tracks_ioctl (h : l.Tracks c s) (target id : Word w) (input output : NativeControl w) :
    Tracks (l.afterCall c s (.ioctl target id input output)) c
      (perform s (.ioctl target id input output)).state := by
  by_cases hclears : target.narrow = c ∧ Ioctl.ofCode? id.narrow = some .clearRxQueue
  · obtain ⟨rfl, hid⟩ := hclears
    have hperform : perform s (.ioctl target id input output) =
        controlChange s ⟨input, output⟩ (s.clear .clearRxQueue target.narrow input output) := by
      show performIoctl s target id ⟨input, output⟩ = _
      unfold performIoctl
      dsimp only
      rw [hid]
    cases hclear : s.clear .clearRxQueue target.narrow input output with
    | error code =>
      rw [hclear] at hperform
      refine tracks_of_queuesKept h rfl (fun ch => if_neg ?_) ?_
      · rw [hperform]
        rintro ⟨-, -, hnone⟩
        cases hnone
      · rw [hperform]
        exact .refl _ s
    | ok s' =>
      rw [hclear] at hperform
      obtain ⟨-, -, ch, hfound, ch', hcleared, rfl⟩ := State.clear_eq_ok_iff.1 hclear
      obtain rfl := Except.ok.inj hcleared
      refine tracks_record rfl fun other hget => ⟨ch, hfound, ?_⟩
      have hsucceeds : (perform s (.ioctl target id input output)).failure? = none := by
        rw [hperform]
        rfl
      rw [hperform] at hget
      obtain rfl := Table.eq_of_get?_insert_self hget
      show Matches (if target.narrow = target.narrow ∧ _ then {} else l) _
      rw [if_pos ⟨rfl, hid, hsucceeds⟩]
      exact matches_fresh rfl rfl
  · refine tracks_of_queuesKept h rfl (fun ch => if_neg fun hall => ?_) ?_
    · exact hclears ⟨hall.1, hall.2.1⟩
    · exact (perform_effect s _).queuesKept hclears

/-! ## Every event and every run -/

theorem tracks_afterCall (h : l.Tracks c s) (call : Call w) :
    Tracks (l.afterCall c s call) c (driver call s).2 := by
  have hperform : Tracks (l.afterCall c s call) c (perform s call).state := by
    cases call with
    | connect device protocol flags baud resource channel =>
      exact tracks_connect h device protocol flags baud resource channel
    | logicalConnect physical protocol flags descriptor channel =>
      exact tracks_logicalConnect h physical protocol flags descriptor channel
    | select set kind timeout => exact tracks_select h set kind timeout
    | readMsgs channel slots count timeout => exact tracks_readMsgs h channel slots count timeout
    | queueMsgs channel messages count => exact tracks_queueMsgs h channel messages count
    | ioctl target id input output => exact tracks_ioctl h target id input output
    | _ => exact tracks_of_queuesKept h rfl (fun _ => rfl) ((perform_effect s _).queuesKept id)
  intro ch hget
  refine hperform ch ?_
  rw [← remember_channels]
  exact hget

theorem tracks_after (h : l.Tracks c s) (event : Event w) :
    Tracks (l.after c s event) c (s.after event) := by
  cases event with
  | call call => exact tracks_afterCall h call
  | register interface =>
    rcases after_register (w := w) s interface with hsame | ⟨-, hregistered⟩
    · rw [hsame]
      exact h
    · rw [hregistered]
      exact h.of_queuesKept (State.queuesKept_of_channels rfl)
  | unplug name => exact h.of_queuesKept (State.queuesKept_of_channels rfl)
  | inject channel frame =>
    show Tracks (if channel = c then l.arrive [frame] else l) c (s.inject channel frame)
    unfold State.inject
    cases hfound : s.channels.get? channel with
    | none =>
      intro ch hget
      have hne : channel ≠ c := by
        rintro rfl
        rw [hfound] at hget
        cases hget
      rw [if_neg hne]
      exact h ch hget
    | some ch =>
      by_cases hc : channel = c
      · subst hc
        rw [if_pos rfl]
        intro ch' hget
        obtain rfl := Table.eq_of_get?_insert_self hget
        exact (h ch hfound).arrive rfl rfl
      · rw [if_neg hc]
        exact h.of_queuesKept (State.queuesKept_setChannel_of_ne (Ne.symm hc) _)

theorem tracks_afterAll (h : l.Tracks c s) (events : List (Event w)) :
    Tracks (afterAll c l s events) c (s.run events) := by
  induction events generalizing l s with
  | nil => exact h
  | cons event events ih => exact ih (tracks_after h event)

end Tracks

end Ledger

/-- **Delivery in order.** After every run, the frames that were put on the bus of an open channel
since it was connected or its receive queue was cleared are those that were looked at and then those
that are on its bus. Up to the time, the frames that were taken off its receive queue and then those
that are in it are what the filters admitted of the frames that were looked at, in order, each frame
judged when a call first looked at the channel after it arrived. -/
theorem delivered_in_order (n : Nat) (events : List (Event w)) {c : UInt32} {ch : Channel}
    (hopen : ((State.start n).run events).channels.get? c = some ch) :
    (Ledger.afterAll c {} (State.start n) events).Matches ch := by
  refine Ledger.tracks_afterAll ?_ events ch hopen
  intro ch' hget
  cases hget

/-- A read into two slots of four bytes takes the first of the frames of `Event.twoFrames`, and
fails for the second. -/
theorem delivered_in_order_twoFrames :
    let slots : List (NativeMessage .w64) := List.replicate 2 (Message.emptySlot 4)
    let events := Event.twoFrames ++
      [.call (.readMsgs (.of32 1) (some slots) (some (.of32 2)) .zero)]
    let ledger := Ledger.afterAll 1 {} (State.start 1) events
    ledger.taken.length = 1 ∧ ledger.admitted.length = 2 ∧
      ∃ ch, ((State.start 1).run events).channels.get? 1 = some ch ∧ ledger.Matches ch := by
  intro slots events ledger
  refine ⟨by decide, by decide, _, rfl, ?_⟩
  exact delivered_in_order 1 events rfl

end PassThru.Emulator
