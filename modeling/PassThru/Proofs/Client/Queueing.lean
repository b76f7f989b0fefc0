import PassThru.Proofs.Client.Answers
import PassThru.Proofs.Client.Reading
import PassThru.Proofs.Emulator.Queues

/-!
# Queueing through a client

The library takes the messages of a list one after another and stops at the first that it cannot
send, which is one of another protocol than the channel's or one without data; those in front of it
are sent all the same. What is sent comes back only if the channel has loopback on: the echoes go to
the bus, where they are frames like any other, and reach a reader if the filters admit them.

* `accept_encodeAll`: what the library takes of messages that a client encoded, and why it stops
* `queueMsgs_eq`: what a client is answered and which state is left
* `readMsgs_echoes`: what is read where nothing but echoes is pending; `isEcho_echoes` and
  `data_echoes` say what these are
* `queues_and_echoes`: the answer, the frames on the bus, and the read after it
-/

namespace PassThru.Emulator

variable {w : Width}

/-! ## Messages that can be sent -/

/-- A message can be sent on a channel of its protocol, if there is anything to send. -/
def CanSend (protocol : Protocol) (m : Message) : Prop :=
  m.protocolId = protocol.code ∧ m.data ≠ []

instance (protocol : Protocol) (m : Message) : Decidable (CanSend protocol m) :=
  inferInstanceAs (Decidable (_ ∧ _))

/-- What is wrong with a message that cannot be sent; its protocol counts first. -/
def sendFault (protocol : Protocol) (m : Message) : ErrorCode :=
  if m.protocolId = protocol.code then .invalidMsg else .msgProtocolId

/-- The messages in front of the first that cannot be sent. -/
def sendable (protocol : Protocol) (messages : List Message) : List Message :=
  messages.takeWhile fun m => CanSend protocol m

/-- What is wrong with the first message that cannot be sent. -/
def firstFault? (protocol : Protocol) (messages : List Message) : Option ErrorCode :=
  (messages.find? fun m => ¬ CanSend protocol m).map (sendFault protocol)

section Messages

variable {protocol : Protocol} {messages : List Message}

theorem sendable_of_all (h : ∀ m ∈ messages, CanSend protocol m) :
    sendable protocol messages = messages := by
  unfold sendable
  rw [List.takeWhile_eq_self_iff]
  simpa using h

theorem firstFault?_eq_none_iff :
    firstFault? protocol messages = none ↔ ∀ m ∈ messages, CanSend protocol m := by
  unfold firstFault?
  rw [Option.map_eq_none_iff, List.find?_eq_none]
  simp only [decide_not, Bool.not_eq_true', decide_eq_false_iff_not, not_not]

theorem sendable_of_fault {before after : List Message} {bad : Message}
    (h : ∀ m ∈ before, CanSend protocol m) (hbad : ¬ CanSend protocol bad) :
    sendable protocol (before ++ bad :: after) = before ∧
      firstFault? protocol (before ++ bad :: after) = some (sendFault protocol bad) := by
  have hnone : before.find? (fun m => ¬ CanSend protocol m) = none :=
    Option.map_eq_none_iff.1 (firstFault?_eq_none_iff.2 h)
  constructor
  · unfold sendable
    rw [List.takeWhile_append_of_pos (by simpa using h), List.takeWhile_cons_of_neg (by simpa),
      List.append_nil]
  · unfold firstFault?
    rw [List.find?_append, hnone, Option.none_or, List.find?_cons_of_pos (by simpa)]
    rfl

theorem length_sendable_le (protocol : Protocol) (messages : List Message) :
    (sendable protocol messages).length ≤ messages.length := (List.takeWhile_sublist _).length_le

theorem ofStatus_of_firstFault {code : ErrorCode} (h : firstFault? protocol messages = some code) :
    ErrorCode.ofStatus code.asStatus = some code := by
  unfold firstFault? at h
  obtain ⟨bad, -, rfl⟩ := Option.map_eq_some_iff.1 h
  unfold sendFault
  split <;> rfl

/-- Of messages that were encoded, those are taken that can be sent, up to the first that cannot. -/
theorem accept_encodeAll {natives : List (NativeMessage w)}
    (h : Message.encodeAll messages = .ok natives) :
    accept protocol natives = (sendable protocol messages, firstFault? protocol messages) := by
  induction messages generalizing natives with
  | nil =>
    cases h
    rfl
  | cons m rest ih =>
    unfold Message.encodeAll at h ih
    rw [List.mapM_cons] at h
    obtain ⟨native, hnative, h⟩ := exists_of_bind_eq_ok h
    obtain ⟨others, hothers, h⟩ := exists_of_bind_eq_ok h
    obtain rfl := Except.ok.inj h
    have hrest := ih hothers
    rw [accept, read_of_encode hnative]
    dsimp only
    rw [hrest]
    unfold sendable firstFault? CanSend sendFault
    by_cases hprotocol : m.protocolId = protocol.code
    · by_cases hdata : m.data = []
      · simp [hprotocol, hdata]
      · simp [hprotocol, hdata]
    · simp [hprotocol]

end Messages

/-! ## The answer -/

/-- The call of a client that queues messages. -/
def queueCall (id : UInt32) (natives : List (NativeMessage w)) : Call w :=
  .queueMsgs (.of32 id) (some natives) (some (.of32 (UInt32.ofNat natives.length)))

section Queue

variable {s : State} {id : UInt32} {ch : Channel} (hfound : s.channels.get? id = some ch)
  (settings : Settings) {messages : List Message} (hsome : messages ≠ [])
  (hcounts : Counts messages.length) (hfits : ∀ m ∈ messages, m.Fits)

include hfound hcounts hfits

theorem perform_queueCall :
    ∃ natives : List (NativeMessage w), Message.encodeAll messages = .ok natives ∧
      natives.length = messages.length ∧
      perform s (queueCall id natives) =
        ⟨firstFault? ch.protocol messages,
          ⟨some natives, some (.of32 (UInt32.ofNat (sendable ch.protocol messages).length))⟩,
          s.setChannel id (ch.transmit (sendable ch.protocol messages))⟩ := by
  obtain ⟨natives, hencode, hlength, -⟩ := Message.encodeAll_fits (w := w) hfits
  refine ⟨natives, hencode, hlength, ?_⟩
  have hopen : s.channels.get? (Word.of32 id : Word w).narrow = some ch := by
    rw [Word.narrow_of32]
    exact hfound
  have htake : natives.take (Word.of32 (UInt32.ofNat natives.length) : Word w).narrow.toNat =
      natives := by
    rw [Word.narrow_of32, toNat_count (by rwa [hlength])]
    exact List.take_length
  have hqueue := performQueue_eq hopen natives (.of32 (UInt32.ofNat natives.length))
  dsimp only at hqueue
  rw [htake, accept_encodeAll hencode, Word.narrow_of32] at hqueue
  exact hqueue

include hsome

theorem queueMsgs_eq :
    let sent := sendable ch.protocol messages
    (⟨driver, settings⟩ : Client w State).ask (.queueMsgs ⟨id⟩ messages) s =
      match firstFault? ch.protocol messages with
      | none => (.ok sent.length, s.setChannel id (ch.transmit sent))
      | some code =>
        (.error (.vendor code),
          remember .queueMsgs (some code) (s.setChannel id (ch.transmit sent))) := by
  intro sent
  obtain ⟨natives, hencode, hlength, hperform⟩ :=
    perform_queueCall (w := w) hfound hcounts hfits
  have hrequest : (Request.queueMsgs ⟨id⟩ messages : Request w Nat) =
      .afterSuccess (queueCall id natives) fun memory =>
        (readOutput "num_msgs" memory.count).map UInt32.toNat := by
    unfold Request.queueMsgs
    rw [if_neg (by simpa using hsome), hencode]
    rfl
  show (Request.queueMsgs ⟨id⟩ messages : Request w Nat).perform driver s = _
  rw [hrequest]
  cases hfault : firstFault? ch.protocol messages with
  | none =>
    rw [perform_of_succeeded (by rw [hperform, hfault]), hperform]
    have hsent : Counts sent.length :=
      Nat.le_trans (length_sendable_le ch.protocol messages) hcounts
    have hread : (readOutput "num_msgs"
        (some (.of32 (UInt32.ofNat sent.length) : Word w))).map UInt32.toNat = .ok sent.length := by
      rw [readOutput_of32]
      exact congrArg Except.ok (toNat_count hsent)
    rw [hread]
  | some code =>
    rw [perform_of_failed (by rw [hperform, hfault]) (ofStatus_of_firstFault hfault),
      hperform]
    rfl

end Queue

/-! ## Echoes -/

/-- What does not see the time sees the frames as they were before they were admitted. -/
theorem map_stampFrom {α : Type} {f : Message → α} (h : ∀ frame, f frame.untimed = f frame)
    (clock : UInt32) (frames : List Message) :
    (stampFrom clock frames).map f = frames.map f := by
  have huntimed : ∀ frames : List Message, (frames.map Message.untimed).map f = frames.map f := by
    intro frames
    rw [List.map_map]
    exact List.map_congr_left fun frame _ => h frame
  rw [← huntimed, map_untimed_stampFrom, huntimed]

/-- The echoes of messages that were sent on a channel that had no frames are what is pending. -/
theorem pending_transmit {ch : Channel} (hloopback : ch.loopback = true) (hbus : ch.bus = [])
    (hrx : ch.rx = []) (messages : List Message) (clock : UInt32) :
    (ch.transmit messages).pending clock =
      stampFrom clock ((messages.filter ch.admits).map echo) := by
  unfold Channel.transmit Channel.pending
  rw [if_pos hloopback]
  dsimp only
  rw [hrx, List.nil_append]
  refine congrArg (stampFrom clock) ?_
  show (ch.bus ++ messages.map echo).filter ch.admits = _
  rw [hbus, List.nil_append, List.filter_map]
  rfl

/-- Sending puts the echoes on the bus if the channel has loopback on, and does nothing else. -/
theorem setChannel_transmit {s : State} {id : UInt32} {ch : Channel}
    (hfound : s.channels.get? id = some ch) (sent : List Message) :
    (s.setChannel id (ch.transmit sent)).channels =
      if ch.settings.get? Parameter.loopback = some 1 then
        s.channels.insert id { ch with bus := ch.bus ++ sent.map echo }
      else s.channels := by
  unfold State.setChannel Channel.transmit Channel.loopback
  dsimp only
  by_cases hloopback : ch.settings.get? Parameter.loopback = some 1
  · rw [if_pos hloopback, if_pos (beq_iff_eq.2 hloopback)]
  · rw [if_neg hloopback, if_neg (fun h => hloopback (beq_iff_eq.1 h))]
    exact Table.insert_of_get? hfound

section Marks

variable (clock size : UInt32) (sent : List Message)

theorem isEcho_echoes :
    ∀ frame ∈ (stampFrom clock (sent.map echo)).map (Message.inBuffer size),
      frame.isEcho = true := by
  intro frame hframe
  obtain ⟨stamped, hstamped, rfl⟩ := List.mem_map.1 hframe
  have hsame : (stampFrom clock (sent.map echo)).map Message.isEcho =
      (sent.map echo).map Message.isEcho := map_stampFrom (fun _ => rfl) _ _
  have hmem : stamped.isEcho ∈ (sent.map echo).map Message.isEcho :=
    hsame ▸ List.mem_map_of_mem hstamped
  obtain ⟨echoed, hechoed, hecho⟩ := List.mem_map.1 hmem
  obtain ⟨message, -, rfl⟩ := List.mem_map.1 hechoed
  have hmarked : (echo message).isEcho = true :=
    show FlagSet.sets txMsgType txMsgType = true by decide
  exact hecho.symm.trans hmarked

theorem data_echoes :
    ((stampFrom clock (sent.map echo)).map (Message.inBuffer size)).map Message.data =
      sent.map Message.data := by
  have hdata : (stampFrom clock (sent.map echo)).map Message.data =
      (sent.map echo).map Message.data := map_stampFrom (fun _ => rfl) _ _
  rw [List.map_map]
  show (stampFrom clock (sent.map echo)).map Message.data = _
  rw [hdata, List.map_map]
  rfl

end Marks

/-- What a client reads of the echoes, if it asks for enough and has room for each. -/
theorem readMsgs_echoes {s : State} {id : UInt32} {ch : Channel}
    (hfound : s.channels.get? id = some ch) {echoes : List Message}
    (hpending : ch.pending s.clock = stampFrom s.clock echoes) (settings : Settings) {max : Nat}
    (timeout : UInt32) (hpos : 1 ≤ max) (hle : max ≤ maxNumber) (hmax : echoes.length ≤ max)
    (hroom : ∀ m ∈ echoes, m.data.length ≤ settings.rxBufferSize.toNat) :
    ((⟨driver, settings⟩ : Client w State).readMsgs ⟨id⟩ max timeout s).1 =
      if echoes = [] then .error (.vendor (if timeout = 0 then .bufferEmpty else .timeout))
      else .ok ((stampFrom s.clock echoes).map (Message.inBuffer settings.rxBufferSize)) := by
  have hlengths : (stampFrom s.clock echoes).map (fun m => m.data.length) =
      echoes.map fun m => m.data.length := map_stampFrom (fun _ => rfl) _ _
  have hlength : (stampFrom s.clock echoes).length = echoes.length := by
    have := congrArg List.length hlengths
    rwa [List.length_map, List.length_map] at this
  have hfits : ∀ m ∈ stampFrom s.clock echoes, m.data.length ≤ settings.rxBufferSize.toNat := by
    intro m hmem
    have hdata : m.data.length ∈ echoes.map fun m => m.data.length :=
      hlengths ▸ List.mem_map_of_mem hmem
    obtain ⟨sent, hsent, heq⟩ := List.mem_map.1 hdata
    exact heq ▸ hroom sent hsent
  have hanswer := readMsgs_answer (w := w) hfound settings hpos hle timeout
  dsimp only at hanswer
  rw [hpending, hlength, Nat.min_eq_right hmax, ← hlength, List.take_length, if_pos hfits,
    hlength] at hanswer
  simpa only [List.length_eq_zero_iff] using hanswer

/-- **Queueing.** Messages that fit their buffers are queued if all of them are of the protocol of
the channel and none is empty; the first that is not is what they are refused for, and its protocol
counts first. With loopback on, the messages in front of that one, or all of them, come back on the
bus in order, marked as echoes; with loopback off the channel stays as it was. If nothing waited on
the channel, a client that asks for enough then reads exactly the echoes that the filters admit. -/
theorem queues_and_echoes {s : State} {id : UInt32} {ch : Channel}
    (hfound : s.channels.get? id = some ch) {messages : List Message} (hsome : messages ≠ [])
    (hlt : messages.length < UInt32.size)
    (hfits : ∀ m ∈ messages, m.data.length ≤ m.bufferSize.toNat) (settings : Settings) :
    let client : Client w State := ⟨driver, settings⟩
    let result := client.ask (.queueMsgs ⟨id⟩ messages) s
    let good (m : Message) : Prop := m.protocolId = ch.protocol.code ∧ m.data ≠ []
    let echo (m : Message) : Message := { m with rxStatus := txMsgType, txFlags := 0 }
    let loopback := ch.settings.get? Parameter.loopback = some 1
    let after (sent : List Message) : Table Channel :=
      if loopback then s.channels.insert id { ch with bus := ch.bus ++ sent.map echo }
      else s.channels
    (result.1 = .ok messages.length ↔ ∀ m ∈ messages, good m) ∧
    ((∀ m ∈ messages, good m) → result.2.channels = after messages) ∧
    (∀ before bad rest, messages = before ++ bad :: rest → (∀ m ∈ before, good m) → ¬ good bad →
      result.1 = .error (.vendor (if bad.protocolId = ch.protocol.code then .invalidMsg
        else .msgProtocolId)) ∧
      result.2.channels = after before) ∧
    (loopback → ch.bus = [] → ch.rx = [] → (∀ m ∈ messages, good m) →
      ∀ max timeout, 1 ≤ max → max < UInt32.size →
        let echoes := (messages.filter ch.admits).map echo
        let frames := (stampFrom s.clock echoes).map (Message.inBuffer settings.rxBufferSize)
        echoes.length ≤ max → (∀ m ∈ echoes, m.data.length ≤ settings.rxBufferSize.toNat) →
        (client.readMsgs ⟨id⟩ max timeout result.2).1 =
            (if echoes = [] then .error (.vendor (if timeout = 0 then .bufferEmpty else .timeout))
            else .ok frames) ∧
          (∀ frame ∈ frames, frame.isEcho = true) ∧
          frames.map Message.data = (messages.filter ch.admits).map Message.data) := by
  intro client result good echo loopback after
  have hcounts : Counts messages.length := Nat.le_pred_of_lt hlt
  have hresult := queueMsgs_eq (w := w) hfound settings hsome hcounts hfits
  change result = _ at hresult
  have hsucceeds : (∀ m ∈ messages, good m) → result =
      (.ok messages.length, s.setChannel id (ch.transmit messages)) := by
    intro hgood
    rw [hresult, firstFault?_eq_none_iff.2 hgood, sendable_of_all hgood]
  have hfails : ∀ before bad rest, messages = before ++ bad :: rest → (∀ m ∈ before, good m) →
      ¬ good bad → result = (.error (.vendor (sendFault ch.protocol bad)),
        remember .queueMsgs (some (sendFault ch.protocol bad))
          (s.setChannel id (ch.transmit before))) := by
    rintro before bad rest rfl hgood hbad
    obtain ⟨hsent, hfault⟩ := sendable_of_fault hgood hbad
    rw [hresult, hfault, hsent]
  refine ⟨⟨fun hok => ?_, fun hgood => ?_⟩, fun hgood => ?_, ?_, ?_⟩
  · cases hfault : firstFault? ch.protocol messages with
    | none => exact firstFault?_eq_none_iff.1 hfault
    | some code =>
      rw [hresult, hfault] at hok
      cases hok
  · rw [hsucceeds hgood]
  · rw [hsucceeds hgood]
    exact setChannel_transmit hfound messages
  · intro before bad rest hsplit hgood hbad
    rw [hfails before bad rest hsplit hgood hbad]
    refine ⟨rfl, ?_⟩
    rw [remember_channels]
    exact setChannel_transmit hfound before
  · intro hloopback hbus hrx hgood max timeout hpos hmax echoes frames hlength hroom
    have hopen : (s.setChannel id (ch.transmit messages)).channels.get? id =
        some (ch.transmit messages) := Table.get?_insert_self _ _ _
    have hpending := pending_transmit (beq_iff_eq.2 hloopback) hbus hrx messages s.clock
    refine ⟨?_, isEcho_echoes _ _ _, data_echoes _ _ _⟩
    rw [hsucceeds hgood]
    exact readMsgs_echoes hopen hpending settings timeout hpos (Nat.le_pred_of_lt hmax) hlength
      hroom

/-- A CAN channel that admits every frame and has loopback on. -/
def Event.loopback : List (Event w) :=
  let everything := (Message.emptySlot 1).filledWith
    { protocolId := Protocol.can.code, data := [0] }
  Event.openCan ++
    [.call (.startMsgFilter (.of32 1) (.of32 (Coded.code FilterType.pass)) (some everything)
        (some everything) (some .zero)),
      .call (.ioctl (.of32 1) (.of32 (Coded.code Ioctl.setConfig))
        (.configList ⟨.of32 1, some [⟨.of32 Parameter.loopback, .of32 1⟩]⟩) .null)]

/-- Two messages are queued and read back. With one between them that is empty and of another
protocol, the first is sent and the protocol is complained about. -/
theorem queues_and_echoes_loopback :
    let s := (State.start 1).run (Event.loopback (w := .w64))
    let client : Client .w64 State := ⟨driver, { rxBufferSize := 8 }⟩
    let first : Message :=
      { protocolId := Protocol.can.code, data := [0, 0, 7, 0xE0], bufferSize := 4 }
    let second : Message :=
      { protocolId := Protocol.can.code, data := [0, 0, 7, 0xE1, 1], bufferSize := 8 }
    let bad : Message := { protocolId := Protocol.iso14230.code, data := [], bufferSize := 4 }
    let queued := client.ask (.queueMsgs ⟨1⟩ [first, second]) s
    let refused := client.ask (.queueMsgs ⟨1⟩ [first, bad, second]) s
    Reachable .w64 s ∧ queued.1 = .ok 2 ∧ refused.1 = .error (.vendor .msgProtocolId) ∧
      (refused.2.channels.get? 1).map (fun ch => ch.bus.map Message.data) =
        some [[0, 0, 7, 0xE0]] ∧
      ∃ frames, (client.readMsgs ⟨1⟩ 2 0 queued.2).1 = .ok frames ∧
        frames.map Message.data = [first.data, second.data] ∧
        ∀ frame ∈ frames, frame.isEcho = true := by
  intro s client first second bad queued refused
  obtain ⟨ch, hfound⟩ : ∃ ch, s.channels.get? 1 = some ch := ⟨_, rfl⟩
  have htwo := queues_and_echoes (w := .w64) hfound (List.cons_ne_nil first [second]) (by decide)
    (by decide) { rxBufferSize := 8 }
  have hthree := queues_and_echoes (w := .w64) hfound (List.cons_ne_nil first [bad, second])
    (by decide) (by decide) { rxBufferSize := 8 }
  obtain rfl := Option.some.inj hfound
  obtain ⟨hok, -, -, hreads⟩ := htwo
  obtain ⟨-, -, hfails, -⟩ := hthree
  obtain ⟨hrefused, hleft⟩ := hfails [first] bad [second] rfl (by decide) (by decide)
  obtain ⟨hread, hechoes, hdata⟩ :=
    hreads rfl rfl rfl (by decide) 2 0 (by decide) (by decide) (by decide) (by decide)
  refine ⟨⟨1, _, rfl⟩, hok.2 (by decide), hrefused, ?_, _, hread, hdata, hechoes⟩
  rw [hleft]
  rfl

end PassThru.Emulator
