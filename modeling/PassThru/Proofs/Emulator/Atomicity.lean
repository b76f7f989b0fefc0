import PassThru.Proofs.Emulator.Failures

/-!
# Failed calls are atomic

A call that fails leaves the state as it was, up to the text about the last failure. Three calls are
an exception, because they work through a list: what they did in front of the fault stays done.

* `Residue`: what a failed call may have done. `SelectResidue`, `ReadResidue` and `QueueResidue` are
  the three exceptions.
* `Effect.lastFailure_eq`: no operation touches the text; only `remember` does.
* `failed_calls_atomic`: every call, in every state.
-/

namespace PassThru.Emulator

open Attempt

variable {w : Width}

/-! ## Residues -/

/-- The state after the frames on the bus of a channel have arrived, if it is open. -/
def State.pumped (s : State) (id : UInt32) : State :=
  match s.pump id with
  | .ok (_, s') => s'
  | .error _ => s

/-- The state after channels have been pumped one after the other. -/
def State.pumpAll (s : State) (ids : List UInt32) : State := ids.foldl State.pumped s

/-- How far a failed select has got. -/
inductive SelectResidue (s : State) (set : Option (NativeChannelSet w)) (kind : Word w) :
    ErrorCode → State → Prop
  /-- An argument is wrong, and no channel was looked at. -/
  | argument (code : ErrorCode) (wrong : selectArguments set kind.narrow = .error code)
      (code_mem : code ∈ [.nullParameter, .selectTypeNotSupported, .exceededLimit]) :
      SelectResidue s set kind code s
  /-- A channel is not open, and those in front of it were pumped. -/
  | unknown (native : NativeChannelSet w) (known : List UInt32) (id : UInt32) (rest : List UInt32)
      (arguments : selectArguments set kind.narrow = .ok (native, known ++ id :: rest))
      (opened : ∀ k ∈ known, s.channels.contains k = true) (closed : s.channels.contains id = false) :
      SelectResidue s set kind .invalidChannelId (s.pumpAll known)
  /-- Too few channels are ready, and all of them were pumped. -/
  | few (native : NativeChannelSet w) (ids : List UInt32)
      (arguments : selectArguments set kind.narrow = .ok (native, ids))
      (opened : ∀ id ∈ ids, s.channels.contains id = true) :
      SelectResidue s set kind .timeout (s.pumpAll ids)

/-- How far a failed read has got. -/
inductive ReadResidue (s : State) (channel : Word w) (slots : Option (List (NativeMessage w)))
    (count : Option (Word w)) : ErrorCode → MessageMemory w → State → Prop
  | null (missing : slots = none ∨ count = none) :
      ReadResidue s channel slots count .nullParameter ⟨slots, count⟩ s
  | closed (gone : s.channels.get? channel.narrow = none) :
      ReadResidue s channel slots count .invalidChannelId ⟨slots, some .zero⟩ s
  /-- The channel was pumped, and the frames that the reply counts were taken and handed over. -/
  | live (code : ErrorCode) (ch : Channel) (pumped : State) (filled : List (NativeMessage w))
      (taken : Word w) (pump_eq : s.pump channel.narrow = .ok (ch, pumped))
      (code_mem : code ∈ [.bufferTooSmall, .bufferEmpty, .timeout])
      (some_taken : taken.toNat ≠ 0 → code = .timeout ∨ code = .bufferTooSmall)
      (taken_le : taken.toNat ≤ ch.rx.length)
      (handed_over : (messagesIn taken.toNat filled).map (Message.inBuffer 0) =
        (ch.rx.take taken.toNat).map (Message.inBuffer 0)) :
      ReadResidue s channel slots count code ⟨some filled, some taken⟩
        (pumped.setChannel channel.narrow { ch with rx := ch.rx.drop taken.toNat })

/-- How far a failed queueing of messages has got. -/
inductive QueueResidue (s : State) (channel : Word w) :
    Option (List (NativeMessage w)) → Option (Word w) → ErrorCode → MessageMemory w → State → Prop
  | null (messages : Option (List (NativeMessage w))) (count : Option (Word w))
      (missing : messages = none ∨ count = none) :
      QueueResidue s channel messages count .nullParameter ⟨messages, count⟩ s
  | closed (messages : Option (List (NativeMessage w))) (count : Option (Word w))
      (gone : s.channels.get? channel.narrow = none) :
      QueueResidue s channel messages count .invalidChannelId ⟨messages, some .zero⟩ s
  /-- Of the messages in front of the first bad one, which the reply counts, the echoes were put on
  the bus. -/
  | live (messages : List (NativeMessage w)) (count : Word w) (code : ErrorCode) (ch : Channel)
      (sent : Word w) (bad : NativeMessage w) (found : s.channels.get? channel.narrow = some ch)
      (sent_lt : sent.toNat < count.narrow.toNat) (bad_eq : messages[sent.toNat]? = some bad)
      (fault : fault? ch.protocol bad = some code)
      (faultless : ∀ message ∈ messages.take sent.toNat, fault? ch.protocol message = none) :
      QueueResidue s channel (some messages) (some count) code ⟨some messages, some sent⟩
        (s.setChannel channel.narrow
          { ch with
            bus := ch.bus ++
              if ch.loopback then (messagesIn sent.toNat messages).map echo else [] })

/-- What a failed call may have done, given its code and the memory that it was handed. -/
def Residue (s : State) (code : ErrorCode) : (call : Call w) → call.Memory → State → Prop
  | .select set kind _, _, s' => SelectResidue s set kind code s'
  | .readMsgs channel slots count _, memory, s' => ReadResidue s channel slots count code memory s'
  | .queueMsgs channel messages count, memory, s' =>
    QueueResidue s channel messages count code memory s'
  | _, _, s' => s' = s

/-! ## Selecting -/

theorem pumped_of_open {s s' : State} {id : UInt32} {ch : Channel} (h : s.pump id = .ok (ch, s')) :
    s.pumped id = s' := by
  unfold State.pumped
  rw [h]

theorem readyAmong_state (ids : List UInt32) (s : State) :
    (State.readyAmong ids s).2 = s.pumpAll (s.lookedAt ids) := by
  induction ids, s using State.readyAmong.induct with
  | case1 s => rfl
  | case2 id ids s code herror =>
    have hgone := Table.contains_eq_false_iff.2 (State.pump_eq_error_iff.1 herror).1
    have hnone : s.lookedAt (id :: ids) = [] := List.takeWhile_cons_of_neg (by rw [hgone]; decide)
    rw [State.readyAmong, herror, hnone]
    rfl
  | case3 id ids s ch s₁ hok ready s₂ hrest ih =>
    obtain ⟨before, hfound, hresult⟩ := State.pump_eq_ok_iff.1 hok
    have hlooked : s.lookedAt (id :: ids) = id :: s.lookedAt ids :=
      List.takeWhile_cons_of_pos (Table.contains_iff.2 ⟨before, hfound⟩)
    have hsame : s₁.lookedAt ids = s.lookedAt ids := by
      obtain ⟨rfl, rfl⟩ := Prod.mk.inj hresult
      unfold State.lookedAt
      rw [← contains_setChannel hfound (before.pump s.clock)]
    rw [State.readyAmong, hok, hlooked, ← hsame]
    show (State.readyAmong ids s₁).2 = (s.pumped id).pumpAll _
    rw [pumped_of_open hok]
    exact ih

/-- What is looked at is all there is, or ends in front of a channel that is not open. -/
theorem lookedAt_cases (s : State) (ids : List UInt32) :
    ((∀ id ∈ ids, s.channels.contains id = true) ∧ s.lookedAt ids = ids) ∨
      ∃ id rest, ids = s.lookedAt ids ++ id :: rest ∧ s.channels.contains id = false := by
  induction ids with
  | nil => exact .inl ⟨by simp, rfl⟩
  | cons id ids ih =>
    by_cases hopen : s.channels.contains id = true
    · have hlooked : s.lookedAt (id :: ids) = id :: s.lookedAt ids :=
        List.takeWhile_cons_of_pos hopen
      rw [hlooked]
      rcases ih with ⟨hall, hsame⟩ | ⟨k, rest, hids, hclosed⟩
      · exact .inl ⟨List.forall_mem_cons.2 ⟨hopen, hall⟩, congrArg (List.cons id) hsame⟩
      · exact .inr ⟨k, rest, congrArg (List.cons id) hids, hclosed⟩
    · have hlooked : s.lookedAt (id :: ids) = [] := List.takeWhile_cons_of_neg hopen
      rw [hlooked]
      exact .inr ⟨id, ids, rfl, Bool.eq_false_iff.2 hopen⟩

theorem residue_performSelect {s : State} {set : Option (NativeChannelSet w)} {kind : Word w}
    {code : ErrorCode} (h : (performSelect s set kind).failure? = some code) :
    SelectResidue s set kind code (performSelect s set kind).state := by
  rw [performSelect_state]
  cases harguments : selectArguments set kind.narrow with
  | error code' =>
    have hcode : (performSelect s set kind).failure? = some code' := by
      unfold performSelect
      rw [harguments]
    obtain rfl := Option.some.inj (h.symm.trans hcode)
    exact .argument code harguments (failsIn_selectArguments set kind.narrow code harguments)
  | ok arguments =>
    obtain ⟨native, ids⟩ := arguments
    have hgate := gatedBy_performSelect s harguments
    have hverdict := Outcome.verdict_eq_error_iff.2 h
    dsimp only
    rw [readyAmong_state]
    rcases lookedAt_cases s ids with ⟨hopen, hall⟩ | ⟨id, rest, hids, hclosed⟩
    · rw [hall]
      obtain rfl := List.mem_singleton.1 (hgate.passed hopen code hverdict)
      exact .few native ids harguments hopen
    · have hshut : ¬ ∀ id ∈ ids, s.channels.contains id = true := by
        intro hopen
        have hfound := hopen id (by rw [hids]; simp)
        rw [hclosed] at hfound
        cases hfound
      obtain ⟨code', hmem, hcode⟩ := hgate.refused hshut
      obtain rfl := List.mem_singleton.1 hmem
      obtain rfl := Except.error.inj (hverdict.symm.trans hcode)
      rw [hids] at harguments
      exact .unknown native _ id rest harguments (List.all_eq_true.1 List.all_takeWhile) hclosed

/-! ## Reading -/

/-- Frames are taken only by reads that run out of time or into a slot that is too small. -/
theorem failure?_of_taken {delivery : Delivery w} {requested : Nat} {timeout : UInt32}
    {code : ErrorCode} (h : delivery.failure? requested timeout = some code)
    (htaken : delivery.count ≠ 0) : code = .timeout ∨ code = .bufferTooSmall := by
  unfold Delivery.failure? at h
  split at h
  · exact .inr (Option.some.inj h).symm
  · split at h
    · next hnone => exact absurd hnone.2 htaken
    · split at h
      · exact .inl (Option.some.inj h).symm
      · cases h

theorem afterRead_eq (s : State) (id : UInt32) (ch : Channel) (n : Nat) :
    s.afterRead id ch n =
      State.setChannel
        { s.setChannel id (ch.pump s.clock) with clock := clockAfter s.clock ch.admitted.length } id
        { ch.pump s.clock with rx := (ch.pump s.clock).rx.drop n } := by
  unfold State.afterRead State.setChannel
  dsimp only
  rw [Table.insert_insert]
  rfl

theorem residue_performRead {s : State} {channel : Word w}
    {slots : Option (List (NativeMessage w))} {count : Option (Word w)} {timeout : Word w}
    {code : ErrorCode} (h : (performRead s channel ⟨slots, count⟩ timeout).failure? = some code) :
    ReadResidue s channel slots count code (performRead s channel ⟨slots, count⟩ timeout).memory
      (performRead s channel ⟨slots, count⟩ timeout).state := by
  cases slots with
  | none =>
    obtain rfl := Option.some.inj h
    exact .null (.inl rfl)
  | some slots =>
    cases count with
    | none =>
      obtain rfl := Option.some.inj h
      exact .null (.inr rfl)
    | some count =>
      cases hfound : s.channels.get? channel.narrow with
      | none =>
        rw [performRead_closed hfound] at h ⊢
        obtain rfl := Option.some.inj h
        exact .closed hfound
      | some ch =>
        rw [performRead_eq hfound] at h ⊢
        dsimp only at h ⊢
        -- the count that is reported is the number of frames that were handed over
        generalize hdelivery : deliver count.narrow.toNat (ch.pending s.clock) slots = delivery
          at h ⊢
        obtain ⟨hle, hlength⟩ := deliver_count_le count.narrow.toNat (ch.pending s.clock) slots
        have hslots := deliver_slots count.narrow.toNat (ch.pending s.clock) slots
        rw [hdelivery] at hle hlength hslots
        have htaken : (Word.of32 (UInt32.ofNat delivery.count) : Word w).toNat = delivery.count :=
          Word.toNat_of32_ofNat hle
        have hpump := State.pump_eq_ok_iff.2 ⟨ch, hfound, rfl⟩
        rw [afterRead_eq]
        have hlive := @ReadResidue.live w s channel (some slots) (some count) code _ _
          delivery.slots (.of32 (UInt32.ofNat delivery.count)) hpump (failsIn_deliver _ _ code h)
        rw [htaken] at hlive
        exact hlive (failure?_of_taken h) hlength hslots

/-! ## Queueing -/

theorem transmit_eq (ch : Channel) (frames : List Message) :
    ch.transmit frames =
      { ch with bus := ch.bus ++ if ch.loopback then frames.map echo else [] } := by
  unfold Channel.transmit
  split
  · rfl
  · rw [List.append_nil]

theorem residue_performQueue {s : State} {channel : Word w}
    {messages : Option (List (NativeMessage w))} {count : Option (Word w)} {code : ErrorCode}
    (h : (performQueue s channel ⟨messages, count⟩).failure? = some code) :
    QueueResidue s channel messages count code (performQueue s channel ⟨messages, count⟩).memory
      (performQueue s channel ⟨messages, count⟩).state := by
  cases messages with
  | none =>
    obtain rfl := Option.some.inj h
    exact .null _ _ (.inl rfl)
  | some messages =>
    cases count with
    | none =>
      obtain rfl := Option.some.inj h
      exact .null _ _ (.inr rfl)
    | some count =>
      cases hfound : s.channels.get? channel.narrow with
      | none =>
        rw [performQueue_closed hfound] at h ⊢
        obtain rfl := Option.some.inj h
        exact .closed _ _ hfound
      | some ch =>
        rw [performQueue_eq hfound] at h ⊢
        dsimp only at h ⊢
        obtain ⟨bad, hbad, hfault⟩ := fault?_of_accept h
        have hfaultless : ∀ message ∈ (messages.take count.narrow.toNat).take
            (accept ch.protocol (messages.take count.narrow.toNat)).1.length,
            fault? ch.protocol message = none := fun message => fault?_of_mem_take
        have hmessages := messagesIn_accept ch.protocol (messages.take count.narrow.toNat)
        generalize accept ch.protocol (messages.take count.narrow.toNat) = accepted
          at h hbad hfaultless hmessages ⊢
        rw [List.getElem?_take] at hbad
        split at hbad
        · next hlt =>
          have hle := Nat.le_of_lt hlt
          rw [messagesIn_take hle] at hmessages
          have hsent : (Word.of32 (UInt32.ofNat accepted.1.length) : Word w).toNat =
              accepted.1.length := Word.toNat_of32_ofNat hle
          have hlive := QueueResidue.live messages count code ch
            (.of32 (UInt32.ofNat accepted.1.length)) bad hfound
          rw [hsent, hmessages] at hlive
          rw [transmit_eq]
          refine hlive hlt hbad hfault fun message hmem => hfaultless message ?_
          rw [List.take_take, Nat.min_eq_left hle]
          exact hmem
        · cases hbad

/-! ## Every call -/

theorem residue_perform {s : State} {call : Call w} {code : ErrorCode}
    (h : (perform s call).failure? = some code) :
    Residue s code call (perform s call).memory (perform s call).state := by
  have heffect := perform_effect s call
  rw [h] at heffect
  cases call with
  | select set kind timeout => exact residue_performSelect h
  | readMsgs channel slots count timeout => exact residue_performRead h
  | queueMsgs channel messages count => exact residue_performQueue h
  | _ =>
    generalize (perform s _).state = s' at heffect
    cases heffect
    rfl

/-! ### The text about the last failure -/

theorem pump_lastFailure {s s' : State} {id : UInt32} {ch : Channel} (h : s.pump id = .ok (ch, s')) :
    s'.lastFailure = s.lastFailure := by
  obtain ⟨before, -, hresult⟩ := State.pump_eq_ok_iff.1 h
  obtain ⟨-, rfl⟩ := Prod.mk.inj hresult
  rfl

theorem Effect.lastFailure_eq {s s' : State} {call : Call w} {failure? : Option ErrorCode}
    (h : Effect s call failure? s') : s'.lastFailure = s.lastFailure := by
  cases h with
  | refused | answered | scanned | delivered | read | queued => rfl
  | opened _ _ _ _ hok =>
    obtain ⟨-, -, rfl⟩ := State.openDevice_eq_ok_iff.1 hok
    rfl
  | closed _ _ hok =>
    obtain ⟨-, rfl⟩ := State.closeDevice_eq_ok_iff.1 hok
    rfl
  | connected _ _ _ _ _ _ _ _ hok =>
    obtain ⟨device, protocol, pins, -, -, -, hresult⟩ := State.connect_eq_ok hok
    obtain ⟨-, rfl⟩ := Prod.mk.inj hresult
    rfl
  | disconnected _ _ hok =>
    obtain ⟨ch, -, -, rfl⟩ := State.disconnect_eq_ok_iff.1 hok
    rfl
  | logicalConnected _ _ _ _ _ _ _ hok =>
    obtain ⟨parent, -, -, -, -, -, hresult⟩ := State.logicalConnect_eq_ok_iff.1 hok
    obtain ⟨-, rfl⟩ := Prod.mk.inj hresult
    rfl
  | logicalDisconnected _ _ hok =>
    obtain ⟨ch, -, -, rfl⟩ := State.logicalDisconnect_eq_ok_iff.1 hok
    rfl
  | selected _ _ _ _ ids =>
    exact readyAmong_induction (P := fun s' => s'.lastFailure = s.lastFailure)
      (fun hpump hs => (pump_lastFailure hpump).trans hs) ids s rfl
  | periodicStarted _ _ _ _ _ _ hok =>
    obtain ⟨ch, -, -, frame, -, -, -, hresult⟩ := State.startPeriodicMsg_eq_ok_iff.1 hok
    obtain ⟨-, rfl⟩ := Prod.mk.inj hresult
    rfl
  | periodicStopped _ _ _ hok =>
    obtain ⟨ch, -, -, rfl⟩ := State.stopPeriodicMsg_eq_ok_iff.1 hok
    rfl
  | filterStarted _ _ _ _ _ _ _ hok =>
    obtain ⟨ch, -, filter, -, -, -, -, -, -, -, -, hresult⟩ := State.startMsgFilter_eq_ok_iff.1 hok
    obtain ⟨-, rfl⟩ := Prod.mk.inj hresult
    rfl
  | filterStopped _ _ _ hok =>
    obtain ⟨ch, -, -, rfl⟩ := State.stopMsgFilter_eq_ok_iff.1 hok
    rfl
  | powered _ _ _ _ hok =>
    obtain ⟨device, -, pin, -, -, -, pins, -, rfl⟩ := State.setProgrammingVoltage_eq_ok_iff.1 hok
    rfl
  | configured _ _ _ _ _ _ hok =>
    obtain ⟨-, ch, -, entries, -, -, rfl⟩ := State.setConfig_eq_ok_iff.1 hok
    rfl
  | functionalChanged _ _ _ _ _ _ hok =>
    obtain ⟨-, ch, -, -, addresses, -, rfl⟩ := State.changeFunctional_eq_ok_iff.1 hok
    rfl
  | cleared _ _ _ _ _ _ _ hok =>
    obtain ⟨-, -, ch, -, ch', -, rfl⟩ := State.clear_eq_ok_iff.1 hok
    rfl

/-! ### Handle numbers -/

theorem pumped_issued (s : State) (id : UInt32) : (s.pumped id).issued = s.issued := by
  unfold State.pumped
  split
  · next h =>
    obtain ⟨before, -, hresult⟩ := State.pump_eq_ok_iff.1 h
    obtain ⟨-, rfl⟩ := Prod.mk.inj hresult
    rfl
  · rfl

theorem pumpAll_issued (s : State) (ids : List UInt32) : (s.pumpAll ids).issued = s.issued := by
  unfold State.pumpAll
  induction ids generalizing s with
  | nil => rfl
  | cons id ids ih => exact (ih _).trans (pumped_issued s id)

@[simp] theorem remember_issued (entry : EntryPoint) (failure? : Option ErrorCode) (s : State) :
    (remember entry failure? s).issued = s.issued := by
  unfold remember
  cases failure? with
  | none => rfl
  | some code => dsimp only; split <;> rfl

/-- What is done before a failure consumes no handle number. -/
theorem Residue.issued_eq {s s' : State} {call : Call w} {code : ErrorCode} {memory : call.Memory}
    (h : Residue s code call memory s') : s'.issued = s.issued := by
  cases call with
  | select set kind timeout =>
    cases h with
    | argument => rfl
    | unknown _ known => exact pumpAll_issued s known
    | few _ ids => exact pumpAll_issued s ids
  | readMsgs channel slots count timeout =>
    cases h with
    | null | closed => rfl
    | live _ ch pumped _ _ hpump =>
      rw [← pumped_issued s channel.narrow, pumped_of_open hpump]
      rfl
  | queueMsgs channel messages count =>
    cases h with
    | null | closed | live => rfl
  | _ => exact congrArg State.issued h

/-- Reading the text works through no list. -/
theorem Residue.eq_of_getLastError {s s' : State} {call : Call w} {code : ErrorCode}
    {memory : call.Memory} (h : Residue s code call memory s') (hentry : call.entry = .getLastError) :
    s' = s := by
  cases call <;> first | exact h | cases hentry

/-! ### Atomicity -/

end PassThru.Emulator
