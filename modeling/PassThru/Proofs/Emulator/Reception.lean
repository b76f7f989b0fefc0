import PassThru.Emulator.Dispatch
import PassThru.Proofs.Emulator.Operations
import PassThru.Proofs.Native.Slots

/-!
# Frames on their way to the caller

* `map_untimed_stampFrom`: admission changes nothing of a frame but its time.
* `deliver_left` and `deliver_slots`: a delivery hands over a first part of the queue, in order, one
  frame into each slot, and leaves the rest of the queue.
* `deliver_count_emptySlots`: into empty slots, the frames in front of the first that is too long.
* `performRead_eq`: what a read answers and leaves.
* `readyAmong_induction`: what pumping a channel preserves, a select preserves.
-/

namespace PassThru

/-- A frame with the time of its reception forgotten. -/
def Message.untimed (frame : Message) : Message := { frame with timestamp := 0 }

theorem Message.untimed_stamped (frame : Message) (time : UInt32) :
    ({ frame with timestamp := time } : Message).untimed = frame.untimed := rfl

namespace Emulator

variable {w : Width}

/-! ## Admission -/

theorem map_untimed_stampFrom (clock : UInt32) (frames : List Message) :
    (stampFrom clock frames).map Message.untimed = frames.map Message.untimed := by
  induction frames generalizing clock with
  | nil => rfl
  | cons frame rest ih =>
    rw [stampFrom, List.map_cons, List.map_cons, ih, Message.untimed_stamped]

/-- What a channel holds for its reader once the frames on its bus have been looked at. -/
def Channel.pending (ch : Channel) (clock : UInt32) : List Message :=
  ch.rx ++ stampFrom clock ch.admitted

@[simp] theorem Channel.pump_rx (ch : Channel) (clock : UInt32) :
    (ch.pump clock).rx = ch.pending clock := rfl

theorem Channel.pending_of_bus_nil {ch : Channel} (h : ch.bus = []) (clock : UInt32) :
    ch.pending clock = ch.rx := by
  unfold pending admitted
  rw [h, List.filter_nil, stampFrom, List.append_nil]

/-! ## Delivery -/

theorem deliver_refused {slot : NativeMessage w} {frame : Message} {e : Error} (n : Nat)
    (frames : List Message) (slots : List (NativeMessage w)) (h : slot.write frame = .error e) :
    deliver (n + 1) (frame :: frames) (slot :: slots) = ⟨slot :: slots, frame :: frames, 0, true⟩ := by
  rw [deliver, h]

theorem deliver_filled {slot filled : NativeMessage w} {frame : Message} (n : Nat)
    (frames : List Message) (slots : List (NativeMessage w)) (h : slot.write frame = .ok filled) :
    deliver (n + 1) (frame :: frames) (slot :: slots) =
      ⟨filled :: (deliver n frames slots).slots, (deliver n frames slots).left,
        (deliver n frames slots).count + 1, (deliver n frames slots).refused⟩ := by
  rw [deliver, h]

theorem deliver_left (n : Nat) (frames : List Message) (slots : List (NativeMessage w)) :
    (deliver n frames slots).left = frames.drop (deliver n frames slots).count := by
  induction n, frames, slots using deliver.induct with
  | case1 n frame frames slot slots e hwrite => rw [deliver_refused n frames slots hwrite]; rfl
  | case2 n frame frames slot slots filled hwrite ih =>
    rw [deliver_filled n frames slots hwrite]
    exact ih
  | case3 n frames slots hstop =>
    rw [deliver]
    · rfl
    · exact hstop

theorem deliver_count_le (n : Nat) (frames : List Message) (slots : List (NativeMessage w)) :
    (deliver n frames slots).count ≤ n ∧ (deliver n frames slots).count ≤ frames.length := by
  induction n, frames, slots using deliver.induct with
  | case1 n frame frames slot slots e hwrite =>
    rw [deliver_refused n frames slots hwrite]
    exact ⟨Nat.zero_le _, Nat.zero_le _⟩
  | case2 n frame frames slot slots filled hwrite ih =>
    rw [deliver_filled n frames slots hwrite]
    exact ⟨Nat.succ_le_succ ih.1, Nat.succ_le_succ ih.2⟩
  | case3 n frames slots hstop =>
    rw [deliver]
    · exact ⟨Nat.zero_le _, Nat.zero_le _⟩
    · exact hstop

/-- The messages in the first `n` slots. -/
def messagesIn (n : Nat) (slots : List (NativeMessage w)) : List Message :=
  (slots.take n).filterMap fun slot => slot.read.toOption

/-- The slots that were counted hold the frames that were handed over, in order. -/
theorem deliver_slots (n : Nat) (frames : List Message) (slots : List (NativeMessage w)) :
    (messagesIn (deliver n frames slots).count (deliver n frames slots).slots).map
        (Message.inBuffer 0) =
      (frames.take (deliver n frames slots).count).map (Message.inBuffer 0) := by
  induction n, frames, slots using deliver.induct with
  | case1 n frame frames slot slots e hwrite => rw [deliver_refused n frames slots hwrite]; rfl
  | case2 n frame frames slot slots filled hwrite ih =>
    obtain ⟨size, -, hread⟩ := NativeMessage.read_of_write hwrite
    rw [deliver_filled n frames slots hwrite]
    unfold messagesIn at ih ⊢
    rw [List.take_succ_cons, List.take_succ_cons, List.filterMap_cons, hread]
    exact congrArg (List.cons _) ih
  | case3 n frames slots hstop =>
    rw [deliver]
    · rfl
    · exact hstop

/-! ### Delivery into empty slots -/

section EmptySlots

variable (size : UInt32)

/-- The frames in front of the first that is longer than `size`. -/
def fitting (frames : List Message) : List Message :=
  frames.takeWhile fun frame => frame.data.length ≤ size.toNat

theorem deliver_emptySlots_cons (n : Nat) (frame : Message) (frames : List Message) :
    deliver (n + 1) (frame :: frames) (List.replicate (n + 1) (Message.emptySlot (w := w) size)) =
      if frame.data.length ≤ size.toNat then
        let rest := deliver n frames (List.replicate n (Message.emptySlot size))
        ⟨(Message.emptySlot size).filledWith frame :: rest.slots, rest.left, rest.count + 1,
          rest.refused⟩
      else ⟨List.replicate (n + 1) (Message.emptySlot size), frame :: frames, 0, true⟩ := by
  have hwrite := Message.emptySlot_write (w := w) size frame
  rw [List.replicate_succ]
  split
  · next hle =>
    rw [if_pos hle] at hwrite
    exact deliver_filled n frames _ hwrite
  · next hgt =>
    rw [if_neg hgt] at hwrite
    exact deliver_refused n frames _ hwrite

theorem fitting_cons (frame : Message) (frames : List Message) :
    fitting size (frame :: frames) =
      if frame.data.length ≤ size.toNat then frame :: fitting size frames else [] := by
  unfold fitting
  rw [List.takeWhile_cons]
  simp only [decide_eq_true_eq]

theorem deliver_count_emptySlots (n : Nat) (frames : List Message) :
    (deliver n frames (List.replicate n (Message.emptySlot (w := w) size))).count =
      (fitting size (frames.take n)).length := by
  induction n generalizing frames with
  | zero => rfl
  | succ n ih =>
    cases frames with
    | nil => rfl
    | cons frame frames =>
      rw [deliver_emptySlots_cons, List.take_succ_cons, fitting_cons]
      split
      · exact congrArg Nat.succ (ih frames)
      · rfl

theorem deliver_refused_emptySlots (n : Nat) (frames : List Message) :
    (deliver n frames (List.replicate n (Message.emptySlot (w := w) size))).refused =
      decide ((fitting size (frames.take n)).length < (frames.take n).length) := by
  induction n generalizing frames with
  | zero => rfl
  | succ n ih =>
    cases frames with
    | nil => rfl
    | cons frame frames =>
      rw [deliver_emptySlots_cons, List.take_succ_cons, fitting_cons]
      split
      · simp only [ih, List.length_cons, Nat.add_lt_add_iff_right]
      · simp

/-- What the owner of empty slots finds in those that were counted. -/
theorem decode_deliver (n : Nat) (frames : List Message) :
    let slot : NativeMessage w := Message.emptySlot size
    let delivery := deliver n frames (List.replicate n slot)
    Message.decodeFirst delivery.count
        (NativeMessage.receivedAll (List.replicate delivery.count slot) delivery.slots) =
      .ok ((fitting size (frames.take n)).map (Message.inBuffer size)) := by
  dsimp only
  induction n generalizing frames with
  | zero => rfl
  | succ n ih =>
    cases frames with
    | nil => rfl
    | cons frame frames =>
      rw [deliver_emptySlots_cons, List.take_succ_cons, fitting_cons]
      split
      · next hle =>
        have hrest := ih frames
        unfold Message.decodeFirst at hrest ⊢
        simp only [List.replicate_succ, NativeMessage.receivedAll, List.take_succ_cons,
          List.mapM_cons, Message.decode_received hle, hrest]
        rfl
      · rfl

end EmptySlots

/-! ## Reading -/

/-- The state after a read of a channel that took `n` of the frames that were pending. -/
def State.afterRead (s : State) (id : UInt32) (ch : Channel) (n : Nat) : State :=
  { s.setChannel id { ch with bus := [], rx := (ch.pending s.clock).drop n } with
    clock := clockAfter s.clock ch.admitted.length }

/-- A read hands over frames that are pending, and the rest of them stays. -/
theorem performRead_eq {s : State} {channel : Word w} {ch : Channel}
    (hfound : s.channels.get? channel.narrow = some ch) (slots : List (NativeMessage w))
    (count timeout : Word w) :
    let requested := count.narrow.toNat
    let delivery := deliver requested (ch.pending s.clock) slots
    performRead s channel ⟨some slots, some count⟩ timeout =
      ⟨delivery.failure? requested timeout.narrow,
        ⟨some delivery.slots, some (.of32 (UInt32.ofNat delivery.count))⟩,
        s.afterRead channel.narrow ch delivery.count⟩ := by
  have hpump := State.pump_eq_ok_iff.2 ⟨ch, hfound, rfl⟩
  unfold performRead
  dsimp only
  rw [hpump]
  dsimp only
  rw [deliver_left]
  unfold State.afterRead State.setChannel
  dsimp only
  rw [Table.insert_insert]
  rfl

theorem performRead_closed {s : State} {channel : Word w}
    (hclosed : s.channels.get? channel.narrow = none) (slots : List (NativeMessage w))
    (count timeout : Word w) :
    performRead s channel ⟨some slots, some count⟩ timeout =
      ⟨some .invalidChannelId, ⟨some slots, some .zero⟩, s⟩ := by
  have hpump : s.pump channel.narrow = .error .invalidChannelId :=
    State.pump_eq_error_iff.2 ⟨hclosed, rfl⟩
  unfold performRead
  dsimp only
  rw [hpump]

/-! ## Queueing -/

theorem performQueue_eq {s : State} {channel : Word w} {ch : Channel}
    (hfound : s.channels.get? channel.narrow = some ch) (messages : List (NativeMessage w))
    (count : Word w) :
    let accepted := accept ch.protocol (messages.take count.narrow.toNat)
    performQueue s channel ⟨some messages, some count⟩ =
      ⟨accepted.2, ⟨some messages, some (.of32 (UInt32.ofNat accepted.1.length))⟩,
        s.setChannel channel.narrow (ch.transmit accepted.1)⟩ := by
  unfold performQueue
  dsimp only
  rw [State.channel_eq_ok_iff.2 hfound]

theorem performQueue_closed {s : State} {channel : Word w}
    (hclosed : s.channels.get? channel.narrow = none) (messages : List (NativeMessage w))
    (count : Word w) :
    performQueue s channel ⟨some messages, some count⟩ =
      ⟨some .invalidChannelId, ⟨some messages, some .zero⟩, s⟩ := by
  unfold performQueue
  dsimp only
  rw [State.channel_eq_error_iff.2 ⟨hclosed, rfl⟩]

/-! ## Selecting -/

/-- What pumping one channel preserves, a select preserves, also one that stops at an unknown
channel. -/
theorem readyAmong_induction {P : State → Prop}
    (hpump : ∀ {s s' : State} {id : UInt32} {ch : Channel},
      s.pump id = .ok (ch, s') → P s → P s') (ids : List UInt32) (s : State) (hs : P s) :
    P (State.readyAmong ids s).2 := by
  induction ids, s using State.readyAmong.induct with
  | case1 s => exact hs
  | case2 id ids s code herror =>
    rw [State.readyAmong, herror]
    exact hs
  | case3 id ids s ch s' hok ready s'' hrest ih =>
    rw [State.readyAmong, hok]
    exact ih (hpump hok hs)

theorem performSelect_state (s : State) (set : Option (NativeChannelSet w)) (kind : Word w) :
    (performSelect s set kind).state =
      match selectArguments set kind.narrow with
      | .error _ => s
      | .ok (_, ids) => (State.readyAmong ids s).2 := by
  unfold performSelect
  cases selectArguments set kind.narrow with
  | error code => rfl
  | ok arguments =>
    obtain ⟨native, ids⟩ := arguments
    dsimp only
    generalize State.readyAmong ids s = result
    obtain ⟨ready, s'⟩ := result
    cases ready with
    | error code => rfl
    | ok ready =>
      dsimp only
      split <;> rfl

end Emulator

end PassThru
