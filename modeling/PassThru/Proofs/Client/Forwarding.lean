import PassThru.Proofs.Client.CallProtocol
import PassThru.Proofs.Native.Examination
import PassThru.Proofs.Native.Slots

/-!
# Handing received messages on

The owner of a message slot knows how long its buffer is, and takes no more out of it than that. The
size that goes with the message is another number, and it is the library that leaves it there. If it
left less than the data that are taken, the message is longer than its own buffer, and it cannot be
handed to a library any more.

* `NativeMessage.Covers`: the size that was left is enough for the data that are taken.
* `Received`: messages with the structures that they were decoded from.
* `received_fits_iff`: a received message fits, is written again as it is, and is queued without
  complaint exactly if its structure covers it.
-/

namespace PassThru

variable {w : Width}

/-! ## Sizes that a library leaves -/

/-- Whether the buffer size in a structure is enough for the data that its owner takes. -/
def NativeMessage.Covers (slot : NativeMessage w) : Prop :=
  min slot.dataLength.toNat (slot.buffer.getD []).length ≤ slot.bufferSize.toNat

instance (slot : NativeMessage w) : Decidable slot.Covers := inferInstanceAs (Decidable (_ ≤ _))

/-- A size that was left as it is for the buffer covers any data in it. -/
theorem NativeMessage.covers_of_kept {slot : NativeMessage w}
    (h : slot.bufferSize.toNat = (slot.buffer.getD []).length) : slot.Covers := by
  unfold Covers
  rw [h]
  exact Nat.min_le_right _ _

/-- What a library leaves in an empty slot covers its data, whatever the length that it reports, if
it leaves the size of the buffer alone. -/
theorem NativeMessage.covers_received {size : UInt32} {written : NativeMessage w}
    (h : written.bufferSize = .of32 size) :
    ((Message.emptySlot size).received written).Covers := by
  refine covers_of_kept ?_
  show written.bufferSize.toNat = (((Message.emptySlot (w := w) size).buffer.map _).getD []).length
  rw [h, Word.toNat_of32]
  by_cases hpos : 0 < size.toNat
  · rw [Message.emptySlot_buffer_of_pos hpos, Option.map_some, Option.getD_some, length_overwrite,
      List.length_replicate]
  · have hzero : size = 0 := UInt32.toNat_inj.1 (Nat.eq_zero_of_not_pos hpos)
    rw [hzero]
    rfl

/-- What a structure with narrow numbers is decoded to fits if the size covers the data. -/
theorem NativeMessage.examination_fits_iff {slot : NativeMessage w} (h : slot.bufferSize.Narrow) :
    slot.examination.value.Fits ↔ slot.Covers := by
  have hsize : slot.examination.value.bufferSize.toNat = slot.bufferSize.toNat :=
    Word.toNat_narrow h
  unfold Message.Fits
  rw [hsize]
  exact iff_of_eq (congrArg (· ≤ _) (Word.length_covered _ _))

/-! ## Received messages -/

/-- The messages that a client has decoded, and the structures that it decoded them from: a single
one, or the first few of several slots. -/
inductive Received : List (NativeMessage w) → List Message → Prop where
  | one {slot : NativeMessage w} {m : Message} (h : Message.decode slot = .ok m) :
    Received [slot] [m]
  | several {slots : List (NativeMessage w)} {messages : List Message} (n : Nat)
      (h : Message.decodeFirst n slots = .ok messages) : Received (slots.take n) messages

section Received

variable {slots : List (NativeMessage w)} {messages : List Message}

theorem Received.decodes (h : Received slots messages) :
    slots.mapM Message.decode = .ok messages := by
  cases h with
  | one h =>
    rw [List.mapM_cons, h]
    rfl
  | several n h => exact h

/-- Every structure of received messages has narrow numbers, and its message is what they make
up. -/
theorem Received.examined (h : Received slots messages) :
    messages = slots.map (fun slot => slot.examination.value) ∧
      ∀ slot ∈ slots, ∀ n ∈ slot.examination.numbers, n.2.Narrow := by
  have hdecides : (Reading.ofList NativeMessage.examination slots).Decides
      (slots.mapM Message.decode) :=
    .of_eq (Reading.answer_ofList Message.decode_examination slots).symm
  obtain ⟨hvalue, hnarrow⟩ := (hdecides.ok_iff messages).1 h.decodes
  exact ⟨hvalue, fun slot hslot n hn => hnarrow n (List.mem_flatMap.2 ⟨slot, hslot, hn⟩)⟩

theorem Received.bufferSize_narrow (h : Received slots messages) {slot : NativeMessage w}
    (hslot : slot ∈ slots) : slot.bufferSize.Narrow :=
  h.examined.2 slot hslot ("data_buffer_size", slot.bufferSize) (by
    unfold NativeMessage.examination NativeMessage.reading
    simp only [List.mem_cons, true_or, or_true])

theorem Received.fits_iff (h : Received slots messages) :
    (∀ m ∈ messages, m.Fits) ↔ ∀ slot ∈ slots, slot.Covers := by
  rw [h.examined.1, List.forall_mem_map]
  constructor
  · intro hfits slot hslot
    exact (NativeMessage.examination_fits_iff (h.bufferSize_narrow hslot)).1 (hfits slot hslot)
  · intro hcovers slot hslot
    exact (NativeMessage.examination_fits_iff (h.bufferSize_narrow hslot)).2 (hcovers slot hslot)

end Received

/-! ## Queueing -/

/-- Whatever the library, queueing complains about the length of data exactly if a message does not
fit, and then the library is not called. -/
theorem queueMsgs_tooLong_iff {σ : Type} (c : Client w σ) (channel : ChannelId)
    (messages : List Message) (s : σ) :
    let result := c.ask (.queueMsgs channel messages) s
    ((∃ max actual, result.1 = .error (.valueTooLarge "data" max actual)) ↔
        ¬ ∀ m ∈ messages, m.Fits) ∧
      ((¬ ∀ m ∈ messages, m.Fits) → result.2 = s) := by
  intro result
  have hresult : result = (Request.queueMsgs channel messages).perform c.driver s := rfl
  obtain ⟨hnone, hsome⟩ := findSome?_refusal messages
  have hkeeps := Request.queueMsgs_keeps (w := w) channel messages
  generalize (Request.queueMsgs channel messages : Request w Nat) = request at hresult hkeeps
  cases hkeeps with
  | @refused e he =>
    obtain ⟨max, actual, rfl⟩ := hsome e he
    have hunfit : ¬ ∀ m ∈ messages, m.Fits := fun hfit => by
      rw [hnone.2 hfit] at he
      cases he
    rw [hresult]
    exact ⟨iff_of_true ⟨max, actual, rfl⟩ hunfit, fun _ => rfl⟩
  | given hfit _ =>
    rw [hresult]
    refine ⟨iff_of_false ?_ (not_not_intro (hnone.1 hfit)), fun _ => rfl⟩
    rintro ⟨max, actual, h⟩
    cases h
  | @called call finish hfit _ hentry hsettles =>
    rw [hresult]
    refine ⟨iff_of_false ?_ (not_not_intro (hnone.1 hfit)), fun h => absurd (hnone.1 hfit) h⟩
    rintro ⟨max, actual, h⟩
    have hanswer : finish (c.driver call s).1 = .error (.valueTooLarge "data" max actual) := h
    have hsettled := hsettles (c.driver call s).1
    by_cases hdelivers : (c.driver call s).1.Delivers
    · -- the only number that is read is the count of messages
      obtain ⟨a, -, hreads⟩ := hsettled.reads hdelivers
      cases call with
      | queueMsgs channel messages count =>
        obtain ⟨front, field, number, rest, hnumbers, -, -, hsame⟩ :=
          Reading.answer_eq_error_iff.1 (hreads.symm.trans hanswer)
        have hmem : (field, number) ∈ front ++ (field, number) :: rest :=
          List.mem_append_right _ List.mem_cons_self
        rw [← hnumbers] at hmem
        obtain ⟨rfl, -⟩ := Prod.mk.inj (List.mem_singleton.1 hmem)
        have hfield := (Error.valueTooLarge.inj hsame).1
        exact absurd hfield (by decide)
      | _ => cases hentry
    · obtain ⟨e, -, -, hfails⟩ := hsettled.fails hdelivers
      cases hanswer.symm.trans hfails

/-! ## Handing on -/

/-- **Handing received messages on.** A received message has as many data as were reported and were
there, in a buffer of the size that the library left. It fits if that size covers the data, and then
it is written and read back as it is; otherwise it has no native form. Whatever the library,
queueing received messages complains about the length of data exactly if one of them was left a size
that does not cover it. -/
theorem received_fits_iff {slots : List (NativeMessage w)} {messages : List Message}
    (h : Received slots messages) :
    messages.length = slots.length ∧
    (∀ (i : Nat) (slot : NativeMessage w) (m : Message), slots[i]? = some slot →
      messages[i]? = some m →
        m.data.length = min slot.dataLength.toNat (slot.buffer.getD []).length ∧
        m.bufferSize.toNat = slot.bufferSize.toNat ∧
        (m.data.length ≤ m.bufferSize.toNat ↔ slot.Covers) ∧
        (slot.Covers → ∃ native : NativeMessage w,
          m.encode = .ok native ∧ Message.decode native = .ok m) ∧
        (¬ slot.Covers → (m.encode : Answer (NativeMessage w)) =
          .error (.valueTooLarge "data" m.bufferSize.toNat m.data.length))) ∧
    ∀ {σ : Type} (c : Client w σ) (channel : ChannelId) (s : σ),
      (∃ max actual, (c.ask (.queueMsgs channel messages) s).1 =
        .error (.valueTooLarge "data" max actual)) ↔ ∃ slot ∈ slots, ¬ slot.Covers := by
  obtain ⟨hmessages, hnarrow⟩ := h.examined
  refine ⟨by rw [hmessages, List.length_map], fun i slot m hslot hm => ?_, fun c channel s => ?_⟩
  · have hsize := h.bufferSize_narrow (List.mem_of_getElem? hslot)
    have hfits := NativeMessage.examination_fits_iff hsize
    rw [hmessages, List.getElem?_map, hslot] at hm
    obtain rfl : slot.examination.value = m := Option.some.inj hm
    refine ⟨Word.length_covered _ _, Word.toNat_narrow hsize, hfits, fun hcovers => ?_,
      fun hcovers => ?_⟩
    · exact message_roundTrip.encodes _ (hfits.2 hcovers)
    · exact message_roundTrip.refuses _ fun hfit => hcovers (hfits.1 hfit)
  · rw [(queueMsgs_tooLong_iff c channel messages s).1, h.fits_iff]
    simp only [Classical.not_forall, exists_prop]

/-- A library that leaves the size 2 in a slot of four bytes, with four bytes of data, leaves a
message that is longer than its buffer. -/
theorem received_exceeds_buffer :
    let own : NativeMessage .w64 := Message.emptySlot 4
    let left := own.received { own with
      dataLength := .of32 4
      buffer := some [1, 2, 3, 4]
      bufferSize := .of32 2 }
    let m : Message := { data := [1, 2, 3, 4], bufferSize := 2 }
    Message.receiveSlots 1 0 4 = .ok [own] ∧ Message.decode left = .ok m ∧
      Message.decodeFirst 1 [left] = .ok [m] ∧ ¬ m.data.length ≤ m.bufferSize.toNat ∧
      (m.encode : Answer (NativeMessage .w64)) = .error (.valueTooLarge "data" 2 4) ∧
      (Request.queueMsgs ⟨1⟩ [m] : Request .w64 Nat) =
        .settled (.error (.valueTooLarge "data" 2 4)) := by
  refine ⟨rfl, rfl, rfl, by decide, rfl, rfl⟩

/-- If it leaves the size 4, the message fits. -/
theorem received_fits_iff_kept :
    let own : NativeMessage .w64 := Message.emptySlot 4
    let left := own.received { own with dataLength := .of32 9, buffer := some [1, 2, 3, 4] }
    let m : Message := { data := [1, 2, 3, 4], bufferSize := 4 }
    Message.decode left = .ok m ∧ m.data.length ≤ m.bufferSize.toNat := by
  intro own left m
  have hdecode : Message.decode left = .ok m := rfl
  have hcovers : left.Covers := NativeMessage.covers_received rfl
  obtain ⟨-, heach, -⟩ := received_fits_iff (.one hdecode)
  obtain ⟨-, -, hfits, -⟩ := heach 0 left m rfl rfl
  exact ⟨hdecode, hfits.2 hcovers⟩

end PassThru
