import PassThru.Proofs.Native.Decoding
import PassThru.Proofs.Native.RoundTrip
import PassThru.Proofs.Native.Slots

/-!
# Slots that are filled again and again

A message crosses the boundary as a structure with a pointer in it. The side that made it knows how
long the buffer is; the other side has to believe the structure, and fills it store by store.

* `fill`: the stores one after the other, and `fill_eq`: none of them is made in vain, so a refused
  message leaves no trace.
* `Takes`: which messages a slot takes. It takes the same ones after it was filled.
* `readsAs_refill`: after any number of fillings the slot reads as the last message it took.
* `message_paths_agree`: both sides read and write the same messages.
-/

namespace PassThru

variable {w : Width}

namespace NativeMessage

/-! ## Store by store -/

/-- Fill a slot store by store: how that ends, and what the slot is then. The length of the data is
counted when the data and the first numbers are stored already. -/
def fill (slot : NativeMessage w) (m : Message) : Answer Unit × NativeMessage w :=
  match slot.bufferSize.read "data_buffer_size" with
  | .error e => (.error e, slot)
  | .ok capacity =>
    if capacity.toNat < m.data.length ∨ (slot.buffer = none ∧ m.data ≠ []) then
      (.error (.valueTooLarge "data" capacity.toNat m.data.length), slot)
    else
      let slot : NativeMessage w := { slot with
        buffer := slot.buffer.map fun buffer => m.data ++ buffer.drop m.data.length }
      let slot : NativeMessage w := { slot with
        protocolId := .of32 m.protocolId
        msgHandle := .of32 m.msgHandle
        rxStatus := .of32 m.rxStatus
        txFlags := .of32 m.txFlags
        timestamp := .of32 m.timestamp }
      match Word.count "data_length" m.data.length with
      | .error e => (.error e, slot)
      | .ok length =>
        let slot : NativeMessage w := { slot with dataLength := length }
        (.ok (), { slot with extraDataIndex := .of32 m.extraDataIndex })

/-- Filling ends as writing does. The late count does not fail: what fits the buffer can be counted.
So a slot is filled as a whole or left as it was. -/
theorem fill_eq (slot : NativeMessage w) (m : Message) :
    slot.fill m =
      match slot.write m with
      | .ok filled => (.ok (), filled)
      | .error e => (.error e, slot) := by
  unfold fill write
  cases slot.bufferSize.read "data_buffer_size" with
  | error e => rfl
  | ok capacity =>
    dsimp only [bind, Except.bind]
    by_cases hrefused : capacity.toNat < m.data.length ∨ (slot.buffer = none ∧ m.data ≠ [])
    · rw [if_pos hrefused, if_pos hrefused]
    · rw [if_neg hrefused, if_neg hrefused]
      rw [not_or, Nat.not_lt] at hrefused
      have hcounts : Counts m.data.length :=
        Nat.le_trans hrefused.1 (Nat.le_pred_of_lt capacity.toNat_lt_size)
      rw [count_of_counts _ hcounts]
      rfl

theorem fill_of_ok {slot filled : NativeMessage w} {m : Message} (h : slot.write m = .ok filled) :
    slot.fill m = (.ok (), filled) := by
  rw [fill_eq, h]

theorem fill_of_error {slot : NativeMessage w} {m : Message} {e : Error}
    (h : slot.write m = .error e) : slot.fill m = (.error e, slot) := by
  rw [fill_eq, h]

/-! ## What a slot takes -/

/-- Whether a slot takes a message: its size fits 32 bits, the data are no longer than that, and
there is a buffer for them if there are any. -/
def Takes (slot : NativeMessage w) (m : Message) : Prop :=
  slot.bufferSize.Narrow ∧ m.data.length ≤ slot.bufferSize.toNat ∧
    (slot.buffer = none → m.data = [])

section Takes

variable {slot filled : NativeMessage w} {m : Message}

theorem write_of_takes (h : slot.Takes m) : slot.write m = .ok (slot.filledWith m) := by
  obtain ⟨hnarrow, hle, hnull⟩ := h
  obtain ⟨size, hsize⟩ := Word.narrow_iff_exists.1 hnarrow
  rw [hsize, Word.toNat_of32] at hle
  exact write_eq_ok_iff.2 ⟨size, hsize, hle, hnull, rfl⟩

theorem takes_of_write (h : slot.write m = .ok filled) :
    slot.Takes m ∧ filled = slot.filledWith m := by
  obtain ⟨size, hsize, hle, hnull, rfl⟩ := write_eq_ok_iff.1 h
  refine ⟨⟨Word.narrow_iff_exists.2 ⟨size, hsize⟩, ?_, hnull⟩, rfl⟩
  rw [hsize, Word.toNat_of32]
  exact hle

theorem exists_write_eq_ok_iff : (∃ filled, slot.write m = .ok filled) ↔ slot.Takes m :=
  ⟨fun ⟨_, h⟩ => (takes_of_write h).1, fun h => ⟨_, write_of_takes h⟩⟩

theorem fill_of_takes (h : slot.Takes m) : slot.fill m = (.ok (), slot.filledWith m) :=
  fill_of_ok (write_of_takes h)

theorem fill_of_not_takes (h : ¬ slot.Takes m) : (slot.fill m).2 = slot := by
  cases hwrite : slot.write m with
  | ok filled => exact absurd (takes_of_write hwrite).1 h
  | error e => rw [fill_of_error hwrite]

end Takes

theorem SameRoom.takes_iff {slot slot' : NativeMessage w} (h : SameRoom slot slot')
    (m : Message) : slot'.Takes m ↔ slot.Takes m := by
  unfold Takes
  rw [h.size, h.null_iff]

theorem sameRoom_fill {slot : NativeMessage w} (hbacked : slot.Backed) (m : Message) :
    SameRoom slot (slot.fill m).2 := by
  by_cases h : slot.Takes m
  · rw [fill_of_takes h]
    exact sameRoom_filledWith hbacked h.2.1
  · rw [fill_of_not_takes h]
    exact .refl slot

/-! ## Filling again and again -/

/-- A slot after it was filled with messages one after the other. -/
def refill (slot : NativeMessage w) (messages : List Message) : NativeMessage w :=
  messages.foldl (fun slot m => (slot.fill m).2) slot

theorem refill_append_cons (slot : NativeMessage w) (earlier later : List Message) (m : Message) :
    slot.refill (earlier ++ m :: later) = ((slot.refill earlier).fill m).2.refill later := by
  unfold refill
  rw [List.foldl_append, List.foldl_cons]

theorem sameRoom_refill {slot : NativeMessage w} (hbacked : slot.Backed)
    (messages : List Message) : SameRoom slot (slot.refill messages) := by
  induction messages generalizing slot with
  | nil => exact .refl slot
  | cons m messages ih =>
    have hfill := sameRoom_fill hbacked m
    exact hfill.trans (ih (hfill.backed hbacked))

theorem refill_of_refused {slot : NativeMessage w} {messages : List Message}
    (h : ∀ m ∈ messages, ¬ slot.Takes m) : slot.refill messages = slot := by
  induction messages with
  | nil => rfl
  | cons m messages ih =>
    rw [List.forall_mem_cons] at h
    show (slot.fill m).2.refill messages = slot
    rw [fill_of_not_takes h.1]
    exact ih h.2

/-! ## Reading -/

/-- Both sides read the message in a slot: the one that was handed `written`, and the one that owns
the slot and has the buffer of `own`. -/
structure ReadsAs (own written : NativeMessage w) (m : Message) : Prop where
  read : written.read = .ok m
  decode : Message.decode written = .ok m
  received : Message.decode (own.received written) = .ok m

/-- A slot that takes a message reads as that, whatever was in it. -/
theorem readsAs_filledWith {own slot : NativeMessage w} {m : Message}
    (hroom : SameRoom own (slot.filledWith m)) (h : slot.Takes m) :
    ReadsAs own (slot.filledWith m) (m.inBuffer slot.bufferSize.narrow) := by
  obtain ⟨hnarrow, hle, hnull⟩ := id h
  obtain ⟨size, hsize⟩ := Word.narrow_iff_exists.1 hnarrow
  rw [hsize, Word.toNat_of32] at hle
  obtain ⟨size', hsize', hread⟩ := read_of_write (write_of_takes h)
  obtain rfl : size' = size := by
    simpa using congrArg Word.narrow (hsize'.symm.trans hsize)
  have hdecode := decode_filledWith hsize hle hnull
  rw [hsize, Word.narrow_of32]
  refine ⟨hread, hdecode, ?_⟩
  rw [hroom.received_eq]
  exact hdecode

/-- After any number of fillings a slot reads as the last message that it took. -/
theorem readsAs_refill {slot : NativeMessage w} (hbacked : slot.Backed) (earlier : List Message)
    {m : Message} (h : slot.Takes m) {refused : List Message}
    (hrefused : ∀ r ∈ refused, ¬ slot.Takes r) :
    ReadsAs slot (slot.refill (earlier ++ m :: refused)) (m.inBuffer slot.bufferSize.narrow) := by
  have hearlier := sameRoom_refill hbacked earlier
  have htakes : (slot.refill earlier).Takes m := (hearlier.takes_iff m).2 h
  have hroom : SameRoom slot ((slot.refill earlier).filledWith m) :=
    hearlier.trans (sameRoom_filledWith (hearlier.backed hbacked) htakes.2.1)
  rw [refill_append_cons, fill_of_takes htakes,
    refill_of_refused fun r hr htaken => hrefused r hr ((hroom.takes_iff r).1 htaken),
    ← hearlier.size]
  exact readsAs_filledWith hroom htakes

end NativeMessage

/-- **Both sides of the boundary agree on messages.** A message that fits is read by either side as
its owner wrote it. A slot whose buffer is null, or no shorter than its size says, is filled exactly
if that size fits 32 bits, the data are no longer and there is a buffer for them. Then both sides
read the message with the size of the slot, and the bytes behind the data are as before; otherwise
the slot is as before. So a slot reads as the last message that it took, whatever was written in it
earlier. -/
theorem message_paths_agree (w : Width) :
    (∀ m : Message, m.data.length ≤ m.bufferSize.toNat →
      ∃ native : NativeMessage w, m.encode = .ok native ∧ native.read = .ok m ∧
        Message.decode native = .ok m) ∧
      ∀ slot : NativeMessage w,
        (∀ buffer, slot.buffer = some buffer → slot.bufferSize.toNat ≤ buffer.length) →
        (∀ m : Message, (∃ filled, slot.write m = .ok filled) ↔
          slot.bufferSize.toNat ≤ UInt32.size - 1 ∧
            m.data.length ≤ slot.bufferSize.toNat ∧ (slot.buffer = none → m.data = [])) ∧
        (∀ (m : Message) (filled : NativeMessage w), slot.write m = .ok filled →
          slot.fill m = (.ok (), filled) ∧
            slot.ReadsAs filled { m with bufferSize := slot.bufferSize.narrow } ∧
            filled.bufferSize = slot.bufferSize ∧
            filled.buffer = slot.buffer.map fun buffer => m.data ++ buffer.drop m.data.length) ∧
        (∀ (m : Message) (e : Error), slot.write m = .error e → slot.fill m = (.error e, slot)) ∧
        ∀ (earlier refused : List Message) (m : Message),
          (∃ filled, slot.write m = .ok filled) →
          (∀ r ∈ refused, ∃ e, slot.write r = .error e) →
          slot.ReadsAs (slot.refill (earlier ++ m :: refused))
            { m with bufferSize := slot.bufferSize.narrow } := by
  refine ⟨fun m hfits => ?_, fun slot hbacked => ⟨fun m => NativeMessage.exists_write_eq_ok_iff,
    fun m filled hwrite => ?_, fun m e => NativeMessage.fill_of_error,
    fun earlier refused m hwrite hrefused => ?_⟩⟩
  · obtain ⟨native, hencode, hdecode⟩ := (message_roundTrip (w := w)).encodes m hfits
    exact ⟨native, hencode, read_of_encode hencode, hdecode⟩
  · obtain ⟨htakes, rfl⟩ := NativeMessage.takes_of_write hwrite
    have hroom := NativeMessage.sameRoom_filledWith hbacked htakes.2.1
    exact ⟨NativeMessage.fill_of_ok hwrite, NativeMessage.readsAs_filledWith hroom htakes, rfl, rfl⟩
  · refine NativeMessage.readsAs_refill hbacked earlier
      (NativeMessage.exists_write_eq_ok_iff.1 hwrite) fun r hr htakes => ?_
    obtain ⟨e, he⟩ := hrefused r hr
    rw [NativeMessage.write_of_takes htakes] at he
    cases he

/-- The second message leaves nothing of the first to be read, and the third is too long. -/
example :
    ((Message.emptySlot 4 : NativeMessage .w64).refill
      [{ data := [1, 2, 3, 4] }, { data := [5, 6] }, { data := [7, 7, 7, 7, 7] }]).read =
      .ok { data := [5, 6], bufferSize := 4 } := by
  rfl

end PassThru
