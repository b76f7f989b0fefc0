import PassThru.Emulator.Attempt
import PassThru.Native.Message

/-!
# Messages in slots

What a library writes into a slot, and what is read out of it afterwards.

* `NativeMessage.write_eq_ok_iff`: a slot takes a message whose data fit its buffer.
* `NativeMessage.read_of_write` and `NativeMessage.decode_filledWith`: the slot then reads as that
  message, on either side of the boundary.
* `SameRoom`: filling keeps the size of a slot and the length of its buffer, so that the owner finds
  all that was written (`SameRoom.received_eq`).
* `Message.decode_received`: an empty slot reads as the message once the library has filled it.
-/

namespace PassThru

variable {w : Width}

/-- A count that is no larger than a 32-bit number is written as it is. -/
theorem Word.toNat_of32_ofNat {n : Nat} {bound : UInt32} (h : n ≤ bound.toNat) :
    (Word.of32 (UInt32.ofNat n) : Word w).toNat = n := by
  rw [Word.toNat_of32]
  exact UInt32.toNat_ofNat_of_lt' (Nat.lt_of_le_of_lt h bound.toNat_lt_size)

/-- A message as it is read out of a buffer of the given size. -/
def Message.inBuffer (size : UInt32) (m : Message) : Message := { m with bufferSize := size }

namespace NativeMessage

/-- The slot with the message in it. -/
def filledWith (slot : NativeMessage w) (m : Message) : NativeMessage w where
  protocolId := .of32 m.protocolId
  msgHandle := .of32 m.msgHandle
  rxStatus := .of32 m.rxStatus
  txFlags := .of32 m.txFlags
  timestamp := .of32 m.timestamp
  dataLength := .of32 (UInt32.ofNat m.data.length)
  extraDataIndex := .of32 m.extraDataIndex
  buffer := slot.buffer.map fun buffer => m.data ++ buffer.drop m.data.length
  bufferSize := slot.bufferSize

theorem write_eq_ok_iff {slot filled : NativeMessage w} {m : Message} :
    slot.write m = .ok filled ↔
      ∃ size, slot.bufferSize = .of32 size ∧ m.data.length ≤ size.toNat ∧
        (slot.buffer = none → m.data = []) ∧ filled = slot.filledWith m := by
  unfold write Word.read
  cases hsize : slot.bufferSize.to32? with
  | none =>
    have hwide : ∀ size, slot.bufferSize ≠ .of32 size := by
      intro size heq
      rw [Word.to32?_eq_some_iff.2 heq] at hsize
      cases hsize
    constructor
    · intro h
      cases h
    · rintro ⟨size, heq, -⟩
      exact absurd heq (hwide size)
  | some size =>
    have heq : slot.bufferSize = .of32 size := Word.to32?_eq_some_iff.1 hsize
    show (if _ then _ else _) = _ ↔ _
    split
    · next hbad =>
      constructor
      · intro h
        cases h
      · rintro ⟨size', heq', hle, hnull, -⟩
        rw [heq'] at hsize
        rw [Word.to32?_of32, Option.some.injEq] at hsize
        subst hsize
        rcases hbad with hlt | ⟨hnone, hne⟩
        · omega
        · exact absurd (hnull hnone) hne
    · next hgood =>
      rw [not_or, not_and, Classical.not_not] at hgood
      constructor
      · intro h
        exact ⟨size, heq, Nat.not_lt.1 hgood.1, hgood.2, (Except.ok.inj h).symm⟩
      · rintro ⟨-, -, -, -, rfl⟩
        rfl

/-- The numbers of a filled slot are those of the message, and its data are what its buffer begins
with. -/
theorem interpret_filledWith {slot : NativeMessage w} {m : Message} {size : UInt32}
    {buffer : List UInt8} (hsize : slot.bufferSize = .of32 size)
    (hle : m.data.length ≤ size.toNat) (hdata : buffer.take m.data.length = m.data) :
    (slot.filledWith m).interpret buffer = .ok (m.inBuffer size) := by
  have hlength : (UInt32.ofNat m.data.length).toNat = m.data.length :=
    UInt32.toNat_ofNat_of_lt' (Nat.lt_of_le_of_lt hle size.toNat_lt_size)
  unfold interpret filledWith
  rw [hsize]
  simp only [Word.read_of32, bind, Except.bind, hlength, hdata]
  rfl

theorem take_buffer_filledWith {slot : NativeMessage w} {m : Message}
    (hnull : slot.buffer = none → m.data = []) :
    ((slot.filledWith m).buffer.getD []).take m.data.length = m.data := by
  show ((slot.buffer.map fun buffer => m.data ++ buffer.drop m.data.length).getD []).take _ = _
  cases hbuffer : slot.buffer with
  | none => rw [hnull hbuffer]; rfl
  | some buffer => exact List.take_left' rfl

/-- A slot that was filled reads as the message. -/
theorem read_of_write {slot filled : NativeMessage w} {m : Message}
    (h : slot.write m = .ok filled) :
    ∃ size, slot.bufferSize = .of32 size ∧ filled.read = .ok (m.inBuffer size) := by
  obtain ⟨size, hsize, hle, hnull, rfl⟩ := write_eq_ok_iff.1 h
  refine ⟨size, hsize, ?_⟩
  have hread : (slot.filledWith m).bufferSize.read "data_buffer_size" = .ok size := by
    show slot.bufferSize.read _ = _
    rw [hsize, Word.read_of32]
  unfold read
  rw [hread]
  refine interpret_filledWith hsize hle ?_
  rw [List.take_take, Nat.min_eq_left hle]
  exact take_buffer_filledWith hnull

/-- It reads as the message to its owner, too. -/
theorem decode_filledWith {slot : NativeMessage w} {m : Message} {size : UInt32}
    (hsize : slot.bufferSize = .of32 size) (hle : m.data.length ≤ size.toNat)
    (hnull : slot.buffer = none → m.data = []) :
    Message.decode (slot.filledWith m) = .ok (m.inBuffer size) :=
  interpret_filledWith hsize hle (take_buffer_filledWith hnull)

/-! ## What filling does not change -/

/-- Whether there is as much behind the pointer of a slot as the slot says, if it is not null. -/
def Backed (slot : NativeMessage w) : Prop :=
  ∀ buffer, slot.buffer = some buffer → slot.bufferSize.toNat ≤ buffer.length

/-- A slot of the same size, with a buffer of the same length. -/
structure SameRoom (slot slot' : NativeMessage w) : Prop where
  size : slot'.bufferSize = slot.bufferSize
  length : slot'.buffer.map List.length = slot.buffer.map List.length

namespace SameRoom

variable {slot slot' slot'' : NativeMessage w}

theorem refl (slot : NativeMessage w) : SameRoom slot slot := ⟨rfl, rfl⟩

theorem trans (h : SameRoom slot slot') (h' : SameRoom slot' slot'') : SameRoom slot slot'' :=
  ⟨h'.size.trans h.size, h'.length.trans h.length⟩

theorem null_iff (h : SameRoom slot slot') : slot'.buffer = none ↔ slot.buffer = none := by
  rw [← Option.map_eq_none_iff, h.length, Option.map_eq_none_iff]

theorem backed (h : SameRoom slot slot') (hbacked : slot.Backed) : slot'.Backed := by
  intro buffer' hbuffer'
  have hlength := h.length
  rw [hbuffer'] at hlength
  obtain ⟨buffer, hbuffer, hsame⟩ := Option.map_eq_some_iff.1 hlength.symm
  rw [h.size, ← hsame]
  exact hbacked buffer hbuffer

/-- The owner finds all that was written, since the buffer is as long as its own. -/
theorem received_eq (h : SameRoom slot slot') : slot.received slot' = slot' := by
  have hbuffer : slot.buffer.map (fun buffer => overwrite buffer (slot'.buffer.getD [])) =
      slot'.buffer := by
    have hlength := h.length
    cases hown : slot.buffer with
    | none =>
      rw [h.null_iff.2 hown]
      rfl
    | some buffer =>
      rw [hown] at hlength
      obtain ⟨written, hwritten, hsame⟩ := Option.map_eq_some_iff.1 hlength
      rw [hwritten, Option.map_some, Option.getD_some, overwrite_of_length hsame]
  unfold received
  rw [hbuffer]

end SameRoom

theorem sameRoom_filledWith {slot : NativeMessage w} {m : Message} (hbacked : slot.Backed)
    (hle : m.data.length ≤ slot.bufferSize.toNat) : SameRoom slot (slot.filledWith m) := by
  refine ⟨rfl, ?_⟩
  show (slot.buffer.map fun buffer => m.data ++ buffer.drop m.data.length).map List.length = _
  cases hbuffer : slot.buffer with
  | none => rfl
  | some buffer =>
    have hlength := Nat.le_trans hle (hbacked buffer hbuffer)
    refine congrArg some ?_
    rw [List.length_append, List.length_drop]
    omega

end NativeMessage

namespace Message

/-- An empty slot of a given size. -/
def emptySlot (size : UInt32) : NativeMessage w where
  protocolId := .of32 0
  msgHandle := .of32 0
  rxStatus := .of32 0
  txFlags := .of32 0
  timestamp := .of32 0
  dataLength := .of32 0
  extraDataIndex := .of32 0
  buffer := pointerTo (List.replicate size.toNat 0)
  bufferSize := .of32 size

theorem receiveSlots_eq (count : Nat) (size : UInt32) :
    receiveSlots count 0 size = .ok (List.replicate count (emptySlot (w := w) size)) := by
  have hfits : ¬ (withCapacity 0 size).bufferSize.toNat < (withCapacity 0 size).data.length :=
    Nat.not_lt_zero _
  unfold receiveSlots encode
  rw [if_neg hfits]
  rfl

theorem emptySlot_buffer_of_pos {size : UInt32} (h : 0 < size.toNat) :
    (emptySlot (w := w) size).buffer = some (List.replicate size.toNat 0) := by
  unfold emptySlot pointerTo
  rw [if_neg]
  rw [List.isEmpty_iff, List.replicate_eq_nil_iff]
  omega

/-- Its pointer is null only if there is no room at all. -/
theorem eq_nil_of_emptySlot_null {size : UInt32} {m : Message}
    (h : m.data.length ≤ size.toNat) (hnull : (emptySlot (w := w) size).buffer = none) :
    m.data = [] := by
  by_cases hpos : 0 < size.toNat
  · rw [emptySlot_buffer_of_pos hpos] at hnull
    cases hnull
  · exact List.eq_nil_of_length_eq_zero (by omega)

theorem backed_emptySlot (size : UInt32) : (emptySlot (w := w) size).Backed := by
  intro buffer hbuffer
  unfold emptySlot pointerTo at hbuffer
  split at hbuffer
  · cases hbuffer
  · obtain rfl := Option.some.inj hbuffer
    exact Nat.le_of_eq List.length_replicate.symm

theorem emptySlot_write (size : UInt32) (m : Message) :
    (emptySlot (w := w) size).write m =
      if m.data.length ≤ size.toNat then .ok ((emptySlot size).filledWith m)
      else .error (.valueTooLarge "data" size.toNat m.data.length) := by
  split
  · next hle =>
    exact NativeMessage.write_eq_ok_iff.2 ⟨size, rfl, hle, eq_nil_of_emptySlot_null hle, rfl⟩
  · next hgt =>
    unfold NativeMessage.write emptySlot
    rw [Word.read_of32]
    exact if_pos (.inl (Nat.not_le.1 hgt))

theorem decode_received {size : UInt32} {m : Message} (h : m.data.length ≤ size.toNat) :
    decode ((emptySlot (w := w) size).received ((emptySlot size).filledWith m)) =
      .ok (m.inBuffer size) := by
  have hroom := NativeMessage.sameRoom_filledWith (backed_emptySlot (w := w) size) h
  rw [hroom.received_eq]
  exact NativeMessage.decode_filledWith rfl h (eq_nil_of_emptySlot_null h)

end Message

end PassThru
