import PassThru.Native.ChannelSet
import PassThru.Native.Control
import PassThru.Native.Descriptor
import PassThru.Native.Device
import PassThru.Proofs.Text.Utf8

/-!
# Models and their native forms

Every model that fits its native form is written and read back as it was; any other is refused, and
the error says why. What has to fit is the name of a device, the data of a message, and the length
of a list.

* `RoundTrip`: what holds of a pair of functions that write and read one kind of model.
* `device_roundTrip`, `message_roundTrip` and so on: the kinds one by one.
* `read_of_encode`: a message is read as it was by the other side, too.
* `encodeAll_fits` and `encodeAll_refuses`: several messages at once.
* `codecs_round_trip`: all of them.
-/

namespace PassThru

variable {w : Width} {α β : Type}

/-- What fits is written and read back as it was; what does not is refused. -/
structure RoundTrip (encode : α → Answer β) (decode : β → Answer α) (fits : α → Prop)
    (refusal : α → Error) : Prop where
  encodes : ∀ a, fits a → ∃ native, encode a = .ok native ∧ decode native = .ok a
  refuses : ∀ a, ¬ fits a → encode a = .error (refusal a)

/-! ## Counted lists -/

/-- A length that a native count can hold. -/
def Counts (n : Nat) : Prop := n ≤ maxNumber

instance (n : Nat) : Decidable (Counts n) := inferInstanceAs (Decidable (n ≤ maxNumber))

theorem toNat_count {n : Nat} (h : Counts n) : (UInt32.ofNat n).toNat = n :=
  UInt32.toNat_ofNat_of_lt' (Nat.lt_of_le_of_lt h (by decide))

theorem count_of_counts (field : String) {n : Nat} (h : Counts n) :
    (Word.count field n : Answer (Word w)) = .ok (.of32 (UInt32.ofNat n)) := if_pos h

theorem count_of_not_counts (field : String) {n : Nat} (h : ¬ Counts n) :
    (Word.count field n : Answer (Word w)) = .error (.valueTooLarge field maxNumber n) := if_neg h

theorem mapM_map_of_left_inverse {write : α → β} {read : β → Answer α}
    (h : ∀ a, read (write a) = .ok a) (list : List α) : (list.map write).mapM read = .ok list := by
  induction list with
  | nil => rfl
  | cons a list ih => rw [List.map_cons, List.mapM_cons, h, ih]; rfl

/-- A counted list is read as far as its count, which is all of it. -/
theorem take_pointerTo_map {list : List α} (write : α → β) (h : Counts list.length) :
    ((pointerTo (list.map write)).getD []).take (UInt32.ofNat list.length).toNat =
      list.map write := by
  rw [pointerTo_getD, toNat_count h]
  exact List.take_of_length_le (Nat.le_of_eq (List.length_map write))

theorem resource_roundTrip :
    RoundTrip (Resource.encode (w := w)) Resource.decode (fun r => Counts r.pins.length)
      fun r => .valueTooLarge "num_of_resources" maxNumber r.pins.length where
  encodes r h := by
    have hread := mapM_map_of_left_inverse (Word.read_of32 (w := w) "resource_list") r.pins
    unfold Resource.encode Resource.decode
    rw [count_of_counts _ h]
    refine ⟨_, rfl, ?_⟩
    simp only [Word.read_of32, take_pointerTo_map _ h, hread, bind, Except.bind]
    rfl
  refuses r h := by
    unfold Resource.encode
    rw [count_of_not_counts _ h]
    rfl

theorem channelSet_roundTrip :
    RoundTrip (ChannelSet.encode (w := w)) ChannelSet.decode
      (fun set => Counts set.channels.length)
      fun set => .valueTooLarge "channel_count" maxNumber set.channels.length where
  encodes set h := by
    have hread := mapM_map_of_left_inverse (Word.read_of32 (w := w) "channel_list")
      (set.channels.map ChannelId.raw)
    have hlist : ((pointerTo (set.channels.map fun channel => Word.of32 channel.raw)).getD []).take
        (UInt32.ofNat set.channels.length).toNat =
        (set.channels.map ChannelId.raw).map (Word.of32 (w := w)) := by
      rw [take_pointerTo_map _ h, List.map_map]
      rfl
    have hchannels : (set.channels.map ChannelId.raw).map ChannelId.mk = set.channels := by
      rw [List.map_map]
      exact List.map_id _
    unfold ChannelSet.encode ChannelSet.decode
    rw [count_of_counts _ h]
    refine ⟨_, rfl, ?_⟩
    simp only [Word.read_of32, hlist, hread, bind, Except.bind]
    exact congrArg (fun channels => Except.ok (ChannelSet.mk set.threshold channels)) hchannels
  refuses set h := by
    unfold ChannelSet.encode
    rw [count_of_not_counts _ h]
    rfl

theorem NativeSetting.decode_encode (s : Setting) :
    decode (encode s : NativeSetting w) = .ok s := by
  unfold decode encode
  simp only [Word.read_of32, bind, Except.bind]
  rfl

theorem configList_roundTrip :
    RoundTrip (NativeConfigList.encode (w := w)) NativeConfigList.decode
      (fun settings => Counts settings.length)
      fun settings => .valueTooLarge "num_of_params" maxNumber settings.length where
  encodes settings h := by
    have hread := mapM_map_of_left_inverse (NativeSetting.decode_encode (w := w)) settings
    unfold NativeConfigList.encode NativeConfigList.decode
    rw [count_of_counts _ h]
    refine ⟨_, rfl, ?_⟩
    simp only [Word.read_of32, take_pointerTo_map _ h, hread, bind, Except.bind]
  refuses settings h := by
    unfold NativeConfigList.encode
    rw [count_of_not_counts _ h]
    rfl

theorem byteArray_roundTrip :
    RoundTrip (NativeByteArray.encode (w := w)) NativeByteArray.decode
      (fun bytes => Counts bytes.length)
      fun bytes => .valueTooLarge "num_of_bytes" maxNumber bytes.length where
  encodes bytes h := by
    have hbytes := take_pointerTo_map id h
    rw [List.map_id] at hbytes
    unfold NativeByteArray.encode NativeByteArray.decode
    rw [count_of_counts _ h]
    refine ⟨_, rfl, ?_⟩
    simp only [Word.read_of32, hbytes, bind, Except.bind]
    rfl
  refuses bytes h := by
    unfold NativeByteArray.encode
    rw [count_of_not_counts _ h]
    rfl

theorem Descriptor.decode_encode (d : Descriptor) :
    Descriptor.decode (d.encode : NativeDescriptor w) = .ok d := by
  unfold decode encode
  simp only [Word.read_of32, bind, Except.bind]
  rfl

/-! ## Devices -/

/-- A name that a text field can hold. -/
def Names (name : String) : Prop := '\x00' ∉ name.toList ∧ name.utf8ByteSize ≤ 79

instance (name : String) : Decidable (Names name) := inferInstanceAs (Decidable (_ ∧ _))

/-- Why a device is refused for its name. -/
def Device.refusal (d : Device) : Error :=
  if '\x00' ∈ d.name.toList then .interiorNul "device_name"
  else .valueTooLarge "device_name" 79 d.name.utf8ByteSize

namespace Field

theorem contains_zero_iff {text : String} :
    (Utf8.encode text).contains 0 = true ↔ '\x00' ∈ text.toList := by
  rw [List.contains_iff_mem, Utf8.zero_mem_encode_iff]

/-- A field that ends its text by a NUL reads as the text. -/
theorem decode_padded {text : String} (h : '\x00' ∉ text.toList) (n : Nat) :
    decode (Utf8.encode text ++ List.replicate n 0) = text := by
  have hcontent : content (Utf8.encode text ++ List.replicate n 0) = Utf8.encode text := by
    have hbytes : ∀ b ∈ Utf8.encode text, (b != 0) = true := by
      rintro b hmem
      rw [bne_iff_ne]
      rintro rfl
      exact h ((Utf8.zero_mem_encode_iff text).1 hmem)
    unfold content
    rw [List.takeWhile_append_of_pos hbytes]
    cases n with
    | zero => exact List.append_nil _
    | succ n => rw [List.replicate_succ, List.takeWhile_cons_of_neg (by decide), List.append_nil]
  unfold decode
  rw [hcontent, Utf8.decodeLossy_encode]

theorem encode_of_names {text : String} (field : String) (h : Names text) :
    encode field text =
      .ok (Utf8.encode text ++ List.replicate (size - (Utf8.encode text).length) 0) := by
  have hnul : ¬ (Utf8.encode text).contains 0 = true := fun hmem => h.1 (contains_zero_iff.1 hmem)
  have hsize : ¬ size ≤ (Utf8.encode text).length := by
    rw [Utf8.length_encode]
    exact Nat.not_le.2 (Nat.lt_succ_of_le h.2)
  unfold encode
  dsimp only
  rw [if_neg hnul, if_neg hsize]

theorem encode_of_not_names {text : String} (field : String) (h : ¬ Names text) :
    encode field text =
      .error (if '\x00' ∈ text.toList then .interiorNul field
        else .valueTooLarge field 79 text.utf8ByteSize) := by
  unfold encode
  dsimp only
  by_cases hnul : '\x00' ∈ text.toList
  · rw [if_pos (contains_zero_iff.2 hnul), if_pos hnul]
  · have hlong : size ≤ (Utf8.encode text).length := by
      rw [Utf8.length_encode]
      exact Nat.not_lt.1 fun hlt => h ⟨hnul, Nat.le_of_lt_succ hlt⟩
    rw [if_neg (fun hmem => hnul (contains_zero_iff.1 hmem)), if_neg hnul, if_pos hlong,
      Utf8.length_encode]
    rfl

end Field

theorem device_roundTrip :
    RoundTrip (Device.encode (w := w)) Device.decode (fun d => Names d.name) Device.refusal where
  encodes d h := by
    have hname := Field.decode_padded h.1 (Field.size - (Utf8.encode d.name).length)
    unfold Device.encode Device.decode
    rw [Field.encode_of_names _ h]
    refine ⟨_, rfl, ?_⟩
    simp only [Word.read_of32, hname, bind, Except.bind]
    rfl
  refuses d h := by
    unfold Device.encode Device.refusal
    rw [Field.encode_of_not_names _ h]
    rfl

/-! ## Messages -/

/-- Why a message is refused. -/
def Message.refusal (m : Message) : Error :=
  .valueTooLarge "data" m.bufferSize.toNat m.data.length

theorem message_roundTrip :
    RoundTrip (Message.encode (w := w)) Message.decode Message.Fits Message.refusal where
  encodes m h := by
    have hlength : (UInt32.ofNat m.data.length).toNat = m.data.length :=
      UInt32.toNat_ofNat_of_lt' (Nat.lt_of_le_of_lt h m.bufferSize.toNat_lt_size)
    -- the zeros that fill the buffer up are not read
    have hdata : ∀ n, (m.data ++ List.replicate n 0).take (UInt32.ofNat m.data.length).toNat =
        m.data := by
      intro n
      rw [hlength]
      exact List.take_left' rfl
    unfold Message.encode Message.decode NativeMessage.interpret
    rw [if_neg (Nat.not_lt.2 h)]
    refine ⟨_, rfl, ?_⟩
    simp only [Word.read_of32, pointerTo_getD, hdata, bind, Except.bind]
    rfl
  refuses m h := if_pos (Nat.not_le.1 h)

/-- A message that was encoded is read as it was, by its structure alone. -/
theorem read_of_encode {m : Message} {native : NativeMessage w} (h : m.encode = .ok native) :
    native.read = .ok m := by
  have hfits : m.Fits := by
    refine Decidable.byContradiction fun hnot => ?_
    rw [message_roundTrip.refuses m hnot] at h
    cases h
  obtain ⟨native', hencode, hdecode⟩ := (message_roundTrip (w := w)).encodes m hfits
  obtain rfl : native' = native := Except.ok.inj (hencode.symm.trans h)
  -- the buffer is as long as its structure says
  unfold Message.encode at h
  rw [if_neg (Nat.not_lt.2 hfits)] at h
  obtain rfl := Except.ok.inj h
  have hbuffer : (m.data ++ List.replicate (m.bufferSize.toNat - m.data.length) 0).take
      m.bufferSize.toNat = m.data ++ List.replicate (m.bufferSize.toNat - m.data.length) 0 := by
    refine List.take_of_length_le (Nat.le_of_eq ?_)
    rw [List.length_append, List.length_replicate]
    exact Nat.add_sub_cancel' hfits
  unfold Message.decode at hdecode
  rw [pointerTo_getD] at hdecode
  unfold NativeMessage.read
  dsimp only
  rw [Word.read_of32, pointerTo_getD]
  show NativeMessage.interpret _ (List.take _ _) = _
  rw [hbuffer]
  exact hdecode

namespace Message

theorem encodeAll_fits {messages : List Message} (h : ∀ m ∈ messages, m.Fits) :
    ∃ natives : List (NativeMessage w), encodeAll messages = .ok natives ∧
      natives.length = messages.length ∧ ∀ n, decodeFirst n natives = .ok (messages.take n) := by
  induction messages with
  | nil => exact ⟨[], rfl, rfl, fun n => by rw [List.take_nil]; cases n <;> rfl⟩
  | cons m rest ih =>
    obtain ⟨hm, hrest⟩ := List.forall_mem_cons.1 h
    obtain ⟨native, hencode, hdecode⟩ := (message_roundTrip (w := w)).encodes m hm
    obtain ⟨natives, hall, hlength, hfirst⟩ := ih hrest
    refine ⟨native :: natives, ?_, congrArg Nat.succ hlength, fun n => ?_⟩
    · unfold encodeAll at hall ⊢
      rw [List.mapM_cons, hencode, hall]
      rfl
    · cases n with
      | zero => rfl
      | succ n =>
        have hn := hfirst n
        unfold decodeFirst at hn ⊢
        rw [List.take_succ_cons, List.take_succ_cons, List.mapM_cons, hdecode, hn]
        rfl

theorem encodeAll_refuses {front : List Message} {m : Message} (hfront : ∀ k ∈ front, k.Fits)
    (h : ¬ m.Fits) (rest : List Message) :
    (encodeAll (front ++ m :: rest) : Answer (List (NativeMessage w))) = .error m.refusal := by
  induction front with
  | nil =>
    unfold encodeAll
    rw [List.nil_append, List.mapM_cons, message_roundTrip.refuses m h]
    rfl
  | cons k front ih =>
    obtain ⟨hk, hfront⟩ := List.forall_mem_cons.1 hfront
    obtain ⟨native, hencode, -⟩ := (message_roundTrip (w := w)).encodes k hk
    have hrest := ih hfront
    unfold encodeAll at hrest ⊢
    rw [List.cons_append, List.mapM_cons, hencode, hrest]
    rfl

end Message

/-! ## All kinds -/

/-- **Round trips.** At either width, every kind of model is written exactly if it fits and read
back as it was, and a model that does not fit is refused for the first thing that is too long. -/
theorem codecs_round_trip (w : Width) :
    RoundTrip (Device.encode (w := w)) Device.decode
        (fun d => '\x00' ∉ d.name.toList ∧ d.name.utf8ByteSize ≤ 79)
        (fun d =>
          if '\x00' ∈ d.name.toList then .interiorNul "device_name"
          else .valueTooLarge "device_name" 79 d.name.utf8ByteSize) ∧
      RoundTrip (Message.encode (w := w)) Message.decode
        (fun m => m.data.length ≤ m.bufferSize.toNat)
        (fun m => .valueTooLarge "data" m.bufferSize.toNat m.data.length) ∧
      RoundTrip (Resource.encode (w := w)) Resource.decode (fun r => r.pins.length ≤ UInt32.size - 1)
        (fun r => .valueTooLarge "num_of_resources" (UInt32.size - 1) r.pins.length) ∧
      RoundTrip (ChannelSet.encode (w := w)) ChannelSet.decode
        (fun set => set.channels.length ≤ UInt32.size - 1)
        (fun set => .valueTooLarge "channel_count" (UInt32.size - 1) set.channels.length) ∧
      RoundTrip (NativeConfigList.encode (w := w)) NativeConfigList.decode
        (fun settings => settings.length ≤ UInt32.size - 1)
        (fun settings => .valueTooLarge "num_of_params" (UInt32.size - 1) settings.length) ∧
      RoundTrip (NativeByteArray.encode (w := w)) NativeByteArray.decode
        (fun bytes => bytes.length ≤ UInt32.size - 1)
        (fun bytes => .valueTooLarge "num_of_bytes" (UInt32.size - 1) bytes.length) ∧
      (∀ d : Descriptor, Descriptor.decode (d.encode : NativeDescriptor w) = .ok d) ∧
      (∀ messages : List Message, (∀ m ∈ messages, m.data.length ≤ m.bufferSize.toNat) →
        ∃ natives : List (NativeMessage w), Message.encodeAll messages = .ok natives ∧
          ∀ n, Message.decodeFirst n natives = .ok (messages.take (min n messages.length))) ∧
      ∀ (front rest : List Message) (m : Message),
        (∀ k ∈ front, k.data.length ≤ k.bufferSize.toNat) →
        m.bufferSize.toNat < m.data.length →
        (Message.encodeAll (front ++ m :: rest) : Answer (List (NativeMessage w))) =
          .error (.valueTooLarge "data" m.bufferSize.toNat m.data.length) := by
  refine ⟨device_roundTrip, message_roundTrip, resource_roundTrip, channelSet_roundTrip,
    configList_roundTrip, byteArray_roundTrip, Descriptor.decode_encode, fun messages h => ?_,
    fun front rest m hfront h => ?_⟩
  · obtain ⟨natives, hall, -, hfirst⟩ := Message.encodeAll_fits (w := w) h
    refine ⟨natives, hall, fun n => ?_⟩
    rw [hfirst, ← List.take_eq_take_min]
  · exact Message.encodeAll_refuses hfront (Nat.not_le.2 h) rest

end PassThru
