import PassThru.Native.ChannelSet
import PassThru.Native.Control
import PassThru.Native.Device

/-!
# What native forms read as

A native form is read number by number, and the first one that no model can hold is the answer.
`Reading` keeps apart what the decoders mix: which numbers are read, in which order and by which
names, and what they make up if all of them fit.

* `Reading.answer`: the value, or the error of the first number that is too large.
* `answer_eq_error_iff` and `answer_eq_ok`: when it is which.
* `decode_eq`: the decoder of each structure is the answer of its reading.
-/

namespace PassThru

variable {w : Width} {α β : Type}

/-! ## Answers taken apart -/

theorem exists_of_map_eq_ok {x : Answer α} {f : α → β} {b : β} (h : x.map f = .ok b) :
    ∃ a, x = .ok a ∧ f a = b := by
  cases x with
  | ok a => exact ⟨a, rfl, Except.ok.inj h⟩
  | error e => cases h

theorem exists_of_bind_eq_ok {x : Answer α} {f : α → Answer β} {b : β} (h : x >>= f = .ok b) :
    ∃ a, x = .ok a ∧ f a = .ok b := by
  cases x with
  | ok a => exact ⟨a, rfl, h⟩
  | error e => cases h

/-! ## Readings -/

/-- What a native form reads as. The value is the one to answer if every number fits a model. -/
structure Reading (w : Width) (α : Type) where
  numbers : List (String × Word w)
  value : α

/-- Whether a model can hold a number. -/
def Word.Narrow (v : Word w) : Prop := v.toNat ≤ maxNumber

instance (v : Word w) : Decidable v.Narrow := inferInstanceAs (Decidable (_ ≤ _))

theorem Word.toNat_narrow {v : Word w} (h : v.Narrow) : v.narrow.toNat = v.toNat := by
  have hlt : v.toNat < UInt32.size := Nat.lt_of_le_of_lt h (by decide)
  unfold Word.narrow Word.to32?
  rw [if_pos hlt]
  exact UInt32.toNat_ofNat_of_lt' hlt

theorem Word.narrow_iff_exists {v : Word w} : v.Narrow ↔ ∃ n, v = .of32 n := by
  constructor
  · intro h
    refine ⟨v.narrow, Word.ext ?_⟩
    rw [Word.toNat_of32, Word.toNat_narrow h]
  · rintro ⟨n, rfl⟩
    exact Nat.le_pred_of_lt n.toNat_lt_size

theorem Word.read_of_narrow {v : Word w} (h : v.Narrow) (field : String) :
    v.read field = .ok v.narrow := by
  have hlt : v.toNat < UInt32.size := Nat.lt_of_le_of_lt h (by decide)
  unfold Word.read Word.narrow Word.to32?
  rw [if_pos hlt]
  rfl

theorem Word.read_of_not_narrow {v : Word w} (h : ¬ v.Narrow) (field : String) :
    v.read field = .error (.valueTooLarge field maxNumber v.toNat) := by
  have hge : ¬ v.toNat < UInt32.size := fun hlt => h (Nat.le_pred_of_lt hlt)
  unfold Word.read Word.to32?
  rw [if_neg hge]

namespace Reading

/-- The value, or the error of the first number that is too large for a model. -/
def answer (r : Reading w α) : Answer α :=
  match r.numbers.find? fun (_, number) => ¬ number.Narrow with
  | some (field, number) => .error (.valueTooLarge field maxNumber number.toNat)
  | none => .ok r.value

/-- The reading of a value that holds no number. -/
def done (value : α) : Reading w α := ⟨[], value⟩

/-- The reading of a single number. -/
def number (field : String) (v : Word w) : Reading w UInt32 := ⟨[(field, v)], v.narrow⟩

/-- A reading with its value read further. -/
def map (f : α → β) (r : Reading w α) : Reading w β := ⟨r.numbers, f r.value⟩

/-- A reading that goes on after another. -/
def andThen (r : Reading w α) (next : α → Reading w β) : Reading w β :=
  ⟨r.numbers ++ (next r.value).numbers, (next r.value).value⟩

/-- The reading of a list, item by item. -/
def ofList (read : α → Reading w β) (list : List α) : Reading w (List β) :=
  ⟨list.flatMap fun a => (read a).numbers, list.map fun a => (read a).value⟩

theorem answer_eq_ok {r : Reading w α} (h : ∀ n ∈ r.numbers, n.2.Narrow) :
    r.answer = .ok r.value := by
  have hnone : (r.numbers.find? fun (_, number) => ¬ number.Narrow) = none := by
    rw [List.find?_eq_none]
    intro n hn
    rw [decide_eq_true_eq]
    exact not_not_intro (h n hn)
  unfold answer
  rw [hnone]

theorem answer_eq_error_iff {r : Reading w α} {e : Error} :
    r.answer = .error e ↔
      ∃ front field number rest, r.numbers = front ++ (field, number) :: rest ∧
        (∀ n ∈ front, n.2.Narrow) ∧ ¬ number.Narrow ∧
        e = .valueTooLarge field maxNumber number.toNat := by
  unfold answer
  constructor
  · intro h
    split at h
    · next field number hfind =>
      obtain ⟨hwide, front, rest, hnumbers, hfront⟩ := List.find?_eq_some_iff_append.1 hfind
      refine ⟨front, field, number, rest, hnumbers, fun n hn => ?_, of_decide_eq_true hwide,
        (Except.error.inj h).symm⟩
      have hn := hfront n hn
      rw [Bool.not_eq_true', decide_eq_false_iff_not] at hn
      exact Decidable.not_not.1 hn
    · cases h
  · rintro ⟨front, field, number, rest, hnumbers, hfront, hwide, rfl⟩
    have hfind : (r.numbers.find? fun (_, number) => ¬ number.Narrow) = some (field, number) := by
      refine List.find?_eq_some_iff_append.2 ⟨decide_eq_true hwide, front, rest, hnumbers, ?_⟩
      intro n hn
      rw [Bool.not_eq_true', decide_eq_false_iff_not]
      exact not_not_intro (hfront n hn)
    rw [hfind]

theorem exists_answer_eq_error_iff {r : Reading w α} :
    (∃ e, r.answer = .error e) ↔ ∃ n ∈ r.numbers, ¬ n.2.Narrow := by
  constructor
  · rintro ⟨e, he⟩
    obtain ⟨front, field, number, rest, hnumbers, -, hwide, -⟩ := answer_eq_error_iff.1 he
    refine ⟨(field, number), ?_, hwide⟩
    rw [hnumbers]
    exact List.mem_append_right _ List.mem_cons_self
  · rintro ⟨n, hmem, hwide⟩
    unfold answer
    split
    · exact ⟨_, rfl⟩
    · next hnone =>
      have hn := List.find?_eq_none.1 hnone n hmem
      exact absurd (decide_eq_true hwide) hn

/-- Reading the answer further does not read more numbers. -/
theorem answer_bind_ok {r : Reading w α} {f : α → Answer β} {b : β} (h : f r.value = .ok b) :
    r.answer >>= f = (r.map fun _ => b).answer := by
  unfold answer map
  dsimp only
  split
  · rfl
  · exact h

/-! ## Readings put together -/

theorem answer_number (field : String) (v : Word w) : (number field v).answer = v.read field := by
  by_cases h : v.Narrow
  · rw [Word.read_of_narrow h]
    refine answer_eq_ok fun n hn => ?_
    obtain rfl := List.mem_singleton.1 hn
    exact h
  · rw [Word.read_of_not_narrow h]
    have hnone : ∀ n ∈ ([] : List (String × Word w)), n.2.Narrow :=
      fun _ hn => absurd hn List.not_mem_nil
    exact answer_eq_error_iff.2 ⟨[], field, v, [], rfl, hnone, h, rfl⟩

theorem answer_map (f : α → β) (r : Reading w α) : (r.map f).answer = r.answer.map f := by
  unfold answer map
  dsimp only
  split <;> rfl

theorem answer_andThen (r : Reading w α) (next : α → Reading w β) :
    (r.andThen next).answer = r.answer >>= fun a => (next a).answer := by
  unfold answer andThen
  dsimp only
  rw [List.find?_append]
  cases r.numbers.find? fun (_, number) => ¬ number.Narrow with
  | some n => rfl
  | none => rfl

theorem answer_ofList {read : α → Reading w β} {decode : α → Answer β}
    (h : ∀ a, decode a = (read a).answer) (list : List α) :
    (ofList read list).answer = list.mapM decode := by
  induction list with
  | nil => rfl
  | cons a list ih =>
    have hsplit : ofList read (a :: list) =
        (read a).andThen fun b => (ofList read list).map (b :: ·) := rfl
    rw [hsplit, answer_andThen, List.mapM_cons, h, ← ih]
    congr 1
    funext b
    rw [answer_map]
    cases (ofList read list).answer with
    | ok values => rfl
    | error e => rfl

end Reading

open Reading

/-! ## The structures -/

def NativeDevice.reading (d : NativeDevice w) : Reading w Device where
  numbers :=
    [("device_available", d.availability), ("device_dll_fw_status", d.firmwareStatus),
      ("device_connect_media", d.media), ("device_connect_speed", d.speed),
      ("device_signal_quality", d.signalQuality), ("device_signal_strength", d.signalStrength)]
  value := {
    name := Field.decode d.name
    availability := d.availability.narrow
    firmwareStatus := d.firmwareStatus.narrow
    media := d.media.narrow
    speed := d.speed.narrow
    signalQuality := d.signalQuality.narrow
    signalStrength := d.signalStrength.narrow }

/-- What a message structure with a buffer of its own reads as: as much of the buffer as the
reported length covers. -/
def NativeMessage.reading (m : NativeMessage w) : Reading w Message where
  numbers :=
    [("data_length", m.dataLength), ("protocol_id", m.protocolId), ("msg_handle", m.msgHandle),
      ("rx_status", m.rxStatus), ("tx_flags", m.txFlags), ("timestamp", m.timestamp),
      ("extra_data_index", m.extraDataIndex), ("data_buffer_size", m.bufferSize)]
  value := {
    protocolId := m.protocolId.narrow
    msgHandle := m.msgHandle.narrow
    rxStatus := m.rxStatus.narrow
    txFlags := m.txFlags.narrow
    timestamp := m.timestamp.narrow
    extraDataIndex := m.extraDataIndex.narrow
    data := (m.buffer.getD []).take m.dataLength.narrow.toNat
    bufferSize := m.bufferSize.narrow }

/-- What a byte array reads as: as many bytes as are reported. -/
def NativeByteArray.reading (array : NativeByteArray w) : Reading w (List UInt8) :=
  (number "num_of_bytes" array.count).map fun count => (array.bytes.getD []).take count.toNat

def NativeSetting.reading (s : NativeSetting w) : Reading w Setting where
  numbers := [("parameter", s.parameter), ("value", s.value)]
  value := ⟨s.parameter.narrow, s.value.narrow⟩

/-- What a configuration list reads as: as many of its entries as are reported. -/
def NativeConfigList.reading (list : NativeConfigList w) : Reading w (List Setting) :=
  (number "num_of_params" list.count).andThen fun count =>
    ofList NativeSetting.reading ((list.list.getD []).take count.toNat)

/-- What a channel set reads as: as many of its channels as are reported, and its threshold. -/
def NativeChannelSet.reading (set : NativeChannelSet w) : Reading w ChannelSet :=
  (number "channel_count" set.count).andThen fun count =>
    (ofList (number "channel_list") ((set.list.getD []).take count.toNat)).andThen fun channels =>
      (number "channel_threshold" set.threshold).map fun threshold =>
        ⟨threshold, channels.map ChannelId.mk⟩

theorem read_bind {field : String} {v : Word w} {next : UInt32 → Answer α}
    {numbers : List (String × Word w)} {value : α}
    (h : next v.narrow = (Reading.mk numbers value).answer) :
    v.read field >>= next = (Reading.mk ((field, v) :: numbers) value).answer := by
  have hsplit : Reading.mk ((field, v) :: numbers) value =
      (number field v).andThen fun _ => ⟨numbers, value⟩ := rfl
  rw [hsplit, answer_andThen, answer_number]
  by_cases hv : v.Narrow
  · rw [Word.read_of_narrow hv]
    exact h
  · rw [Word.read_of_not_narrow hv]
    rfl

theorem Device.decode_eq (d : NativeDevice w) : Device.decode d = d.reading.answer := by
  unfold Device.decode NativeDevice.reading
  refine read_bind (read_bind (read_bind (read_bind (read_bind (read_bind ?_)))))
  rfl

theorem Message.decode_eq (m : NativeMessage w) : Message.decode m = m.reading.answer := by
  unfold Message.decode NativeMessage.interpret NativeMessage.reading
  refine read_bind (read_bind (read_bind (read_bind (read_bind (read_bind (read_bind
    (read_bind ?_)))))))
  rfl

theorem NativeByteArray.decode_eq (array : NativeByteArray w) :
    array.decode = array.reading.answer := by
  unfold NativeByteArray.decode NativeByteArray.reading
  rw [answer_map, answer_number]
  cases array.count.read "num_of_bytes" with
  | ok count => rfl
  | error e => rfl

theorem NativeSetting.decode_eq (s : NativeSetting w) : s.decode = s.reading.answer := by
  unfold NativeSetting.decode NativeSetting.reading
  refine read_bind (read_bind ?_)
  rfl

theorem NativeConfigList.decode_eq (list : NativeConfigList w) :
    list.decode = list.reading.answer := by
  unfold NativeConfigList.decode NativeConfigList.reading
  rw [answer_andThen, answer_number]
  congr 1
  funext count
  exact (answer_ofList NativeSetting.decode_eq _).symm

theorem ChannelSet.decode_eq (set : NativeChannelSet w) :
    ChannelSet.decode set = set.reading.answer := by
  unfold ChannelSet.decode NativeChannelSet.reading
  rw [answer_andThen, answer_number]
  congr 1
  funext count
  rw [answer_andThen, answer_ofList fun v => (answer_number (w := w) "channel_list" v).symm]
  congr 1
  funext channels
  rw [answer_map, answer_number]
  cases set.threshold.read "channel_threshold" with
  | ok threshold => rfl
  | error e => rfl

/-! ## Arguments of control requests -/

namespace NativeControl

/-- The shape of what stands behind an argument of a control request. -/
def shape : NativeControl w → Ioctl.Shape
  | null => .none
  | configList _ => .configList
  | bytes _ => .bytes
  | message _ => .message
  | resource _ => .resource
  | number _ => .voltage

theorem shape_received (own written : NativeControl w) :
    (own.received written).shape = own.shape := by
  cases own <;> cases written <;> rfl

theorem isNull_iff {argument : NativeControl w} :
    argument.isNull = true ↔ argument.shape = .none := by
  cases argument <;> simp [isNull, shape]

end NativeControl

/-- What an argument that no output was put into reads as. A query of configuration parameters
answers in its input. -/
def ControlOutput.readingOfInput (request : Ioctl) (input : NativeControl w) :
    Reading w ControlOutput :=
  match request, input with
  | .getConfig, .configList list => list.reading.map .settings
  | _, _ => .done .none

/-- What the output of a request reads as. -/
def ControlOutput.reading (request : Ioctl) (input output : NativeControl w) :
    Reading w ControlOutput :=
  match output with
  | .bytes array => array.reading.map .bytes
  | .message native => native.reading.map .message
  | .number value => (number "voltage" value).map .millivolts
  | .null | .configList _ | .resource _ => ControlOutput.readingOfInput request input

theorem ControlOutput.decode_eq (request : Ioctl) (input output : NativeControl w) :
    ControlOutput.decode request input output =
      (ControlOutput.reading request input output).answer := by
  have hinput : (match request, input with
      | .getConfig, .configList list => list.decode.map ControlOutput.settings
      | _, _ => .ok .none) = (readingOfInput request input).answer := by
    unfold readingOfInput
    cases request with
    | getConfig =>
      cases input with
      | configList list =>
        show list.decode.map _ = (list.reading.map ControlOutput.settings).answer
        rw [answer_map, NativeConfigList.decode_eq]
      | _ => rfl
    | _ => rfl
  cases output with
  | bytes array =>
    show array.decode.map _ = (array.reading.map ControlOutput.bytes).answer
    rw [answer_map, NativeByteArray.decode_eq]
  | message native =>
    show (Message.decode native).map _ = (native.reading.map ControlOutput.message).answer
    rw [answer_map, Message.decode_eq]
  | number value =>
    show (value.read "voltage").map _ = ((number "voltage" value).map millivolts).answer
    rw [answer_map, answer_number]
  | null | configList _ | resource _ => exact hinput

end PassThru
