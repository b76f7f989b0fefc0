import PassThru.Native.Descriptor
import PassThru.Native.Resource
import PassThru.Proofs.Native.Decoding

/-!
# What a decoder examines

A library may leave any number in a structure: a count that is larger than the storage behind the
pointer, or a field that no model can hold. An `examination` lists the numbers that a decoder looks
at, in its order and by the names it reports them by, with what they make up. Of a list it has only
the entries that are both reported and there: the others are never looked at.

* `Reading.Decides`: the answer is the value exactly if all numbers fit, and otherwise names the
  first that does not.
* `Word.covered`: the part of a storage that a count reports.
* `examination`: one for each structure, and `decides` that its decoder follows it.
* `decoders_examine`: all of them.
-/

namespace PassThru

variable {w : Width} {α β : Type}

/-! ## Examinations -/

/-- An answer is what a reading says: its value exactly if every number fits 32 bits, and otherwise
the error of the first number that does not. -/
structure Reading.Decides (r : Reading w α) (answer : Answer α) : Prop where
  ok_iff : ∀ a, answer = .ok a ↔ a = r.value ∧ ∀ n ∈ r.numbers, n.2.toNat ≤ UInt32.size - 1
  error_iff : ∀ e, answer = .error e ↔
    ∃ front field number rest, r.numbers = front ++ (field, number) :: rest ∧
      (∀ n ∈ front, n.2.toNat ≤ UInt32.size - 1) ∧ UInt32.size - 1 < number.toNat ∧
      e = .valueTooLarge field (UInt32.size - 1) number.toNat

/-- The part of a storage that `count` reports. There may be less than that behind the pointer. -/
def Word.covered (count : Word w) (storage : Option (List α)) : List α :=
  (storage.getD []).take count.toNat

theorem Word.length_covered (count : Word w) (storage : Option (List α)) :
    (count.covered storage).length = min count.toNat (storage.getD []).length :=
  List.length_take

/-- Nothing is covered but what the storage holds, from its start. -/
theorem Word.covered_prefix (count : Word w) (storage : Option (List α)) :
    count.covered storage <+: storage.getD [] :=
  List.take_prefix _ _

namespace Reading

theorem Decides.of_eq {r : Reading w α} {answer : Answer α} (h : answer = r.answer) :
    r.Decides answer where
  ok_iff a := by
    subst h
    constructor
    · intro h
      have hall : ∀ n ∈ r.numbers, n.2.Narrow := by
        refine fun n hn => Decidable.byContradiction fun hwide => ?_
        obtain ⟨e, he⟩ := exists_answer_eq_error_iff.2 ⟨n, hn, hwide⟩
        rw [h] at he
        cases he
      rw [answer_eq_ok hall] at h
      exact ⟨(Except.ok.inj h).symm, hall⟩
    · rintro ⟨rfl, hall⟩
      exact answer_eq_ok hall
  error_iff e := by
    rw [h, answer_eq_error_iff]
    simp only [Word.Narrow, Nat.not_le]
    rfl

/-- What a reading says if a number does not fit is all the same. -/
theorem answer_congr {numbers : List (String × Word w)} {a b : α}
    (h : (∀ n ∈ numbers, n.2.Narrow) → a = b) :
    (Reading.mk numbers a).answer = (Reading.mk numbers b).answer := by
  by_cases hall : ∀ n ∈ numbers, n.2.Narrow
  · rw [h hall]
  · unfold answer
    dsimp only
    split
    · rfl
    · next hnone =>
      refine absurd (fun n hn => ?_) hall
      have hnarrow := List.find?_eq_none.1 hnone n hn
      rw [decide_eq_true_eq] at hnarrow
      exact Decidable.not_not.1 hnarrow

/-- A count that does not fit is the error; any other is the number of items that are read. -/
theorem answer_counted (field : String) (count : Word w) (storage : Option (List α))
    (next : List α → Reading w β) :
    ((number field count).andThen fun n => next ((storage.getD []).take n.toNat)).answer =
      (Reading.mk ((field, count) :: (next (count.covered storage)).numbers)
        (next (count.covered storage)).value).answer := by
  rw [answer_andThen, answer_number]
  by_cases h : count.Narrow
  · refine read_bind ?_
    rw [Word.toNat_narrow h]
    rfl
  · rw [Word.read_of_not_narrow h]
    exact (answer_eq_error_iff.2
      ⟨[], field, count, _, rfl, fun _ hn => absurd hn List.not_mem_nil, h, rfl⟩).symm

end Reading

open Reading

/-! ## The structures -/

/-- What decoding examines in a resource. -/
def NativeResource.examination (r : NativeResource w) : Reading w Resource where
  numbers := ("num_of_resources", r.count) ::
    ((r.count.covered r.list).map fun pin => ("resource_list", pin)) ++ [("connector", r.connector)]
  value := {
    connector := r.connector.narrow
    pins := (r.count.covered r.list).map Word.narrow }

/-- What decoding examines in a channel set. -/
def NativeChannelSet.examination (set : NativeChannelSet w) : Reading w ChannelSet where
  numbers := ("channel_count", set.count) ::
    ((set.count.covered set.list).map fun channel => ("channel_list", channel)) ++
      [("channel_threshold", set.threshold)]
  value := {
    threshold := set.threshold.narrow
    channels := (set.count.covered set.list).map fun channel => ⟨channel.narrow⟩ }

/-- What decoding examines in a message that has a buffer of its own. -/
def NativeMessage.examination (m : NativeMessage w) : Reading w Message where
  numbers := m.reading.numbers
  value := { m.reading.value with data := m.dataLength.covered m.buffer }

/-- What decoding examines in the first `n` messages, one after the other. -/
def NativeMessage.examinationOfFirst (n : Nat) (messages : List (NativeMessage w)) :
    Reading w (List Message) where
  numbers := (messages.take n).flatMap fun m => m.examination.numbers
  value := (messages.take n).map fun m => m.examination.value

/-- What decoding examines in a configuration list. -/
def NativeConfigList.examination (list : NativeConfigList w) : Reading w (List Setting) where
  numbers := ("num_of_params", list.count) ::
    (list.count.covered list.list).flatMap fun s => [("parameter", s.parameter), ("value", s.value)]
  value := (list.count.covered list.list).map fun s => ⟨s.parameter.narrow, s.value.narrow⟩

/-- What decoding examines in a byte array. -/
def NativeByteArray.examination (array : NativeByteArray w) : Reading w (List UInt8) where
  numbers := [("num_of_bytes", array.count)]
  value := array.count.covered array.bytes

/-- What decoding examines in a channel descriptor. -/
def NativeDescriptor.examination (d : NativeDescriptor w) : Reading w Descriptor where
  numbers := [("local_tx_flags", d.localTxFlags), ("remote_tx_flags", d.remoteTxFlags)]
  value := {
    localTxFlags := d.localTxFlags.narrow
    remoteTxFlags := d.remoteTxFlags.narrow
    localAddress := d.localAddress
    remoteAddress := d.remoteAddress }

/-- A counted list of numbers with one more number behind it, which is the shape that pins and
channels have in common. -/
theorem read_numbers (countField listField lastField : String) (count last : Word w)
    (list : Option (List (Word w))) (make : List UInt32 → UInt32 → α) :
    (do
      let n ← count.read countField
      let items ← ((list.getD []).take n.toNat).mapM (Word.read listField)
      let final ← last.read lastField
      return make items final : Answer α) =
      (Reading.mk
        ((countField, count) :: ((count.covered list).map fun v => (listField, v)) ++
          [(lastField, last)])
        (make ((count.covered list).map Word.narrow) last.narrow)).answer := by
  -- the reading in the order of the decoder, before its numbers are put in one list
  have hcounted := answer_counted countField count list fun items =>
    (ofList (number listField) items).andThen fun items =>
      (number lastField last).map fun final => make items final
  rw [answer_andThen, answer_number] at hcounted
  simp only [answer_andThen, answer_map, answer_number,
    answer_ofList fun v => (answer_number (w := w) listField v).symm] at hcounted
  refine Eq.trans ?_ (hcounted.trans ?_)
  · congr 1
  · rw [List.map_eq_flatMap (f := fun v => (listField, v))]
    rfl

theorem Resource.decode_examination (r : NativeResource w) :
    Resource.decode r = r.examination.answer :=
  read_numbers _ _ _ _ _ _ fun pins connector => Resource.mk connector pins

theorem ChannelSet.decode_examination (set : NativeChannelSet w) :
    ChannelSet.decode set = set.examination.answer := by
  refine (read_numbers _ _ _ _ _ _ fun channels threshold =>
    ChannelSet.mk threshold (channels.map ChannelId.mk)).trans ?_
  rw [List.map_map]
  rfl

theorem Message.decode_examination (m : NativeMessage w) :
    Message.decode m = m.examination.answer := by
  rw [Message.decode_eq]
  refine answer_congr fun h => ?_
  have hlength : m.dataLength.Narrow := h ("data_length", m.dataLength) List.mem_cons_self
  unfold NativeMessage.reading Word.covered
  rw [Word.toNat_narrow hlength]

theorem Message.decodeFirst_examination (n : Nat) (messages : List (NativeMessage w)) :
    Message.decodeFirst n messages = (NativeMessage.examinationOfFirst n messages).answer :=
  (answer_ofList Message.decode_examination _).symm

theorem NativeConfigList.decode_examination (list : NativeConfigList w) :
    list.decode = list.examination.answer := by
  rw [NativeConfigList.decode_eq]
  exact answer_counted _ _ _ (ofList NativeSetting.reading)

theorem NativeByteArray.decode_examination (array : NativeByteArray w) :
    array.decode = array.examination.answer := by
  rw [NativeByteArray.decode_eq]
  exact answer_counted _ _ _ done

theorem Descriptor.decode_examination (d : NativeDescriptor w) :
    Descriptor.decode d = d.examination.answer := by
  unfold Descriptor.decode NativeDescriptor.examination
  refine read_bind (read_bind ?_)
  rfl

/-! ## All kinds -/

/-- **Decoding whatever a library left.** A decoder looks at no more of a storage than the count
reports and the storage holds. It succeeds exactly if every number it looks at fits 32 bits, and
then answers all of these; otherwise it names the first number that does not fit. -/
theorem decoders_examine (w : Width) :
    (∀ (α : Type) (count : Word w) (storage : Option (List α)),
      count.covered storage <+: storage.getD []) ∧
    (∀ d : NativeDevice w, d.reading.Decides (Device.decode d)) ∧
    (∀ r : NativeResource w, r.examination.Decides (Resource.decode r) ∧
      r.examination.value.pins.length = min r.count.toNat (r.list.getD []).length) ∧
    (∀ set : NativeChannelSet w, set.examination.Decides (ChannelSet.decode set) ∧
      set.examination.value.channels.length = min set.count.toNat (set.list.getD []).length) ∧
    (∀ m : NativeMessage w, m.examination.Decides (Message.decode m) ∧
      m.examination.value.data.length = min m.dataLength.toNat (m.buffer.getD []).length) ∧
    (∀ (n : Nat) (messages : List (NativeMessage w)),
      (NativeMessage.examinationOfFirst n messages).Decides (Message.decodeFirst n messages) ∧
      (NativeMessage.examinationOfFirst n messages).value.length = min n messages.length) ∧
    (∀ list : NativeConfigList w, list.examination.Decides list.decode ∧
      list.examination.value.length = min list.count.toNat (list.list.getD []).length) ∧
    (∀ array : NativeByteArray w, array.examination.Decides array.decode ∧
      array.examination.value.length = min array.count.toNat (array.bytes.getD []).length) ∧
    ∀ d : NativeDescriptor w, d.examination.Decides (Descriptor.decode d) := by
  refine ⟨fun _ => Word.covered_prefix, fun d => .of_eq (Device.decode_eq d),
    fun r => ⟨.of_eq (Resource.decode_examination r), ?_⟩,
    fun set => ⟨.of_eq (ChannelSet.decode_examination set), ?_⟩,
    fun m => ⟨.of_eq (Message.decode_examination m), Word.length_covered _ _⟩,
    fun n messages => ⟨.of_eq (Message.decodeFirst_examination n messages), ?_⟩,
    fun list => ⟨.of_eq (NativeConfigList.decode_examination list), ?_⟩,
    fun array => ⟨.of_eq (NativeByteArray.decode_examination array), Word.length_covered _ _⟩,
    fun d => .of_eq (Descriptor.decode_examination d)⟩
  · exact List.length_map _ |>.trans (Word.length_covered _ _)
  · exact List.length_map _ |>.trans (Word.length_covered _ _)
  · exact List.length_map _ |>.trans List.length_take
  · exact List.length_map _ |>.trans (Word.length_covered _ _)

/-- An entry that the count does not report may be as wide as it likes. -/
example : ChannelSet.decode (w := .w64) ⟨.of32 1, .of32 1, some [.of32 7, .ofNat 0x100000000]⟩ =
    .ok { threshold := 1, channels := [⟨7⟩] } := rfl

/-- One that the count reports is the error, and the threshold behind it is not looked at. -/
example : ChannelSet.decode (w := .w64)
    ⟨.of32 9, .ofNat 0x100000001, some [.of32 7, .ofNat 0x100000000]⟩ =
    .error (.valueTooLarge "channel_list" 0xFFFFFFFF 0x100000000) := rfl

end PassThru
