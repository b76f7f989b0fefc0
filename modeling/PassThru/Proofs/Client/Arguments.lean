import PassThru.Client
import PassThru.Proofs.Native.RoundTrip

/-!
# Arguments that a client refuses

Before it calls the library a client encodes the arguments of an operation, and an argument that has
no native form is the answer: a text with a NUL inside, a message that is longer than its buffer, a
list whose length a native count cannot hold, an input of another shape than the request needs.

* `refusal?`: why an argument is refused, if it is; it is always an `Error.IsRefusal`.
* `Encodes`: an argument is encoded exactly if it is not refused; one lemma for each kind.
-/

namespace PassThru

variable {w : Width} {α β : Type}

/-! ## Reasons -/

/-- Why a list of `n` items is refused, whose length goes into the native field `field`. -/
def lengthRefusal? (field : String) (n : Nat) : Option Error :=
  if Counts n then none else some (.valueTooLarge field maxNumber n)

def Message.refusal? (m : Message) : Option Error := if m.Fits then none else some m.refusal

def Resource.refusal? (r : Resource) : Option Error :=
  lengthRefusal? "num_of_resources" r.pins.length

/-- Why the name of a device to open is refused, if it is. -/
def nameRefusal? (name : String) : Option Error :=
  if '\x00' ∈ name.toList then some (.interiorNul "name") else none

def ControlInput.refusal? : ControlInput → Option Error
  | none => Option.none
  | settings list => lengthRefusal? "num_of_params" list.length
  | bytes list => lengthRefusal? "num_of_bytes" list.length
  | message m => m.refusal?
  | resource r => r.refusal?

def Ioctl.refusal? (id : Ioctl) (input : ControlInput) : Option Error :=
  if input.shape = id.inputShape then input.refusal?
  else some (.wrongShape id.inputShape input.shape)

/-- An error of the client's own about an argument. -/
inductive Error.IsRefusal : Error → Prop
  | valueTooLarge (field : String) (max actual : Nat) : IsRefusal (.valueTooLarge field max actual)
  | wrongShape (expected found : Ioctl.Shape) : IsRefusal (.wrongShape expected found)
  | interiorNul (field : String) : IsRefusal (.interiorNul field)

section IsRefusal

variable {e : Error}

theorem Error.IsRefusal.ne_vendor (h : e.IsRefusal) (code : ErrorCode) : e ≠ .vendor code := by
  cases h <;> rintro ⟨⟩

theorem isRefusal_of_length {field : String} {n : Nat} (h : lengthRefusal? field n = some e) :
    e.IsRefusal := by
  obtain ⟨-, hsame⟩ := Option.ite_none_left_eq_some.1 h
  cases hsame
  exact .valueTooLarge _ _ _

theorem isRefusal_of_message {m : Message} (h : m.refusal? = some e) : e.IsRefusal := by
  obtain ⟨-, hsame⟩ := Option.ite_none_left_eq_some.1 h
  cases hsame
  exact .valueTooLarge _ _ _

theorem isRefusal_of_name {name : String} (h : nameRefusal? name = some e) : e.IsRefusal := by
  obtain ⟨-, hsame⟩ := Option.ite_none_right_eq_some.1 h
  cases hsame
  exact .interiorNul _

theorem isRefusal_of_controlInput {input : ControlInput} (h : input.refusal? = some e) :
    e.IsRefusal := by
  cases input with
  | none => cases h
  | settings | bytes | resource => exact isRefusal_of_length h
  | message => exact isRefusal_of_message h

theorem isRefusal_of_ioctl {id : Ioctl} {input : ControlInput} (h : id.refusal? input = some e) :
    e.IsRefusal := by
  unfold Ioctl.refusal? at h
  split at h
  · exact isRefusal_of_controlInput h
  · cases h
    exact .wrongShape _ _

end IsRefusal

/-- Messages are refused exactly if one of them does not fit, and then for being too long. -/
theorem findSome?_refusal (messages : List Message) :
    (messages.findSome? Message.refusal? = none ↔ ∀ m ∈ messages, m.Fits) ∧
      ∀ e, messages.findSome? Message.refusal? = some e →
        ∃ max actual, e = .valueTooLarge "data" max actual := by
  constructor
  · rw [List.findSome?_eq_none_iff]
    refine forall₂_congr fun m _ => ?_
    unfold Message.refusal?
    by_cases hm : m.Fits
    · rw [if_pos hm]
      exact iff_of_true rfl hm
    · rw [if_neg hm]
      exact iff_of_false (fun h => nomatch h) hm
  · intro e he
    obtain ⟨m, -, hm⟩ := List.exists_of_findSome?_eq_some he
    obtain ⟨-, hsame⟩ := Option.ite_none_left_eq_some.1 hm
    cases hsame
    exact ⟨_, _, rfl⟩

/-! ## Encoding -/

/-- Whether an argument is encoded or refused is decided by `refusal`. -/
inductive Encodes : Option Error → Answer β → Prop where
  | ok (native : β) : Encodes none (.ok native)
  | error (e : Error) : Encodes (some e) (.error e)

theorem Encodes.map {encoded : Answer α} {refusal : Option Error} (h : Encodes refusal encoded)
    (f : α → β) : Encodes refusal (encoded.map f) := by
  cases h with
  | ok native => exact .ok (f native)
  | error e => exact .error e

theorem Encodes.of_roundTrip {encode : α → Answer β} {decode : β → Answer α} {fits : α → Prop}
    [DecidablePred fits] {refuse : α → Error} (h : RoundTrip encode decode fits refuse) (a : α) :
    Encodes (if fits a then none else some (refuse a)) (encode a) := by
  by_cases ha : fits a
  · obtain ⟨native, hencode, -⟩ := h.encodes a ha
    rw [if_pos ha, hencode]
    exact .ok native
  · rw [if_neg ha, h.refuses a ha]
    exact .error _

theorem encodes_message (m : Message) : Encodes m.refusal? (m.encode : Answer (NativeMessage w)) :=
  Encodes.of_roundTrip message_roundTrip m

theorem encodes_resource (r : Resource) :
    Encodes r.refusal? (r.encode : Answer (NativeResource w)) :=
  Encodes.of_roundTrip resource_roundTrip r

theorem encodes_channelSet (set : ChannelSet) :
    Encodes (lengthRefusal? "channel_count" set.channels.length)
      (set.encode : Answer (NativeChannelSet w)) :=
  Encodes.of_roundTrip channelSet_roundTrip set

theorem encodes_configList (entries : List Setting) :
    Encodes (lengthRefusal? "num_of_params" entries.length)
      (NativeConfigList.encode entries : Answer (NativeConfigList w)) :=
  Encodes.of_roundTrip configList_roundTrip entries

theorem encodes_byteArray (bytes : List UInt8) :
    Encodes (lengthRefusal? "num_of_bytes" bytes.length)
      (NativeByteArray.encode bytes : Answer (NativeByteArray w)) :=
  Encodes.of_roundTrip byteArray_roundTrip bytes

theorem encodes_count (field : String) (n : Nat) :
    Encodes (lengthRefusal? field n) (Word.count field n : Answer (Word w)) := by
  unfold lengthRefusal?
  by_cases h : Counts n
  · rw [if_pos h, count_of_counts field h]
    exact .ok _
  · rw [if_neg h, count_of_not_counts field h]
    exact .error _

theorem encodes_deviceName (name : String) :
    Encodes (nameRefusal? name) (Request.deviceName name) := by
  unfold nameRefusal? Request.deviceName
  dsimp only
  by_cases h : '\x00' ∈ name.toList
  · rw [if_pos h, if_pos (Field.contains_zero_iff.2 h)]
    exact .error _
  · rw [if_neg h, if_neg fun hmem => h (Field.contains_zero_iff.1 hmem)]
    exact .ok _

theorem encodes_name (name : Option String) :
    Encodes (name.bind nameRefusal?) (name.mapM Request.deviceName) := by
  cases name with
  | none => exact .ok none
  | some name =>
    show Encodes (nameRefusal? name) (some <$> Request.deviceName name)
    exact (encodes_deviceName name).map some

theorem encodes_messages (messages : List Message) :
    Encodes (messages.findSome? Message.refusal?)
      (Message.encodeAll messages : Answer (List (NativeMessage w))) := by
  induction messages with
  | nil => exact .ok []
  | cons m messages ih =>
    unfold Message.encodeAll at ih ⊢
    rw [List.findSome?_cons, List.mapM_cons]
    have hm := encodes_message (w := w) m
    generalize hrefusal : m.refusal? = refusal at hm ⊢
    generalize hencoded : (m.encode : Answer (NativeMessage w)) = encoded at hm ⊢
    cases hm with
    | error e => exact .error e
    | ok native =>
      generalize messages.findSome? Message.refusal? = refusal at ih ⊢
      generalize messages.mapM (Message.encode (w := w)) = encoded at ih ⊢
      cases ih with
      | error e => exact .error e
      | ok natives => exact .ok (native :: natives)

theorem encodes_controlInput (input : ControlInput) :
    Encodes input.refusal? (input.encode : Answer (NativeControl w)) := by
  cases input with
  | none => exact .ok _
  | settings list => exact (encodes_configList list).map _
  | bytes list => exact (encodes_byteArray list).map _
  | message m => exact (encodes_message m).map _
  | resource r => exact (encodes_resource r).map _

end PassThru
