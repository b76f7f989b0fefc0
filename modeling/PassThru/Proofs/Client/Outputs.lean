import PassThru.Client
import PassThru.Proofs.Native.Decoding
import PassThru.Proofs.Native.RoundTrip
import PassThru.Proofs.Standard.Codes

/-!
# What a client makes of a reply

A client looks at the memory of a call only if the status says that the library has filled it. What
it then reads depends on the call alone.

* `Call.reading`: what the memory of a call reads as.
* `Reply.Delivers`: when a client looks at it.
* `Reply.Settles`: the answer that a reply stands for.
* `ControlOutput.shape_reading`: the output of a control request has the shape that it names.
* `Request.ioctl_of_encode`: the one call of a control request.
-/

namespace PassThru

variable {w : Width} {α β : Type}

/-! ## Outputs -/

/-- What the outputs of a call hold. -/
inductive Content where
  | nothing
  | number (value : UInt32)
  | device (device : Device)
  | channels (set : ChannelSet)
  | messages (list : List Message)
  | versions (info : VersionInfo)
  | text (text : String)
  | control (output : ControlOutput)

namespace Content

def number? : Content → Option UInt32
  | number value => some value
  | _ => none

def messages? : Content → Option (List Message)
  | messages list => some list
  | _ => none

/-- The answer of a call without outputs. -/
def nothing? : Content → Option Unit
  | nothing => some ()
  | _ => none

/-- The output of a control request, which has to be of the shape that the request names. -/
def control? (id : Ioctl) : Content → Option ControlOutput
  | control output => if output.shape = id.outputShape then some output else none
  | _ => none

theorem control?_eq_some {id : Ioctl} {content : Content} {output : ControlOutput}
    (h : content.control? id = some output) :
    content = .control output ∧ output.shape = id.outputShape := by
  cases content with
  | control found =>
    unfold control? at h
    obtain ⟨hshape, hsame⟩ := Option.ite_none_right_eq_some.1 h
    cases hsame
    exact ⟨rfl, hshape⟩
  | _ => cases h

end Content

namespace Call

/-- A number that a library wrote for the output `field`. -/
def readingOfOutput (field : String) (output : Option (Word w)) : Reading w Content :=
  (Reading.number field (output.getD .zero)).map .number

/-- What a client reads in the memory of a call. The slots of a read count as far as the library
reports messages, and never more than there are; a list counts as far as its reported length. -/
def reading : (call : Call w) → call.Memory → Reading w Content
  | scanForDevices _, count => readingOfOutput "device_count" count
  | getNextDevice _, device => (device.getD .blank).reading.map .device
  | openDevice _ _, device => readingOfOutput "device_id" device
  | connect _ _ _ _ _ _, channel => readingOfOutput "channel_id" channel
  | logicalConnect _ _ _ _ _, channel => readingOfOutput "channel_id" channel
  | select none _ _, _ => .done .nothing
  | select (some own) _ _, written => ((written.map own.received).getD own).reading.map .channels
  | readMsgs _ slots _ _, memory =>
    let filled := (slots.getD []).take (memory.count.getD .zero).toNat
    (Reading.ofList NativeMessage.reading
      (NativeMessage.receivedAll filled (memory.slots.getD []))).map .messages
  | queueMsgs _ _ _, memory => readingOfOutput "num_msgs" memory.count
  | startPeriodicMsg _ _ _ _, id => readingOfOutput "msg_id" id
  | startMsgFilter _ _ _ _ _, id => readingOfOutput "filter_id" id
  | readVersion _ _ _ _, memory => .done (.versions {
      firmware := Field.decode (memory.firmware.getD [])
      dll := Field.decode (memory.dll.getD [])
      api := Field.decode (memory.api.getD []) })
  | getLastError _, text => .done (.text (Field.decode (text.getD [])))
  | ioctl _ id input output, memory =>
    match Ioctl.ofCode? id.narrow with
    | some request =>
      (ControlOutput.reading request (input.received memory.input)
        (output.received memory.output)).map .control
    | none => .done .nothing
  | closeDevice _, _ => .done .nothing
  | disconnect _, _ => .done .nothing
  | logicalDisconnect _, _ => .done .nothing
  | stopPeriodicMsg _ _, _ => .done .nothing
  | stopMsgFilter _ _, _ => .done .nothing
  | setProgrammingVoltage _ _ _, _ => .done .nothing

/-- How many messages a library reports to have read. -/
def reported : (call : Call w) → call.Memory → Nat
  | readMsgs _ _ _ _, memory => (memory.count.getD .zero).toNat
  | _, _ => 0

end Call

namespace Reply

variable {call : Call w}

/-- Whether a client looks at the memory of a reply: after success, and after a read that ran out of
time with messages. -/
def Delivers (reply : Reply call) : Prop :=
  reply.status = Status.noError ∨
    reply.status = ErrorCode.timeout.asStatus ∧ 0 < call.reported reply.memory

/-- The answer that a reply stands for, by `value?`, which picks it from the outputs: the failure
that was reported, or what the memory reads as. -/
structure Settles (value? : Content → Option α) (reply : Reply call) (answer : Answer α) :
    Prop where
  fails : ¬ reply.Delivers → ∃ e : ErrorCode, ErrorCode.ofStatus reply.status = some e ∧
    e.asStatus = reply.status ∧ answer = .error (.vendor e)
  reads : reply.Delivers → ∃ a, value? (call.reading reply.memory).value = some a ∧
    answer = ((call.reading reply.memory).map fun _ => a).answer

end Reply

/-! ## Answers -/

namespace Reply

variable {call : Call w} {reply : Reply call} {value? : Content → Option α} {answer : Answer α}

theorem settles_of_reading {r : Reading w α}
    (hnumbers : (call.reading reply.memory).numbers = r.numbers)
    (hvalue : value? (call.reading reply.memory).value = some r.value)
    (hfails : ¬ reply.Delivers → ∀ e, ErrorCode.ofStatus reply.status = some e →
      answer = .error (.vendor e))
    (hreads : reply.Delivers → answer = r.answer) : reply.Settles value? answer where
  fails h := by
    obtain ⟨e, hcode, hstatus⟩ := ErrorCode.exists_ofStatus fun hok => h (.inl hok)
    exact ⟨e, hcode, hstatus, hfails h e hcode⟩
  reads h := by
    refine ⟨r.value, hvalue, ?_⟩
    unfold Reading.map
    rw [hnumbers]
    exact hreads h

theorem Settles.tooLarge_iff (h : reply.Settles value? answer) (hdelivers : reply.Delivers) :
    (∃ field max actual, answer = .error (.valueTooLarge field max actual)) ↔
      ∃ n ∈ (call.reading reply.memory).numbers, maxNumber < n.2.toNat := by
  obtain ⟨a, -, rfl⟩ := h.reads hdelivers
  simp only [← Nat.not_le]
  rw [show (∃ n ∈ (call.reading reply.memory).numbers, ¬ n.2.toNat ≤ maxNumber) ↔ _ from
    (Reading.exists_answer_eq_error_iff (r := (call.reading reply.memory).map fun _ => a)).symm]
  constructor
  · rintro ⟨field, max, actual, h⟩
    exact ⟨_, h⟩
  · rintro ⟨e, he⟩
    obtain ⟨_, field, number, _, -, -, -, rfl⟩ := Reading.answer_eq_error_iff.1 he
    exact ⟨field, maxNumber, number.toNat, he⟩

theorem Settles.ok_of_narrow (h : reply.Settles value? answer) (hdelivers : reply.Delivers)
    (hnarrow : ∀ n ∈ (call.reading reply.memory).numbers, n.2.toNat ≤ maxNumber) :
    ∃ a, value? (call.reading reply.memory).value = some a ∧ answer = .ok a := by
  obtain ⟨a, ha, rfl⟩ := h.reads hdelivers
  exact ⟨a, ha, Reading.answer_eq_ok hnarrow⟩

theorem Settles.andThen {value?' : Content → Option β} {f : α → Answer β}
    (h : reply.Settles value? answer)
    (hf : ∀ content a, value? content = some a → ∃ b, f a = .ok b ∧ value?' content = some b) :
    reply.Settles value?' (answer >>= f) where
  fails hfail := by
    obtain ⟨e, hcode, hstatus, rfl⟩ := h.fails hfail
    exact ⟨e, hcode, hstatus, rfl⟩
  reads hdelivers := by
    obtain ⟨a, hvalue, rfl⟩ := h.reads hdelivers
    obtain ⟨b, hb, hvalue'⟩ := hf _ a hvalue
    refine ⟨b, hvalue', ?_⟩
    exact Reading.answer_bind_ok (r := (call.reading reply.memory).map fun _ => a) hb

end Reply

/-! ## Messages -/

theorem length_receivedAll (owns writtens : List (NativeMessage w)) :
    (NativeMessage.receivedAll owns writtens).length = owns.length := by
  induction owns generalizing writtens with
  | nil => cases writtens <;> rfl
  | cons own owns ih =>
    cases writtens with
    | nil => rfl
    | cons written writtens => exact congrArg Nat.succ (ih writtens)

/-- The messages of a read are those in as many slots as the library reports. -/
theorem decodeFirst_eq (slots written : List (NativeMessage w)) (n : Nat) :
    Message.decodeFirst (min n slots.length)
        (NativeMessage.receivedAll (slots.take (min n slots.length)) written) =
      (Reading.ofList NativeMessage.reading
        (NativeMessage.receivedAll (slots.take n) written)).answer := by
  rw [← List.take_eq_take_min, Reading.answer_ofList Message.decode_eq]
  unfold Message.decodeFirst
  rw [List.take_of_length_le]
  exact Nat.le_of_eq (by rw [length_receivedAll, List.length_take])

/-! ## Control requests -/

theorem ControlInput.shape_of_encode {input : ControlInput} {own : NativeControl w}
    (h : input.encode = .ok own) : own.shape = input.shape := by
  cases input with
  | none => cases h; rfl
  | settings _ | bytes _ | message _ | resource _ =>
    obtain ⟨_, -, rfl⟩ := exists_of_map_eq_ok h
    rfl

namespace ControlOutput

/-- Room for the output of a request is always found. It has the shape of the output, but for a
query of configuration parameters. -/
theorem exists_room (request : Ioctl) (size : UInt32) : ∃ room : NativeControl w,
    ControlOutput.room request size = .ok room ∧
      room.shape = if request = .getConfig then .none else request.outputShape := by
  cases request with
  | fiveBaudInit =>
    obtain ⟨array, harray, -⟩ := (byteArray_roundTrip (w := w)).encodes
      (List.replicate keyBytesCapacity 0) (by decide)
    exact ⟨.bytes array, congrArg (Except.map _) harray, rfl⟩
  | fastInit =>
    obtain ⟨slot, hslot, -⟩ := (message_roundTrip (w := w)).encodes (Message.withCapacity 0 size)
      (Nat.zero_le _)
    exact ⟨.message slot, congrArg (Except.map _) hslot, rfl⟩
  | _ => exact ⟨_, rfl, rfl⟩

/-- The output of a request has the shape that the request names, if its arguments have theirs. -/
theorem shape_reading {request : Ioctl} {input output : NativeControl w}
    (hinput : input.shape = request.inputShape)
    (houtput : output.shape = if request = .getConfig then .none else request.outputShape) :
    (reading request input output).value.shape = request.outputShape := by
  by_cases hget : request = .getConfig
  · subst hget
    cases output <;> cases houtput
    cases input <;> cases hinput
    rfl
  · rw [if_neg hget] at houtput
    cases output with
    | bytes _ | message _ | number _ => exact houtput
    | null =>
      have hnone : readingOfInput request input = .done .none := by
        unfold readingOfInput
        split
        · exact absurd rfl hget
        · rfl
      show (readingOfInput request input).value.shape = _
      rw [hnone]
      exact houtput
    | configList _ | resource _ =>
      cases request with
      | getConfig => exact absurd rfl hget
      | _ => cases houtput

end ControlOutput

namespace Request

variable {size target : UInt32} {id : Ioctl} {input : ControlInput}

theorem ioctl_of_wrongShape (h : input.shape ≠ id.inputShape) :
    (ioctl size target id input : Request w ControlOutput) =
      settled (.error (.wrongShape id.inputShape input.shape)) := if_pos h

/-- A control request is a call, if its arguments have the right shape and can be encoded. -/
theorem ioctl_of_encode {own room : NativeControl w} (hshape : input.shape = id.inputShape)
    (hown : input.encode = .ok own) (hroom : ControlOutput.room id size = .ok room) :
    (ioctl size target id input : Request w ControlOutput) =
      afterSuccess (.ioctl (.of32 target) (.of32 id.code) own room) fun memory =>
        ControlOutput.decode id (own.received memory.input) (room.received memory.output) := by
  unfold ioctl
  rw [if_neg (not_not_intro hshape), hown, hroom]
  rfl

theorem ioctl_of_not_encode {e : Error} (hshape : input.shape = id.inputShape)
    (hown : (input.encode : Answer (NativeControl w)) = .error e) :
    (ioctl size target id input : Request w ControlOutput) = settled (.error e) := by
  unfold ioctl
  rw [if_neg (not_not_intro hshape), hown]
  rfl

end Request

end PassThru
