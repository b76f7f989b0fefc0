import PassThru.Proofs.Client.CallProtocol
import PassThru.Proofs.Native.Examination
import PassThru.Proofs.Native.Slots

/-!
# Shapes and sizes of control requests

The two arguments of a control request are untyped, and a library may leave what it likes in them:
any count, any number, any kind of structure. The storage behind the arguments is the client's, and
the client decides by the request how to read it. So an answer always has the shape that the request
names, and it is never longer than the storage that was handed over.

* `NativeControl.capacity`: the items that an argument has storage for; a library cannot change it.
* `ControlOutput.length_le_of_decode`: an answer has no more items than it was decoded from.
* `Request.ioctl_cases`: a control request is refused, or it is one call with both its arguments.
* `Request.Keeps.error_cases`: the ways in which a request can fail.
* `ioctl_answers_in_shape`: what holds of every answer, whatever the library.
-/

namespace PassThru

variable {w : Width} {σ α : Type}

/-! ## Storage -/

/-- How many items an argument of a control request has storage for. -/
def NativeControl.capacity : NativeControl w → Nat
  | configList list => (list.list.getD []).length
  | bytes array => (array.bytes.getD []).length
  | message native => (native.buffer.getD []).length
  | null | resource _ | number _ => 0

theorem length_getD_overwrite {α : Type} (own : Option (List α)) (items : List α) :
    ((own.map fun storage => overwrite storage items).getD []).length = (own.getD []).length := by
  cases own with
  | none => rfl
  | some storage => exact length_overwrite storage items

/-- A library cannot change how much storage there is. -/
theorem NativeControl.capacity_received (own written : NativeControl w) :
    (own.received written).capacity = own.capacity := by
  cases own with
  | configList own =>
    cases written with
    | configList written => exact length_getD_overwrite _ _
    | _ => rfl
  | bytes own =>
    cases written with
    | bytes written => exact length_getD_overwrite _ _
    | _ => rfl
  | message own =>
    cases written with
    | message written => exact length_getD_overwrite _ _
    | _ => rfl
  | null | resource _ | number _ => cases written <;> rfl

theorem NativeControl.capacity_of_encode {list : List Setting} {own : NativeControl w}
    (h : (ControlInput.settings list).encode = .ok own) : own.capacity = list.length := by
  obtain ⟨native, hnative, rfl⟩ := exists_of_map_eq_ok h
  obtain ⟨count, -, hsame⟩ := exists_of_bind_eq_ok hnative
  cases hsame
  show ((pointerTo (list.map NativeSetting.encode)).getD []).length = _
  rw [pointerTo_getD, List.length_map]

/-- How many items there is room for in the output of a request. -/
def Ioctl.outputCapacity (request : Ioctl) (bufferSize : UInt32) : Nat :=
  match request.outputShape with
  | .bytes => keyBytesCapacity
  | .message => bufferSize.toNat
  | _ => 0

theorem NativeControl.capacity_of_room {request : Ioctl} {size : UInt32} {room : NativeControl w}
    (h : ControlOutput.room request size = .ok room) :
    room.capacity = request.outputCapacity size := by
  unfold ControlOutput.room at h
  unfold Ioctl.outputCapacity
  cases hshape : request.outputShape <;> simp only [hshape] at h ⊢
  case bytes =>
    obtain ⟨array, harray, rfl⟩ := exists_of_map_eq_ok h
    obtain ⟨count, -, hsame⟩ := exists_of_bind_eq_ok harray
    cases hsame
    rfl
  case message =>
    obtain ⟨slot, hslot, rfl⟩ := exists_of_map_eq_ok h
    have hsize : slot.buffer = pointerTo (List.replicate size.toNat 0) := by
      cases hslot
      rfl
    show (slot.buffer.getD []).length = _
    rw [hsize, pointerTo_getD, List.length_replicate]
  all_goals
    cases h
    rfl

/-! ## Answers -/

/-- How many items an output has. -/
def ControlOutput.length : ControlOutput → Nat
  | settings list => list.length
  | bytes list => list.length
  | message m => m.data.length
  | none | millivolts _ => 0

/-- What is read from the arguments of a request has no more items than the argument that it is read
from: a configuration list comes from the input, all else from the output. -/
theorem ControlOutput.length_le_of_decode {request : Ioctl} {input output : NativeControl w}
    {answer : ControlOutput} (h : decode request input output = .ok answer) :
    answer.length ≤ if answer.shape = .configList then input.capacity else output.capacity := by
  cases output with
  | bytes array =>
    obtain ⟨list, hlist, rfl⟩ := exists_of_map_eq_ok h
    rw [NativeByteArray.decode_examination] at hlist
    obtain ⟨rfl, -⟩ := ((Reading.Decides.of_eq rfl).ok_iff list).1 hlist
    exact (Word.covered_prefix array.count array.bytes).length_le
  | message native =>
    obtain ⟨m, hm, rfl⟩ := exists_of_map_eq_ok h
    rw [Message.decode_examination] at hm
    obtain ⟨rfl, -⟩ := ((Reading.Decides.of_eq rfl).ok_iff m).1 hm
    exact (Word.covered_prefix native.dataLength native.buffer).length_le
  | number value =>
    obtain ⟨_, -, rfl⟩ := exists_of_map_eq_ok h
    exact Nat.zero_le _
  | null | configList _ | resource _ =>
    unfold decode at h
    dsimp only at h
    split at h
    · next native =>
      obtain ⟨list, hlist, rfl⟩ := exists_of_map_eq_ok h
      rw [NativeConfigList.decode_examination] at hlist
      obtain ⟨rfl, -⟩ := ((Reading.Decides.of_eq rfl).ok_iff list).1 hlist
      refine Nat.le_trans (Nat.le_of_eq (List.length_map _)) ?_
      exact (Word.covered_prefix native.count native.list).length_le
    · cases h
      exact Nat.zero_le _

theorem ControlOutput.shape_of_decode {request : Ioctl} {input output : NativeControl w}
    {answer : ControlOutput} (hinput : input.shape = request.inputShape)
    (houtput : output.shape = if request = .getConfig then .none else request.outputShape)
    (h : decode request input output = .ok answer) : answer.shape = request.outputShape := by
  rw [ControlOutput.decode_eq] at h
  obtain ⟨rfl, -⟩ := ((Reading.Decides.of_eq rfl).ok_iff answer).1 h
  exact shape_reading hinput houtput

/-! ## Requests -/

namespace Request

/-- A control request is refused, or it is one call whose arguments it reads after success. -/
theorem ioctl_cases (size target : UInt32) {id : Ioctl} {input : ControlInput}
    (hshape : input.shape = id.inputShape) :
    (∃ e, (ioctl size target id input : Request w ControlOutput) = settled (.error e)) ∨
    ∃ own room : NativeControl w, input.encode = .ok own ∧ ControlOutput.room id size = .ok room ∧
      ioctl size target id input =
        afterSuccess (.ioctl (.of32 target) (.of32 id.code) own room) fun memory =>
          ControlOutput.decode id (own.received memory.input) (room.received memory.output) := by
  obtain ⟨room, hroom, -⟩ := ControlOutput.exists_room (w := w) id size
  cases hown : (input.encode : Answer (NativeControl w)) with
  | error e => exact .inl ⟨e, ioctl_of_not_encode hshape hown⟩
  | ok own => exact .inr ⟨own, room, rfl, hroom, ioctl_of_encode hshape hown hroom⟩

theorem read_of_afterSuccess {call : Call w} {read : call.Memory → Answer α} {driver : Driver w σ}
    {s : σ} {a : α} (h : ((afterSuccess call read).perform driver s).1 = .ok a) :
    read (driver call s).1.memory = .ok a := by
  obtain ⟨_, -, hread⟩ := exists_of_bind_eq_ok h
  exact hread

variable {refusal : Option Error} {entry : EntryPoint} {value? : Content → Option α}

/-- A request fails because it is refused, because the library reports a failure, or because a
number that the library left is too large. -/
theorem Keeps.error_cases {given : Option α} {request : Request w α}
    (h : Keeps refusal given entry value? request) {driver : Driver w σ} {s : σ} {e : Error}
    (he : (request.perform driver s).1 = .error e) :
    refusal = some e ∨ (∃ code, e = .vendor code) ∨
      ∃ field max actual, e = .valueTooLarge field max actual := by
  cases h with
  | refused h =>
    cases he
    exact .inl h
  | given _ _ => cases he
  | @called call finish _ _ _ hsettles =>
    have hsettled := hsettles (driver call s).1
    have hanswer : finish (driver call s).1 = .error e := he
    by_cases hdelivers : (driver call s).1.Delivers
    · obtain ⟨a, -, hreads⟩ := hsettled.reads hdelivers
      obtain ⟨_, field, number, _, -, -, -, rfl⟩ :=
        Reading.answer_eq_error_iff.1 (hreads.symm.trans hanswer)
      exact .inr (.inr ⟨field, maxNumber, number.toNat, rfl⟩)
    · obtain ⟨code, -, -, hfails⟩ := hsettled.fails hdelivers
      exact .inr (.inl ⟨code, Except.error.inj (hanswer.symm.trans hfails)⟩)

/-- A request that is refused for the length of an argument only never complains about a shape. -/
theorem Keeps.ne_wrongShape {given : Option α} {request : Request w α} (input : ControlInput)
    (h : Keeps input.refusal? given entry value? request) (driver : Driver w σ) (s : σ)
    (expected found : Ioctl.Shape) :
    (request.perform driver s).1 ≠ .error (.wrongShape expected found) := by
  intro herror
  obtain hrefusal | ⟨_, hvendor⟩ | ⟨_, _, _, hlarge⟩ := h.error_cases herror
  · cases input with
    | none => cases hrefusal
    | settings | bytes | message | resource =>
      obtain ⟨-, hsame⟩ := Option.ite_none_left_eq_some.1 hrefusal
      cases hsame
  · cases hvendor
  · cases hlarge

end Request

/-- An answer to a control request has the shape of its output, and is no longer than the storage
that the client handed over for it. -/
theorem Client.ioctl_eq_ok {c : Client w σ} {target : UInt32} {id : Ioctl} {input : ControlInput}
    {s : σ} {output : ControlOutput} (hshape : input.shape = id.inputShape)
    (h : (c.ioctl target id input s).1 = .ok output) :
    output.shape = id.outputShape ∧
      ∃ own : NativeControl w, input.encode = .ok own ∧
        output.length ≤ if output.shape = .configList then own.capacity
          else id.outputCapacity c.settings.rxBufferSize := by
  unfold Client.ioctl Client.ask at h
  obtain ⟨e, hrefused⟩ | ⟨own, room, hown, hroom, hcall⟩ :=
    Request.ioctl_cases (w := w) c.settings.rxBufferSize target hshape
  · rw [hrefused] at h
    cases h
  · rw [hcall] at h
    have hdecode := Request.read_of_afterSuccess h
    have hlength := ControlOutput.length_le_of_decode hdecode
    rw [NativeControl.capacity_received, NativeControl.capacity_received,
      NativeControl.capacity_of_room hroom] at hlength
    refine ⟨ControlOutput.shape_of_decode ?_ ?_ hdecode, own, hown, hlength⟩
    · rw [NativeControl.shape_received, ControlInput.shape_of_encode hown, hshape]
    · obtain ⟨room', hroom', hroomShape⟩ :=
        ControlOutput.exists_room (w := w) id c.settings.rxBufferSize
      obtain rfl : room' = room := Except.ok.inj (hroom'.symm.trans hroom)
      rw [NativeControl.shape_received, hroomShape]

/-- **Answers in shape.** Whatever the library does and leaves behind: a control request with an
input of another shape than its own is refused for that, with both shapes, and the library is not
called. With an input of its shape it never complains about one, and an answer has the shape that
the request names. A configuration list is then no longer than the one that was passed, the key
bytes are at most two, and the data of a message are at most what the receive buffer holds. So the
requests with typed answers never find an output of a shape that they did not expect. -/
theorem ioctl_answers_in_shape (c : Client w σ) (s : σ) :
    (∀ (target : UInt32) (id : Ioctl) (input : ControlInput), input.shape ≠ id.inputShape →
      (∀ calls : List (Call w),
        Client.ioctl ⟨c.driver.recording, c.settings⟩ target id input (s, calls) =
          (.error (.wrongShape id.inputShape input.shape), s, calls)) ∧
      (Error.wrongShape id.inputShape input.shape).message =
        "PassThruIoctl expects " ++ id.inputShape.name ++ ", got " ++ input.shape.name) ∧
    (∀ (target : UInt32) (id : Ioctl) (input : ControlInput), input.shape = id.inputShape →
      (∀ expected found, (c.ioctl target id input s).1 ≠ .error (.wrongShape expected found)) ∧
      ∀ output, (c.ioctl target id input s).1 = .ok output →
        output.shape = id.outputShape ∧
        (∀ list, output = .settings list →
          ∃ passed, input = .settings passed ∧ list.length ≤ passed.length) ∧
        (∀ keys, output = .bytes keys → keys.length ≤ 2) ∧
        ∀ m, output = .message m → m.data.length ≤ c.settings.rxBufferSize.toNat) ∧
    ∀ expected found : Ioctl.Shape,
      (∀ channel parameters,
        (c.getConfig channel parameters s).1 ≠ .error (.wrongShape expected found)) ∧
      (∀ device pin, (c.readVoltage device pin s).1 ≠ .error (.wrongShape expected found)) ∧
      (∀ device, (c.readProgVoltage device s).1 ≠ .error (.wrongShape expected found)) ∧
      (∀ channel address,
        (c.fiveBaudInit channel address s).1 ≠ .error (.wrongShape expected found)) ∧
      ∀ channel message,
        (c.fastInit channel message s).1 ≠ .error (.wrongShape expected found) := by
  refine ⟨fun target id input hshape => ⟨fun calls => ?_, rfl⟩, fun target id input hshape => ⟨?_,
    fun output houtput => ?_⟩, fun expected found => ?_⟩
  · show (Request.ioctl c.settings.rxBufferSize target id input : Request w _).perform
      c.driver.recording (s, calls) = _
    rw [Request.ioctl_of_wrongShape hshape]
    rfl
  · have hkeeps := Request.ioctl_keeps (w := w) c.settings.rxBufferSize target id input
    unfold Ioctl.refusal? at hkeeps
    rw [if_pos hshape] at hkeeps
    exact hkeeps.ne_wrongShape input c.driver s
  · obtain ⟨houtputShape, own, hown, hlength⟩ := Client.ioctl_eq_ok hshape houtput
    refine ⟨houtputShape, ?_, ?_, ?_⟩
    · rintro list rfl
      -- only a query of parameters answers a list, and it is asked with a list
      have hget : id = .getConfig := by
        cases id <;> first | rfl | cases houtputShape
      subst hget
      cases input with
      | settings passed =>
        have hcapacity : list.length ≤ own.capacity := hlength
        rw [NativeControl.capacity_of_encode hown] at hcapacity
        exact ⟨passed, rfl, hcapacity⟩
      | _ => cases hshape
    · rintro keys rfl
      unfold Ioctl.outputCapacity at hlength
      rw [← houtputShape] at hlength
      exact hlength
    · rintro m rfl
      unfold Ioctl.outputCapacity at hlength
      rw [← houtputShape] at hlength
      exact hlength
  · refine ⟨fun channel parameters => ?_, fun device pin => ?_, fun device => ?_,
      fun channel address => ?_, fun channel message => ?_⟩
    · have hkeeps := Request.getConfig_keeps (w := w) c.settings.rxBufferSize channel parameters
      rw [← List.length_map fun parameter => (⟨parameter, 0⟩ : Setting)] at hkeeps
      exact hkeeps.ne_wrongShape (.settings _) c.driver s expected found
    · have hkeeps := Request.readVoltage_keeps (w := w) c.settings.rxBufferSize device pin
      exact hkeeps.ne_wrongShape (.resource pin) c.driver s expected found
    · have hkeeps := Request.readProgVoltage_keeps (w := w) c.settings.rxBufferSize device
      exact hkeeps.ne_wrongShape .none c.driver s expected found
    · have hkeeps := Request.fiveBaudInit_keeps (w := w) c.settings.rxBufferSize channel address
      exact hkeeps.ne_wrongShape .none c.driver s expected found
    · have hkeeps := Request.fastInit_keeps (w := w) c.settings.rxBufferSize channel message
      exact hkeeps.ne_wrongShape (.message message) c.driver s expected found

/-- A library that claims nine key bytes is believed for two. -/
example :
    let boastful : Driver .w64 Unit := fun
      | .ioctl _ _ input _, s =>
        (⟨Status.noError, input, .bytes ⟨.of32 9, some [0x08, 0x09, 0x0A]⟩⟩, s)
      | call, s => (.untouched call Status.noError, s)
    ((Client.ofDriver boastful).fiveBaudInit ⟨1⟩ 0x33 ()).1 = .ok [0x08, 0x09] := rfl

end PassThru
