import PassThru.Proofs.Client.CallProtocol
import PassThru.Proofs.Emulator.Contract

/-!
# The calls of a client are lawful

Two tables have to fit together: the arguments that a client encodes for an operation with the
memory that it provides for the outputs, and what a library checks of both.

* `Resource.listed_of_encode` and so on: an encoded list has as many items as its count says.
* `Request.Asks`: what is known of the call that a request makes, if it makes one.
* `Operation.asks`: the call of an operation is lawful, and can fail with the codes of the
  operation.
-/

namespace PassThru

open Emulator (keyBytes)
open ErrorCode (lawful)

variable {w : Width} {α β : Type}

/-! ## Encoded arguments -/

theorem listed_pointerTo {items : List α} (h : Counts items.length) :
    Listed (.of32 (UInt32.ofNat items.length) : Word w) (pointerTo items) := by
  unfold Listed
  exact Nat.le_of_eq (by rw [Word.narrow_of32, toNat_count h, pointerTo_getD])

theorem count_eq_ok {field : String} {n : Nat} {count : Word w}
    (h : Word.count field n = .ok count) : Counts n ∧ count = .of32 (UInt32.ofNat n) := by
  by_cases hn : Counts n
  · rw [count_of_counts field hn] at h
    exact ⟨hn, (Except.ok.inj h).symm⟩
  · rw [count_of_not_counts field hn] at h
    cases h

theorem listed_of_count {field : String} {list : List α} {count : Word w} (f : α → β)
    (h : Word.count field list.length = .ok count) : Listed count (pointerTo (list.map f)) := by
  obtain ⟨hcounts, rfl⟩ := count_eq_ok h
  have hlength : list.length = (list.map f).length := (List.length_map f).symm
  rw [hlength] at hcounts ⊢
  exact listed_pointerTo hcounts

theorem Resource.listed_of_encode {r : Resource} {native : NativeResource w}
    (h : r.encode = .ok native) : Listed native.count native.list := by
  obtain ⟨count, hcount, hnative⟩ := exists_of_bind_eq_ok h
  cases hnative
  exact listed_of_count _ hcount

theorem ChannelSet.listed_of_encode {set : ChannelSet} {native : NativeChannelSet w}
    (h : set.encode = .ok native) : Listed native.count native.list := by
  obtain ⟨count, hcount, hnative⟩ := exists_of_bind_eq_ok h
  cases hnative
  exact listed_of_count _ hcount

/-- Only an empty channel set has the count zero. -/
theorem ChannelSet.channels_eq_nil_of_encode {set : ChannelSet} {native : NativeChannelSet w}
    (h : set.encode = .ok native) (hzero : native.count.narrow = 0) : set.channels = [] := by
  obtain ⟨count, hcount, hnative⟩ := exists_of_bind_eq_ok h
  cases hnative
  obtain ⟨hcounts, rfl⟩ := count_eq_ok hcount
  have hnone : UInt32.ofNat set.channels.length = 0 := (Word.narrow_of32 _).symm.trans hzero
  have hlength := toNat_count hcounts
  rw [hnone] at hlength
  exact List.eq_nil_of_length_eq_zero hlength.symm

theorem NativeConfigList.listed_of_encode {entries : List Setting} {native : NativeConfigList w}
    (h : NativeConfigList.encode entries = .ok native) : Listed native.count native.list := by
  obtain ⟨count, hcount, hnative⟩ := exists_of_bind_eq_ok h
  cases hnative
  exact listed_of_count _ hcount

theorem NativeByteArray.listed_of_encode {bytes : List UInt8} {native : NativeByteArray w}
    (h : NativeByteArray.encode bytes = .ok native) : Listed native.count native.bytes := by
  obtain ⟨count, hcount, hnative⟩ := exists_of_bind_eq_ok h
  cases hnative
  obtain ⟨hcounts, rfl⟩ := count_eq_ok hcount
  exact listed_pointerTo hcounts

theorem ControlInput.listed_of_encode {input : ControlInput} {own : NativeControl w}
    (h : input.encode = .ok own) : own.Listed := by
  cases input with
  | none =>
    cases h
    trivial
  | settings list =>
    obtain ⟨native, hnative, rfl⟩ := exists_of_map_eq_ok h
    exact NativeConfigList.listed_of_encode hnative
  | bytes list =>
    obtain ⟨native, hnative, rfl⟩ := exists_of_map_eq_ok h
    exact NativeByteArray.listed_of_encode hnative
  | message m =>
    obtain ⟨native, -, rfl⟩ := exists_of_map_eq_ok h
    trivial
  | resource r =>
    obtain ⟨native, hnative, rfl⟩ := exists_of_map_eq_ok h
    exact Resource.listed_of_encode hnative

/-- The room for the output of a request has the shape and the size that the library asks for. -/
theorem ControlOutput.lawful_of_room {request : Ioctl} {size : UInt32} {room : NativeControl w}
    (h : ControlOutput.room request size = .ok room) :
    room.shape = request.roomShape ∧ room.HoldsKeyBytes := by
  cases request with
  | fiveBaudInit =>
    cases h
    refine ⟨rfl, rfl, ?_⟩
    show keyBytes.length ≤ (Word.of32 2 : Word w).narrow.toNat
    rw [Word.narrow_of32]
    decide
  | fastInit =>
    obtain ⟨slot, -, rfl⟩ := exists_of_map_eq_ok (x := (Message.withCapacity 0 size).encode) h
    exact ⟨rfl, trivial⟩
  | _ =>
    cases h
    exact ⟨rfl, trivial⟩

/-! ## What requests ask -/

namespace Request

/-- A request that makes a call with a property, or none. -/
inductive Asks (P : Call w → Prop) : Request w α → Prop
  | settled (answer : Answer α) : Asks P (settled answer)
  | ask {call : Call w} {finish : Reply call → Answer α} (h : P call) : Asks P (ask call finish)

variable {P : Call w → Prop}

theorem Asks.afterSuccess {call : Call w} {read : call.Memory → Answer α} (h : P call) :
    Asks P (afterSuccess call read) := .ask h

theorem Asks.call {call : Call w} {read : call.Memory → Answer α} (h : P call) :
    Asks P (prepared (pure (Request.afterSuccess call read))) := .ask h

/-- A call with an argument that was encoded for it. -/
theorem Asks.encoded {encoded : Answer β} {next : β → Answer (Request w α)}
    (h : ∀ native, encoded = .ok native → Asks P (prepared (next native))) :
    Asks P (prepared (encoded >>= next)) := by
  cases encoded with
  | error e => exact .settled _
  | ok native => exact h native rfl

theorem Asks.andThen {request : Request w α} (h : Asks P request) (f : α → Answer β) :
    Asks P (request.andThen f) := by
  cases h with
  | settled answer => exact .settled _
  | ask h => exact .ask h

end Request

/-- A lawful call that can fail with the codes only. -/
def Call.Within (codes : List ErrorCode) (call : Call w) : Prop := call.Lawful ∧ call.codes ⊆ codes

namespace Operation

/-- What an operation can be answered by the emulated library, if it is put to it. -/
def codes : Operation → List ErrorCode
  | openDevice name => if name.getD "" = "" then .nullParameter :: lawful else lawful
  | select set _ _ => if set.channels = [] then .nullParameter :: lawful else lawful
  | readMsgs .. | readBatch _ | fastInit .. => .bufferTooSmall :: lawful
  | ioctl _ id _ | clear _ id => if id = .fastInit then .bufferTooSmall :: lawful else lawful
  | _ => lawful

end Operation

namespace Request

open Call (Within)

theorem decode_of_deviceName {name : String} {bytes : List UInt8}
    (h : deviceName name = .ok bytes) : Field.decode bytes = name := by
  unfold deviceName at h
  dsimp only at h
  split at h
  · cases h
  · next hnul =>
    cases h
    have hpadded := Field.decode_padded (fun hmem => hnul (Field.contains_zero_iff.2 hmem)) 0
    rwa [List.replicate_zero, List.append_nil] at hpadded

theorem openDevice_asks (name : Option String) :
    Asks (Within (Operation.openDevice name).codes) (openDevice (w := w) name) := by
  refine .encoded fun bytes hbytes => .call ⟨rfl, ?_⟩
  have hname : (bytes.map Field.decode).getD "" = name.getD "" := by
    cases name with
    | none =>
      cases hbytes
      rfl
    | some name =>
      obtain ⟨native, hnative, rfl⟩ := exists_of_map_eq_ok (x := deviceName name) hbytes
      exact decode_of_deviceName hnative
  show (if (bytes.map Field.decode).getD "" = "" then .nullParameter :: lawful else lawful) ⊆
    if name.getD "" = "" then .nullParameter :: lawful else lawful
  rw [hname]
  exact List.Subset.refl _

theorem select_asks (set : ChannelSet) (kind : SelectType) (timeout : UInt32) :
    Asks (Within (Operation.select set kind timeout).codes) (select (w := w) set kind timeout) := by
  refine .encoded fun native hnative =>
    .call ⟨⟨native, rfl, ChannelSet.listed_of_encode hnative⟩, ?_⟩
  show (if native.count.narrow = 0 then .nullParameter :: lawful else lawful) ⊆
    if set.channels = [] then .nullParameter :: lawful else lawful
  by_cases hzero : native.count.narrow = 0
  · rw [if_pos hzero, if_pos (ChannelSet.channels_eq_nil_of_encode hnative hzero)]
    exact List.Subset.refl _
  · rw [if_neg hzero]
    split
    · exact List.subset_cons_self _ _
    · exact List.Subset.refl _

theorem readMsgs_asks (size : UInt32) (channel : ChannelId) (max : Nat) (timeout : UInt32) :
    Asks (Within (.bufferTooSmall :: lawful)) (readMsgs (w := w) size channel max timeout) := by
  unfold readMsgs
  split
  · exact .settled _
  · refine .encoded fun count _ => .encoded fun slots _ => ?_
    exact .ask ⟨⟨rfl, rfl⟩, List.Subset.refl _⟩

theorem queueMsgs_asks (channel : ChannelId) (messages : List Message) :
    Asks (Within lawful) (queueMsgs (w := w) channel messages) := by
  unfold queueMsgs
  split
  · exact .settled _
  · exact .encoded fun native _ => .call ⟨⟨rfl, rfl⟩, List.Subset.refl _⟩

theorem ioctl_asks (size target : UInt32) (id : Ioctl) (input : ControlInput) :
    Asks (Within (if id = .fastInit then .bufferTooSmall :: lawful else lawful))
      (ioctl (w := w) size target id input) := by
  unfold ioctl
  by_cases hshape : input.shape ≠ id.inputShape
  · rw [if_pos hshape]
    exact .settled _
  · rw [if_neg hshape]
    refine .encoded fun own hown => .encoded fun room hroom => .call ⟨?_, ?_⟩
    · intro request hrequest
      rw [Word.narrow_of32, Ioctl.ofCode?_code] at hrequest
      cases hrequest
      have hinput := (ControlInput.shape_of_encode hown).trans (Decidable.not_not.1 hshape)
      obtain ⟨houtput, hholds⟩ := ControlOutput.lawful_of_room hroom
      exact ⟨hinput, houtput, ControlInput.listed_of_encode hown, hholds⟩
    · unfold Call.codes
      simp only [Word.narrow_of32, Ioctl.ofCode?_code, Option.some.injEq]
      exact List.Subset.refl _

end Request

open Request in
/-- The call of an operation is lawful, and fails with the codes of the operation only. -/
theorem Operation.asks (settings : Settings) (o : Operation) :
    Asks (Call.Within o.codes) (o.request settings : Request w o.Value) := by
  have hsame : lawful ⊆ lawful := List.Subset.refl _
  have hioctl := fun (target : UInt32) (id : Ioctl) (input : ControlInput) =>
    ioctl_asks (w := w) settings.rxBufferSize target id input
  cases o with
  | scanForDevices => exact .afterSuccess ⟨rfl, hsame⟩
  | getNextDevice =>
    show Asks _ (Request.getNextDevice)
    exact .afterSuccess ⟨rfl, hsame⟩
  | openDevice name => exact openDevice_asks name
  | closeDevice device => exact .afterSuccess ⟨trivial, hsame⟩
  | readVersion device =>
    show Asks _ (Request.readVersion device)
    exact .afterSuccess ⟨⟨rfl, rfl, rfl⟩, hsame⟩
  | getLastError =>
    show Asks _ (Request.getLastError)
    exact .afterSuccess ⟨rfl, hsame⟩
  | setProgrammingVoltage device pin voltage =>
    exact .encoded fun native hnative => .call ⟨Resource.listed_of_encode hnative, hsame⟩
  | connect device protocol flags baud resource =>
    exact .encoded fun native hnative => .call ⟨⟨Resource.listed_of_encode hnative, rfl⟩, hsame⟩
  | connectRaw device protocolId flags baud resource =>
    exact .encoded fun native hnative => .call ⟨⟨Resource.listed_of_encode hnative, rfl⟩, hsame⟩
  | disconnect channel => exact .afterSuccess ⟨trivial, hsame⟩
  | logicalConnect physical protocol flags descriptor =>
    show Asks _ (Request.logicalConnect physical protocol flags descriptor)
    exact .afterSuccess ⟨⟨rfl, rfl⟩, hsame⟩
  | logicalDisconnect channel => exact .afterSuccess ⟨trivial, hsame⟩
  | select set kind timeout => exact select_asks set kind timeout
  | readMsgs channel max timeout => exact readMsgs_asks _ channel max timeout
  | readBatch channel => exact readMsgs_asks _ channel _ _
  | queueMsgs channel messages => exact queueMsgs_asks channel messages
  | startPeriodicMsg channel message interval =>
    exact .encoded fun native _ => .call ⟨⟨rfl, rfl⟩, hsame⟩
  | stopPeriodicMsg channel id => exact .afterSuccess ⟨trivial, hsame⟩
  | startMsgFilter channel kind mask pattern =>
    exact .encoded fun mask _ => .encoded fun pattern _ => .call ⟨⟨rfl, rfl, rfl⟩, hsame⟩
  | stopMsgFilter channel id => exact .afterSuccess ⟨trivial, hsame⟩
  | ioctl target id input => exact hioctl target id input
  | getConfig channel parameters => exact (hioctl channel.raw .getConfig _).andThen _
  | setConfig channel entries => exact (hioctl channel.raw .setConfig _).andThen _
  | readVoltage device pin => exact (hioctl device.raw .readPinVoltage _).andThen _
  | readProgVoltage device => exact (hioctl device.raw .readProgVoltage .none).andThen _
  | fiveBaudInit channel address =>
    exact (hioctl channel.raw .fiveBaudInit (.bytes [address])).andThen _
  | fastInit channel message => exact (hioctl channel.raw .fastInit _).andThen _
  | clear channel id => exact (hioctl channel.raw id _).andThen _

end PassThru
