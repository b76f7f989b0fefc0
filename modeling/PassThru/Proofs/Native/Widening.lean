import PassThru.Driver

/-!
# Widening

What is said to a library with 32-bit numbers can be said to one with 64-bit numbers: each number is
widened, and everything else stays as it is.

* `Word.widen`, and a `widen` of every native structure, call and reply.
* `encode_widen`: writing a model at 64 bits is writing it at 32 bits and widening.
* `decode_widen`: a widened structure reads as before.
* `received_widen`: what a caller finds in its structure after the library has written to it.
-/

namespace PassThru

variable {α β γ : Type}

/-! ## Numbers -/

namespace Word

/-- The same number, with 64 bits. -/
def widen (v : Word .w32) : Word .w64 :=
  ⟨v.toNat, Nat.lt_of_lt_of_le v.toNat_lt (Width.size_le_limit .w64)⟩

@[simp] theorem toNat_widen (v : Word .w32) : v.widen.toNat = v.toNat := rfl

@[simp] theorem widen_of32 (v : UInt32) : (of32 v).widen = of32 v := rfl

@[simp] theorem narrow_widen (v : Word .w32) : v.widen.narrow = v.narrow := rfl

@[simp] theorem read_widen (field : String) (v : Word .w32) :
    v.widen.read field = v.read field := rfl

theorem count_widen (field : String) (n : Nat) :
    (count field n : Answer (Word .w64)) = (count field n).map widen := by
  unfold count
  split <;> rfl

/-- A structure that begins by a count is refused at both widths or at neither. -/
theorem count_bind_widen {field : String} {n : Nat} {make : Word .w32 → α} {make' : Word .w64 → β}
    {widened : α → β} (h : ∀ v : Word .w32, make' v.widen = widened (make v)) :
    (count field n >>= fun v => pure (make' v)) =
      (count field n >>= fun v => pure (make v) : Answer α).map widened := by
  rw [count_widen]
  cases (count field n : Answer (Word .w32)) with
  | error e => rfl
  | ok v => exact congrArg Except.ok (h v)

end Word

/-! ## Lists behind pointers -/

theorem pointerTo_map (f : α → β) (items : List α) :
    pointerTo (items.map f) = (pointerTo items).map (List.map f) := by
  cases items <;> rfl

theorem getD_map_map (f : α → β) (list : Option (List α)) :
    (list.map (List.map f)).getD [] = (list.getD []).map f := by
  cases list <;> rfl

theorem overwrite_map (f : α → β) (storage items : List α) :
    overwrite (storage.map f) (items.map f) = (overwrite storage items).map f := by
  unfold overwrite
  rw [List.length_map, List.length_map, List.map_append, List.map_take, List.map_drop]

theorem overwritten_map (f : α → β) (own written : Option (List α)) :
    (own.map (List.map f)).map (fun list => overwrite list ((written.map (List.map f)).getD [])) =
      (own.map fun list => overwrite list (written.getD [])).map (List.map f) := by
  cases own with
  | none => rfl
  | some list =>
    rw [getD_map_map]
    exact congrArg some (overwrite_map f list (written.getD []))

/-- Reading items that mean the same gives the same. -/
theorem mapM_map_congr {read : α → Answer γ} {read' : β → Answer γ} {f : α → β}
    (h : ∀ a, read' (f a) = read a) (list : List α) :
    (list.map f).mapM read' = list.mapM read := by
  induction list with
  | nil => rfl
  | cons a list ih => rw [List.map_cons, List.mapM_cons, List.mapM_cons, h, ih]

theorem mapM_eq_map_mapM {write : γ → Answer α} {write' : γ → Answer β} {f : α → β}
    (h : ∀ c, write' c = (write c).map f) (list : List γ) :
    list.mapM write' = (list.mapM write).map (List.map f) := by
  induction list with
  | nil => rfl
  | cons c list ih =>
    rw [List.mapM_cons, List.mapM_cons, h, ih]
    cases write c with
    | error e => rfl
    | ok a => cases list.mapM write <;> rfl

/-! ## Structures -/

def NativeResource.widen (r : NativeResource .w32) : NativeResource .w64 where
  connector := r.connector.widen
  count := r.count.widen
  list := r.list.map (List.map Word.widen)

theorem Resource.encode_widen (r : Resource) :
    (r.encode : Answer (NativeResource .w64)) = r.encode.map NativeResource.widen := by
  refine Word.count_bind_widen fun count => ?_
  unfold NativeResource.widen
  rw [← pointerTo_map, List.map_map]
  rfl

def NativeChannelSet.widen (set : NativeChannelSet .w32) : NativeChannelSet .w64 where
  count := set.count.widen
  threshold := set.threshold.widen
  list := set.list.map (List.map Word.widen)

theorem NativeChannelSet.received_widen (own written : NativeChannelSet .w32) :
    own.widen.received written.widen = (own.received written).widen :=
  congrArg (NativeChannelSet.mk _ _) (overwritten_map Word.widen own.list written.list)

theorem ChannelSet.encode_widen (set : ChannelSet) :
    (set.encode : Answer (NativeChannelSet .w64)) = set.encode.map NativeChannelSet.widen := by
  refine Word.count_bind_widen fun count => ?_
  unfold NativeChannelSet.widen
  rw [← pointerTo_map, List.map_map]
  rfl

theorem ChannelSet.decode_widen (set : NativeChannelSet .w32) :
    ChannelSet.decode set.widen = ChannelSet.decode set := by
  unfold ChannelSet.decode NativeChannelSet.widen
  simp only [Word.read_widen, getD_map_map, ← List.map_take,
    mapM_map_congr (Word.read_widen "channel_list")]

def NativeSetting.widen (s : NativeSetting .w32) : NativeSetting .w64 :=
  ⟨s.parameter.widen, s.value.widen⟩

def NativeConfigList.widen (list : NativeConfigList .w32) : NativeConfigList .w64 where
  count := list.count.widen
  list := list.list.map (List.map NativeSetting.widen)

theorem NativeSetting.decode_widen (s : NativeSetting .w32) :
    NativeSetting.decode s.widen = NativeSetting.decode s := rfl

namespace NativeConfigList

theorem received_widen (own written : NativeConfigList .w32) :
    own.widen.received written.widen = (own.received written).widen :=
  congrArg (NativeConfigList.mk _) (overwritten_map NativeSetting.widen own.list written.list)

theorem encode_widen (settings : List Setting) :
    (encode settings : Answer (NativeConfigList .w64)) = (encode settings).map widen := by
  refine Word.count_bind_widen fun count => ?_
  unfold widen
  rw [← pointerTo_map, List.map_map]
  rfl

theorem decode_widen (list : NativeConfigList .w32) : decode list.widen = decode list := by
  unfold decode widen
  simp only [Word.read_widen, getD_map_map, ← List.map_take,
    mapM_map_congr NativeSetting.decode_widen]

end NativeConfigList

def NativeByteArray.widen (array : NativeByteArray .w32) : NativeByteArray .w64 :=
  ⟨array.count.widen, array.bytes⟩

theorem NativeByteArray.encode_widen (bytes : List UInt8) :
    (encode bytes : Answer (NativeByteArray .w64)) = (encode bytes).map widen :=
  Word.count_bind_widen fun _ => rfl

def NativeDevice.widen (d : NativeDevice .w32) : NativeDevice .w64 where
  name := d.name
  availability := d.availability.widen
  firmwareStatus := d.firmwareStatus.widen
  media := d.media.widen
  speed := d.speed.widen
  signalQuality := d.signalQuality.widen
  signalStrength := d.signalStrength.widen

theorem Device.encode_widen (d : Device) :
    (d.encode : Answer (NativeDevice .w64)) = d.encode.map NativeDevice.widen := by
  unfold Device.encode
  cases Field.encode "device_name" d.name <;> rfl

theorem Device.decode_widen (d : NativeDevice .w32) : Device.decode d.widen = Device.decode d := rfl

def NativeDescriptor.widen (d : NativeDescriptor .w32) : NativeDescriptor .w64 where
  localTxFlags := d.localTxFlags.widen
  remoteTxFlags := d.remoteTxFlags.widen
  localAddress := d.localAddress
  remoteAddress := d.remoteAddress

/-! ## Messages -/

namespace NativeMessage

/-- The same message. -/
def widen (m : NativeMessage .w32) : NativeMessage .w64 where
  protocolId := m.protocolId.widen
  msgHandle := m.msgHandle.widen
  rxStatus := m.rxStatus.widen
  txFlags := m.txFlags.widen
  timestamp := m.timestamp.widen
  dataLength := m.dataLength.widen
  extraDataIndex := m.extraDataIndex.widen
  buffer := m.buffer
  bufferSize := m.bufferSize.widen

theorem read_widen (m : NativeMessage .w32) : m.widen.read = m.read := rfl

theorem write_widen (slot : NativeMessage .w32) (m : Message) :
    slot.widen.write m = (slot.write m).map widen := by
  unfold write widen
  simp only [Word.read_widen]
  cases slot.bufferSize.read "data_buffer_size" with
  | error e => rfl
  | ok capacity =>
    show (if _ then _ else _) = Except.map _ (if _ then _ else _)
    split <;> rfl

theorem receivedAll_widen (owns writtens : List (NativeMessage .w32)) :
    receivedAll (owns.map widen) (writtens.map widen) = (receivedAll owns writtens).map widen := by
  induction owns generalizing writtens with
  | nil => rfl
  | cons own owns ih =>
    cases writtens with
    | nil => rfl
    | cons written writtens => exact congrArg (_ :: ·) (ih writtens)

end NativeMessage

namespace Message

theorem encode_widen (m : Message) :
    (m.encode : Answer (NativeMessage .w64)) = m.encode.map NativeMessage.widen := by
  unfold encode
  split <;> rfl

theorem decode_widen (m : NativeMessage .w32) : decode m.widen = decode m := rfl

theorem encodeAll_widen (messages : List Message) :
    (encodeAll messages : Answer (List (NativeMessage .w64))) =
      (encodeAll messages).map (List.map NativeMessage.widen) :=
  mapM_eq_map_mapM encode_widen messages

theorem decodeFirst_widen (n : Nat) (messages : List (NativeMessage .w32)) :
    decodeFirst n (messages.map NativeMessage.widen) = decodeFirst n messages := by
  unfold decodeFirst
  rw [← List.map_take, mapM_map_congr decode_widen]

theorem receiveSlots_widen (count : Nat) (protocolId capacity : UInt32) :
    (receiveSlots count protocolId capacity : Answer (List (NativeMessage .w64))) =
      (receiveSlots count protocolId capacity).map (List.map NativeMessage.widen) := by
  unfold receiveSlots
  rw [encode_widen]
  cases (withCapacity protocolId capacity).encode with
  | error e => rfl
  | ok slot => exact congrArg Except.ok List.map_replicate.symm

end Message

/-! ## Control requests -/

namespace NativeControl

/-- The same argument. -/
def widen : NativeControl .w32 → NativeControl .w64
  | null => null
  | configList list => configList list.widen
  | bytes array => bytes array.widen
  | message m => message m.widen
  | resource r => resource r.widen
  | number value => number value.widen

@[simp] theorem isNull_widen (argument : NativeControl .w32) :
    argument.widen.isNull = argument.isNull := by
  cases argument <;> rfl

theorem received_widen (own written : NativeControl .w32) :
    own.widen.received written.widen = (own.received written).widen := by
  cases own with
  | configList own =>
    cases written with
    | configList written => exact congrArg configList (own.received_widen written)
    | _ => rfl
  | _ => cases written <;> rfl

theorem withSettings_widen (input : NativeControl .w32) (filled : List (NativeSetting .w32)) :
    input.widen.withSettings (filled.map NativeSetting.widen) =
      (input.withSettings filled).widen := by
  cases input with
  | configList list =>
    refine congrArg (fun settings => configList ⟨list.count.widen, settings⟩) ?_
    show (list.list.map _).map _ = (list.list.map _).map _
    rw [Option.map_map, Option.map_map, List.length_map]
    refine congrArg (list.list.map ·) ?_
    funext rest
    rw [Function.comp_apply, Function.comp_apply, List.map_append, List.map_drop]
  | _ => rfl

theorem withNumber_widen (output : NativeControl .w32) (value : UInt32) :
    output.widen.withNumber value = (output.withNumber value).widen := by
  cases output <;> rfl

end NativeControl

theorem ControlInput.encode_widen (input : ControlInput) :
    (input.encode : Answer (NativeControl .w64)) = input.encode.map NativeControl.widen := by
  cases input with
  | none => rfl
  | settings list =>
    show (NativeConfigList.encode list).map _ = ((NativeConfigList.encode list).map _).map _
    rw [NativeConfigList.encode_widen]
    cases NativeConfigList.encode list <;> rfl
  | bytes list =>
    show (NativeByteArray.encode list).map _ = ((NativeByteArray.encode list).map _).map _
    rw [NativeByteArray.encode_widen]
    cases NativeByteArray.encode list <;> rfl
  | message m =>
    show m.encode.map _ = (m.encode.map _).map _
    rw [Message.encode_widen]
    cases m.encode <;> rfl
  | resource r =>
    show r.encode.map _ = (r.encode.map _).map _
    rw [Resource.encode_widen]
    cases r.encode <;> rfl

namespace ControlOutput

theorem room_widen (request : Ioctl) (bufferSize : UInt32) :
    (room request bufferSize : Answer (NativeControl .w64)) =
      (room request bufferSize).map NativeControl.widen := by
  unfold room
  cases request.outputShape <;> rfl

theorem decode_widen (request : Ioctl) (input output : NativeControl .w32) :
    decode request input.widen output.widen = decode request input output := by
  cases output with
  | bytes array => rfl
  | message m => rfl
  | number value => rfl
  | _ =>
    cases input with
    | configList list =>
      cases request with
      | getConfig => exact congrArg (Except.map settings) list.decode_widen
      | _ => rfl
    | _ => cases request <;> rfl

end ControlOutput

/-! ## Calls and replies -/

/-- The same memory of a receiving or queueing call. -/
def MessageMemory.widen (memory : MessageMemory .w32) : MessageMemory .w64 where
  slots := memory.slots.map (List.map NativeMessage.widen)
  count := memory.count.map Word.widen

/-- The same memory of a control request. -/
def ControlMemory.widen (memory : ControlMemory .w32) : ControlMemory .w64 where
  input := memory.input.widen
  output := memory.output.widen

namespace Call

/-- The same call. -/
def widen : Call .w32 → Call .w64
  | scanForDevices count => scanForDevices (count.map .widen)
  | getNextDevice device => getNextDevice (device.map .widen)
  | openDevice name device => openDevice name (device.map .widen)
  | closeDevice device => closeDevice device.widen
  | connect device protocol flags baud resource channel =>
    connect device.widen protocol.widen flags.widen baud.widen resource.widen (channel.map .widen)
  | disconnect channel => disconnect channel.widen
  | logicalConnect physical protocol flags descriptor channel =>
    logicalConnect physical.widen protocol.widen flags.widen (descriptor.map .widen)
      (channel.map .widen)
  | logicalDisconnect channel => logicalDisconnect channel.widen
  | select set kind timeout => select (set.map .widen) kind.widen timeout.widen
  | readMsgs channel slots count timeout =>
    readMsgs channel.widen (slots.map (List.map .widen)) (count.map .widen) timeout.widen
  | queueMsgs channel messages count =>
    queueMsgs channel.widen (messages.map (List.map .widen)) (count.map .widen)
  | startPeriodicMsg channel message id interval =>
    startPeriodicMsg channel.widen (message.map .widen) (id.map .widen) interval.widen
  | stopPeriodicMsg channel id => stopPeriodicMsg channel.widen id.widen
  | startMsgFilter channel kind mask pattern id =>
    startMsgFilter channel.widen kind.widen (mask.map .widen) (pattern.map .widen) (id.map .widen)
  | stopMsgFilter channel id => stopMsgFilter channel.widen id.widen
  | setProgrammingVoltage device resource voltage =>
    setProgrammingVoltage device.widen resource.widen voltage.widen
  | readVersion device firmware dll api => readVersion device.widen firmware dll api
  | getLastError text => getLastError text
  | ioctl target id input output => ioctl target.widen id.widen input.widen output.widen

theorem entry_widen (call : Call .w32) : call.widen.entry = call.entry := by
  cases call <;> rfl

/-- The same content of the memory that a call hands over. -/
def widenMemory : (call : Call .w32) → call.Memory → call.widen.Memory
  | scanForDevices _, count => count.map Word.widen
  | getNextDevice _, device => device.map NativeDevice.widen
  | openDevice _ _, device => device.map Word.widen
  | closeDevice _, memory => memory
  | connect .., channel => channel.map Word.widen
  | disconnect _, memory => memory
  | logicalConnect .., channel => channel.map Word.widen
  | logicalDisconnect _, memory => memory
  | select .., set => set.map NativeChannelSet.widen
  | readMsgs .., memory => memory.widen
  | queueMsgs .., memory => memory.widen
  | startPeriodicMsg .., id => id.map Word.widen
  | stopPeriodicMsg .., memory => memory
  | startMsgFilter .., id => id.map Word.widen
  | stopMsgFilter .., memory => memory
  | setProgrammingVoltage .., memory => memory
  | readVersion .., memory => memory
  | getLastError _, text => text
  | ioctl .., memory => memory.widen

end Call

/-- The same reply to the same call. -/
def Reply.widen {call : Call .w32} (reply : Reply call) : Reply call.widen :=
  ⟨reply.status, call.widenMemory reply.memory⟩

end PassThru
