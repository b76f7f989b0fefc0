import PassThru.Model.Message
import PassThru.Native.Number

/-!
# The message structure

`PASSTHRU_MSG`: eight numbers and a data buffer. A message crosses the boundary in two ways.

* The owner of a buffer uses `Message.encode` and `Message.decode`, which know how long it is.
* The other side is given a structure and has to trust its `bufferSize`: `NativeMessage.read`
  reads such a message, and `NativeMessage.write` fills it without growing the buffer.
-/

namespace PassThru

/-- A message in native form; `buffer` is `none` for a null pointer. -/
structure NativeMessage (w : Width) where
  protocolId : Word w
  msgHandle : Word w
  rxStatus : Word w
  txFlags : Word w
  timestamp : Word w
  dataLength : Word w
  extraDataIndex : Word w
  buffer : Option (List UInt8)
  bufferSize : Word w
  deriving DecidableEq

namespace NativeMessage

variable {w : Width}

/-- The message of a structure whose buffer is known to hold `buffer`. The data are what the
reported length covers, and never more than the buffer. -/
def interpret (m : NativeMessage w) (buffer : List UInt8) : Answer Message := do
  let length ← m.dataLength.read "data_length"
  let protocolId ← m.protocolId.read "protocol_id"
  let msgHandle ← m.msgHandle.read "msg_handle"
  let rxStatus ← m.rxStatus.read "rx_status"
  let txFlags ← m.txFlags.read "tx_flags"
  let timestamp ← m.timestamp.read "timestamp"
  let extraDataIndex ← m.extraDataIndex.read "extra_data_index"
  let bufferSize ← m.bufferSize.read "data_buffer_size"
  return {
    protocolId, msgHandle, rxStatus, txFlags, timestamp, extraDataIndex
    data := buffer.take length.toNat
    bufferSize }

/-- Read a message that was handed over by its structure alone. -/
def read (m : NativeMessage w) : Answer Message := do
  let size ← m.bufferSize.read "data_buffer_size"
  m.interpret ((m.buffer.getD []).take size.toNat)

/-- Fill a structure that was handed over, keeping its buffer and the size of that. -/
def write (slot : NativeMessage w) (m : Message) : Answer (NativeMessage w) := do
  let capacity ← slot.bufferSize.read "data_buffer_size"
  if capacity.toNat < m.data.length ∨ (slot.buffer = none ∧ m.data ≠ []) then
    .error (.valueTooLarge "data" capacity.toNat m.data.length)
  else
    return {
      protocolId := .of32 m.protocolId
      msgHandle := .of32 m.msgHandle
      rxStatus := .of32 m.rxStatus
      txFlags := .of32 m.txFlags
      timestamp := .of32 m.timestamp
      dataLength := .of32 (UInt32.ofNat m.data.length)
      extraDataIndex := .of32 m.extraDataIndex
      buffer := slot.buffer.map fun buffer => m.data ++ buffer.drop m.data.length
      bufferSize := slot.bufferSize }

/-- The caller's structure after the library has written to it: the numbers are the library's, the
buffer stays the caller's and keeps its length. -/
def received (own written : NativeMessage w) : NativeMessage w :=
  { written with
    buffer := own.buffer.map fun buffer => overwrite buffer (written.buffer.getD []) }

/-- The caller's slots after the library has written to the first of them. -/
def receivedAll : List (NativeMessage w) → List (NativeMessage w) → List (NativeMessage w)
  | own :: owns, written :: writtens => own.received written :: receivedAll owns writtens
  | owns, _ => owns

end NativeMessage

namespace Message

variable {w : Width}

/-- The native form of a message with a buffer of its own. -/
def encode (m : Message) : Answer (NativeMessage w) :=
  if m.bufferSize.toNat < m.data.length then
    .error (.valueTooLarge "data" m.bufferSize.toNat m.data.length)
  else
    .ok {
      protocolId := .of32 m.protocolId
      msgHandle := .of32 m.msgHandle
      rxStatus := .of32 m.rxStatus
      txFlags := .of32 m.txFlags
      timestamp := .of32 m.timestamp
      dataLength := .of32 (UInt32.ofNat m.data.length)
      extraDataIndex := .of32 m.extraDataIndex
      buffer := pointerTo (m.data ++ List.replicate (m.bufferSize.toNat - m.data.length) 0)
      bufferSize := .of32 m.bufferSize }

/-- The message of a native form whose buffer is the caller's own. -/
def decode (m : NativeMessage w) : Answer Message := m.interpret (m.buffer.getD [])

/-- The native forms of several messages. -/
def encodeAll (messages : List Message) : Answer (List (NativeMessage w)) :=
  messages.mapM encode

/-- The messages of the first `n` native forms. -/
def decodeFirst (n : Nat) (messages : List (NativeMessage w)) : Answer (List Message) :=
  (messages.take n).mapM decode

/-- Empty slots for the library to fill. -/
def receiveSlots (count : Nat) (protocolId capacity : UInt32) : Answer (List (NativeMessage w)) :=
  (encode (withCapacity protocolId capacity)).map fun slot => List.replicate count slot

end Message

end PassThru
