import PassThru.Model.Device
import PassThru.Native.Number
import PassThru.Text.Field

/-!
# The device structure

`SDEVICE`: a name field and six numbers.
-/

namespace PassThru

/-- A device as the library describes it. -/
structure NativeDevice (w : Width) where
  name : List UInt8
  availability : Word w
  firmwareStatus : Word w
  media : Word w
  speed : Word w
  signalQuality : Word w
  signalStrength : Word w
  deriving DecidableEq

namespace NativeDevice

variable {w : Width}

/-- The structure before the library has written it. -/
def blank : NativeDevice w :=
  ⟨Field.blank, Word.zero, Word.zero, Word.zero, Word.zero, Word.zero, Word.zero⟩

/-- The structure in memory. -/
def bytes (d : NativeDevice w) : List UInt8 :=
  d.name ++ [d.availability, d.firmwareStatus, d.media, d.speed, d.signalQuality,
    d.signalStrength].flatMap Word.littleEndian

end NativeDevice

namespace Device

variable {w : Width}

def encode (d : Device) : Answer (NativeDevice w) := do
  let name ← Field.encode "device_name" d.name
  return {
    name := name
    availability := .of32 d.availability
    firmwareStatus := .of32 d.firmwareStatus
    media := .of32 d.media
    speed := .of32 d.speed
    signalQuality := .of32 d.signalQuality
    signalStrength := .of32 d.signalStrength }

def decode (d : NativeDevice w) : Answer Device := do
  let availability ← d.availability.read "device_available"
  let firmwareStatus ← d.firmwareStatus.read "device_dll_fw_status"
  let media ← d.media.read "device_connect_media"
  let speed ← d.speed.read "device_connect_speed"
  let signalQuality ← d.signalQuality.read "device_signal_quality"
  let signalStrength ← d.signalStrength.read "device_signal_strength"
  return {
    name := Field.decode d.name
    availability, firmwareStatus, media, speed, signalQuality, signalStrength }

end Device

end PassThru
