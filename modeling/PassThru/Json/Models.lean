import PassThru.Json.Form
import PassThru.Model.ChannelSet
import PassThru.Model.Control
import PassThru.Model.Descriptor
import PassThru.Model.Device
import PassThru.Settings.Basic
import PassThru.Standard.FilterType

/-!
# JSON forms of the models

Records with the vendor's field names, handles as bare numbers, and enumerations by name. All
fields of a record are required, but those of the settings: each of these has its default. Settings
can be written only if the path in them is a text.
-/

namespace PassThru

instance : JsonForm DeviceId where
  toJson id := toJson id.raw
  ofJson? j := (ofJson? j).map DeviceId.mk

instance : JsonForm ChannelId where
  toJson id := toJson id.raw
  ofJson? j := (ofJson? j).map ChannelId.mk

instance : JsonForm FilterId where
  toJson id := toJson id.raw
  ofJson? j := (ofJson? j).map FilterId.mk

instance : JsonForm PeriodicMsgId where
  toJson id := toJson id.raw
  ofJson? j := (ofJson? j).map PeriodicMsgId.mk

instance : JsonForm Protocol := Coded.jsonForm
instance : JsonForm Ioctl := Coded.jsonForm
instance : JsonForm FilterType := Coded.jsonForm
instance : JsonForm SelectType := Coded.jsonForm

/-- Five bytes. -/
instance : JsonForm Address where
  toJson address := toJson address.val
  ofJson? j := (ofJson? j).bind Address.ofList?

namespace Device

def fieldNames : List String :=
  ["name", "availability", "dll_fw_status", "connect_media", "connect_speed", "signal_quality",
    "signal_strength"]

instance : JsonForm Device where
  toJson d := .record fieldNames
    [toJson d.name, toJson d.availability, toJson d.firmwareStatus, toJson d.media,
      toJson d.speed, toJson d.signalQuality, toJson d.signalStrength]
  ofJson? j := do
    let [name, availability, firmwareStatus, media, speed, signalQuality, signalStrength] ←
      j.record? fieldNames | none
    return {
      name := ← ofJson? name
      availability := ← ofJson? availability
      firmwareStatus := ← ofJson? firmwareStatus
      media := ← ofJson? media
      speed := ← ofJson? speed
      signalQuality := ← ofJson? signalQuality
      signalStrength := ← ofJson? signalStrength }

end Device

namespace Resource

def fieldNames : List String := ["connector", "resources"]

instance : JsonForm Resource where
  toJson r := .record fieldNames [toJson r.connector, toJson r.pins]
  ofJson? j := do
    let [connector, pins] ← j.record? fieldNames | none
    return { connector := ← ofJson? connector, pins := ← ofJson? pins }

end Resource

namespace ChannelSet

def fieldNames : List String := ["channel_threshold", "channels"]

instance : JsonForm ChannelSet where
  toJson set := .record fieldNames [toJson set.threshold, toJson set.channels]
  ofJson? j := do
    let [threshold, channels] ← j.record? fieldNames | none
    return { threshold := ← ofJson? threshold, channels := ← ofJson? channels }

end ChannelSet

namespace Message

def fieldNames : List String :=
  ["protocol_id", "msg_handle", "rx_status", "tx_flags", "timestamp", "extra_data_index", "data",
    "data_buffer_size"]

instance : JsonForm Message where
  toJson m := .record fieldNames
    [toJson m.protocolId, toJson m.msgHandle, toJson m.rxStatus, toJson m.txFlags,
      toJson m.timestamp, toJson m.extraDataIndex, toJson m.data, toJson m.bufferSize]
  ofJson? j := do
    let [protocolId, msgHandle, rxStatus, txFlags, timestamp, extraDataIndex, data, bufferSize] ←
      j.record? fieldNames | none
    return {
      protocolId := ← ofJson? protocolId
      msgHandle := ← ofJson? msgHandle
      rxStatus := ← ofJson? rxStatus
      txFlags := ← ofJson? txFlags
      timestamp := ← ofJson? timestamp
      extraDataIndex := ← ofJson? extraDataIndex
      data := ← ofJson? data
      bufferSize := ← ofJson? bufferSize }

end Message

namespace VersionInfo

def fieldNames : List String := ["firmware_version", "dll_version", "api_version"]

instance : JsonForm VersionInfo where
  toJson v := .record fieldNames [toJson v.firmware, toJson v.dll, toJson v.api]
  ofJson? j := do
    let [firmware, dll, api] ← j.record? fieldNames | none
    return { firmware := ← ofJson? firmware, dll := ← ofJson? dll, api := ← ofJson? api }

end VersionInfo

namespace Setting

def fieldNames : List String := ["parameter", "value"]

instance : JsonForm Setting where
  toJson s := .record fieldNames [toJson s.parameter, toJson s.value]
  ofJson? j := do
    let [parameter, value] ← j.record? fieldNames | none
    return { parameter := ← ofJson? parameter, value := ← ofJson? value }

end Setting

namespace Descriptor

def fieldNames : List String :=
  ["local_tx_flags", "remote_tx_flags", "local_address", "remote_address"]

instance : JsonForm Descriptor where
  toJson d := .record fieldNames
    [toJson d.localTxFlags, toJson d.remoteTxFlags, toJson d.localAddress,
      toJson d.remoteAddress]
  ofJson? j := do
    let [localTxFlags, remoteTxFlags, localAddress, remoteAddress] ← j.record? fieldNames | none
    return {
      localTxFlags := ← ofJson? localTxFlags
      remoteTxFlags := ← ofJson? remoteTxFlags
      localAddress := ← ofJson? localAddress
      remoteAddress := ← ofJson? remoteAddress }

end Descriptor

namespace Settings

def fieldNames : List String :=
  ["library_path", "default_timeout_ms", "read_batch_size", "rx_buffer_size"]

/-- The object of settings; there is none if the path of the library is no text. -/
def toJson? (s : Settings) : Option Json := do
  let libraryPath ← s.libraryPath.mapM Path.text?
  return .record fieldNames
    [toJson libraryPath, toJson s.defaultTimeoutMs, toJson s.readBatchSize, toJson s.rxBufferSize]

/-- The settings of an object or an array, in which any of them may be missing. -/
def ofJson? (j : Json) : Option Settings := do
  let [libraryPath, defaultTimeoutMs, readBatchSize, rxBufferSize] ←
    j.partialRecord? fieldNames | none
  let default : Settings := {}
  let libraryPath : Option String ← ofJsonOr? none libraryPath
  return {
    libraryPath := libraryPath.map Path.ofText
    defaultTimeoutMs := ← ofJsonOr? default.defaultTimeoutMs defaultTimeoutMs
    readBatchSize := ← ofJsonOr? default.readBatchSize readBatchSize
    rxBufferSize := ← ofJsonOr? default.rxBufferSize rxBufferSize }

end Settings

end PassThru
