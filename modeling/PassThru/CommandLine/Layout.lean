import PassThru.Model.Device
import PassThru.Model.Message
import PassThru.Standard.ErrorCode
import PassThru.Text.Hex

/-!
# Lines of text

What the commands show to a reader: devices and error codes as tables whose columns are filled up
with blanks, versions with a caption, and a frame as its time, its direction and its bytes.
-/

namespace PassThru.CommandLine

/-- The blanks that fill a text up to a width; a longer text needs none. -/
def filler (width : Nat) (text : String) : String :=
  String.ofList (List.replicate (width - text.length) ' ')

def atLeft (width : Nat) (text : String) : String := text ++ filler width text

def atRight (width : Nat) (text : String) : String := filler width text ++ text

/-! ## Devices -/

def deviceRow (name state speed signal : String) : String :=
  " ".intercalate [atLeft 32 name, atLeft 10 state, atRight 10 speed, atRight 8 signal]

/-- The availability of a device in words. -/
def availabilityText (d : Device) : String :=
  if d.isInUse then "in use" else if d.isAvailable then "available" else "unknown"

def deviceLines (devices : List Device) : List String :=
  if devices.isEmpty then ["No PassThru devices found"]
  else
    deviceRow "NAME" "STATE" "SPEED" "SIGNAL" :: devices.map fun d =>
      deviceRow d.name (availabilityText d) (toString d.speed) (toString d.signalStrength)

def versionLines (v : VersionInfo) : List String :=
  ["Firmware: " ++ v.firmware, "DLL:      " ++ v.dll, "API:      " ++ v.api]

/-! ## Frames -/

/-- A frame. -/
def frameLine (m : Message) : String :=
  let direction := if m.isEcho then "TX" else "RX"
  let bytes := m.data.map fun b => String.ofList (Hex.upper b)
  " ".intercalate [atRight 10 (toString m.timestamp), direction, " ".intercalate bytes]

/-! ## Error codes -/

def codeLine (code : ErrorCode) : String :=
  let number := "0x" ++ String.ofList (Hex.upper (UInt8.ofNat code.code.toNat))
  " ".intercalate [number, atLeft 32 code.name, code.description]

end PassThru.CommandLine
