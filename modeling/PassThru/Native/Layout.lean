import PassThru.Standard.Width
import PassThru.Model.Descriptor
import PassThru.Text.Field

/-!
# Layout of native structures

Where a C compiler for a 64-bit host puts the fields of the native structures: each at the next
offset that its alignment divides, and the whole padded to the largest alignment.
-/

namespace PassThru

/-- The type of a field, as far as its layout goes. -/
inductive FieldType where
  | ulong
  | pointer
  | bytes (n : Nat)
  deriving DecidableEq, Repr

namespace FieldType

def size (w : Width) : FieldType → Nat
  | ulong => w.bytes
  | pointer => 8
  | bytes n => n

/-- The number that divides every offset of a field. -/
def align (w : Width) : FieldType → Nat
  | ulong => w.bytes
  | pointer => 8
  | bytes _ => 1

end FieldType

/-- Where the fields of a structure are, and what it takes as a whole. -/
structure Layout where
  size : Nat
  align : Nat
  offsets : List (String × Nat)
  deriving DecidableEq, Repr

namespace Layout

/-- The next multiple of `align` from `n` on. -/
def roundUp (align n : Nat) : Nat := (n + align - 1) / align * align

/-- Put one field after the fields placed so far; `size` is not padded yet. -/
def place (w : Width) (layout : Layout) (field : String × FieldType) : Layout where
  size := roundUp (field.2.align w) layout.size + field.2.size w
  align := max layout.align (field.2.align w)
  offsets := layout.offsets ++ [(field.1, roundUp (field.2.align w) layout.size)]

/-- The layout of a structure with the given fields. -/
def ofFields (w : Width) (fields : List (String × FieldType)) : Layout :=
  let placed := fields.foldl (place w) ⟨0, 1, []⟩
  { placed with size := roundUp placed.align placed.size }

/-- The native structures by their vendor names, with their fields. -/
def structures : List (String × List (String × FieldType)) :=
  [("SDEVICE",
      [("device_name", .bytes Field.size), ("device_available", .ulong),
        ("device_dll_fw_status", .ulong), ("device_connect_media", .ulong),
        ("device_connect_speed", .ulong), ("device_signal_quality", .ulong),
        ("device_signal_strength", .ulong)]),
    ("RESOURCE_STRUCT",
      [("connector", .ulong), ("num_of_resources", .ulong), ("resource_list_ptr", .pointer)]),
    ("SCHANNELSET",
      [("channel_count", .ulong), ("channel_threshold", .ulong), ("channel_list", .pointer)]),
    ("PASSTHRU_MSG",
      [("protocol_id", .ulong), ("msg_handle", .ulong), ("rx_status", .ulong),
        ("tx_flags", .ulong), ("timestamp", .ulong), ("data_length", .ulong),
        ("extra_data_index", .ulong), ("data_buffer", .pointer),
        ("data_buffer_size", .ulong)]),
    ("SCONFIG", [("parameter", .ulong), ("value", .ulong)]),
    ("SCONFIG_LIST", [("num_of_params", .ulong), ("config_ptr", .pointer)]),
    ("SBYTE_ARRAY", [("num_of_bytes", .ulong), ("byte_ptr", .pointer)]),
    ("ISO15765_CHANNEL_DESCRIPTOR",
      [("local_tx_flags", .ulong), ("remote_tx_flags", .ulong),
        ("local_address", .bytes Address.size), ("remote_address", .bytes Address.size)])]

def ofStructure? (w : Width) (name : String) : Option Layout :=
  (structures.lookup name).map (ofFields w)

end Layout

end PassThru
