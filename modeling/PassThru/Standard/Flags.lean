/-!
# Flag words

A flag word is a 32-bit number in which the standard defines some bits. `connectFlags`, `txFlags`
and `rxStatus` list the defined bits of the three flag words in use.
-/

namespace PassThru

/-- One defined bit of a flag word. -/
structure Flag where
  name : String
  bit : UInt32
  deriving DecidableEq, Repr

/-- The defined bits of one kind of flag word, in the order of the standard. -/
abbrev FlagSet : Type := List Flag

namespace FlagSet

/-- All defined bits together. -/
def mask (flags : FlagSet) : UInt32 := flags.foldl (fun bits flag => bits ||| flag.bit) 0

/-- The defined bits of a word. -/
def truncate (flags : FlagSet) (bits : UInt32) : UInt32 := bits &&& flags.mask

/-- Whether a word sets no undefined bit. -/
def defines (flags : FlagSet) (bits : UInt32) : Bool := flags.truncate bits == bits

/-- Whether a word sets every defined bit. -/
def isAll (flags : FlagSet) (bits : UInt32) : Bool := flags.truncate bits == flags.mask

/-- Whether a word sets a given bit. -/
def sets (bits bit : UInt32) : Bool := bits &&& bit == bit

/-- The names of the defined bits that a word sets. -/
def namesIn (flags : FlagSet) (bits : UInt32) : List String :=
  (flags.filter fun flag => sets bits flag.bit).map (·.name)

end FlagSet

/-- Flags of a request to connect a channel. -/
def connectFlags : FlagSet :=
  [⟨"FULL_DUPLEX", 0x0001⟩, ⟨"CAN_29BIT_ID", 0x0100⟩, ⟨"CHECKSUM_DISABLED", 0x0200⟩,
    ⟨"CAN_ID_BOTH", 0x0800⟩, ⟨"K_LINE_ONLY", 0x1000⟩]

/-- Flags of an outgoing message. -/
def txFlags : FlagSet :=
  [⟨"ISO15765_FRAME_PAD", 0x00000040⟩, ⟨"ISO15765_ADDR_TYPE", 0x00000080⟩,
    ⟨"CAN_29BIT_ID", 0x00000100⟩, ⟨"WAIT_P3_MIN_ONLY", 0x00000200⟩,
    ⟨"SW_CAN_HV_TX", 0x00000400⟩, ⟨"SCI_MODE", 0x00400000⟩, ⟨"SCI_TX_VOLTAGE", 0x00800000⟩]

/-- The bit that marks a received message as the echo of a transmitted one. -/
def txMsgType : UInt32 := 0x00000001

/-- Flags of a received message. -/
def rxStatus : FlagSet :=
  [⟨"TX_MSG_TYPE", txMsgType⟩, ⟨"START_OF_MESSAGE", 0x00000002⟩, ⟨"RX_BREAK", 0x00000004⟩,
    ⟨"TX_INDICATION", 0x00000008⟩, ⟨"ISO15765_PADDING_ERROR", 0x00000010⟩,
    ⟨"ISO15765_ADDR_TYPE", 0x00000080⟩, ⟨"CAN_29BIT_ID", 0x00000100⟩]

end PassThru
