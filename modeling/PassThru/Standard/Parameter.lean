/-!
# Configuration parameters

The parameters that `GET_CONFIG` and `SET_CONFIG` address. The numbers of SAE J2534-1 have gaps;
`Parameter.isDefined` holds of exactly the numbers that name a parameter.
-/

namespace PassThru.Parameter

def dataRate : UInt32 := 0x01
def loopback : UInt32 := 0x03

/-- Every parameter with its number, in the order of the standard. -/
def table : List (String × UInt32) :=
  [("DATA_RATE", dataRate), ("LOOPBACK", loopback), ("NODE_ADDRESS", 0x04),
    ("NETWORK_LINE", 0x05), ("P1_MIN", 0x06), ("P1_MAX", 0x07), ("P2_MIN", 0x08),
    ("P2_MAX", 0x09), ("P3_MIN", 0x0A), ("P3_MAX", 0x0B), ("P4_MIN", 0x0C), ("P4_MAX", 0x0D),
    ("W1_MAX", 0x0E), ("W2_MAX", 0x0F), ("W3_MAX", 0x10), ("W4_MIN", 0x11), ("W5_MIN", 0x12),
    ("TIDLE", 0x13), ("TINIL", 0x14), ("TWUP", 0x15), ("PARITY", 0x16), ("W0_MIN", 0x19),
    ("T1_MAX", 0x1A), ("T2_MIN", 0x1B), ("T4_MAX", 0x1C), ("T5_MIN", 0x1D),
    ("ISO15765_BS", 0x1E), ("ISO15765_STMIN", 0x1F), ("DATA_BITS", 0x20),
    ("FIVE_BAUD_MOD", 0x21), ("BS_TX", 0x22), ("STMIN_TX", 0x23), ("T3_MAX", 0x24),
    ("ISO15765_WAIT_LIMIT", 0x25), ("W1_MIN", 0x26), ("W2_MIN", 0x27), ("W3_MIN", 0x28),
    ("W4_MAX", 0x29), ("N_BR_MIN", 0x2A), ("ISO15765_PAD_VALUE", 0x2B), ("N_AS_MAX", 0x2C),
    ("N_AR_MAX", 0x2D), ("N_BS_MAX", 0x2E), ("N_CR_MAX", 0x2F), ("N_CS_MIN", 0x30),
    ("ECHO_PHYSICAL_CHANNEL_TX", 0x31)]

def isDefined (parameter : UInt32) : Bool := table.any fun entry => entry.2 == parameter

end PassThru.Parameter
