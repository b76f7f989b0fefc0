import PassThru.Model.Message
import PassThru.Standard.FilterType

/-!
# Message filters

A filter compares the first bytes of a message with a pattern, as far as its mask has bits. A
message passes a set of filters if some pass filter matches it and no block filter does; without a
pass filter nothing gets in.
-/

namespace PassThru.Emulator

/-- A filter of a channel. -/
structure Filter where
  kind : FilterType
  mask : List UInt8
  pattern : List UInt8
  deriving DecidableEq, Repr

namespace Filter

def maxLength : Nat := 12

/-- Whether data are as long as the mask and agree with the pattern wherever the mask has bits. -/
def covers (filter : Filter) (data : List UInt8) : Bool :=
  decide (filter.mask.length ≤ data.length) &&
    ((filter.mask.zip filter.pattern).zip data).all fun ((mask, pattern), byte) =>
      byte &&& mask == pattern &&& mask

/-- Whether a list of filters lets data in. -/
def admits (filters : List Filter) (data : List UInt8) : Bool :=
  (filters.any fun filter => filter.kind == .pass && filter.covers data) &&
    !(filters.any fun filter => filter.kind == .block && filter.covers data)

end Filter

end PassThru.Emulator
