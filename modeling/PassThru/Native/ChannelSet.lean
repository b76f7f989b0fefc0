import PassThru.Model.ChannelSet
import PassThru.Native.Number

/-!
# The channel set structure

`SCHANNELSET`: a counted list of channels and a threshold. A select answers in place: it shortens
the list to the channels that are ready.
-/

namespace PassThru

/-- Channels as they are handed to the library; `list` is `none` for a null pointer. -/
structure NativeChannelSet (w : Width) where
  count : Word w
  threshold : Word w
  list : Option (List (Word w))
  deriving DecidableEq

namespace NativeChannelSet

variable {w : Width}

/-- The caller's structure after the library has written to it: the list stays the caller's, and
only as much of it as was handed over can have changed. -/
def received (own written : NativeChannelSet w) : NativeChannelSet w where
  count := written.count
  threshold := written.threshold
  list := own.list.map fun list => overwrite list (written.list.getD [])

end NativeChannelSet

namespace ChannelSet

variable {w : Width}

def encode (set : ChannelSet) : Answer (NativeChannelSet w) := do
  let count ← Word.count "channel_count" set.channels.length
  return {
    count
    threshold := .of32 set.threshold
    list := pointerTo (set.channels.map fun channel => .of32 channel.raw) }

def decode (set : NativeChannelSet w) : Answer ChannelSet := do
  let count ← set.count.read "channel_count"
  let channels ← ((set.list.getD []).take count.toNat).mapM (Word.read "channel_list")
  let threshold ← set.threshold.read "channel_threshold"
  return { threshold, channels := channels.map ChannelId.mk }

end ChannelSet

end PassThru
