import PassThru.Model.Descriptor
import PassThru.Native.Number

/-!
# The channel descriptor structure

`ISO15765_CHANNEL_DESCRIPTOR`: flags and an address for each end of a logical channel.
-/

namespace PassThru

/-- A channel descriptor in native form. -/
structure NativeDescriptor (w : Width) where
  localTxFlags : Word w
  remoteTxFlags : Word w
  localAddress : Address
  remoteAddress : Address
  deriving DecidableEq

namespace Descriptor

variable {w : Width}

def encode (d : Descriptor) : NativeDescriptor w where
  localTxFlags := .of32 d.localTxFlags
  remoteTxFlags := .of32 d.remoteTxFlags
  localAddress := d.localAddress
  remoteAddress := d.remoteAddress

def decode (d : NativeDescriptor w) : Answer Descriptor := do
  let localTxFlags ← d.localTxFlags.read "local_tx_flags"
  let remoteTxFlags ← d.remoteTxFlags.read "remote_tx_flags"
  return {
    localTxFlags, remoteTxFlags
    localAddress := d.localAddress
    remoteAddress := d.remoteAddress }

end Descriptor

end PassThru
