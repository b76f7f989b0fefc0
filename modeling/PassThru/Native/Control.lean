import PassThru.Model.Control
import PassThru.Native.ByteArray
import PassThru.Native.ConfigList
import PassThru.Native.Message
import PassThru.Native.Resource

/-!
# Native arguments of control requests

The entry point for control requests takes two untyped pointers; `NativeControl` is what stands
behind such a pointer.
-/

namespace PassThru

/-- What an argument of a control request points at. -/
inductive NativeControl (w : Width) where
  | null
  | configList (list : NativeConfigList w)
  | bytes (array : NativeByteArray w)
  | message (message : NativeMessage w)
  | resource (resource : NativeResource w)
  | number (value : Word w)
  deriving DecidableEq

namespace NativeControl

variable {w : Width}

def isNull : NativeControl w → Bool
  | null => true
  | _ => false

/-- The caller's argument after the library has written to it. An argument that the library claims
to have turned into another kind stays as it was. -/
def received : NativeControl w → NativeControl w → NativeControl w
  | configList own, configList written => configList (own.received written)
  | bytes own, bytes written => bytes (own.received written)
  | message own, message written => message (own.received written)
  | number _, number written => number written
  | own, _ => own

/-- A configuration list after its first entries were filled in. -/
def withSettings (input : NativeControl w) (filled : List (NativeSetting w)) :
    NativeControl w :=
  match input with
  | .configList list =>
    .configList { list with list := list.list.map fun rest => filled ++ rest.drop filled.length }
  | other => other

/-- A number argument after the library has written it. -/
def withNumber (output : NativeControl w) (value : UInt32) : NativeControl w :=
  match output with
  | .number _ => .number (.of32 value)
  | other => other

end NativeControl

/-- Room for the key bytes that a five-baud initialization answers. -/
def keyBytesCapacity : Nat := 2

namespace ControlInput

variable {w : Width}

/-- The native form of an input. -/
def encode : ControlInput → Answer (NativeControl w)
  | none => .ok .null
  | settings list => (NativeConfigList.encode list).map .configList
  | bytes list => (NativeByteArray.encode list).map .bytes
  | message m => m.encode.map .message
  | resource r => r.encode.map .resource

end ControlInput

namespace ControlOutput

variable {w : Width}

/-- Room for the output of a request. A query of configuration parameters answers in its input, so
it gets none. -/
def room (request : Ioctl) (bufferSize : UInt32) : Answer (NativeControl w) :=
  match request.outputShape with
  | .bytes => (NativeByteArray.withCapacity keyBytesCapacity).map .bytes
  | .message => (Message.withCapacity 0 bufferSize).encode.map .message
  | .voltage => .ok (.number .zero)
  | .none | .configList | .resource => .ok .null

/-- The output of a request that succeeded. -/
def decode (request : Ioctl) (input output : NativeControl w) : Answer ControlOutput :=
  match output with
  | .bytes array => array.decode.map .bytes
  | .message native => (Message.decode native).map .message
  | .number value => (value.read "voltage").map .millivolts
  | _ =>
    match request, input with
    | .getConfig, .configList list => list.decode.map .settings
    | _, _ => .ok .none

end ControlOutput

end PassThru
