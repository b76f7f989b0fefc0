import PassThru.Model.Control
import PassThru.Native.Number

/-!
# The configuration list structure

`SCONFIG_LIST`: a counted list of parameters with their values.
-/

namespace PassThru

/-- A parameter with its value in native form. -/
structure NativeSetting (w : Width) where
  parameter : Word w
  value : Word w
  deriving DecidableEq

/-- A configuration list in native form; `list` is `none` for a null pointer. -/
structure NativeConfigList (w : Width) where
  count : Word w
  list : Option (List (NativeSetting w))
  deriving DecidableEq

namespace NativeSetting

variable {w : Width}

def encode (s : Setting) : NativeSetting w := ⟨.of32 s.parameter, .of32 s.value⟩

def decode (s : NativeSetting w) : Answer Setting := do
  let parameter ← s.parameter.read "parameter"
  let value ← s.value.read "value"
  return { parameter, value }

end NativeSetting

namespace NativeConfigList

variable {w : Width}

def encode (settings : List Setting) : Answer (NativeConfigList w) := do
  let count ← Word.count "num_of_params" settings.length
  return { count, list := pointerTo (settings.map NativeSetting.encode) }

def decode (list : NativeConfigList w) : Answer (List Setting) := do
  let count ← list.count.read "num_of_params"
  ((list.list.getD []).take count.toNat).mapM NativeSetting.decode

/-- The caller's structure after the library has written to it. -/
def received (own written : NativeConfigList w) : NativeConfigList w where
  count := written.count
  list := own.list.map fun list => overwrite list (written.list.getD [])

end NativeConfigList

end PassThru
