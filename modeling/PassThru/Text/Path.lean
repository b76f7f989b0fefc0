import PassThru.Text.Utf8

/-!
# Paths

A file system names its files by bytes. As a rule these are the bytes of a text, but they need not be.
-/

namespace PassThru

/-- The path of a file. -/
structure Path where
  bytes : List UInt8
  deriving DecidableEq, Repr

namespace Path

def ofText (text : String) : Path := ⟨Utf8.encode text⟩

/-- A path as it is shown to a user. -/
def display (path : Path) : String := Utf8.decodeLossy path.bytes

/-- The text whose bytes a path has, if there is one. -/
def text? (path : Path) : Option String :=
  if Utf8.encode path.display = path.bytes then some path.display else none

end Path

end PassThru
