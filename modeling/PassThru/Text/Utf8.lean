/-!
# UTF-8

Text crosses the native boundary as bytes. `Utf8.encode` writes a text; `Utf8.decodeLossy` reads
any bytes at all: where no character can be read, the longest run of bytes that starts a character
(at least one byte) becomes one replacement character, and reading goes on after it.

A lead byte of `0xC2` to `0xF4` fixes how many continuation bytes follow it and narrows the range
of the first of them, so that overlong forms, surrogates and values above `0x10FFFF` are refused
at the earliest byte that shows them.
-/

namespace PassThru.Utf8

/-- The bytes of a text. -/
def encode (s : String) : List UInt8 := s.toList.flatMap String.utf8EncodeChar

/-- Stands for bytes that are no character. -/
def replacement : Char := '\uFFFD'

def isContinuation (b : UInt8) : Bool := 0x80 ≤ b && b ≤ 0xBF

/-- What a lead byte announces: the least and greatest first continuation byte, and how many
continuation bytes follow that one. -/
structure Lead where
  low : UInt8
  high : UInt8
  further : Nat
  deriving DecidableEq, Repr

/-- Whether a byte may follow the lead byte directly. -/
def Lead.allows (lead : Lead) (b : UInt8) : Bool := lead.low ≤ b && b ≤ lead.high

/-- What a byte above `0x7F` announces; `none` for a byte that starts no character. -/
def lead? (a : UInt8) : Option Lead :=
  if a < 0xC2 then none
  else if a ≤ 0xDF then some ⟨0x80, 0xBF, 0⟩
  else if a = 0xE0 then some ⟨0xA0, 0xBF, 1⟩
  else if a = 0xED then some ⟨0x80, 0x9F, 1⟩
  else if a ≤ 0xEF then some ⟨0x80, 0xBF, 1⟩
  else if a = 0xF0 then some ⟨0x90, 0xBF, 2⟩
  else if a ≤ 0xF3 then some ⟨0x80, 0xBF, 2⟩
  else if a = 0xF4 then some ⟨0x80, 0x8F, 2⟩
  else none

def char2 (a b : UInt8) : Char := Char.ofNat (a.toNat % 32 * 64 + b.toNat % 64)

def char3 (a b c : UInt8) : Char :=
  Char.ofNat (a.toNat % 16 * 4096 + b.toNat % 64 * 64 + c.toNat % 64)

def char4 (a b c d : UInt8) : Char :=
  Char.ofNat (a.toNat % 8 * 262144 + b.toNat % 64 * 4096 + c.toNat % 64 * 64 + d.toNat % 64)

/-- Reading at a byte: the character that starts there, or `none` where none does, and the number
of bytes after this one that belong to it. -/
def next (a : UInt8) (rest : List UInt8) : Option Char × Nat :=
  if a < 0x80 then (some (Char.ofNat a.toNat), 0)
  else
    match lead? a with
    | none => (none, 0)
    | some lead =>
      match rest with
      | [] => (none, 0)
      | b :: rest =>
        if !lead.allows b then (none, 0)
        else if lead.further = 0 then (some (char2 a b), 1)
        else
          match rest with
          | [] => (none, 1)
          | c :: rest =>
            if !isContinuation c then (none, 1)
            else if lead.further = 1 then (some (char3 a b c), 2)
            else
              match rest with
              | [] => (none, 2)
              | d :: _ => if isContinuation d then (some (char4 a b c d), 3) else (none, 2)

/-- Read bytes as characters, after `skip` bytes that belong to the character before. -/
def decodeFrom : Nat → List UInt8 → List Char
  | _, [] => []
  | skip + 1, _ :: rest => decodeFrom skip rest
  | 0, a :: rest => (next a rest).1.getD replacement :: decodeFrom (next a rest).2 rest

/-- Read any bytes as characters. -/
def decodeChars (bytes : List UInt8) : List Char := decodeFrom 0 bytes

/-- Read any bytes as text. -/
def decodeLossy (bytes : List UInt8) : String := String.ofList (decodeChars bytes)

end PassThru.Utf8
