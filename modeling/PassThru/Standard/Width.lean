/-!
# Native integers

The vendor interface declares every integer as `unsigned long`, which is 32 or 64 bits wide
depending on the platform. `Word w` is such a number at width `w`; the models on this side of the
boundary always hold 32-bit numbers.

* `Word.of32` widens a model value; `Word.to32?` goes back and refuses what does not fit.
* `Word.narrow` saturates instead: no handle, code or count in use is as large as the number it
  saturates to, so an oversized number never names anything.
-/

namespace PassThru

/-- The width of the platform's `unsigned long`. -/
inductive Width where
  | w32
  | w64
  deriving DecidableEq, Repr

namespace Width

def bits : Width → Nat
  | w32 => 32
  | w64 => 64

def bytes (w : Width) : Nat := w.bits / 8

/-- Every number of this width is below it. -/
def limit : Width → Nat
  | w32 => UInt32.size
  | w64 => UInt64.size

theorem size_le_limit (w : Width) : UInt32.size ≤ w.limit := by
  cases w <;> decide

theorem limit_pos (w : Width) : 0 < w.limit := by
  cases w <;> decide

end Width

/-- A native `unsigned long` of width `w`. -/
structure Word (w : Width) where
  toNat : Nat
  toNat_lt : toNat < w.limit
  deriving DecidableEq

namespace Word

variable {w : Width}

theorem ext {a b : Word w} (h : a.toNat = b.toNat) : a = b := by
  cases a; cases b; cases h; rfl

/-- The number `n`, reduced to the width. -/
def ofNat (n : Nat) : Word w := ⟨n % w.limit, Nat.mod_lt _ w.limit_pos⟩

/-- Widen a model value. -/
def of32 (v : UInt32) : Word w :=
  ⟨v.toNat, Nat.lt_of_lt_of_le v.toNat_lt_size w.size_le_limit⟩

/-- The model value of a number that fits 32 bits. -/
def to32? (v : Word w) : Option UInt32 :=
  if v.toNat < UInt32.size then some (UInt32.ofNat v.toNat) else none

/-- The model value of a number that fits 32 bits, the largest one for any other. -/
def narrow (v : Word w) : UInt32 :=
  (to32? v).getD 0xFFFFFFFF

def zero : Word w := of32 0

instance : Inhabited (Word w) := ⟨zero⟩

/-- The number as little-endian bytes. -/
def littleEndian (v : Word w) : List UInt8 :=
  (List.range w.bytes).map fun i => UInt8.ofNat (v.toNat >>> (8 * i))

@[simp] theorem toNat_of32 (v : UInt32) : (of32 v : Word w).toNat = v.toNat := rfl

@[simp] theorem to32?_of32 (v : UInt32) : to32? (of32 v : Word w) = some v := by
  simp [to32?, v.toNat_lt_size]

@[simp] theorem narrow_of32 (v : UInt32) : narrow (of32 v : Word w) = v := by
  simp [narrow]

theorem to32?_eq_some_iff {v : Word w} {n : UInt32} : to32? v = some n ↔ v = of32 n := by
  constructor
  · intro h
    unfold to32? at h
    split at h
    · next hv =>
      cases h
      apply ext
      rw [toNat_of32, UInt32.toNat_ofNat_of_lt' hv]
    · cases h
  · rintro rfl
    exact to32?_of32 n

theorem to32?_eq_none_iff {v : Word w} : to32? v = none ↔ UInt32.size ≤ v.toNat := by
  unfold to32?
  split <;> simp <;> omega

end Word

end PassThru
