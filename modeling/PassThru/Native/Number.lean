import PassThru.Error
import PassThru.Standard.Width

/-!
# Numbers in native structures

Reading a structure checks each of its numbers and names the first one that is too wide; a list is
handed over with its length in front, which has to fit 32 bits.
-/

namespace PassThru

/-- The largest number of a model. -/
def maxNumber : Nat := UInt32.size - 1

namespace Word

variable {w : Width}

/-- The model value of the native field `field`. -/
def read (field : String) (v : Word w) : Answer UInt32 :=
  match v.to32? with
  | some n => .ok n
  | none => .error (.valueTooLarge field maxNumber v.toNat)

/-- A length as the native count `field`. -/
def count (field : String) (n : Nat) : Answer (Word w) :=
  if n ≤ maxNumber then .ok (of32 (UInt32.ofNat n))
  else .error (.valueTooLarge field maxNumber n)

@[simp] theorem read_of32 (field : String) (n : UInt32) : read field (of32 n : Word w) = .ok n := by
  simp [read]

end Word

/-- What a pointer to the first of `items` is: null when there are none. -/
def pointerTo {α : Type} (items : List α) : Option (List α) :=
  if items.isEmpty then none else some items

@[simp] theorem pointerTo_getD {α : Type} (items : List α) : (pointerTo items).getD [] = items := by
  cases items <;> rfl

/-- Overwrite storage from its start, as far as it reaches. -/
def overwrite {α : Type} (storage items : List α) : List α :=
  items.take storage.length ++ storage.drop items.length

@[simp] theorem length_overwrite {α : Type} (storage items : List α) :
    (overwrite storage items).length = storage.length := by
  simp only [overwrite, List.length_append, List.length_take, List.length_drop]
  omega

theorem overwrite_of_length {α : Type} {storage items : List α}
    (h : items.length = storage.length) : overwrite storage items = items := by
  unfold overwrite
  rw [← h, List.take_length, h, List.drop_length, List.append_nil]

end PassThru
