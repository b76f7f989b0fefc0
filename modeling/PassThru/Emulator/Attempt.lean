import PassThru.Standard.ErrorCode

/-!
# Attempts

An operation of the emulated library checks its arguments one after the other and stops at the
first fault. `Attempt α` is the result: a code, or a value. `bind_eq_ok_iff` and
`require_eq_ok_iff` take a successful attempt apart into the checks it passed.
-/

namespace PassThru

/-- The result of an operation that may report a code. -/
abbrev Attempt (α : Type) : Type := Except ErrorCode α

namespace Attempt

variable {α β : Type}

/-- Go on if the condition holds. -/
def require (condition : Bool) (code : ErrorCode) : Attempt Unit :=
  if condition then .ok () else .error code

/-- What a pointer refers to; a null pointer is refused. -/
def present : Option α → Attempt α
  | some a => .ok a
  | none => .error .nullParameter

theorem pure_eq_ok_iff {a b : α} : (pure a : Attempt α) = .ok b ↔ a = b := by
  simp [pure, Except.pure]

theorem bind_eq_ok_iff {x : Attempt α} {f : α → Attempt β} {b : β} :
    (x >>= f) = .ok b ↔ ∃ a, x = .ok a ∧ f a = .ok b := by
  cases x <;> simp [bind, Except.bind]

theorem bind_eq_error_iff {x : Attempt α} {f : α → Attempt β} {e : ErrorCode} :
    (x >>= f) = .error e ↔ x = .error e ∨ ∃ a, x = .ok a ∧ f a = .error e := by
  cases x <;> simp [bind, Except.bind]

theorem require_eq_ok_iff {condition : Bool} {code : ErrorCode} {u : Unit} :
    require condition code = .ok u ↔ condition = true := by
  cases condition <;> simp [require]

theorem require_eq_error_iff {condition : Bool} {code e : ErrorCode} :
    require condition code = .error e ↔ condition = false ∧ code = e := by
  cases condition <;> simp [require]

theorem present_eq_ok_iff {o : Option α} {a : α} : present o = .ok a ↔ o = some a := by
  cases o <;> simp [present]

end Attempt

end PassThru
