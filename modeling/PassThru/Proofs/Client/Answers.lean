import PassThru.Proofs.Client.Outputs
import PassThru.Proofs.Emulator.Failures

/-!
# Answers of the emulated library

What a client makes of a call that the emulated library does, and of one that it refuses: for the
calls whose memory is looked at after success only, and for control requests among them.
-/

namespace PassThru.Emulator

variable {w : Width} {α : Type} {s s' : State}

theorem readList_pointerTo {items : List α} (h : Counts items.length) :
    readList (.of32 (UInt32.ofNat items.length) : Word w) (pointerTo items) = .ok items := by
  unfold readList pointerTo
  rw [Word.narrow_of32, toNat_count h]
  cases items with
  | nil => rfl
  | cons item items =>
    have hne : UInt32.ofNat (item :: items).length ≠ 0 := by
      intro hzero
      have hlength := toNat_count h
      rw [hzero] at hlength
      cases hlength
    rw [if_neg hne]
    exact congrArg Except.ok (List.take_of_length_le (Nat.le_refl _))

/-- A call that succeeds is answered by what its memory reads as. -/
theorem perform_of_succeeded {call : Call w} {read : call.Memory → Answer α}
    (h : (perform s call).failure? = none) :
    (Request.afterSuccess call read).perform driver s =
      (read (perform s call).memory, (perform s call).state) := by
  have hstatus : (perform s call).status = Status.noError := (status_eq_noError_iff s call).2 h
  unfold Request.afterSuccess Request.perform driver
  dsimp only
  rw [hstatus, h]
  rfl

theorem perform_of_answer {call : Call w} {read : call.Memory → Answer α} {memory : call.Memory}
    (h : perform s call = ⟨none, memory, s'⟩) :
    (Request.afterSuccess call read).perform driver s = (read memory, s') := by
  rw [perform_of_succeeded (by rw [h]), h]

@[simp] theorem readOutput_of32 (field : String) (number : UInt32) :
    readOutput field (some (.of32 number : Word w)) = .ok number := by
  unfold readOutput
  rw [Option.getD_some, Word.read_of32]

theorem perform_of_failed {call : Call w} {read : call.Memory → Answer α} {code : ErrorCode}
    (h : (perform s call).failure? = some code)
    (hcode : ErrorCode.ofStatus code.asStatus = some code) :
    (Request.afterSuccess call read).perform driver s =
      (.error (.vendor code), remember call.entry (some code) (perform s call).state) := by
  have hstatus : (perform s call).status = code.asStatus := by
    unfold Outcome.status
    rw [h]
  unfold Request.afterSuccess Request.perform driver
  dsimp only
  rw [hstatus, h, ErrorCode.check_of_ofStatus hcode]
  rfl

theorem perform_andThen {β : Type} (f : α → Answer β) (request : Request w α) (s : State) :
    (request.andThen f).perform driver s =
      ((request.perform driver s).1 >>= f, (request.perform driver s).2) := by
  cases request <;> rfl

end PassThru.Emulator
