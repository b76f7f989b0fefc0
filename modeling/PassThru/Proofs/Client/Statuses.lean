import PassThru.Proofs.Client.CallProtocol

/-!
# Statuses that a client reports

A library answers every call with a number. A client makes an error of it, and the caller gets the
number back from the error: no two numbers are confused, and none is lost.

* `Reply.Settles.error_vendor_iff`: which failures the answer to a call reports.
* `Operation.calls_or_settles`: an operation reports a failure of its one call, or none at all.
* `codes_identify_statuses`: the codes of failures, protocols and control requests all together.
-/

namespace PassThru

variable {w : Width} {α : Type}

/-- The answer to a call reports the failure that its status stands for, if the client does not look
at the memory. -/
theorem Reply.Settles.error_vendor_iff {call : Call w} {reply : Reply call}
    {value? : Content → Option α} {answer : Answer α} (h : reply.Settles value? answer)
    (code : ErrorCode) : answer = .error (.vendor code) ↔
      ErrorCode.ofStatus reply.status = some code ∧ ¬ reply.Delivers := by
  by_cases hdelivers : reply.Delivers
  · obtain ⟨a, -, hanswer⟩ := h.reads hdelivers
    refine iff_of_false (fun herror => ?_) fun h => h.2 hdelivers
    obtain ⟨_, _, _, _, -, -, -, hwide⟩ := Reading.answer_eq_error_iff.1 (hanswer.symm.trans herror)
    cases hwide
  · obtain ⟨e, hcode, -, rfl⟩ := h.fails hdelivers
    rw [hcode, Except.error.injEq, Error.vendor.injEq, Option.some.injEq]
    exact ⟨fun h => ⟨h, hdelivers⟩, fun h => h.1⟩

/-- An operation makes one call and reports its failure, or it makes none and reports none. -/
theorem Operation.calls_or_settles (w : Width) (settings : Settings) (o : Operation) :
    (∃ answer, (∀ code, answer ≠ .error (.vendor code)) ∧
      ∀ {σ : Type} (driver : Driver w σ) (s : σ), o.perform ⟨driver, settings⟩ s = (answer, s)) ∨
    ∃ call : Call w, call.entry = o.entry ∧ ∀ {σ : Type} (driver : Driver w σ) (s : σ),
      (o.perform ⟨driver, settings⟩ s).2 = (driver call s).2 ∧
      ∀ code, (o.perform ⟨driver, settings⟩ s).1 = .error (.vendor code) ↔
        ErrorCode.ofStatus (driver call s).1.status = some code ∧ ¬ (driver call s).1.Delivers := by
  simp only [Operation.perform_eq_ask, Client.ask]
  have hkeeps := o.keeps (w := w) settings
  generalize (o.request settings : Request w o.Value) = request at hkeeps ⊢
  cases hkeeps with
  | @refused e he =>
    have hrefusal := isRefusal_of_unencodable? he
    exact .inl ⟨.error e, fun code h => hrefusal.ne_vendor code (Except.error.inj h),
      fun _ _ => rfl⟩
  | @given a _ _ => exact .inl ⟨.ok a, ⟨nofun, fun _ _ => rfl⟩⟩
  | @called call finish _ _ hentry hsettles =>
    exact .inr ⟨call, hentry, fun driver s => ⟨rfl, (hsettles _).error_vendor_iff⟩⟩

theorem Error.is_vendor_iff {e code : ErrorCode} : (Error.vendor e).is code = true ↔ code = e := by
  unfold Error.is Error.code?
  rw [beq_iff_eq, Option.some.injEq]
  exact eq_comm

/-- **Codes identify statuses.** A status is success exactly if it is zero. Any other is an error
with that number: a row of the vendor table from 1 to 0x26, an unknown code outside, and the code
that the error answers to is the one of that status and of no other. So no two statuses have the
same code. What a client reports of a call is the code of its status. The number of a protocol or of
a control request is read as the one that has it, and any other number as none. -/
theorem codes_identify_statuses :
    (∀ status : Status, ErrorCode.ofStatus status = none ↔ status = 0) ∧
    (∀ (status : Status) (e : ErrorCode), ErrorCode.ofStatus status = some e →
      e.code = status ∧ e.asStatus = status ∧
      (e = .unknown status ↔ ¬ (1 ≤ status ∧ status ≤ 0x26)) ∧
      (1 ≤ status ∧ status ≤ 0x26 →
        e ∈ ErrorCode.all ∧ ErrorCode.all[status.toNat - 1]? = some e) ∧
      ErrorCode.check status = .error (.vendor e) ∧
      ∀ code, (Error.vendor e).is code = true ↔ ErrorCode.ofStatus status = some code) ∧
    (∀ status status' : Status, ErrorCode.ofStatus status = ErrorCode.ofStatus status' →
      status = status') ∧
    (∀ (w : Width) (settings : Settings) (o : Operation),
      (∃ answer, (∀ code, answer ≠ .error (.vendor code)) ∧
        ∀ {σ : Type} (driver : Driver w σ) (s : σ), o.perform ⟨driver, settings⟩ s = (answer, s)) ∨
      ∃ call : Call w, call.entry = o.entry ∧ ∀ {σ : Type} (driver : Driver w σ) (s : σ),
        let reply := (driver call s).1
        (o.perform ⟨driver, settings⟩ s).2 = (driver call s).2 ∧
        ∀ code, (o.perform ⟨driver, settings⟩ s).1 = .error (.vendor code) ↔
          ErrorCode.ofStatus reply.status = some code ∧
            ¬ (reply.status = ErrorCode.timeout.code ∧ 0 < call.reported reply.memory)) ∧
    (∀ (number : UInt32) (p : Protocol), Protocol.ofCode? number = some p ↔ p.code = number) ∧
    ∀ (number : UInt32) (r : Ioctl), Ioctl.ofCode? number = some r ↔ r.code = number := by
  refine ⟨fun _ => ErrorCode.ofStatus_eq_none_iff, fun status e h => ?_, fun status status' h => ?_,
    fun w settings o => ?_, fun _ _ => Protocol.ofCode?_eq_some_iff,
    fun _ _ => Ioctl.ofCode?_eq_some_iff⟩
  · have hcode := ErrorCode.code_of_ofStatus h
    refine ⟨hcode, hcode, ErrorCode.eq_unknown_iff h, fun ⟨hfirst, hlast⟩ => ?_,
      ErrorCode.check_of_ofStatus h, fun code => ?_⟩
    · obtain ⟨row, hmem, hrow, hsame⟩ := ErrorCode.ofStatus_of_inside hfirst hlast
      obtain rfl := Option.some.inj (hsame.symm.trans h)
      exact ⟨hmem, hrow⟩
    · rw [Error.is_vendor_iff, h, Option.some.injEq]
      exact eq_comm
  · cases hcode : ErrorCode.ofStatus status with
    | none =>
      rw [hcode] at h
      rw [ErrorCode.ofStatus_eq_none_iff.1 hcode, ErrorCode.ofStatus_eq_none_iff.1 h.symm]
    | some e =>
      rw [hcode] at h
      rw [← ErrorCode.code_of_ofStatus hcode, ErrorCode.code_of_ofStatus h.symm]
  · obtain hsettled | ⟨call, hentry, hcall⟩ := Operation.calls_or_settles w settings o
    · exact .inl hsettled
    · refine .inr ⟨call, hentry, fun driver s => ⟨(hcall driver s).1, fun code => ?_⟩⟩
      rw [(hcall driver s).2 code]
      refine and_congr_right fun hcode => not_congr ?_
      exact or_iff_right (ErrorCode.ne_noError_of_ofStatus hcode)

end PassThru
