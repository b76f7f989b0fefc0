import PassThru.Proofs.Client.LawfulCalls
import PassThru.Proofs.Client.Scanning
import PassThru.Proofs.Client.Widths
import PassThru.Proofs.Emulator.Names

/-!
# A client and the emulated library agree on the calling contract

The calls of a client are lawful, and a lawful call fails with few codes; so most codes are never
seen by the caller of an operation.

* `refused_or_reported`: an operation on the emulated library fails with one of its codes, or it was
  refused without a call; whatever the library writes can be read.
* `scanDevices_error`: the same of a scan for all devices, which makes several calls.
* `agreement`: what that says of the codes that a caller should never see.
-/

namespace PassThru

open Emulator (State Event driver)
open ErrorCode (lawful)

variable {w : Width}

/-! ## Operations on the emulated library -/

theorem Word.toNat_le_maxNumber (v : Word .w32) : v.toNat ≤ maxNumber :=
  Nat.le_pred_of_lt v.toNat_lt

/-- An operation on the emulated library fails because it is refused, or with one of its codes. -/
theorem refused_or_reported_32 (settings : Settings) (o : Operation) {s : State} (hs : s.Named)
    {e : Error} (h : (o.perform (emulatedClient .w32 settings) s).1 = .error e) :
    o.unencodable? settings = some e ∨ ∃ code ∈ o.codes, e = .vendor code := by
  have hkeeps := o.keeps (w := .w32) settings
  have hasks := o.asks (w := .w32) settings
  rw [Operation.perform_eq_ask] at h
  change (Request.perform driver (o.request settings) s).1 = .error e at h
  generalize (o.request settings : Request .w32 o.Value) = request at hkeeps hasks h
  cases hkeeps with
  | refused hrefusal =>
    cases h
    exact .inl hrefusal
  | given _ _ => cases h
  | @called call finish _ _ _ hsettles =>
    obtain ⟨hlawful, hcodes⟩ : Call.Within o.codes call := by
      cases hasks with
      | ask hcall => exact hcall
    have hanswer : finish (driver call s).1 = .error e := h
    have hsettled := hsettles (driver call s).1
    by_cases hdelivers : (driver call s).1.Delivers
    · obtain ⟨a, -, hok⟩ := hsettled.ok_of_narrow hdelivers fun n _ => n.2.toNat_le_maxNumber
      rw [hanswer] at hok
      cases hok
    · obtain ⟨code, hcode, -, herror⟩ := hsettled.fails hdelivers
      obtain rfl : e = .vendor code := Except.error.inj (hanswer.symm.trans herror)
      refine .inr ⟨code, ?_, rfl⟩
      -- the status is the code that the call failed with
      have hstatus : (driver call s).1.status = (Emulator.perform s call).status := rfl
      cases hfailure : (Emulator.perform s call).failure? with
      | none => exact absurd (.inl ((Emulator.status_eq_noError_iff s call).2 hfailure)) hdelivers
      | some failure =>
        have hverdict := Emulator.Outcome.verdict_eq_error_iff.2 hfailure
        have hmem := Emulator.failsIn_lawful hs hlawful failure hverdict
        have hall := Emulator.failsIn_perform s call failure hverdict
        rw [hstatus, Emulator.Outcome.status, hfailure] at hcode
        obtain rfl := Option.some.inj ((ErrorCode.ofStatus_asStatus failure hall).symm.trans hcode)
        exact hcodes hmem

/-- The same at either width, since a client sees the same at both. -/
theorem refused_or_reported (settings : Settings) (o : Operation) {s : State} (hs : s.Named)
    {e : Error} (h : (o.perform (emulatedClient w settings) s).1 = .error e) :
    o.unencodable? settings = some e ∨ ∃ code ∈ o.codes, e = .vendor code := by
  cases w with
  | w32 => exact refused_or_reported_32 settings o hs h
  | w64 =>
    rw [← o.perform_eq settings s] at h
    exact refused_or_reported_32 settings o hs h

theorem named_perform (settings : Settings) (o : Operation) {s : State} (hs : s.Named) :
    (o.perform (emulatedClient w settings) s).2.Named := by
  rw [Operation.perform_eq_ask]
  show (Request.perform driver (o.request settings) s).2.Named
  cases (o.request settings : Request w o.Value) with
  | settled answer => exact hs
  | ask call finish => exact (Emulator.steps_driver s call).invariant Emulator.Step.named hs

/-- A delivery of all devices fails with a code for an ordinary failure. -/
theorem drains_error (settings : Settings) {s s' : State} (hs : s.Named)
    {answer : Answer (List Device)} (h : (emulatedClient w settings).Drains s answer s') {e : Error}
    (he : answer = .error e) : ∃ code ∈ lawful, e = .vendor code := by
  induction h with
  | @failed s s' e' hask =>
    split at he
    · cases he
    · cases he
      have herror := congrArg Prod.fst hask
      exact (refused_or_reported settings .getNextDevice hs herror).resolve_left (by rintro ⟨⟩)
  | @delivered s s₁ s' device rest hask _ ih =>
    have hnamed := named_perform (w := w) settings .getNextDevice hs
    rw [show Operation.perform (emulatedClient w settings) .getNextDevice s = _ from hask] at hnamed
    refine ih hnamed ?_
    cases rest with
    | error e' => exact congrArg Except.error (Except.error.inj he)
    | ok devices => cases he

theorem scanDevices_error (settings : Settings) {s : State} (hs : s.Named) {e : Error}
    (h : ((emulatedClient w settings).scanDevices s).1 = .error e) :
    ∃ code ∈ lawful, e = .vendor code := by
  have hnamed := named_perform (w := w) settings .scanForDevices hs
  have hreported {e : Error} := refused_or_reported (w := w) (e := e) settings .scanForDevices hs
  have hask : Operation.perform (emulatedClient w settings) .scanForDevices s =
    (emulatedClient w settings).ask .scanForDevices s := rfl
  rw [hask] at hnamed hreported
  unfold Client.scanDevices at h
  generalize (emulatedClient w settings).ask .scanForDevices s = result at hnamed hreported h
  obtain ⟨answer, s'⟩ := result
  cases answer with
  | error e' =>
    cases h
    exact (hreported rfl).resolve_left (by rintro ⟨⟩)
  | ok count =>
    dsimp only at h
    split at h
    · cases h
    · obtain ⟨answer, after, hdrains⟩ := Emulator.exists_drains (w := w) settings s'
      rw [show (emulatedClient w settings).drain s' = _ from hdrains.drain_eq] at h
      exact drains_error settings hnamed hdrains h

/-! ## Codes that a caller does not see -/

/-- An operation that names no device to open, or no channel to select. -/
inductive Operation.Vacant : Operation → Prop
  | noName : Vacant (.openDevice none)
  | emptyName : Vacant (.openDevice (some ""))
  | noChannel (threshold : UInt32) (kind : SelectType) (timeout : UInt32) :
    Vacant (.select ⟨threshold, []⟩ kind timeout)

/-- A five-baud initialization. -/
inductive Operation.IsFiveBaudInit : Operation → Prop
  | typed (channel : ChannelId) (address : UInt8) : IsFiveBaudInit (.fiveBaudInit channel address)
  | untyped (target : UInt32) (input : ControlInput) :
    IsFiveBaudInit (.ioctl target .fiveBaudInit input)

theorem Operation.vacant_of_nullParameter {o : Operation} (h : .nullParameter ∈ o.codes) :
    o.Vacant := by
  have hlawful : ¬ ErrorCode.nullParameter ∈ lawful := by decide
  have hsmall : ¬ ErrorCode.nullParameter ∈ .bufferTooSmall :: lawful := by decide
  cases o with
  | openDevice name =>
    change _ ∈ if name.getD "" = "" then ErrorCode.nullParameter :: lawful else lawful at h
    split at h
    · next hname =>
      cases name with
      | none => exact .noName
      | some name =>
        obtain rfl : name = "" := hname
        exact .emptyName
    · exact absurd h hlawful
  | select set kind timeout =>
    change _ ∈ if set.channels = [] then ErrorCode.nullParameter :: lawful else lawful at h
    obtain ⟨threshold, channels⟩ := set
    split at h
    · next hchannels =>
      obtain rfl : channels = [] := hchannels
      exact .noChannel threshold kind timeout
    · exact absurd h hlawful
  | ioctl _ id _ | clear _ id =>
    change _ ∈ if id = .fastInit then ErrorCode.bufferTooSmall :: lawful else lawful at h
    split at h
    · exact absurd h hsmall
    · exact absurd h hlawful
  | readMsgs | readBatch | fastInit => exact absurd h hsmall
  | _ => exact absurd h hlawful

/-- No operation has the codes for a pointer too many, or for a fault of the library. -/
theorem Operation.codes_subset (o : Operation) :
    o.codes ⊆ .nullParameter :: .bufferTooSmall :: lawful := by
  have hlawful : lawful ⊆ .nullParameter :: .bufferTooSmall :: lawful := by decide
  have hsmall : .bufferTooSmall :: lawful ⊆ .nullParameter :: .bufferTooSmall :: lawful := by decide
  have hnull : .nullParameter :: lawful ⊆ .nullParameter :: .bufferTooSmall :: lawful := by decide
  cases o with
  | openDevice name =>
    show (if _ then ErrorCode.nullParameter :: lawful else lawful) ⊆ _
    split
    · exact hnull
    · exact hlawful
  | select set kind timeout =>
    show (if _ then ErrorCode.nullParameter :: lawful else lawful) ⊆ _
    split
    · exact hnull
    · exact hlawful
  | ioctl _ id _ | clear _ id =>
    show (if id = .fastInit then ErrorCode.bufferTooSmall :: lawful else lawful) ⊆ _
    split
    · exact hsmall
    · exact hlawful
  | readMsgs | readBatch | fastInit => exact hsmall
  | _ => exact hlawful

/-- A five-baud initialization always brings room for the key bytes. -/
theorem Operation.bufferTooSmall_not_mem_codes {o : Operation} (h : o.IsFiveBaudInit) :
    .bufferTooSmall ∉ o.codes := by
  cases h with
  | typed channel address =>
    show .bufferTooSmall ∉ lawful
    decide
  | untyped target input =>
    show .bufferTooSmall ∉ lawful
    decide

/-- **Agreement.** In every run of the emulated library that starts with any number of interfaces,
at either width and with any settings of its client, an operation of the client never fails with
the code for a pointer too many or for a fault of the library; it fails with the code for a null
pointer only if it names no device to open or no channel to select; a five-baud initialization never
lacks room for its answer; and an error that the library has not reported is a refusal of the
arguments before any call, after which the library is as it was. A scan for all devices, which makes
several calls, fails with a code that the library has reported. -/
theorem agreement (w : Width) (settings : Settings) (interfaces : UInt64)
    (events : List (Event w)) :
    let s := (State.start interfaces.toNat).run events
    let client : Client w State := ⟨driver, settings⟩
    (∀ (o : Operation) (e : Error), (o.perform client s).1 = .error e →
      e ≠ .vendor .nullRequired ∧ e ≠ .vendor .failed ∧
      (e = .vendor .nullParameter → o.Vacant) ∧
      (o.IsFiveBaudInit → e ≠ .vendor .bufferTooSmall) ∧
      ((∀ code, e ≠ .vendor code) → ∀ calls : List (Call w),
        o.perform ⟨driver.recording, settings⟩ (s, calls) = (.error e, s, calls))) ∧
    ∀ e : Error, (client.scanDevices s).1 = .error e →
      ∃ code, e = .vendor code ∧
        code ≠ .nullRequired ∧ code ≠ .failed ∧ code ≠ .nullParameter := by
  intro s client
  have hs : s.Named := Emulator.named_run interfaces.toNat_lt_size events
  refine ⟨fun o e h => ?_, fun e h => ?_⟩
  · rcases refused_or_reported settings o hs h with hrefusal | ⟨code, hcode, rfl⟩
    · -- a refusal is no code at all
      have hnocode := (Operation.isRefusal_of_unencodable? hrefusal).ne_vendor
      refine ⟨hnocode _, hnocode _, fun hnull => absurd hnull (hnocode _), fun _ => hnocode _,
        fun _ calls => ?_⟩
      rw [Operation.perform_eq_ask]
      show Request.perform _ (o.request settings) _ = _
      rw [(o.keeps settings).eq_refused hrefusal]
      rfl
    · have hmem := o.codes_subset hcode
      refine ⟨?_, ?_, ?_, ?_, fun hnone => absurd rfl (hnone code)⟩
      · rintro ⟨⟩
        exact absurd hmem (by decide)
      · rintro ⟨⟩
        exact absurd hmem (by decide)
      · rintro ⟨⟩
        exact Operation.vacant_of_nullParameter hcode
      · rintro hfive ⟨⟩
        exact Operation.bufferTooSmall_not_mem_codes hfive hcode
  · obtain ⟨code, hcode, rfl⟩ := scanDevices_error settings hs h
    refine ⟨code, rfl, ?_, ?_, ?_⟩
    all_goals
      rintro rfl
      exact absurd hcode (by decide)

end PassThru
