import PassThru.Proofs.Client.Selecting
import PassThru.Proofs.Emulator.Timestamps

/-!
# Timestamps of the frames that a client reads

* `increasing_readMsgs`: the frames of one answer have increasing times.
* `timestamps_number_admissions`: the times number the admissions of all channels.
-/

namespace PassThru.Emulator

variable {w : Width}

/-- A read that does not let in more frames than the clock can number answers frames with increasing
times. -/
theorem increasing_readMsgs {s : State} {log delivered : List (UInt32 × Message)}
    (h : Account s log delivered) {settings : Settings} {channel : ChannelId} {max : Nat}
    {timeout : UInt32} {frames : List Message}
    (hread : ((⟨driver, settings⟩ : Client w State).readMsgs channel max timeout s).1 = .ok frames)
    (hle : log.length + (s.admittedAmong [channel.raw]).length ≤ lastUnwrapped) :
    Increasing frames := by
  obtain ⟨id⟩ := channel
  rcases Nat.eq_zero_or_pos max with rfl | hpos
  · obtain rfl := Except.ok.inj hread
    exact List.Pairwise.nil
  by_cases hmax : max ≤ maxNumber
  case neg =>
    rw [readMsgs_of_lt settings id timeout s (Nat.not_le.1 hmax)] at hread
    cases hread
  cases hfound : s.channels.get? id with
  | none =>
    rw [(readMsgs_closed settings timeout hfound hpos hmax).1] at hread
    cases hread
  | some ch =>
    rw [show s.admittedAmong [id] = ch.admitted.map (id, ·) from
      State.admittedAmong_singleton hfound, List.length_map] at hle
    have hpending := h.increasing_pending hfound hle
    rw [readMsgs_answer hfound settings hpos hmax] at hread
    split at hread
    · split at hread
      · cases hread
      · obtain rfl := Except.ok.inj hread
        exact increasing_map_inBuffer.2 (hpending.of_sublist (List.take_sublist _ _))
    · cases hread

/-- **The times number the admissions.** Take the log of all frames that are admitted in a run,
whatever their channels, each with a thousand times its number, modulo `2 ^ 32`, as its time. The
clock shows the time of the last. The next event, whatever it is, moves the clock on by what it
admits; it adds these frames with their times, and no others, at the ends of the receive queues, and
takes from their fronts what it hands over; a queue is otherwise left alone, but one may end with
its channel, be cleared, or begin empty. So a receive queue is a last part of the log of its channel.

As long as no more than 4294967 frames are admitted, times go up in every receive queue, in what one
call hands over and in what a client reads at once, and all frames that are handed over have
different times. The time of the next admission is 704. -/
theorem timestamps_number_admissions (n : Nat) (events : List (Event w)) :
    let s := (State.start n).run events
    let log := timedFrom 0 ((State.start n).admissionLog events)
    let deliveries := (State.start n).deliveryLog events
    (∀ i entry, log[i]? = some entry → entry.2.timestamp.toNat = 1000 * (i + 1) % UInt32.size) ∧
    s.clock.toNat = 1000 * log.length % UInt32.size ∧
    (∀ event : Event w, Logged s (s.after event) event log.length) ∧
    (∀ c, s.queue c <:+ framesOf c log) ∧
    (log.length ≤ 4294967 →
      (∀ c, Increasing (s.queue c)) ∧
      (∀ delivery ∈ deliveries, Increasing (delivery.map Prod.snd)) ∧
      (deliveries.flatten.map fun entry => entry.2.timestamp).Nodup) ∧
    (∀ (settings : Settings) (channel : ChannelId) (max : Nat) (timeout : UInt32)
        (frames : List Message),
      ((⟨driver, settings⟩ : Client w State).readMsgs channel max timeout s).1 = .ok frames →
      log.length + (s.admittedAmong [channel.raw]).length ≤ 4294967 → Increasing frames) ∧
    (∀ entry, log[4294967]? = some entry → entry.2.timestamp = 704) := by
  intro s log deliveries
  have haccount := (account_start n).run events
  rw [List.nil_append, List.nil_append] at haccount
  have hlength : log.length = ((State.start n).admissionLog events).length := length_timedFrom _ _
  have htime (k : Nat) : (timeOf k).toNat = 1000 * k % UInt32.size := UInt32.toNat_ofNat'
  refine ⟨fun i entry hentry => ?_, ?_, fun event => ?_, haccount.suffix, fun hle => ?_, ?_, ?_⟩
  · rw [timestamp_timedFrom hentry, Nat.zero_add, htime]
  · rw [haccount.clock_eq, hlength, htime]
  · rw [hlength]
    exact logged_after haccount.clock_eq event
  · rw [hlength] at hle
    exact ⟨fun c => haccount.increasing_queue hle, fun _ hmem => increasing_delivery hle hmem,
      haccount.nodup_delivered hle⟩
  · intro settings channel max timeout frames hread hle
    rw [hlength] at hle
    exact increasing_readMsgs haccount hread hle
  · intro entry hentry
    rw [timestamp_timedFrom hentry]
    rfl

/-- The two frames of `Event.twoFrames` have the first two times; one is handed over by a read into
one slot, and a client reads the other. -/
theorem timestamps_number_admissions_twoFrames :
    let slots : List (NativeMessage .w64) := [Message.emptySlot 16]
    let events := Event.twoFrames ++
      [.call (.readMsgs (.of32 1) (some slots) (some (.of32 1)) .zero)]
    let s := (State.start 1).run events
    let log := timedFrom 0 ((State.start 1).admissionLog events)
    let deliveries := (State.start 1).deliveryLog events
    (log.map fun entry => entry.2.timestamp) = [1000, 2000] ∧ s.clock.toNat = 2000 ∧
      (deliveries.flatten.map fun entry => entry.2.timestamp) = [1000] ∧
      (deliveries.flatten.map fun entry => entry.2.timestamp).Nodup ∧
      ∃ frames,
        ((⟨driver, {}⟩ : Client .w64 State).readMsgs ⟨1⟩ 2 0 s).1 = .ok frames ∧
          frames.map Message.timestamp = [2000] ∧ Increasing frames := by
  intro slots events s log deliveries
  obtain ⟨-, hclock, -, -, hdelivered, hread, -⟩ := timestamps_number_admissions 1 events
  refine ⟨by decide, hclock.trans (by decide), by decide, ?_, _, rfl, by decide, ?_⟩
  · exact (hdelivered (by decide)).2.2
  · exact hread {} ⟨1⟩ 2 0 _ rfl (by decide)

end PassThru.Emulator
