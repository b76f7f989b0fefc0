import PassThru.Proofs.Emulator.Run

/-!
# Frames that wait for a reader

What waits on a channel is its receive queue and, behind it, the frames on its bus that its filters
admit. When these are let in decides about their times, and about nothing else.

* `waiting_readyAmong`: a select lets frames in, on any channels, and leaves what waits.
* `readyAmong_answer`: of channels that are open it lists those where something waits.
-/

namespace PassThru.Emulator

variable {s s' : State}

/-- The frames that wait for the reader of a channel, without the times of their reception. -/
def Channel.waiting (ch : Channel) : List Message := (ch.rx ++ ch.admitted).map Message.untimed

/-- The frames that wait on a channel, if it is open. -/
def State.waiting (s : State) (c : UInt32) : Option (List Message) :=
  (s.channels.get? c).map Channel.waiting

/-- The channel is open and has a frame in its receive queue once the frames on its bus were looked
at. -/
def State.isReady (s : State) (c : UInt32) : Bool :=
  (s.channels.get? c).any fun ch => !(ch.pump s.clock).rx.isEmpty

theorem Channel.untimed_pending (ch : Channel) (clock : UInt32) :
    (ch.pending clock).map Message.untimed = ch.waiting := by
  unfold pending waiting
  rw [List.map_append, List.map_append, map_untimed_stampFrom]

theorem Channel.waiting_of_bus_nil {ch : Channel} (h : ch.bus = []) :
    ch.waiting = ch.rx.map Message.untimed := by
  unfold waiting admitted
  rw [h, List.filter_nil, List.append_nil]

theorem Channel.waiting_pump (ch : Channel) (clock : UInt32) :
    (ch.pump clock).waiting = ch.waiting := by
  rw [waiting_of_bus_nil rfl, pump_rx, untimed_pending]

theorem waiting_congr (h : s'.channels = s.channels) : s'.waiting = s.waiting := by
  unfold State.waiting
  rw [h]

theorem waiting_pump {id : UInt32} {ch : Channel} (h : s.pump id = .ok (ch, s')) :
    s'.waiting = s.waiting := by
  obtain ⟨before, hfound, hresult⟩ := State.pump_eq_ok_iff.1 h
  obtain ⟨-, rfl⟩ := Prod.mk.inj hresult
  exact funext (Table.map_get?_insert Channel.waiting hfound (before.waiting_pump s.clock))

/-- A select leaves what waits, also one that ends at a channel that is not open. -/
theorem waiting_readyAmong (ids : List UInt32) (s : State) :
    (State.readyAmong ids s).2.waiting = s.waiting :=
  readyAmong_induction (P := fun s' => s'.waiting = s.waiting)
    (fun hpump hs => (waiting_pump hpump).trans hs) ids s rfl

theorem State.isReady_eq (s : State) (c : UInt32) :
    s.isReady c = (s.waiting c).any fun frames => !frames.isEmpty := by
  unfold isReady waiting
  cases s.channels.get? c with
  | none => rfl
  | some ch =>
    show (!(ch.pending s.clock).isEmpty) = !ch.waiting.isEmpty
    rw [← ch.untimed_pending s.clock, List.isEmpty_map]

theorem contains_of_waiting (h : s'.waiting = s.waiting) (c : UInt32) :
    s'.channels.contains c = s.channels.contains c := by
  have hsome := congrArg Option.isSome (congrFun h c)
  unfold State.waiting at hsome
  rw [Option.isSome_map, Option.isSome_map] at hsome
  exact hsome

theorem isReady_congr (h : s'.waiting = s.waiting) : s'.isReady = s.isReady := by
  funext c
  rw [State.isReady_eq, State.isReady_eq, h]

/-- Of channels that are open, those are listed that are ready, in order and as often as they were
asked about. -/
theorem readyAmong_answer {ids : List UInt32} {s : State}
    (hopen : ∀ id ∈ ids, s.channels.contains id = true) :
    (State.readyAmong ids s).1 = .ok (ids.filter s.isReady) := by
  induction ids, s using State.readyAmong.induct with
  | case1 s => rfl
  | case2 id ids s code herror =>
    have hgone := (State.pump_eq_error_iff.1 herror).1
    rw [← Table.contains_eq_false_iff, hopen id List.mem_cons_self] at hgone
    cases hgone
  | case3 id ids s ch s₁ hok ready s₂ hrest ih =>
    have hwaiting := waiting_pump hok
    have hopen₁ : ∀ k ∈ ids, s₁.channels.contains k = true := by
      intro k hmem
      rw [contains_of_waiting hwaiting]
      exact hopen k (List.mem_cons_of_mem id hmem)
    have hrx : (!ch.rx.isEmpty) = s.isReady id := by
      obtain ⟨before, hfound, hresult⟩ := State.pump_eq_ok_iff.1 hok
      obtain ⟨rfl, -⟩ := Prod.mk.inj hresult
      unfold State.isReady
      rw [hfound]
      rfl
    rw [State.readyAmong, hok]
    show (State.readyAmong ids s₁).1.map _ = _
    rw [ih hopen₁, isReady_congr hwaiting, List.filter_cons, ← hrx]
    cases ch.rx.isEmpty <;> rfl

end PassThru.Emulator
