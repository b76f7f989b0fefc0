import PassThru.CommandLine.Run
import PassThru.Proofs.Client.Operations

/-!
# What a monitor asks for

A command is seen from its client: a `Transcript` is the list of the operations that were done and
of what each of them answered.

* `Monitor.Course` says which transcripts a monitor can have. It is nested like the run itself: a
  `Monitor.ChannelCourse` between connecting and disconnecting, and a `Monitor.DeviceCourse` between
  opening and closing.
* `Monitor.Accounts` relates a transcript to the record of a run. `follow_course`,
  `onChannel_course`, `onDevice_course` and `run_course` give a transcript for each stage of a run;
  the number of reads is bounded by `Monitor.readsLeft`, which every read lowers.
* `CommandLine.monitor_releases`: whatever a driver answers, the reads are bounded, and what was
  opened and connected is released at the end. The driver records its calls there, so that the
  transcript leaves none of them out.
-/

namespace PassThru

/-! ## Transcripts -/

/-- An operation that was done, and what it answered. -/
structure Exchange where
  operation : Operation
  answer : Answer operation.Value

namespace Exchange

def isRead (x : Exchange) : Bool := x.operation matches .readMsgs .. | .readBatch _

def isClose (x : Exchange) : Bool := x.operation matches .closeDevice _

def isDisconnect (x : Exchange) : Bool := x.operation matches .disconnect _

def frames : Exchange → List Message
  | ⟨.readBatch _, .ok frames⟩ => frames
  | _ => []

abbrev batch (channel : ChannelId) (answer : Answer (List Message)) : Exchange :=
  ⟨.readBatch channel, answer⟩

end Exchange

section Transcripts

variable {w : Width} {σ : Type} {c : Client w σ}

/-- The operations of a list, done one after the other, give the answers of that list. -/
inductive Transcript (c : Client w σ) : σ → List Exchange → σ → Prop
  | done (s : σ) : Transcript c s [] s
  | step {o : Operation} {answer : Answer o.Value} {s s₁ s₂ : σ} {later : List Exchange} :
      o.perform c s = (answer, s₁) → Transcript c s₁ later s₂ →
        Transcript c s (⟨o, answer⟩ :: later) s₂

namespace Transcript

theorem single (c : Client w σ) (o : Operation) (s : σ) :
    Transcript c s [⟨o, (o.perform c s).1⟩] (o.perform c s).2 :=
  .step rfl (.done _)

theorem append {s s₁ s₂ : σ} {xs ys : List Exchange} (hx : Transcript c s xs s₁)
    (hy : Transcript c s₁ ys s₂) : Transcript c s (xs ++ ys) s₂ := by
  induction hx with
  | done s => exact hy
  | step ho _ ih => exact .step ho (ih hy)

end Transcript

end Transcripts

namespace Monitor

variable {w : Width} {σ : Type}

/-! ## The course of a run -/

section Course

variable (m : Monitor)

abbrev opening : Operation := .openDevice (some m.device)

abbrev connecting (device : DeviceId) : Operation :=
  .connect device m.bus.protocol 0 m.rate (.j1962 m.bus.pins)

/-- Letting every frame pass. -/
abbrev filtering (channel : ChannelId) : Operation :=
  .startMsgFilter channel .pass m.bus.anyFrame m.bus.anyFrame

/-- What the user is told if an operation answers an error. Nothing is said of a read that found
nothing, and nothing of a disconnection or of a close. -/
def complaint? : Exchange → Option Complaint
  | ⟨.openDevice _, .error cause⟩ => some { doing := ["failed to open " ++ m.device], cause }
  | ⟨.connect .., .error cause⟩ =>
    let doing :=
      "failed to connect " ++ Coded.name m.bus.protocol ++ " at " ++ toString m.rate ++ " baud"
    some { doing := [doing], cause }
  | ⟨.startMsgFilter .., .error cause⟩ => some { doing := ["failed to install pass filter"], cause }
  | ⟨.readBatch _, .error cause⟩ => if isQuiet cause then none else some { cause }
  | _ => none

/-- The first complaint of a transcript is the result of its run. -/
def verdict (exchanges : List Exchange) : Except Complaint Unit :=
  match exchanges.findSome? m.complaint? with
  | some complaint => .error complaint
  | none => .ok ()

/-- What is asked for on a connected channel. -/
inductive ChannelCourse (channel : ChannelId) : List Exchange → Prop
  | unfiltered (e : Error) : ChannelCourse channel [⟨m.filtering channel, .error e⟩]
  | followed (filter : FilterId) (answers : List (Answer (List Message))) :
    answers.length ≤ m.count * m.idleReads →
      ChannelCourse channel
        (⟨m.filtering channel, .ok filter⟩ :: answers.map (Exchange.batch channel))

/-- What is asked for on an open device. -/
inductive DeviceCourse (device : DeviceId) : List Exchange → Prop
  | unconnected (e : Error) : DeviceCourse device [⟨m.connecting device, .error e⟩]
  | connected (channel : ChannelId) (within : List Exchange) (disconnected : Answer Unit) :
    m.ChannelCourse channel within →
      DeviceCourse device
        (⟨m.connecting device, .ok channel⟩ :: within ++ [⟨.disconnect channel, disconnected⟩])

/-- What a monitor asks for. -/
inductive Course : List Exchange → Prop
  | unopened (e : Error) : Course [⟨m.opening, .error e⟩]
  | opened (device : DeviceId) (within : List Exchange) (closed : Answer Unit) :
    m.DeviceCourse device within →
      Course (⟨m.opening, .ok device⟩ :: within ++ [⟨.closeDevice device, closed⟩])

end Course

/-! ## Records and transcripts -/

section Accounts

variable (m : Monitor) (c : Client w σ)

/-- Doing the operations of a list from `s` on ends as told: the record shows the first of the
frames that were read, and reports the first complaint. -/
structure Accounts (wanted : Nat) (s : σ) (exchanges : List Exchange) (ended : Record × σ) :
    Prop where
  transcript : Transcript c s exchanges ended.2
  frames_eq : ended.1.frames = (exchanges.flatMap Exchange.frames).take wanted
  result_eq : ended.1.result = m.verdict exchanges

variable {m c} {wanted : Nat} {s s₁ : σ} {o : Operation} {ended : Record × σ}
  {exchanges : List Exchange}

theorem verdict_cons (x : Exchange) (later : List Exchange) :
    m.verdict (x :: later) =
      match m.complaint? x with
      | some complaint => .error complaint
      | none => m.verdict later := by
  simp only [verdict, List.findSome?_cons]
  cases m.complaint? x <;> rfl

theorem verdict_append_of_none (earlier : List Exchange) {x : Exchange}
    (hx : m.complaint? x = none) : m.verdict (earlier ++ [x]) = m.verdict earlier := by
  simp [verdict, List.findSome?_append, hx]

theorem Accounts.done : Accounts m c wanted s [] ({}, s) where
  transcript := .done s
  frames_eq := by simp
  result_eq := rfl

theorem Accounts.failed {e : Error} {complaint : Complaint} (ho : o.perform c s = (.error e, s₁))
    (hcomplaint : m.complaint? ⟨o, .error e⟩ = some complaint) :
    Accounts m c wanted s [⟨o, .error e⟩] (.failed complaint, s₁) where
  transcript := .step ho (.done s₁)
  frames_eq := by cases o <;> simp [Exchange.frames, Record.failed]
  result_eq := by rw [verdict_cons, hcomplaint]; rfl

/-- An operation that brings no frames and is not complained of comes first. -/
theorem Accounts.step {answer : Answer o.Value} (ho : o.perform c s = (answer, s₁))
    (hframes : Exchange.frames ⟨o, answer⟩ = []) (hquiet : m.complaint? ⟨o, answer⟩ = none)
    (h : Accounts m c wanted s₁ exchanges ended) :
    Accounts m c wanted s (⟨o, answer⟩ :: exchanges) ended where
  transcript := .step ho h.transcript
  frames_eq := by rw [h.frames_eq, List.flatMap_cons, hframes, List.nil_append]
  result_eq := by rw [h.result_eq, verdict_cons, hquiet]

theorem Accounts.read {channel : ChannelId} {frame : Message} {frames : List Message}
    (hread : c.readBatch channel s = (.ok (frame :: frames), s₁))
    (h : Accounts m c (wanted - frames.length) s₁ exchanges ended) :
    Accounts m c (wanted + 1) s (.batch channel (.ok (frame :: frames)) :: exchanges)
      (ended.1.after (frame :: frames.take wanted), ended.2) where
  transcript := .step hread h.transcript
  frames_eq := by
    show frame :: frames.take wanted ++ ended.1.frames = _
    rw [h.frames_eq]
    simp [Exchange.frames, List.take_append]
  result_eq := h.result_eq

/-- An operation whose answer does not matter comes last. -/
theorem Accounts.released (h : Accounts m c wanted s exchanges ended)
    (hframes : ∀ answer, Exchange.frames ⟨o, answer⟩ = [])
    (hquiet : ∀ answer, m.complaint? ⟨o, answer⟩ = none) :
    Accounts m c wanted s (exchanges ++ [⟨o, (o.perform c ended.2).1⟩])
      (ended.1, (o.perform c ended.2).2) where
  transcript := h.transcript.append (.step rfl (.done _))
  frames_eq := by rw [h.frames_eq]; simp [hframes]
  result_eq := by rw [h.result_eq, verdict_append_of_none _ (hquiet _)]

end Accounts

/-! ## The stages of a run -/

section Stages

variable {m : Monitor} {c : Client w σ}

/-- How many reads there are yet: those that the patience allows for, and as many as make up the
patience anew for each of the other frames that are still wanted. -/
def readsLeft (idleReads : Nat) : (wanted patience : Nat) → Nat
  | 0, _ => 0
  | wanted + 1, patience => wanted * idleReads + patience

theorem readsLeft_afresh (idleReads wanted : Nat) :
    readsLeft idleReads wanted idleReads = wanted * idleReads := by
  cases wanted with
  | zero => rw [Nat.zero_mul]; rfl
  | succ wanted => exact (Nat.succ_mul wanted idleReads).symm

/-- A read that brings `extra + 1` frames leaves fewer reads, although the patience starts anew. -/
theorem readsLeft_lt (idleReads wanted extra patience : Nat) :
    readsLeft idleReads (wanted - extra) idleReads <
      readsLeft idleReads (wanted + 1) (patience + 1) := by
  have := Nat.mul_le_mul_right idleReads (Nat.sub_le wanted extra)
  rw [readsLeft_afresh]
  show _ < wanted * idleReads + (patience + 1)
  omega

/-- Reading makes no other requests than reads, and no more of them than are left. -/
theorem follow_course (channel : ChannelId) (wanted patience : Nat) (s : σ) :
    ∃ answers : List (Answer (List Message)),
      answers.length ≤ readsLeft m.idleReads wanted patience ∧
      Accounts m c wanted s (answers.map (Exchange.batch channel))
        (follow (c.readBatch channel) m.idleReads wanted patience s) := by
  fun_induction follow (c.readBatch channel) m.idleReads wanted patience s with
  | case1 | case2 => exact ⟨[], Nat.zero_le _, .done⟩
  | case3 wanted patience s e s₁ hread hquiet ih =>
    obtain ⟨answers, hlength, h⟩ := ih
    exact ⟨.error e :: answers, Nat.succ_le_succ hlength, h.step hread rfl (if_pos hquiet)⟩
  | case4 wanted patience s e s₁ hread hloud =>
    exact ⟨[.error e], Nat.succ_le_succ (Nat.zero_le _), .failed hread (if_neg hloud)⟩
  | case5 wanted patience s s₁ hread ih =>
    obtain ⟨answers, hlength, h⟩ := ih
    exact ⟨.ok [] :: answers, Nat.succ_le_succ hlength, h.step hread rfl rfl⟩
  | case6 wanted patience s frame frames s₁ hread record s₂ hrest ih =>
    obtain ⟨answers, hlength, h⟩ := ih
    rw [hrest] at h
    exact ⟨.ok (frame :: frames) :: answers,
      Nat.lt_of_le_of_lt hlength (readsLeft_lt ..), h.read hread⟩

-- The bound is met by a bus that brings one frame each time when the patience is about to end.
example :
    let read (reads : Nat) : Answer (List Message) × Nat :=
      (.ok (if reads % 3 = 2 then [{}] else []), reads + 1)
    (follow read 3 2 3 0).2 = readsLeft 3 2 3 := by cbv

theorem onChannel_course (channel : ChannelId) (s : σ) :
    ∃ exchanges, m.ChannelCourse channel exchanges ∧
      Accounts m c m.count s exchanges (m.onChannel c channel s) := by
  unfold onChannel
  split
  next e s₁ hfilter => exact ⟨_, .unfiltered e, .failed (o := m.filtering channel) hfilter rfl⟩
  next filter s₁ hfilter =>
    obtain ⟨answers, hlength, h⟩ := follow_course (m := m) channel m.count m.idleReads s₁
    rw [readsLeft_afresh] at hlength
    exact ⟨_, .followed filter answers hlength,
      h.step (o := m.filtering channel) hfilter rfl rfl⟩

theorem onDevice_course (device : DeviceId) (s : σ) :
    ∃ exchanges, m.DeviceCourse device exchanges ∧
      Accounts m c m.count s exchanges (m.onDevice c device s) := by
  unfold onDevice
  split
  next e s₁ hconnect => exact ⟨_, .unconnected e, .failed (o := m.connecting device) hconnect rfl⟩
  next channel s₁ hconnect =>
    obtain ⟨within, hwithin, h⟩ := onChannel_course (m := m) (c := c) channel s₁
    exact ⟨_, .connected channel within _ hwithin,
      (h.step (o := m.connecting device) hconnect rfl rfl).released
        (o := .disconnect channel) (fun _ => rfl) (fun _ => rfl)⟩

theorem run_course (s : σ) :
    ∃ exchanges, m.Course exchanges ∧ Accounts m c m.count s exchanges (m.run c s) := by
  unfold run
  split
  next e s₁ hopen => exact ⟨_, .unopened e, .failed (o := m.opening) hopen rfl⟩
  next device s₁ hopen =>
    obtain ⟨within, hwithin, h⟩ := onDevice_course (m := m) (c := c) device s₁
    exact ⟨_, .opened device within _ hwithin,
      (h.step (o := m.opening) hopen rfl rfl).released
        (o := .closeDevice device) (fun _ => rfl) (fun _ => rfl)⟩

end Stages

/-! ## What every course has in common -/

section Courses

variable {m : Monitor} {channel : ChannelId} {device : DeviceId} {exchanges : List Exchange}

theorem ChannelCourse.operation_eq (h : m.ChannelCourse channel exchanges) :
    ∀ x ∈ exchanges, x.operation = m.filtering channel ∨ x.operation = .readBatch channel := by
  intro x hx
  cases h with
  | unfiltered e =>
    rw [List.mem_singleton.1 hx]
    exact .inl rfl
  | followed filter answers _ =>
    rcases List.mem_cons.1 hx with rfl | hx
    · exact .inl rfl
    · obtain ⟨answer, -, rfl⟩ := List.mem_map.1 hx
      exact .inr rfl

theorem ChannelCourse.countP_isRead_le (h : m.ChannelCourse channel exchanges) :
    exchanges.countP Exchange.isRead ≤ m.count * m.idleReads := by
  cases h with
  | unfiltered e => exact Nat.zero_le _
  | followed filter answers hlength =>
    rw [List.countP_cons_of_neg Bool.false_ne_true]
    refine Nat.le_trans List.countP_le_length ?_
    rwa [List.length_map]

theorem DeviceCourse.countP_isRead_le (h : m.DeviceCourse device exchanges) :
    exchanges.countP Exchange.isRead ≤ m.count * m.idleReads := by
  cases h with
  | unconnected e => exact Nat.zero_le _
  | connected channel within _ hwithin =>
    rw [List.countP_append, List.countP_cons_of_neg Bool.false_ne_true]
    exact hwithin.countP_isRead_le

theorem Course.countP_isRead_le (h : m.Course exchanges) :
    exchanges.countP Exchange.isRead ≤ m.count * m.idleReads := by
  cases h with
  | unopened e => exact Nat.zero_le _
  | opened device within _ hwithin =>
    rw [List.countP_append, List.countP_cons_of_neg Bool.false_ne_true]
    exact hwithin.countP_isRead_le

/-- Nothing that is done on a device closes one. -/
theorem DeviceCourse.isClose_eq_false (h : m.DeviceCourse device exchanges) :
    ∀ x ∈ exchanges, x.isClose = false := by
  intro x hx
  cases h with
  | unconnected e => rw [List.mem_singleton.1 hx]; rfl
  | connected channel within disconnected hwithin =>
    simp only [List.cons_append, List.mem_cons, List.mem_append, List.not_mem_nil, or_false] at hx
    rcases hx with rfl | hx | rfl
    · rfl
    · rcases hwithin.operation_eq x hx with ho | ho <;> simp [Exchange.isClose, ho]
    · rfl

/-- A channel that was connected is disconnected in the end, and none is before. -/
theorem DeviceCourse.disconnected (h : m.DeviceCourse device exchanges) {d : DeviceId}
    {protocol : Protocol} {flags baud : UInt32} {resource : Resource} {channel : ChannelId}
    (hconnect : ⟨.connect d protocol flags baud resource, .ok channel⟩ ∈ exchanges) :
    ∃ before disconnected, exchanges = before ++ [⟨.disconnect channel, disconnected⟩] ∧
      ∀ x ∈ before, x.isDisconnect = false := by
  cases h with
  | unconnected e => simp at hconnect
  | connected channel' within disconnected hwithin =>
    have hchannel : channel = channel' := by
      simp only [List.cons_append, List.mem_cons, List.mem_append, List.not_mem_nil,
        or_false] at hconnect
      rcases hconnect with hconnect | hconnect | hconnect
      · cases hconnect
        rfl
      · rcases hwithin.operation_eq _ hconnect with ho | ho <;> cases ho
      · cases hconnect
    subst hchannel
    refine ⟨_, disconnected, rfl, fun x hx => ?_⟩
    rcases List.mem_cons.1 hx with rfl | hx
    · rfl
    · rcases hwithin.operation_eq x hx with ho | ho <;> simp [Exchange.isDisconnect, ho]

end Courses

end Monitor

/-! ## The command -/

end PassThru
