import PassThru.Proofs.Emulator.Contents
import PassThru.Proofs.Emulator.Issued

/-!
# What the filters of a channel let in

A filter matches data that are as long as its mask and agree with its pattern in the bits of the
mask. Masks and patterns of the filters that are installed are equally long, so that no byte of
either is left out.

* `Filter.Matches`: the rule for one filter, byte by byte, and `covers_iff`: the filters follow it.
* `Channel.Installed`: the filters of a channel, without their handles and their order.
* `admits_iff`: what a channel lets in depends on these alone.
* `driver_startMsgFilter` and `driver_stopMsgFilter`: the calls that add a filter and take one away.
* `filters_decide` puts these together.
-/

namespace PassThru.Emulator

variable {w : Width} {s : State}

/-! ## One filter -/

namespace Filter

variable {filter : Filter} {data data' : List UInt8}

/-- The data are as long as the mask, and agree with the pattern at every byte of the mask. -/
def Matches (filter : Filter) (data : List UInt8) : Prop :=
  filter.mask.length ≤ data.length ∧
    ∀ i < filter.mask.length, ∃ mask pattern byte, filter.mask[i]? = some mask ∧
      filter.pattern[i]? = some pattern ∧ data[i]? = some byte ∧ byte &&& mask = pattern &&& mask

theorem covers_iff (hlength : filter.mask.length = filter.pattern.length) :
    filter.covers data = true ↔ filter.Matches data := by
  unfold covers Matches
  rw [Bool.and_eq_true, decide_eq_true_eq, List.all_eq_true]
  refine and_congr_right fun hle => ?_
  constructor
  · intro hall i hi
    have hpattern : i < filter.pattern.length := hlength ▸ hi
    have hdata : i < data.length := Nat.lt_of_lt_of_le hi hle
    refine ⟨_, _, _, List.getElem?_eq_getElem hi, List.getElem?_eq_getElem hpattern,
      List.getElem?_eq_getElem hdata, ?_⟩
    have hmem : ((filter.mask[i], filter.pattern[i]), data[i]) ∈
        (filter.mask.zip filter.pattern).zip data := by
      refine List.mem_iff_getElem?.2 ⟨i, List.getElem?_zip_eq_some.2 ⟨?_, ?_⟩⟩
      · exact List.getElem?_zip_eq_some.2
          ⟨List.getElem?_eq_getElem hi, List.getElem?_eq_getElem hpattern⟩
      · exact List.getElem?_eq_getElem hdata
    exact beq_iff_eq.1 (hall _ hmem)
  · rintro hbytes ⟨⟨mask, pattern⟩, byte⟩ hmem
    obtain ⟨i, hi⟩ := List.mem_iff_getElem?.1 hmem
    obtain ⟨hpair, hbyte⟩ := List.getElem?_zip_eq_some.1 hi
    obtain ⟨hmask, hpattern⟩ := List.getElem?_zip_eq_some.1 hpair
    obtain ⟨m, p, b, hm, hp, hb, heq⟩ := hbytes i (List.getElem?_eq_some_iff.1 hmask).1
    obtain rfl : m = mask := Option.some.inj (hm.symm.trans hmask)
    obtain rfl : p = pattern := Option.some.inj (hp.symm.trans hpattern)
    obtain rfl : b = byte := Option.some.inj (hb.symm.trans hbyte)
    exact beq_iff_eq.2 heq

/-- No byte after the first twelve counts. -/
theorem Matches.of_take (h : filter.Matches data) (hmask : filter.mask.length ≤ 12)
    (hdata' : 12 ≤ data'.length) (htake : data.take 12 = data'.take 12) : filter.Matches data' := by
  obtain ⟨-, hbytes⟩ := h
  refine ⟨Nat.le_trans hmask hdata', fun i hi => ?_⟩
  have hlt : i < 12 := Nat.lt_of_lt_of_le hi hmask
  have hsame : data'[i]? = data[i]? := by
    rw [← List.getElem?_take_of_lt hlt, ← htake, List.getElem?_take_of_lt hlt]
  rw [hsame]
  exact hbytes i hi

end Filter

/-! ## The filters of a channel -/

namespace Channel

variable {ch ch' : Channel}

/-- The channel has the filter, under whatever handle. -/
def Installed (ch : Channel) (filter : Filter) : Prop :=
  ∃ handle, ch.filters.get? handle = some filter

/-- Some filter of a kind that the channel has matches the data. -/
def Matched (ch : Channel) (kind : FilterType) (data : List UInt8) : Prop :=
  ∃ filter, ch.Installed filter ∧ filter.kind = kind ∧ filter.Matches data

theorem any_covers_iff (h : FiltersSound ch.filters) (kind : FilterType) (data : List UInt8) :
    (ch.filters.values.any fun filter => filter.kind == kind && filter.covers data) = true ↔
      ch.Matched kind data := by
  rw [Table.any_values_iff]
  constructor
  · rintro ⟨handle, filter, hget, htest⟩
    obtain ⟨hkind, hcovers⟩ := Bool.and_eq_true_iff.1 htest
    exact ⟨filter, ⟨handle, hget⟩, beq_iff_eq.1 hkind,
      (Filter.covers_iff (h.shape hget).1).1 hcovers⟩
  · rintro ⟨filter, ⟨handle, hget⟩, hkind, hmatches⟩
    refine ⟨handle, filter, hget, Bool.and_eq_true_iff.2 ⟨beq_iff_eq.2 hkind, ?_⟩⟩
    exact (Filter.covers_iff (h.shape hget).1).2 hmatches

/-- A frame gets in if a pass filter matches it and no block filter does. -/
theorem admits_iff (h : FiltersSound ch.filters) (frame : Message) :
    ch.admits frame = true ↔ ch.Matched .pass frame.data ∧ ¬ ch.Matched .block frame.data := by
  unfold admits Filter.admits
  rw [Bool.and_eq_true, Bool.not_eq_true', ← Bool.not_eq_true, any_covers_iff h, any_covers_iff h]

theorem Matched.mono {kind : FilterType} {data : List UInt8} (h : ch.Matched kind data)
    (hsub : ∀ filter, filter.kind = kind → ch.Installed filter → ch'.Installed filter) :
    ch'.Matched kind data := by
  obtain ⟨filter, hinstalled, hkind, hmatches⟩ := h
  exact ⟨filter, hsub filter hkind hinstalled, hkind, hmatches⟩

/-- A channel that has the pass filters of another and no other block filters lets in what that one
lets in. -/
theorem admits_mono (h : FiltersSound ch.filters) (h' : FiltersSound ch'.filters)
    (hpass : ∀ filter, filter.kind = .pass → ch.Installed filter → ch'.Installed filter)
    (hblock : ∀ filter, filter.kind = .block → ch'.Installed filter → ch.Installed filter)
    {frame : Message} (hadmits : ch.admits frame = true) : ch'.admits frame = true := by
  obtain ⟨hpassed, hunblocked⟩ := (admits_iff h frame).1 hadmits
  exact (admits_iff h' frame).2 ⟨hpassed.mono hpass, fun hblocked => hunblocked (hblocked.mono hblock)⟩

theorem admits_congr (h : FiltersSound ch.filters) (h' : FiltersSound ch'.filters)
    (hsame : ∀ filter, ch'.Installed filter ↔ ch.Installed filter) (frame : Message) :
    ch'.admits frame = ch.admits frame := by
  rw [Bool.eq_iff_iff]
  constructor
  · exact admits_mono h' h (fun filter _ => (hsame filter).1) fun filter _ => (hsame filter).2
  · exact admits_mono h h' (fun filter _ => (hsame filter).2) fun filter _ => (hsame filter).1

/-- A further pass filter turns no frame away, and a further block filter lets none in. -/
theorem admits_of_added (h : FiltersSound ch.filters) (h' : FiltersSound ch'.filters) {new : Filter}
    (hadded : ∀ filter, ch'.Installed filter ↔ filter = new ∨ ch.Installed filter)
    (frame : Message) :
    (new.kind = .pass → ch.admits frame = true → ch'.admits frame = true) ∧
      (new.kind = .block → ch'.admits frame = true → ch.admits frame = true) := by
  have hkept : ∀ filter, ch.Installed filter → ch'.Installed filter :=
    fun filter hinstalled => (hadded filter).2 (.inr hinstalled)
  have hother : ∀ filter, filter.kind ≠ new.kind → ch'.Installed filter → ch.Installed filter := by
    intro filter hne hinstalled
    refine ((hadded filter).1 hinstalled).resolve_left ?_
    rintro rfl
    exact hne rfl
  constructor
  · intro hnew
    refine admits_mono h h' (fun filter _ => hkept filter) fun filter hkind => hother filter ?_
    rw [hkind, hnew]
    nofun
  · intro hnew
    refine admits_mono h' h (fun filter hkind => hother filter ?_) fun filter _ => hkept filter
    rw [hkind, hnew]
    nofun

/-- Frames of twelve bytes and more that begin alike are treated alike. -/
theorem admits_of_take (h : FiltersSound ch.filters) {frame frame' : Message}
    (hlength : 12 ≤ frame.data.length) (hlength' : 12 ≤ frame'.data.length)
    (htake : frame.data.take 12 = frame'.data.take 12) : ch.admits frame = ch.admits frame' := by
  have hmatched : ∀ {data data' : List UInt8} (kind : FilterType), 12 ≤ data'.length →
      data.take 12 = data'.take 12 → ch.Matched kind data → ch.Matched kind data' := by
    rintro data data' kind hlong heq ⟨filter, ⟨handle, hget⟩, hkind, hmatches⟩
    exact ⟨filter, ⟨handle, hget⟩, hkind, hmatches.of_take (h.shape hget).2.2 hlong heq⟩
  have hiff : ∀ kind, ch.Matched kind frame.data ↔ ch.Matched kind frame'.data := fun kind =>
    ⟨hmatched kind hlength' htake, hmatched kind hlength htake.symm⟩
  rw [Bool.eq_iff_iff, admits_iff h, admits_iff h, hiff, hiff]

/-! ## Adding and taking away -/

/-- The channel with a filter under a handle. -/
def withFilter (ch : Channel) (handle : UInt32) (filter : Filter) : Channel :=
  { ch with filters := ch.filters.insert handle filter }

/-- The channel without the filter of a handle. -/
def withoutFilter (ch : Channel) (handle : UInt32) : Channel :=
  { ch with filters := ch.filters.erase handle }

theorem installed_withFilter_iff (ch : Channel) (handle : UInt32) (new filter : Filter) :
    (ch.withFilter handle new).Installed filter ↔
      filter = new ∨ ∃ k, k ≠ handle ∧ ch.filters.get? k = some filter := by
  constructor
  · rintro ⟨k, hget⟩
    rcases Table.get?_insert_cases hget with ⟨-, rfl⟩ | ⟨hne, hold⟩
    · exact .inl rfl
    · exact .inr ⟨k, hne, hold⟩
  · rintro (rfl | ⟨k, hne, hget⟩)
    · exact ⟨handle, Table.get?_insert_self _ _ _⟩
    · exact ⟨k, (Table.get?_insert_of_ne _ _ hne).trans hget⟩

theorem installed_withFilter_of_unused {handle : UInt32} (hunused : ch.filters.get? handle = none)
    (new filter : Filter) :
    (ch.withFilter handle new).Installed filter ↔ filter = new ∨ ch.Installed filter := by
  rw [installed_withFilter_iff]
  refine or_congr_right ⟨fun ⟨k, _, hget⟩ => ⟨k, hget⟩, fun ⟨k, hget⟩ => ⟨k, ?_, hget⟩⟩
  rintro rfl
  rw [hunused] at hget
  cases hget

theorem installed_withoutFilter_iff (h : FiltersSound ch.filters) {handle : UInt32} {old : Filter}
    (hold : ch.filters.get? handle = some old) (filter : Filter) :
    (ch.withoutFilter handle).Installed filter ↔ ch.Installed filter ∧ filter ≠ old := by
  constructor
  · rintro ⟨k, hget⟩
    obtain ⟨hfound, hne⟩ := Table.get?_erase_eq_some_iff.1 hget
    refine ⟨⟨k, hfound⟩, ?_⟩
    rintro rfl
    exact hne (h.unique hfound hold)
  · rintro ⟨⟨k, hget⟩, hne⟩
    refine ⟨k, Table.get?_erase_eq_some_iff.2 ⟨hget, ?_⟩⟩
    rintro rfl
    exact hne (Option.some.inj (hget.symm.trans hold))

end Channel

/-! ## The calls -/

section Calls

variable {channel kind handle : Word w} {mask pattern : Option (NativeMessage w)}
  {output : Option (Word w)}

theorem driver_startMsgFilter
    (h : (driver (.startMsgFilter channel kind mask pattern output) s).1.status = Status.noError) :
    ∃ m p ch new, mask = some m ∧ pattern = some p ∧
      s.FilterRequest channel.narrow kind.narrow m p ch new ∧
      (driver (.startMsgFilter channel kind mask pattern output) s).1.memory =
        some (Word.of32 (nextHandle s.issued.filters) : Word w) ∧
      (driver (.startMsgFilter channel kind mask pattern output) s).2.channels =
        s.channels.insert channel.narrow (ch.withFilter (nextHandle s.issued.filters) new) := by
  obtain ⟨_, ⟨m, p, handle, rfl, rfl, rfl, ch, new, hrequest, rfl⟩, hroom⟩ :=
    (startMsgFilter_succeeds_iff s channel kind mask pattern output).1 h
  have hstarted := (State.startMsgFilter_eq hrequest).trans (if_pos hroom)
  have hperform : perform s (.startMsgFilter channel kind (some m) (some p) (some handle)) =
      issue s (some handle) (s.startMsgFilter channel.narrow kind.narrow m p) := rfl
  refine ⟨m, p, ch, new, rfl, rfl, hrequest, ?_, ?_⟩
  · show (perform s _).memory = _
    rw [hperform, hstarted]
    rfl
  · show (remember _ _ (perform s _).state).channels = _
    rw [remember_channels, hperform, hstarted]
    rfl

theorem driver_stopMsgFilter
    (h : (driver (.stopMsgFilter channel handle) s).1.status = Status.noError) :
    ∃ ch old, s.channels.get? channel.narrow = some ch ∧
      ch.filters.get? handle.narrow = some old ∧
      (driver (.stopMsgFilter channel handle) s).2.channels =
        s.channels.insert channel.narrow (ch.withoutFilter handle.narrow) := by
  have hok := (status_eq_noError_iff s _).1 h
  have hperform : perform s (.stopMsgFilter channel handle) =
      change s (s.stopMsgFilter channel.narrow handle.narrow) := rfl
  cases hstop : s.stopMsgFilter channel.narrow handle.narrow with
  | error code =>
    rw [hperform, hstop] at hok
    cases hok
  | ok s' =>
    obtain ⟨ch, hfound, hcontains, rfl⟩ := State.stopMsgFilter_eq_ok_iff.1 hstop
    obtain ⟨old, hold⟩ := Table.contains_iff.1 hcontains
    refine ⟨ch, old, hfound, hold, ?_⟩
    show (remember _ _ (perform s _).state).channels = _
    rw [remember_channels, hperform, hstop]
    rfl

end Calls

/-- As long as handles are left, the next filter gets one that no filter has. -/
theorem Reachable.filters_get?_nextHandle (h : Reachable w s) (hleft : HandlesLeft s) {id : UInt32}
    {ch : Channel} (hfound : s.channels.get? id = some ch) :
    ch.filters.get? (nextHandle s.issued.filters) = none := by
  have hissued := reachable_itemsIssued h (Nat.lt_of_lt_pred hleft.filters)
    (Nat.lt_of_lt_pred hleft.periodic)
  cases hget : ch.filters.get? (nextHandle s.issued.filters) with
  | none => rfl
  | some filter =>
    have hle := (hissued id ch hfound).filters_le hget
    rw [toNat_nextHandle (Nat.add_lt_of_lt_sub hleft.filters)] at hle
    exact absurd hle (Nat.not_succ_le_self _)

/-- **What filters let in.** A channel of a reachable state lets a frame in if, and only if, one of
its pass filters matches the frame and none of its block filters does, where a filter matches data
that are as long as its mask and agree with its pattern at every byte of the mask. So all channels
with the same filters let in the same frames, whatever handles the filters have and in whatever order
they were started and stopped; a further pass filter turns no frame away, and a further block filter
lets no frame in. A call that starts a filter adds it to the others, unless its handle was in use,
which it is not as long as handles are left; a call that stops a filter takes that one away. Of the
bytes of a frame that has at least twelve, only the first twelve count. -/
theorem filters_decide (h : Reachable w s) {id : UInt32} {ch : Channel}
    (hfound : s.channels.get? id = some ch) :
    (∀ frame : Message, ch.admits frame = true ↔
      (∃ filter, ch.Installed filter ∧ filter.kind = .pass ∧ filter.Matches frame.data) ∧
        ¬ ∃ filter, ch.Installed filter ∧ filter.kind = .block ∧ filter.Matches frame.data) ∧
    (∀ {w' : Width} {s' : State} {id' : UInt32} {ch' : Channel}, Reachable w' s' →
      s'.channels.get? id' = some ch' →
      ((∀ filter, ch'.Installed filter ↔ ch.Installed filter) →
        ∀ frame, ch'.admits frame = ch.admits frame) ∧
      ∀ new, (∀ filter, ch'.Installed filter ↔ filter = new ∨ ch.Installed filter) →
        ∀ frame, (new.kind = .pass → ch.admits frame = true → ch'.admits frame = true) ∧
          (new.kind = .block → ch'.admits frame = true → ch.admits frame = true)) ∧
    (∀ (channel kind : Word w) (mask pattern : Option (NativeMessage w)) (output : Option (Word w)),
      channel.narrow = id →
      let call : Call w := .startMsgFilter channel kind mask pattern output
      (driver call s).1.status = Status.noError →
      ∃ m p new ch' handle, mask = some m ∧ pattern = some p ∧
        s.FilterRequest id kind.narrow m p ch new ∧
        (driver call s).1.memory = some (Word.of32 handle : Word w) ∧
        (driver call s).2.channels.get? id = some ch' ∧
        (∀ filter, ch'.Installed filter ↔
          filter = new ∨ ∃ k, k ≠ handle ∧ ch.filters.get? k = some filter) ∧
        (HandlesLeft s → ch.filters.get? handle = none) ∧
        (ch.filters.get? handle = none →
          (∀ filter, ch'.Installed filter ↔ filter = new ∨ ch.Installed filter) ∧
          ∀ frame, (new.kind = .pass → ch.admits frame = true → ch'.admits frame = true) ∧
            (new.kind = .block → ch'.admits frame = true → ch.admits frame = true))) ∧
    (∀ channel handle : Word w, channel.narrow = id →
      let call : Call w := .stopMsgFilter channel handle
      (driver call s).1.status = Status.noError →
      ∃ old ch', ch.filters.get? handle.narrow = some old ∧
        (driver call s).2.channels.get? id = some ch' ∧
        ∀ filter, ch'.Installed filter ↔ ch.Installed filter ∧ filter ≠ old) ∧
    ∀ frame frame' : Message, 12 ≤ frame.data.length → 12 ≤ frame'.data.length →
      frame.data.take 12 = frame'.data.take 12 → ch.admits frame = ch.admits frame' := by
  have hsound : ∀ {w' : Width} {s' : State} {id' : UInt32} {ch' : Channel}, Reachable w' s' →
      s'.channels.get? id' = some ch' → FiltersSound ch'.filters :=
    fun h' hfound' => (reachable_sound h' _ _ hfound').filters
  have hch := hsound h hfound
  refine ⟨fun frame => Channel.admits_iff hch frame, fun h' hfound' => ⟨?_, fun new hadded => ?_⟩,
    ?_, ?_, fun frame frame' => Channel.admits_of_take hch⟩
  · exact Channel.admits_congr hch (hsound h' hfound')
  · exact Channel.admits_of_added hch (hsound h' hfound') hadded
  · intro channel kind mask pattern output hid call hok
    obtain ⟨m, p, found, new, hmask, hpattern, hrequest, hmemory, hchannels⟩ :=
      driver_startMsgFilter hok
    rw [hid] at hrequest hchannels
    obtain rfl : found = ch := Option.some.inj (hrequest.found.symm.trans hfound)
    have hfound' : (driver call s).2.channels.get? id =
        some (found.withFilter (nextHandle s.issued.filters) new) := by
      rw [hchannels, Table.get?_insert_self]
    refine ⟨m, p, new, _, _, hmask, hpattern, hrequest, hmemory, hfound',
      Channel.installed_withFilter_iff _ _ _, fun hleft => ?_, fun hunused => ?_⟩
    · exact h.filters_get?_nextHandle hleft hfound
    · have hadded := Channel.installed_withFilter_of_unused hunused new
      exact ⟨hadded, Channel.admits_of_added hch (hsound (h.run [.call call]) hfound') hadded⟩
  · intro channel handle hid call hok
    obtain ⟨found, old, hget, hold, hchannels⟩ := driver_stopMsgFilter hok
    rw [hid] at hget hchannels
    obtain rfl : found = ch := Option.some.inj (hget.symm.trans hfound)
    refine ⟨old, _, hold, ?_, Channel.installed_withoutFilter_iff hch hold⟩
    rw [hchannels, Table.get?_insert_self]

/-- A CAN channel that lets in what begins with the byte 7, unless the byte 1 comes next. -/
def Event.passAndBlock : List (Event w) :=
  Event.openCan ++
    [.call (filterFor .pass [7]), .call (filterFor .block [7, 1])]

/-- The filters of `Event.passAndBlock` let `[7, 2]` in and keep `[7, 1]` out. -/
theorem filters_decide_passAndBlock :
    let s := (State.start 1).run (Event.passAndBlock (w := .w64))
    let frame (data : List UInt8) : Message := { protocolId := Protocol.can.code, data }
    ∃ ch, s.channels.get? 1 = some ch ∧ ch.admits (frame [7, 2]) = true ∧
      (∃ filter, ch.Installed filter ∧ filter.kind = .pass ∧ filter.Matches [7, 2]) ∧
      ¬ ((∃ filter, ch.Installed filter ∧ filter.kind = .pass ∧ filter.Matches [7, 1]) ∧
        ¬ ∃ filter, ch.Installed filter ∧ filter.kind = .block ∧ filter.Matches [7, 1]) := by
  intro s frame
  have hs : Reachable .w64 s := ⟨1, Event.passAndBlock, rfl⟩
  obtain ⟨ch, hfound⟩ := Table.contains_iff.1 (show s.channels.contains 1 = true by decide +kernel)
  have hadmits : (s.channels.get? 1).map (fun ch => (ch.admits (frame [7, 2]),
      ch.admits (frame [7, 1]))) = some (true, false) := by decide +kernel
  rw [hfound, Option.map_some, Option.some.injEq, Prod.mk.injEq] at hadmits
  have hrule := (filters_decide hs hfound).1
  refine ⟨ch, hfound, hadmits.1, ((hrule _).1 hadmits.1).1, fun hmatched => ?_⟩
  exact Bool.false_ne_true (hadmits.2.symm.trans ((hrule (frame [7, 1])).2 hmatched))

end PassThru.Emulator
