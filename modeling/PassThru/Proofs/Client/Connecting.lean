import PassThru.Proofs.Client.Opening
import PassThru.Proofs.Client.Queueing
import PassThru.Proofs.Emulator.Filtering

/-!
# Connecting and filtering through a client

What a client asks for reaches the library as it was meant, so that a request that the library grants
is answered by a handle.

* `ask_connect_of_ok`, `ask_disconnect_of_ok`: the calls for a channel.
* `ask_startMsgFilter_first`: the first filter of a channel.
* `admits_header`: what gets through a filter that asks for nothing but a length.
-/

namespace PassThru.Emulator

variable {w : Width} {s s' : State} (settings : Settings)

/-! ## Channels -/

theorem exists_nativeResource {resource : Resource} (h : Counts resource.pins.length) :
    ∃ native : NativeResource w, resource.encode = .ok native ∧
      PinRequest.ofNative native = ⟨resource.connector, .ok resource.pins⟩ := by
  have hencode : resource.encode = .ok (⟨.of32 resource.connector,
      .of32 (UInt32.ofNat resource.pins.length), pointerTo (resource.pins.map .of32)⟩ :
        NativeResource w) := by
    unfold Resource.encode
    rw [count_of_counts _ h]
    rfl
  refine ⟨_, hencode, ?_⟩
  have hread : readList (.of32 (UInt32.ofNat resource.pins.length) : Word w)
      (pointerTo (resource.pins.map Word.of32)) = .ok (resource.pins.map (Word.of32 (w := w))) := by
    have hcounts : Counts (resource.pins.map (Word.of32 (w := w))).length := by
      rwa [List.length_map]
    have hlist := readList_pointerTo (w := w) hcounts
    rwa [List.length_map] at hlist
  unfold PinRequest.ofNative
  dsimp only
  rw [hread, Word.narrow_of32]
  have hpins : (resource.pins.map (Word.of32 (w := w))).map Word.narrow = resource.pins := by
    rw [List.map_map]
    exact (List.map_congr_left fun pin _ => Word.narrow_of32 pin).trans (List.map_id _)
  show PinRequest.mk _ (.ok ((resource.pins.map Word.of32).map Word.narrow)) = _
  rw [hpins]

theorem ask_connect_of_ok {device : DeviceId} {protocol : Protocol} {flags baud id : UInt32}
    {resource : Resource} (hcounts : Counts resource.pins.length)
    (h : s.connect device.raw protocol.code flags baud ⟨resource.connector, .ok resource.pins⟩ true =
      .ok (id, s')) :
    (⟨driver, settings⟩ : Client w State).ask (.connect device protocol flags baud resource) s =
      (.ok ⟨id⟩, s') := by
  obtain ⟨native, hencode, hread⟩ := exists_nativeResource (w := w) hcounts
  have hperform : perform s (.connect (.of32 device.raw) (.of32 protocol.code) (.of32 flags)
      (.of32 baud) native (some .zero) : Call w) = ⟨none, some (.of32 id), s'⟩ := by
    show issue s (some .zero) (s.connect _ _ _ _ (.ofNative native) true) = _
    rw [hread, Word.narrow_of32, Word.narrow_of32, Word.narrow_of32, Word.narrow_of32, h]
    rfl
  have hrequest : (Request.connect device protocol flags baud resource : Request w ChannelId) =
      .afterSuccess (.connect (.of32 device.raw) (.of32 protocol.code) (.of32 flags) (.of32 baud)
        native (some .zero)) fun channel => (readOutput "channel_id" channel).map ChannelId.mk := by
    unfold Request.connect Request.connectRaw
    rw [hencode]
    rfl
  unfold Client.ask
  rw [hrequest, perform_of_answer hperform, readOutput_of32]
  rfl

theorem ask_disconnect_of_ok {channel : ChannelId} (h : s.disconnect channel.raw = .ok s') :
    (⟨driver, settings⟩ : Client w State).ask (.disconnect channel) s = (.ok (), s') := by
  have hanswer : perform s (.disconnect (.of32 channel.raw) : Call w) = ⟨none, (), s'⟩ := by
    show change s (s.disconnect (Word.of32 channel.raw : Word w).narrow) = _
    rw [Word.narrow_of32, h]
    rfl
  unfold Client.ask Request.disconnect
  rw [perform_of_answer hanswer]

/-! ## The first filter -/

section FirstFilter

variable {id : UInt32} {ch : Channel} {kind : FilterType} {header : Message}

theorem exists_nativeMessage {m : Message} (h : m.Fits) :
    ∃ native : NativeMessage w, m.encode = .ok native ∧ readMessage native = .ok m := by
  obtain ⟨native, hencode, -⟩ := (message_roundTrip (w := w)).encodes m h
  refine ⟨native, hencode, ?_⟩
  unfold readMessage
  rw [read_of_encode hencode]

/-- A filter for a channel that has none, with a mask that is also its pattern. -/
theorem ask_startMsgFilter_first (hfound : s.channels.get? id = some ch)
    (hfilters : ch.filters = .empty) (hfits : header.Fits)
    (hprotocol : header.protocolId = ch.protocol.code) (hsome : header.data ≠ [])
    (hle : header.data.length ≤ Filter.maxLength) :
    let handle := nextHandle s.issued.filters
    (⟨driver, settings⟩ : Client w State).ask (.startMsgFilter ⟨id⟩ kind header header) s =
      (.ok ⟨handle⟩, { s.setChannel id (ch.withFilter handle ⟨kind, header.data, header.data⟩) with
        issued := { s.issued with filters := s.issued.filters + 1 } }) := by
  intro handle
  obtain ⟨native, hencode, hread⟩ := exists_nativeMessage (w := w) hfits
  have hrequest : s.FilterRequest id (Coded.code kind) native native ch
      ⟨kind, header.data, header.data⟩ := by
    refine ⟨hfound, ?_, ⟨header, hread, hprotocol, rfl⟩, ⟨header, hread, hprotocol, rfl⟩, hsome, rfl,
      hle, ?_⟩
    · cases kind <;> rfl
    · rw [hfilters]
      exact List.not_mem_nil
  have hroom : ch.filters.size < maxFilters := by
    rw [hfilters]
    decide
  have hstarted := (State.startMsgFilter_eq hrequest).trans (if_pos hroom)
  have hperform : perform s (.startMsgFilter (.of32 id) (.of32 (Coded.code kind)) (some native)
      (some native) (some .zero) : Call w) = ⟨none, some (.of32 handle),
        { s.setChannel id (ch.withFilter handle ⟨kind, header.data, header.data⟩) with
          issued := { s.issued with filters := s.issued.filters + 1 } }⟩ := by
    show issue s (some .zero) (s.startMsgFilter _ _ native native) = _
    rw [Word.narrow_of32, Word.narrow_of32, hstarted]
    rfl
  have hask : (Request.startMsgFilter ⟨id⟩ kind header header : Request w FilterId) =
      .afterSuccess (.startMsgFilter (.of32 id) (.of32 (Coded.code kind)) (some native) (some native)
        (some .zero)) fun id => (readOutput "filter_id" id).map FilterId.mk := by
    unfold Request.startMsgFilter
    rw [hencode]
    rfl
  unfold Client.ask
  rw [hask, perform_of_answer hperform, readOutput_of32]
  rfl

/-- A pass filter whose mask and pattern are zero lets in what is as long as they are. -/
theorem admits_header {n : Nat} {handle : UInt32} (hfilters : ch.filters = .empty)
    (frame : Message) :
    (ch.withFilter handle ⟨.pass, List.replicate n 0, List.replicate n 0⟩).admits frame =
      decide (n ≤ frame.data.length) := by
  have hcovers : (⟨.pass, List.replicate n 0, List.replicate n 0⟩ : Filter).covers frame.data =
      decide (n ≤ frame.data.length) := by
    unfold Filter.covers
    dsimp only
    rw [List.length_replicate, List.all_eq_true.2, Bool.and_true]
    rintro ⟨⟨mask, pattern⟩, byte⟩ hmem
    obtain ⟨hmask, hpattern⟩ := List.of_mem_zip (List.of_mem_zip hmem).1
    obtain rfl := List.eq_of_mem_replicate hmask
    obtain rfl := List.eq_of_mem_replicate hpattern
    simp
  unfold Channel.admits Channel.withFilter
  dsimp only
  rw [hfilters]
  show Filter.admits [_] frame.data = _
  unfold Filter.admits
  simp [hcovers]

end FirstFilter

end PassThru.Emulator
