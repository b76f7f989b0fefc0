import PassThru.Proofs.Emulator.Run

/-!
# What channels are attached to

The device, the protocol and the attachment of a channel are its wiring. It is fixed when the
channel is connected: pumping, configuration, filters and periodic messages leave the wiring of
every channel as it is.
-/

namespace PassThru.Emulator

/-- Whether the attachment is to the channel `parent`. -/
def Attachment.isOn (parent : UInt32) : Attachment → Bool
  | .physical _ => false
  | .logical p _ _ => p == parent

/-- What stays the same of a channel from its connection to its end. -/
def Channel.wiring (ch : Channel) : UInt32 × Protocol × Attachment :=
  (ch.device, ch.protocol, ch.attachment)

theorem Channel.Change.wiring_eq {ch ch' : Channel} (h : ch.Change ch') :
    ch'.wiring = ch.wiring := by
  cases h <;> rfl

section Wiring

variable {ch ch' : Channel} (h : ch'.wiring = ch.wiring)

include h

theorem Channel.device_eq_of_wiring : ch'.device = ch.device := congrArg (·.1) h

theorem Channel.protocol_eq_of_wiring : ch'.protocol = ch.protocol := congrArg (·.2.1) h

theorem Channel.attachment_eq_of_wiring : ch'.attachment = ch.attachment := congrArg (·.2.2) h

theorem Channel.parent?_eq_of_wiring : ch'.parent? = ch.parent? := by
  unfold parent?
  rw [attachment_eq_of_wiring h]

theorem Channel.pins_eq_of_wiring : ch'.pins = ch.pins := by
  unfold pins
  rw [attachment_eq_of_wiring h]

theorem Channel.addresses?_eq_of_wiring : ch'.addresses? = ch.addresses? := by
  unfold addresses?
  rw [attachment_eq_of_wiring h]

end Wiring

/-- Two states have the same channels, up to everything but their wiring. -/
def State.SameWiring (s s' : State) : Prop :=
  ∀ id, (s'.channels.get? id).map Channel.wiring = (s.channels.get? id).map Channel.wiring

namespace State

variable {s s' : State}

theorem sameWiring_setChannel {id : UInt32} {ch ch' : Channel}
    (hfound : s.channels.get? id = some ch) (hwiring : ch'.wiring = ch.wiring) :
    s.SameWiring (s.setChannel id ch') :=
  Table.map_get?_insert Channel.wiring hfound hwiring

theorem SameWiring.exists_before (h : s.SameWiring s') {id : UInt32} {ch' : Channel}
    (hfound : s'.channels.get? id = some ch') :
    ∃ ch, s.channels.get? id = some ch ∧ ch'.wiring = ch.wiring := by
  have hid := h id
  rw [hfound, Option.map_some, eq_comm, Option.map_eq_some_iff] at hid
  obtain ⟨ch, hch, hwiring⟩ := hid
  exact ⟨ch, hch, hwiring.symm⟩

theorem SameWiring.exists_after (h : s.SameWiring s') {id : UInt32} {ch : Channel}
    (hfound : s.channels.get? id = some ch) :
    ∃ ch', s'.channels.get? id = some ch' ∧ ch'.wiring = ch.wiring := by
  have hid := h id
  rw [hfound, Option.map_some, Option.map_eq_some_iff] at hid
  exact hid

theorem SameWiring.length_logicalChannelsOn (h : s.SameWiring s') (parent : UInt32) :
    (s'.logicalChannelsOn parent).length = (s.logicalChannelsOn parent).length := by
  have hcount := Table.countP_values_congr h fun wiring => wiring.2.2.isOn parent
  have htest : (fun ch : Channel => ch.parent? == some parent) =
      fun ch => ch.wiring.2.2.isOn parent := by
    funext ch
    unfold Channel.parent? Channel.wiring Attachment.isOn
    cases ch.attachment <;> simp
  rw [State.length_logicalChannelsOn, State.length_logicalChannelsOn, htest]
  exact hcount

end State

end PassThru.Emulator
