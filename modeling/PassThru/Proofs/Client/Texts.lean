import PassThru.Client
import PassThru.Proofs.Client.Answers
import PassThru.Proofs.Emulator.Operations
import PassThru.Proofs.Text.Cutting

/-!
# Texts from the library

The library answers with texts in two places: the versions of a device, and what it says about its
last failure. It writes them into fields of the caller and cuts them to fit; the caller reads them
as far as their first NUL.

* `getLastError_eq` and `readVersion_eq`: which texts a client is answered.
* `texts_cut_cleanly`: what is left of a text in a field, and what a client sees of it.
-/

namespace PassThru.Emulator

variable {w : Width} {s : State} (settings : Settings)

/-- What a client reads of a text that the library wrote for it. -/
def readBack (text : String) : String := Field.decode (Field.write Field.blank text)

theorem perform_getLastError (s : State) (field : List UInt8) :
    perform s (.getLastError (some field) : Call w) =
      ⟨none, some (Field.write field s.lastError), s⟩ := rfl

theorem getLastError_eq (s : State) :
    (⟨driver, settings⟩ : Client w State).ask .getLastError s =
      (.ok (readBack s.lastError), s) := by
  unfold readBack Client.ask Request.getLastError
  dsimp only
  rw [perform_of_answer (perform_getLastError s Field.blank), Option.getD_some]

section Versions

variable {id : UInt32} {device : OpenDevice} {interface : Interface}
  (hopened : s.devices.get? id = some device)
  (hfound : s.registry.find? device.name = some interface) (hplugged : interface.connected = true)

include hopened hfound hplugged

theorem perform_readVersion (firmware dll api : List UInt8) :
    perform s (.readVersion (.of32 id) (some firmware) (some dll) (some api) : Call w) =
      ⟨none, ⟨some (Field.write firmware interface.firmwareVersion),
        some (Field.write dll interface.dllVersion),
        some (Field.write api interface.apiVersion)⟩, s⟩ := by
  have hconnected : s.registry.isConnected device.name = true := by
    unfold Registry.isConnected
    rw [hfound]
    exact hplugged
  have hdevice : s.device (Word.of32 id : Word w).narrow = .ok device := by
    rw [Word.narrow_of32]
    exact State.device_eq_ok_iff.2 ⟨hopened, hconnected⟩
  show performReadVersion s _ _ = _
  unfold performReadVersion
  rw [hdevice]
  simp only [Attempt.present, bind, Except.bind, hfound]
  rfl

theorem readVersion_eq :
    (⟨driver, settings⟩ : Client w State).ask (.readVersion ⟨id⟩) s =
      (.ok ⟨readBack interface.firmwareVersion, readBack interface.dllVersion,
        readBack interface.apiVersion⟩, s) := by
  unfold readBack Client.ask Request.readVersion
  dsimp only
  rw [perform_of_answer (perform_readVersion hopened hfound hplugged _ _ _)]
  simp only [Option.getD_some]

end Versions

/-- **Texts are cut between characters.** What is left of a text in a field of 80 bytes is its
longest beginning of whole characters with at most 79 bytes, which leaves at most three more bytes
unused; a NUL ends it, and what stood behind that in the field still does. The field reads as that
beginning up to the first NUL of it, so a replacement character is read only if the text has one.
This is what a client is told of the last failure, and of each version of an open device. -/
theorem texts_cut_cleanly (text : String) :
    ∃ cut : String, Field.IsCut 79 text cut ∧
      min text.utf8ByteSize 79 ≤ cut.utf8ByteSize + 3 ∧
      (∀ field : List UInt8, field.length = 80 →
        Field.write field text =
            Utf8.encode cut ++ 0 :: field.drop ((Utf8.encode cut).length + 1) ∧
          (Field.write field text).length = 80 ∧
          Field.decode (Field.write field text) = Field.upToNul cut ∧
          ('\uFFFD' ∈ (Field.decode (Field.write field text)).toList →
            '\uFFFD' ∈ text.toList)) ∧
      ∀ (w : Width) (settings : Settings) (s : State),
        (s.lastError = text →
          (⟨driver, settings⟩ : Client w State).ask .getLastError s =
            (.ok (Field.upToNul cut), s)) ∧
        ∀ (id : UInt32) (device : OpenDevice) (interface : Interface),
          s.devices.get? id = some device →
          s.registry.find? device.name = some interface →
          interface.connected = true →
          ∃ versions : VersionInfo,
            (⟨driver, settings⟩ : Client w State).ask (.readVersion ⟨id⟩) s = (.ok versions, s) ∧
              (interface.firmwareVersion = text → versions.firmware = Field.upToNul cut) ∧
              (interface.dllVersion = text → versions.dll = Field.upToNul cut) ∧
              (interface.apiVersion = text → versions.api = Field.upToNul cut) := by
  obtain ⟨cut, hcut, htruncate⟩ := Field.exists_isCut text
  have hread := Field.decode_write htruncate
  refine ⟨cut, hcut, hcut.le_size_add,
    fun field hfield => ⟨?_, ?_, hread field, fun hmem => ?_⟩,
    fun w settings s => ⟨?_, fun id device interface hopened hfound hplugged => ?_⟩⟩
  · unfold Field.write
    rw [htruncate]
  · rw [Field.length_write, hfield]
    rw [htruncate, hfield]
    exact Nat.lt_succ_of_le hcut.length_encode_le
  · rw [hread field] at hmem
    exact hcut.begins.subset (Field.mem_of_mem_upToNul hmem)
  · rintro rfl
    rw [getLastError_eq]
    exact congrArg (fun text => (Except.ok text, s)) (hread Field.blank)
  · refine ⟨_, readVersion_eq settings hopened hfound hplugged, ?_, ?_, ?_⟩
    all_goals rintro rfl; exact hread Field.blank

/-- The fortieth of these characters would be cut in two by the end of the field. -/
example :
    Field.decode (Field.write (List.replicate 80 1) (String.ofList (List.replicate 60 'é'))) =
      String.ofList (List.replicate 39 'é') := by
  decide +kernel

end PassThru.Emulator
