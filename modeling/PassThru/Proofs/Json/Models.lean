import PassThru.Json.Models
import PassThru.Proofs.Json.Forms
import PassThru.Proofs.Text.Utf8

/-!
# What the JSON form of a model stands for

Every model is read from the JSON values that stand for it, in whatever form they are given, and
from no others. Whatever the form, reading and writing once gives the form that is kept from then
on.

* `JsonMeaning`: of each model, the JSON values that stand for it.
* `Lossless`: what is written is read back, and what is read is written in one form only.
* `Settings.Lossless`: the settings, which can be written only if the path in them is a text.
* `json_lossless`: this holds of the handles, the enumerations, the records and the settings.
-/

namespace PassThru

variable {α : Type}

/-! ## Handles, enumerations and addresses -/

instance : JsonMeaning DeviceId where
  Denotes j id := Denotes j id.raw

instance : JsonMeaning ChannelId where
  Denotes j id := Denotes j id.raw

instance : JsonMeaning FilterId where
  Denotes j id := Denotes j id.raw

instance : JsonMeaning PeriodicMsgId where
  Denotes j id := Denotes j id.raw

instance : JsonMeaning Protocol := Coded.jsonMeaning
instance : JsonMeaning Ioctl := Coded.jsonMeaning
instance : JsonMeaning FilterType := Coded.jsonMeaning
instance : JsonMeaning SelectType := Coded.jsonMeaning

instance : JsonMeaning Address where
  Denotes j address := Denotes j address.val

/-- What wraps another type is read as that type is. -/
theorem map_ofJson?_eq_some_iff {β : Type} [JsonForm β] [JsonMeaning β] [LawfulJsonForm β]
    {mk : β → α} {raw : α → β} {j : Json} {a : α} (hmk : ∀ b, raw (mk b) = b)
    (hraw : ∀ a, mk (raw a) = a) : (ofJson? j).map mk = some a ↔ Denotes j (raw a) := by
  simp only [Option.map_eq_some_iff, ofJson?_eq_some_iff]
  constructor
  · rintro ⟨b, h, rfl⟩
    rwa [hmk]
  · intro h
    exact ⟨raw a, h, hraw a⟩

instance : LawfulJsonForm DeviceId where
  ofJson?_eq_some_iff := map_ofJson?_eq_some_iff (fun _ => rfl) fun _ => rfl
  denotes_toJson id := denotes_toJson id.raw

instance : LawfulJsonForm ChannelId where
  ofJson?_eq_some_iff := map_ofJson?_eq_some_iff (fun _ => rfl) fun _ => rfl
  denotes_toJson id := denotes_toJson id.raw

instance : LawfulJsonForm FilterId where
  ofJson?_eq_some_iff := map_ofJson?_eq_some_iff (fun _ => rfl) fun _ => rfl
  denotes_toJson id := denotes_toJson id.raw

instance : LawfulJsonForm PeriodicMsgId where
  ofJson?_eq_some_iff := map_ofJson?_eq_some_iff (fun _ => rfl) fun _ => rfl
  denotes_toJson id := denotes_toJson id.raw

instance : LawfulJsonForm Protocol := Coded.lawfulJsonForm
instance : LawfulJsonForm Ioctl := Coded.lawfulJsonForm
instance : LawfulJsonForm FilterType := Coded.lawfulJsonForm
instance : LawfulJsonForm SelectType := Coded.lawfulJsonForm

theorem Address.ofList?_eq_some_iff {bytes : List UInt8} {address : Address} :
    Address.ofList? bytes = some address ↔ address.val = bytes := by
  unfold Address.ofList?
  split
  · rw [Option.some.injEq, Subtype.ext_iff, eq_comm]
  · next hlength =>
    refine iff_of_false nofun ?_
    rintro rfl
    exact hlength address.property

instance : LawfulJsonForm Address where
  ofJson?_eq_some_iff {j address} := by
    show (ofJson? j).bind Address.ofList? = some address ↔ Denotes j address.val
    simp [Option.bind_eq_some_iff, Address.ofList?_eq_some_iff, ofJson?_eq_some_iff]
  denotes_toJson address := denotes_toJson address.val

/-! ## Records

A record has as many values as fields, so the list of them has one form only; each of them is then
read for itself. -/

instance : JsonMeaning Device where
  Denotes j d := j.IsRecord
    [("name", Required d.name), ("availability", Required d.availability),
      ("dll_fw_status", Required d.firmwareStatus), ("connect_media", Required d.media),
      ("connect_speed", Required d.speed), ("signal_quality", Required d.signalQuality),
      ("signal_strength", Required d.signalStrength)]

instance : LawfulJsonForm Device where
  ofJson?_eq_some_iff {j d} := by
    refine Json.record?_bind_eq_some_iff rfl ?_ fun values hlength => ?_
    · simp [not_required_none]
    cases d
    match values, hlength with
    | [_, _, _, _, _, _, _], _ => simp [ofJson?_eq_some_iff, Option.bind_eq_some_iff]
  denotes_toJson d := Json.isRecord_record (by simp) (by simp [denotes_toJson])

instance : JsonMeaning Resource where
  Denotes j r := j.IsRecord [("connector", Required r.connector), ("resources", Required r.pins)]

instance : LawfulJsonForm Resource where
  ofJson?_eq_some_iff {j r} := by
    refine Json.record?_bind_eq_some_iff rfl ?_ fun values hlength => ?_
    · simp [not_required_none]
    cases r
    match values, hlength with
    | [_, _], _ => simp [ofJson?_eq_some_iff, Option.bind_eq_some_iff]
  denotes_toJson r := Json.isRecord_record (by simp) (by simp [denotes_toJson])

instance : JsonMeaning ChannelSet where
  Denotes j set := j.IsRecord
    [("channel_threshold", Required set.threshold), ("channels", Required set.channels)]

instance : LawfulJsonForm ChannelSet where
  ofJson?_eq_some_iff {j set} := by
    refine Json.record?_bind_eq_some_iff rfl ?_ fun values hlength => ?_
    · simp [not_required_none]
    cases set
    match values, hlength with
    | [_, _], _ => simp [ofJson?_eq_some_iff, Option.bind_eq_some_iff]
  denotes_toJson set := Json.isRecord_record (by simp) (by simp [denotes_toJson])

instance : JsonMeaning Message where
  Denotes j m := j.IsRecord
    [("protocol_id", Required m.protocolId), ("msg_handle", Required m.msgHandle),
      ("rx_status", Required m.rxStatus), ("tx_flags", Required m.txFlags),
      ("timestamp", Required m.timestamp), ("extra_data_index", Required m.extraDataIndex),
      ("data", Required m.data), ("data_buffer_size", Required m.bufferSize)]

instance : LawfulJsonForm Message where
  ofJson?_eq_some_iff {j m} := by
    refine Json.record?_bind_eq_some_iff rfl ?_ fun values hlength => ?_
    · simp [not_required_none]
    cases m
    match values, hlength with
    | [_, _, _, _, _, _, _, _], _ => simp [ofJson?_eq_some_iff, Option.bind_eq_some_iff]
  denotes_toJson m := Json.isRecord_record (by simp) (by simp [denotes_toJson])

instance : JsonMeaning VersionInfo where
  Denotes j v := j.IsRecord
    [("firmware_version", Required v.firmware), ("dll_version", Required v.dll),
      ("api_version", Required v.api)]

instance : LawfulJsonForm VersionInfo where
  ofJson?_eq_some_iff {j v} := by
    refine Json.record?_bind_eq_some_iff rfl ?_ fun values hlength => ?_
    · simp [not_required_none]
    cases v
    match values, hlength with
    | [_, _, _], _ => simp [ofJson?_eq_some_iff, Option.bind_eq_some_iff]
  denotes_toJson v := Json.isRecord_record (by simp) (by simp [denotes_toJson])

instance : JsonMeaning Setting where
  Denotes j s := j.IsRecord [("parameter", Required s.parameter), ("value", Required s.value)]

instance : LawfulJsonForm Setting where
  ofJson?_eq_some_iff {j s} := by
    refine Json.record?_bind_eq_some_iff rfl ?_ fun values hlength => ?_
    · simp [not_required_none]
    cases s
    match values, hlength with
    | [_, _], _ => simp [ofJson?_eq_some_iff, Option.bind_eq_some_iff]
  denotes_toJson s := Json.isRecord_record (by simp) (by simp [denotes_toJson])

instance : JsonMeaning Descriptor where
  Denotes j d := j.IsRecord
    [("local_tx_flags", Required d.localTxFlags), ("remote_tx_flags", Required d.remoteTxFlags),
      ("local_address", Required d.localAddress), ("remote_address", Required d.remoteAddress)]

instance : LawfulJsonForm Descriptor where
  ofJson?_eq_some_iff {j d} := by
    refine Json.record?_bind_eq_some_iff rfl ?_ fun values hlength => ?_
    · simp [not_required_none]
    cases d
    match values, hlength with
    | [_, _, _, _], _ => simp [ofJson?_eq_some_iff, Option.bind_eq_some_iff, -Subtype.exists]
  denotes_toJson d := Json.isRecord_record (by simp) (by simp [denotes_toJson])

/-! ## Settings

The path in the settings need not be a text, so that not all settings have a form. -/

theorem Path.text?_eq_some_iff {path : Path} {text : String} :
    path.text? = some text ↔ path = ofText text := by
  unfold text?
  constructor
  · intro h
    obtain ⟨hbytes, hdisplay⟩ := Option.ite_none_right_eq_some.1 h
    rw [ofText, ← Option.some.inj hdisplay, hbytes]
  · rintro rfl
    simp [display, ofText, Utf8.decodeLossy_encode]

theorem mapM_text?_eq_some_iff {path : Option Path} {text : Option String} :
    path.mapM Path.text? = some text ↔ path = text.map Path.ofText := by
  cases path <;> cases text <;> simp [Path.text?_eq_some_iff]

namespace Settings

/-- The fields of the settings, the path in them being that of a text. -/
def fields (libraryPath : Option String) (s : Settings) : List (String × (Option Json → Prop)) :=
  [("library_path", Defaulted none libraryPath),
    ("default_timeout_ms", Defaulted 1000 s.defaultTimeoutMs),
    ("read_batch_size", Defaulted 16 s.readBatchSize),
    ("rx_buffer_size", Defaulted 4128 s.rxBufferSize)]

instance : JsonMeaning Settings where
  Denotes j s := ∃ libraryPath : Option String,
    s.libraryPath = libraryPath.map Path.ofText ∧ j.IsRecord (s.fields libraryPath)

theorem ofJson?_eq_some_iff {j : Json} {s : Settings} :
    Settings.ofJson? j = some s ↔ Denotes j s := by
  constructor
  · intro h
    obtain ⟨found, hfound, h⟩ := Option.bind_eq_some_iff.1 h
    match found, Json.length_of_partialRecord? hfound with
    | [_, _, _, _], _ =>
      simp only [Option.bind_eq_bind, Option.bind_eq_some_iff, ofJsonOr?_eq_some_iff] at h
      obtain ⟨libraryPath, hlibrary, timeout, htimeout, batch, hbatch, buffer, hbuffer, h⟩ := h
      obtain rfl := Option.some.inj h
      refine ⟨libraryPath, rfl, Json.isRecord_iff_partialRecord?.2 ⟨_, hfound, ?_⟩⟩
      exact .cons hlibrary (.cons htimeout (.cons hbatch (.cons hbuffer .nil)))
  · rintro ⟨libraryPath, hpath, h⟩
    obtain ⟨found, hfound, h⟩ := Json.isRecord_iff_partialRecord?.1 h
    refine Option.bind_eq_some_iff.2 ⟨found, hfound, ?_⟩
    cases s
    match found, h with
    | [_, _, _, _], .cons hlibrary (.cons htimeout (.cons hbatch (.cons hbuffer .nil))) =>
      obtain rfl := hpath
      simp only [Option.bind_eq_bind, Option.bind_eq_some_iff, ofJsonOr?_eq_some_iff]
      exact ⟨libraryPath, hlibrary, _, htimeout, _, hbatch, _, hbuffer, rfl⟩

theorem toJson?_eq_some_iff {s : Settings} {j : Json} :
    s.toJson? = some j ↔ ∃ libraryPath : Option String,
      s.libraryPath = libraryPath.map Path.ofText ∧
        .record fieldNames [toJson libraryPath, toJson s.defaultTimeoutMs,
          toJson s.readBatchSize, toJson s.rxBufferSize] = j := by
  simp [toJson?, Option.bind_eq_some_iff, mapM_text?_eq_some_iff]

theorem denotes_of_toJson? {s : Settings} {j : Json} (h : s.toJson? = some j) : Denotes j s := by
  obtain ⟨libraryPath, hpath, rfl⟩ := toJson?_eq_some_iff.1 h
  refine ⟨libraryPath, hpath, Json.isRecord_record ?_ ?_⟩
  · simp [fields]
  · simp [fields, denotes_toJson]

end Settings

/-! ## All models -/

/-- What is written is read back as it was. A JSON value is read as a value that it stands for, and
if it stands for none it is not read at all. Whatever was read, the form in which it is written is
read as the same value and written as it is. -/
structure Lossless (α : Type) [JsonForm α] [JsonMeaning α] : Prop where
  reads_back : ∀ a : α, ofJson? (toJson a) = some a
  reads : ∀ (j : Json) (a : α), ofJson? j = some a ↔ Denotes j a
  normalises : ∀ (j : Json) (a : α), ofJson? j = some a →
    ofJson? (toJson a) = some a ∧ (ofJson? (toJson a) : Option α).map toJson = some (toJson a)

theorem Lossless.of_lawful [JsonForm α] [JsonMeaning α] [LawfulJsonForm α] : Lossless α where
  reads_back := ofJson?_toJson
  reads _ _ := ofJson?_eq_some_iff
  normalises _ a _ := ⟨ofJson?_toJson a, congrArg (Option.map toJson) (ofJson?_toJson a)⟩

/-- What holds of the settings. They have a form exactly if the path in them, if there is one, is
that of a text; all that are read have. -/
structure Settings.Lossless : Prop where
  writes : ∀ s : Settings, (∃ j, s.toJson? = some j) ↔
    ∀ path, s.libraryPath = some path → ∃ text, path = Path.ofText text
  reads_back : ∀ (s : Settings) (j : Json), s.toJson? = some j → Settings.ofJson? j = some s
  reads : ∀ (j : Json) (s : Settings), Settings.ofJson? j = some s ↔ Denotes j s
  normalises : ∀ (j : Json) (s : Settings), Settings.ofJson? j = some s →
    ∃ written, s.toJson? = some written ∧ Settings.ofJson? written = some s ∧
      (Settings.ofJson? written).bind Settings.toJson? = some written

theorem Settings.lossless : Settings.Lossless where
  writes s := by
    constructor
    · rintro ⟨j, h⟩ path hpath
      obtain ⟨text, htext, -⟩ := toJson?_eq_some_iff.1 h
      obtain ⟨text, rfl, rfl⟩ := Option.map_eq_some_iff.1 (htext.symm.trans hpath)
      exact ⟨text, rfl⟩
    · intro h
      cases hpath : s.libraryPath with
      | none => exact ⟨_, toJson?_eq_some_iff.2 ⟨none, hpath, rfl⟩⟩
      | some path =>
        obtain ⟨text, rfl⟩ := h path hpath
        exact ⟨_, toJson?_eq_some_iff.2 ⟨some text, hpath, rfl⟩⟩
  reads_back s j h := ofJson?_eq_some_iff.2 (denotes_of_toJson? h)
  reads _ _ := ofJson?_eq_some_iff
  normalises j s h := by
    obtain ⟨libraryPath, hpath, -⟩ := ofJson?_eq_some_iff.1 h
    have hwritten := toJson?_eq_some_iff.2 ⟨libraryPath, hpath, rfl⟩
    have hread := ofJson?_eq_some_iff.2 (denotes_of_toJson? hwritten)
    exact ⟨_, hwritten, hread, by rw [hread, Option.bind_some, hwritten]⟩

/-- **Lossless forms.** Every device, resource, channel set, message, set of versions, parameter,
channel descriptor, handle and constant is read back from its JSON form as it was, and so are all
settings that have one: those without a library path and those whose path is the bytes of a text.
Each is read from exactly the JSON values that stand for it: a record from an object with its fields
and any others or from an array of them in order, the settings also where fields are missing, a
constant from its name or from an object with `null` under it, a number from a whole number within
its bounds. The form that is written for what was read is kept from then on. -/
theorem json_lossless :
    (Lossless Device ∧ Lossless Resource ∧ Lossless ChannelSet ∧ Lossless Message ∧
      Lossless VersionInfo ∧ Lossless Setting ∧ Lossless Descriptor ∧ Settings.Lossless) ∧
    (Lossless DeviceId ∧ Lossless ChannelId ∧ Lossless FilterId ∧ Lossless PeriodicMsgId) ∧
    Lossless Protocol ∧ Lossless Ioctl ∧ Lossless FilterType ∧ Lossless SelectType := by
  refine ⟨⟨?_, ?_, ?_, ?_, ?_, ?_, ?_, Settings.lossless⟩, ⟨?_, ?_, ?_, ?_⟩, ?_, ?_, ?_, ?_⟩
  all_goals exact .of_lawful

/-- A path in which there is a byte that no text has leaves the settings without a form. -/
theorem settings_without_form :
    let s : Settings := { libraryPath := some ⟨[0x2F, 0xFF]⟩ }
    s.toJson?.bind Settings.ofJson? ≠ some s := by
  decide

/-- An array that ends early leaves the rest of the settings as they are by default. -/
example : Settings.ofJson? (.array [.null, .int 5]) = some { defaultTimeoutMs := 5 } :=
  rfl

end PassThru
