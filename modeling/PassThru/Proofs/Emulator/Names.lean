import PassThru.Proofs.Emulator.Run
import PassThru.Proofs.Native.RoundTrip

/-!
# Names of interfaces

A scanned device is delivered with its name in a field of eighty bytes. Every name that the library
knows fits there: the numbered ones are short, and registering any other checks it first.

* `names_of_ascii`: a short text of plain characters fits.
* `State.Named`: all names of interfaces and of scanned devices fit.
* `named_run`: this holds in every run.
-/

namespace PassThru

/-! ## Numbered names -/

/-- A text of plain characters is as long in UTF-8 as it has characters. -/
theorem utf8ByteSize_of_ascii {text : String} (h : ∀ c ∈ text.toList, c.val ≤ 127) :
    text.utf8ByteSize = text.toList.length := by
  have hbytes : ∀ chars : List Char, (∀ c ∈ chars, c.val ≤ 127) →
      (chars.flatMap String.utf8EncodeChar).length = chars.length := by
    intro chars
    induction chars with
    | nil => intro _; rfl
    | cons c chars ih =>
      intro hall
      obtain ⟨hc, hrest⟩ := List.forall_mem_cons.1 hall
      have hone : (String.utf8EncodeChar c).length = 1 := by
        rw [String.length_utf8EncodeChar]
        exact if_pos hc
      rw [List.flatMap_cons, List.length_append, hone, ih hrest, List.length_cons, Nat.add_comm]
  rw [← Utf8.length_encode]
  exact hbytes _ h

theorem names_of_ascii {text : String} (hplain : ∀ c ∈ text.toList, c ≠ '\x00' ∧ c.val ≤ 127)
    (hlength : text.toList.length ≤ 79) : Names text := by
  refine ⟨fun hnul => (hplain _ hnul).1 rfl, ?_⟩
  rw [utf8ByteSize_of_ascii fun c hc => (hplain c hc).2]
  exact hlength

theorem toList_numbered (n : Nat) :
    ("passthru-" ++ toString n).toList = "passthru-".toList ++ Nat.toDigits 10 n := by
  rw [String.toList_append, Nat.toString_eq_repr, Nat.toList_repr]

/-- The name of a numbered interface has plain characters. -/
theorem plain_numbered (n : Nat) :
    ∀ c ∈ ("passthru-" ++ toString n).toList, c ≠ '\x00' ∧ c.val ≤ 127 := by
  intro c hc
  rw [toList_numbered, List.mem_append] at hc
  rcases hc with hc | hc
  · have hall : ∀ c ∈ "passthru-".toList, c ≠ '\x00' ∧ c.val ≤ 127 := by simp
    exact hall c hc
  · have hdigit := Nat.isDigit_of_mem_toDigits (by decide) (by decide) hc
    simp only [Char.isDigit, Bool.and_eq_true, decide_eq_true_eq] at hdigit
    constructor
    · rintro rfl
      exact absurd hdigit.1 (by decide)
    · exact UInt32.le_trans hdigit.2 (by decide)

/-- It is short enough, as long as the number fits 64 bits. -/
theorem names_numbered {n : Nat} (h : n < UInt64.size) : Names ("passthru-" ++ toString n) := by
  have hdigits : (Nat.toDigits 10 n).length ≤ 70 :=
    (Nat.length_toDigits_le_iff (by decide) (by decide)).2 (Nat.lt_trans h (by decide))
  have hprefix : "passthru-".toList.length = 9 := by decide
  refine names_of_ascii (plain_numbered n) ?_
  rw [toList_numbered, List.length_append]
  omega

theorem names_of_encode {field text : String} {bytes : List UInt8}
    (h : Field.encode field text = .ok bytes) : Names text := by
  by_cases hnames : Names text
  · exact hnames
  · rw [Field.encode_of_not_names field hnames] at h
    cases h

namespace Emulator

/-! ## Names that the library knows -/

/-- The names of the interfaces and of the scanned devices fit their field. -/
structure State.Named (s : State) : Prop where
  registry : ∀ interface ∈ s.registry, Names interface.name
  scan : ∀ devices, s.scan = some devices → ∀ device ∈ devices, Names device.name

theorem named_start {n : Nat} (h : n < UInt64.size) : (State.start n).Named where
  registry interface hmem := by
    obtain ⟨i, hi, rfl⟩ := List.mem_map.1 hmem
    have := List.mem_range.1 hi
    exact names_numbered (by omega)
  scan devices hscan := by cases hscan

variable {s s' : State}

theorem State.Named.of_same (hs : s.Named) (hregistry : s'.registry = s.registry)
    (hscan : s'.scan = s.scan) : s'.Named where
  registry := by
    rw [hregistry]
    exact hs.registry
  scan := by
    rw [hscan]
    exact hs.scan

theorem Step.named (h : Step s s') (hs : s.Named) : s'.Named := by
  cases h with
  | registered interface field hencodes =>
    refine ⟨fun other hmem => ?_, hs.scan⟩
    rcases List.mem_append.1 hmem with hmem | hmem
    · exact hs.registry other (List.mem_filter.1 hmem).1
    · obtain rfl := List.mem_singleton.1 hmem
      exact names_of_encode hencodes
  | unplugged name =>
    refine ⟨fun other hmem => ?_, hs.scan⟩
    obtain ⟨interface, hinterface, rfl⟩ := List.mem_map.1 hmem
    have hsame : ∀ i : Interface,
        (if i.name == name then { i with connected := false } else i).name = i.name := by
      intro i
      split <;> rfl
    rw [hsame]
    exact hs.registry interface hinterface
  | scanned =>
    refine ⟨hs.registry, fun devices hscan device hmem => ?_⟩
    obtain rfl := Option.some.inj hscan
    obtain ⟨interface, hinterface, rfl⟩ := List.mem_map.1 hmem
    exact hs.registry interface hinterface
  | _ => exact hs.of_same rfl rfl

/-- Every name fits in every run, if 64 bits can count the interfaces that it starts with. -/
theorem named_run {w : Width} {n : Nat} (h : n < UInt64.size) (events : List (Event w)) :
    ((State.start n).run events).Named :=
  (steps_run _ events).invariant Step.named (named_start h)

theorem State.Named.nextDevice (hs : s.Named) {device : Device} (h : s.nextDevice = .ok device) :
    Names device.name := by
  unfold State.nextDevice at h
  split at h
  · cases h
  · next devices hscan =>
    split at h
    · cases h
    · split at h
      · next found hfound =>
        cases h
        exact hs.scan devices hscan device (List.mem_of_getElem? hfound)
      · cases h

theorem State.Named.encode_nextDevice (hs : s.Named) {device : Device}
    (h : s.nextDevice = .ok device) (w : Width) :
    ∃ native : NativeDevice w, device.encode = .ok native := by
  obtain ⟨native, hencode, -⟩ := device_roundTrip.encodes device (hs.nextDevice h)
  exact ⟨native, hencode⟩

end Emulator

end PassThru
