import PassThru.Proofs.Native.RoundTrip
import PassThru.Proofs.Text.Sequences

/-!
# Reading any bytes

A text field may hold any bytes. Where they are characters these are read, and where no character
can be read one replacement character stands for the bytes that are passed over: a single byte, or
as many as some character's bytes begin with.

`Lossy` says what that reading is, stretch by stretch and without the machine that does it.

* `broken_of_next`: where the machine gives up, it passes over exactly the broken bytes.
* `lossy_iff`: the machine gives what `Lossy` says, and nothing else.
* `zero_mem_of_lossy`: a NUL that is read was there.
* `names_read_lossily`: the text of a field, and what happens when it is written again.
-/

namespace PassThru.Utf8

/-! ## Broken bytes -/

/-- The bytes that one replacement character stands for, with what follows them: no character can be
read there, and they are a single byte or the longest run that some character's bytes begin with. -/
structure Broken (bad rest : List UInt8) : Prop where
  unreadable : ∀ c, ¬ String.utf8EncodeChar c <+: bad ++ rest
  ne_nil : bad ≠ []
  begins : bad.length = 1 ∨ Begins bad
  longest : ∀ front, front <+: bad ++ rest → Begins front → front.length ≤ bad.length

theorem Broken.length_le {bad rest bad' rest' : List UInt8} (h : Broken bad rest)
    (h' : Broken bad' rest') (hbytes : bad ++ rest = bad' ++ rest') :
    bad.length ≤ bad'.length := by
  rcases h.begins with hone | hbegins
  · rw [hone]
    exact List.length_pos_iff.2 h'.ne_nil
  · exact h'.longest bad (hbytes ▸ List.prefix_append bad rest) hbegins

/-- There is one way only to tell the broken bytes from what follows. -/
theorem Broken.unique {bad rest bad' rest' : List UInt8} (h : Broken bad rest)
    (h' : Broken bad' rest') (hbytes : bad ++ rest = bad' ++ rest') : bad = bad' ∧ rest = rest' :=
  List.append_inj hbytes
    (Nat.le_antisymm (h.length_le h' hbytes) (h'.length_le h hbytes.symm))

theorem Begins.front {front bytes : List UInt8} (h : front <+: bytes) (hbegins : Begins bytes) :
    Begins front :=
  let ⟨c, hc⟩ := hbegins
  ⟨c, h.trans hc⟩

/-- Bytes are broken if no more of them can begin a character and none is complete among them. -/
theorem Broken.of_stuck {bad rest : List UInt8} (hne : bad ≠ [])
    (hbegins : bad.length = 1 ∨ Begins bad)
    (hincomplete : ∀ c, ¬ String.utf8EncodeChar c <+: bad)
    (hstuck : ∀ b after, rest = b :: after → ¬ Begins (bad ++ [b])) : Broken bad rest := by
  have hlongest : ∀ front, front <+: bad ++ rest → Begins front → front.length ≤ bad.length := by
    intro front hfront hbegins
    refine Nat.not_lt.1 fun hlong => ?_
    cases rest with
    | nil =>
      have hle := hfront.length_le
      rw [List.append_nil] at hle
      omega
    | cons b after =>
      -- whatever is longer has one byte more than `bad` in front
      have hmore : bad ++ [b] <+: bad ++ b :: after := by
        rw [List.prefix_append_right_inj]
        exact List.prefix_append [b] after
      have hfrontmore : bad ++ [b] <+: front :=
        List.prefix_of_prefix_length_le hmore hfront (by rw [List.length_append]; exact hlong)
      exact hstuck b after rfl (hbegins.front hfrontmore)
  refine ⟨fun c hc => hincomplete c ?_, hne, hbegins, hlongest⟩
  exact List.prefix_of_prefix_length_le hc (List.prefix_append bad rest)
    (hlongest _ hc ⟨c, List.prefix_rfl⟩)

/-- A character whose bytes begin by a lead byte has all the bytes that this announces. -/
theorem length_encodeChar_of_lead {a : UInt8} {lead : Lead} (h : lead? a = some lead) {c : Char}
    {bytes : List UInt8} (hc : String.utf8EncodeChar c = a :: bytes) :
    bytes.length = lead.further + 1 := by
  have hsequence := sequence_encodeChar c
  rw [hc] at hsequence
  cases hsequence with
  | ascii hlow => exact absurd hlow (not_ascii_of_lead? h)
  | led hlead hadmits hlength =>
    rw [h] at hlead
    cases hlead
    exact hlength

/-- Where the machine gives up, it passes over the broken bytes. -/
theorem broken_of_next {a : UInt8} {rest : List UInt8} {k : Nat} (h : next a rest = (none, k)) :
    Broken (a :: rest.take k) (rest.drop k) := by
  have hascii : ¬ a < 0x80 := by
    intro hlow
    unfold next at h
    rw [if_pos hlow] at h
    cases h
  cases hlead : lead? a with
  | none =>
    unfold next at h
    rw [if_neg hascii, hlead] at h
    obtain rfl : 0 = k := (Prod.mk.inj h).2
    have hnot := not_begins_of_lead?_eq_none hascii hlead
    rw [List.take_zero, List.drop_zero]
    refine .of_stuck (List.cons_ne_nil _ _) (.inl rfl) (fun c hc => ?_) fun b after _ => hnot [b]
    cases hbytes : String.utf8EncodeChar c with
    | nil => exact String.utf8EncodeChar_ne_nil hbytes
    | cons b bytes =>
      rw [hbytes, List.cons_prefix_cons] at hc
      obtain rfl := hc.1
      exact hnot bytes ⟨c, hbytes ▸ List.prefix_rfl⟩
  | some lead =>
    obtain ⟨n, hn, hadmits, hwhole | ⟨hcount, hstuck, hnext⟩⟩ := next_of_lead hlead rest
    · obtain ⟨-, c, hnext⟩ := hwhole
      rw [h] at hnext
      cases hnext
    · rw [h] at hnext
      cases hnext
      have hlength : (rest.take k).length = k := by rw [List.length_take, Nat.min_eq_left hn]
      refine .of_stuck (List.cons_ne_nil _ _) (.inr ?_) (fun c hc => ?_) fun b after hrest => ?_
      · rw [begins_iff_of_lead hlead, hlength]
        exact ⟨hadmits, Nat.le_succ_of_le hcount⟩
      · cases hbytes : String.utf8EncodeChar c with
        | nil => exact String.utf8EncodeChar_ne_nil hbytes
        | cons b bytes =>
          rw [hbytes, List.cons_prefix_cons] at hc
          obtain ⟨rfl, hc⟩ := hc
          have hwhole := length_encodeChar_of_lead hlead hbytes
          have hle := hc.length_le
          omega
      · rw [List.cons_append, begins_iff_of_lead hlead, hstuck b after hrest]
        exact fun hbegins => absurd hbegins.1 Bool.false_ne_true

theorem decodeFrom_broken {bad rest : List UInt8} (h : Broken bad rest) :
    decodeFrom 0 (bad ++ rest) = replacement :: decodeFrom 0 rest := by
  obtain ⟨a, more, rfl⟩ := List.exists_cons_of_ne_nil h.ne_nil
  rw [List.cons_append, decodeFrom]
  rcases hnext : next a (more ++ rest) with ⟨found, k⟩
  cases found with
  | some c =>
    refine absurd ?_ (h.unreadable c)
    rw [encodeChar_of_next hnext, List.cons_append, List.cons_prefix_cons]
    exact ⟨rfl, List.take_prefix _ _⟩
  | none =>
    have hsplit : a :: more ++ rest =
        a :: (more ++ rest).take k ++ (more ++ rest).drop k := by
      rw [List.cons_append, List.cons_append, List.take_append_drop]
    have hrest := (h.unique (broken_of_next hnext) hsplit).2
    rw [decodeFrom_eq_drop, ← hrest]
    rfl

/-! ## The reading -/

/-- What any bytes are read as: whole characters as far as they go, one replacement character for
the broken bytes behind them, and so on with the rest. -/
inductive Lossy : List UInt8 → List Char → Prop
  | valid (chars : List Char) : Lossy (chars.flatMap String.utf8EncodeChar) chars
  | broken (chars : List Char) {bad rest : List UInt8} {later : List Char} (h : Broken bad rest)
      (hrest : Lossy rest later) :
      Lossy (chars.flatMap String.utf8EncodeChar ++ (bad ++ rest)) (chars ++ replacement :: later)

theorem Lossy.decodeChars_eq {bytes : List UInt8} {chars : List Char} (h : Lossy bytes chars) :
    decodeChars bytes = chars := by
  unfold decodeChars
  induction h with
  | valid chars => exact decodeChars_flatMap chars
  | broken chars h _ ih => rw [decodeFrom_flatMap_append, decodeFrom_broken h, ih]

/-- A character in front belongs to the first stretch. -/
theorem Lossy.cons {bytes : List UInt8} {chars : List Char} (c : Char) (h : Lossy bytes chars) :
    Lossy (String.utf8EncodeChar c ++ bytes) (c :: chars) := by
  cases h with
  | valid chars => exact .valid (c :: chars)
  | broken chars h hrest =>
    rw [← List.append_assoc]
    exact .broken (c :: chars) h hrest

/-- The machine gives what the reading is, from wherever it starts. -/
theorem lossy_decodeFrom (skip : Nat) (bytes : List UInt8) :
    Lossy (bytes.drop skip) (decodeFrom skip bytes) := by
  induction bytes generalizing skip with
  | nil =>
    rw [List.drop_nil, decodeFrom]
    exact .valid []
  | cons a rest ih =>
    cases skip with
    | succ skip =>
      rw [List.drop_succ_cons, decodeFrom]
      exact ih skip
    | zero =>
      rw [List.drop_zero, decodeFrom]
      rcases hnext : next a rest with ⟨found, k⟩
      have hrest := ih k
      cases found with
      | some c =>
        have hbytes : a :: rest = String.utf8EncodeChar c ++ rest.drop k := by
          rw [encodeChar_of_next hnext, List.cons_append, List.take_append_drop]
        rw [hbytes]
        exact hrest.cons c
      | none =>
        have hbytes : a :: rest = a :: rest.take k ++ rest.drop k := by
          rw [List.cons_append, List.take_append_drop]
        rw [hbytes]
        exact .broken [] (broken_of_next hnext) hrest

/-- The machine gives the reading of any bytes, which is the only one. -/
theorem lossy_iff {bytes : List UInt8} {chars : List Char} :
    Lossy bytes chars ↔ decodeChars bytes = chars :=
  ⟨Lossy.decodeChars_eq, fun h => h ▸ lossy_decodeFrom 0 bytes⟩

theorem zero_mem_of_lossy {bytes : List UInt8} {chars : List Char} (h : Lossy bytes chars)
    (hnul : '\x00' ∈ chars) : 0 ∈ bytes := by
  have hvalid : ∀ {chars : List Char}, '\x00' ∈ chars →
      0 ∈ chars.flatMap String.utf8EncodeChar := fun hmem =>
    List.mem_flatMap.2 ⟨_, hmem, (zero_mem_encodeChar_iff _).2 rfl⟩
  induction h with
  | valid chars => exact hvalid hnul
  | broken chars h _ ih =>
    rcases List.mem_append.1 hnul with hchars | hlater
    · exact List.mem_append_left _ (hvalid hchars)
    · rcases List.mem_cons.1 hlater with hreplacement | hlater
      · exact absurd hreplacement (by decide)
      · exact List.mem_append_right _ (List.mem_append_right _ (ih hlater))

end PassThru.Utf8

/-! ## Text fields -/

namespace PassThru

namespace Field

theorem zero_not_mem_content (field : List UInt8) : 0 ∉ content field := by
  intro hmem
  have hne := List.all_eq_true.1 List.all_takeWhile (0 : UInt8) hmem
  exact absurd hne (by decide)

theorem content_content_append (field rest : List UInt8) :
    content (content field ++ 0 :: rest) = content field := by
  have hne : ∀ b ∈ content field, (b != 0) = true := List.all_eq_true.1 List.all_takeWhile
  unfold content at hne ⊢
  rw [List.takeWhile_append_of_pos hne, List.takeWhile_cons_of_neg (by decide), List.append_nil]

theorem toList_decode (field : List UInt8) :
    (decode field).toList = Utf8.decodeChars (content field) := String.toList_ofList

theorem nul_not_mem_decode (field : List UInt8) : '\x00' ∉ (decode field).toList := by
  intro hnul
  rw [toList_decode] at hnul
  exact zero_not_mem_content field (Utf8.zero_mem_of_lossy (Utf8.lossy_iff.2 rfl) hnul)

end Field

/-- **Any field has a text.** The text of a field has no NUL and depends on the bytes in front of
the first NUL only. It is the text that these bytes are, if they are one; and in any case it is what
is read of them when each run of broken bytes counts as one replacement character. Such a text can
be written into a field again unless it is too long, and then reads as it was. -/
theorem names_read_lossily (field : List UInt8) :
    '\x00' ∉ (Field.decode field).toList ∧
      (∀ rest, Field.decode (Field.content field ++ 0 :: rest) = Field.decode field) ∧
      (∀ text, Utf8.encode text = Field.content field → Field.decode field = text) ∧
      (∀ chars, Utf8.Lossy (Field.content field) chars ↔ (Field.decode field).toList = chars) ∧
      ∀ name,
        (∀ e, Field.encode name (Field.decode field) = .error e ↔
          79 < (Field.decode field).utf8ByteSize ∧
            e = .valueTooLarge name 79 (Field.decode field).utf8ByteSize) ∧
        ∀ again, Field.encode name (Field.decode field) = .ok again →
          Field.decode again = Field.decode field := by
  have hnul := Field.nul_not_mem_decode field
  refine ⟨hnul, fun rest => ?_, fun text htext => ?_, fun chars => ?_, fun name => ?_⟩
  · unfold Field.decode
    rw [Field.content_content_append]
  · unfold Field.decode
    rw [← htext, Utf8.decodeLossy_encode]
  · rw [Utf8.lossy_iff, Field.toList_decode]
  · generalize Field.decode field = text at hnul
    by_cases hsize : text.utf8ByteSize ≤ 79
    · rw [Field.encode_of_names name ⟨hnul, hsize⟩]
      refine ⟨fun e => iff_of_false (fun h => by cases h) fun h => by omega, fun again h => ?_⟩
      cases h
      exact Field.decode_padded hnul _
    · rw [Field.encode_of_not_names name fun h => hsize h.2, if_neg hnul]
      refine ⟨fun e => ⟨fun h => ⟨Nat.not_le.1 hsize, (Except.error.inj h).symm⟩, ?_⟩,
        fun again h => by cases h⟩
      rintro ⟨-, rfl⟩
      rfl

/-- An overlong form and a surrogate begin no character; a sequence that is cut short does. -/
example :
    Field.decode [0x61, 0xC0, 0x80, 0xED, 0xA0, 0x80, 0xE2, 0x82, 0x62, 0x00, 0x63] =
      "a\uFFFD\uFFFD\uFFFD\uFFFD\uFFFD\uFFFDb" := by
  decide

end PassThru
