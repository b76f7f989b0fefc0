import PassThru.Text.Utf8

/-!
# Reading back what was written

The bytes of a text are those of its characters in a row, and reading takes them apart again:
whatever follows the bytes of a character, the character is read off in front of it
(`decodeFrom_encodeChar`).

* `decodeLossy_encode`: a text that was written is read as it was.
* `zero_mem_encode_iff`: its bytes hold a NUL exactly if it has the character NUL.
* `length_encode`: there are as many bytes as the text is long in UTF-8.
-/

namespace PassThru.Utf8

/-! ## One character -/

theorem toNat_ofNat_of_lt {n : Nat} (h : n < 256) : (UInt8.ofNat n).toNat = n :=
  UInt8.toNat_ofNat_of_lt' h

theorem isContinuation_ofNat {n : Nat} (h : n < 64) :
    isContinuation (UInt8.ofNat (n + 128)) = true := by
  have hn := toNat_ofNat_of_lt (n := n + 128) (by omega)
  unfold isContinuation
  rw [Bool.and_eq_true, decide_eq_true_eq, decide_eq_true_eq, UInt8.le_iff_toNat_le,
    UInt8.le_iff_toNat_le, hn]
  exact ⟨Nat.le_add_left _ _, show n + 128 ≤ 191 by omega⟩

/-- What a lead byte of that value announces. -/
def leadOf (n : Nat) : Lead :=
  if n ≤ 0xDF then ⟨0x80, 0xBF, 0⟩
  else if n = 0xE0 then ⟨0xA0, 0xBF, 1⟩
  else if n = 0xED then ⟨0x80, 0x9F, 1⟩
  else if n ≤ 0xEF then ⟨0x80, 0xBF, 1⟩
  else if n = 0xF0 then ⟨0x90, 0xBF, 2⟩
  else if n ≤ 0xF3 then ⟨0x80, 0xBF, 2⟩
  else ⟨0x80, 0x8F, 2⟩

theorem lead?_eq {a : UInt8} (h : 0xC2 ≤ a.toNat ∧ a.toNat ≤ 0xF4) :
    ¬ a < 0x80 ∧ lead? a = some (leadOf a.toNat) := by
  unfold lead? leadOf
  simp only [UInt8.lt_iff_toNat_lt, UInt8.le_iff_toNat_le, ← UInt8.toNat_inj, UInt8.reduceToNat]
  refine ⟨by omega, ?_⟩
  rw [if_neg (by omega)]
  repeat' split
  all_goals first | rfl | omega

theorem Lead.allows_iff {lead : Lead} {b : UInt8} :
    lead.allows b = true ↔ lead.low.toNat ≤ b.toNat ∧ b.toNat ≤ lead.high.toNat := by
  unfold allows
  rw [Bool.and_eq_true, decide_eq_true_eq, decide_eq_true_eq, UInt8.le_iff_toNat_le,
    UInt8.le_iff_toNat_le]

section Next

variable {a b c d : UInt8} {lead : Lead} (rest : List UInt8) (hascii : ¬ a < 0x80)
  (hlead : lead? a = some lead) (hallows : lead.allows b = true)

include hascii hlead hallows

theorem next_two (hfurther : lead.further = 0) :
    next a (b :: rest) = (some (char2 a b), 1) := by
  simp [next, hascii, hlead, hallows, hfurther]

theorem next_three (hfurther : lead.further = 1) (hc : isContinuation c = true) :
    next a (b :: c :: rest) = (some (char3 a b c), 2) := by
  simp [next, hascii, hlead, hallows, hfurther, hc]

theorem next_four (hfurther : lead.further = 2) (hc : isContinuation c = true)
    (hd : isContinuation d = true) :
    next a (b :: c :: d :: rest) = (some (char4 a b c d), 3) := by
  simp [next, hascii, hlead, hallows, hfurther, hc, hd]

end Next

/-! ### The four lengths -/

section Lengths

variable {v : Nat} (rest : List UInt8)

theorem decodeFrom_one (h : v < 0x80) :
    decodeFrom 0 (UInt8.ofNat v :: rest) = Char.ofNat v :: decodeFrom 0 rest := by
  have hv := toNat_ofNat_of_lt (n := v) (by omega)
  have hascii : UInt8.ofNat v < 0x80 := by
    rw [UInt8.lt_iff_toNat_lt, hv]
    exact h
  rw [decodeFrom, next, if_pos hascii, hv]
  rfl

theorem decodeFrom_two (h : 0x80 ≤ v ∧ v ≤ 0x7FF) :
    decodeFrom 0 (UInt8.ofNat (v / 64 % 32 + 192) :: UInt8.ofNat (v % 64 + 128) :: rest) =
      Char.ofNat v :: decodeFrom 0 rest := by
  have ha := toNat_ofNat_of_lt (n := v / 64 % 32 + 192) (by omega)
  have hb := toNat_ofNat_of_lt (n := v % 64 + 128) (by omega)
  generalize UInt8.ofNat (v / 64 % 32 + 192) = a at ha ⊢
  generalize UInt8.ofNat (v % 64 + 128) = b at hb ⊢
  obtain ⟨hascii, hlead⟩ := lead?_eq (a := a) (by omega)
  have hallows : (leadOf a.toNat).allows b = true := by
    rw [Lead.allows_iff, ha, hb, leadOf, if_pos (by omega)]
    simp only [UInt8.reduceToNat]
    omega
  have hfurther : (leadOf a.toNat).further = 0 := by
    rw [ha, leadOf, if_pos (by omega)]
  have hvalue : char2 a b = Char.ofNat v := by
    unfold char2
    rw [ha, hb]
    exact congrArg Char.ofNat (by omega)
  rw [decodeFrom, next_two rest hascii hlead hallows hfurther, hvalue]
  rfl

/-- Three bytes are read if the value is not one of a shorter form and no surrogate. -/
theorem decodeFrom_three (h : 0x800 ≤ v ∧ v ≤ 0xFFFF) (hscalar : v < 0xD800 ∨ 0xDFFF < v) :
    decodeFrom 0 (UInt8.ofNat (v / 4096 % 16 + 224) :: UInt8.ofNat (v / 64 % 64 + 128) ::
        UInt8.ofNat (v % 64 + 128) :: rest) =
      Char.ofNat v :: decodeFrom 0 rest := by
  have ha := toNat_ofNat_of_lt (n := v / 4096 % 16 + 224) (by omega)
  have hb := toNat_ofNat_of_lt (n := v / 64 % 64 + 128) (by omega)
  have hc := toNat_ofNat_of_lt (n := v % 64 + 128) (by omega)
  have hcontinues := isContinuation_ofNat (n := v % 64) (by omega)
  generalize UInt8.ofNat (v / 4096 % 16 + 224) = a at ha ⊢
  generalize UInt8.ofNat (v / 64 % 64 + 128) = b at hb ⊢
  generalize UInt8.ofNat (v % 64 + 128) = c at hc hcontinues ⊢
  obtain ⟨hascii, hlead⟩ := lead?_eq (a := a) (by omega)
  have hallows : (leadOf a.toNat).allows b = true := by
    rw [Lead.allows_iff, ha, hb, leadOf]
    repeat' split
    all_goals simp only [UInt8.reduceToNat]; omega
  have hfurther : (leadOf a.toNat).further = 1 := by
    rw [ha, leadOf]
    repeat' split
    all_goals first | rfl | omega
  have hvalue : char3 a b c = Char.ofNat v := by
    unfold char3
    rw [ha, hb, hc]
    exact congrArg Char.ofNat (by omega)
  rw [decodeFrom, next_three rest hascii hlead hallows hfurther hcontinues, hvalue]
  rfl

/-- Four bytes are read if the value is not one of a shorter form and not above the largest. -/
theorem decodeFrom_four (h : 0x10000 ≤ v ∧ v < 0x110000) :
    decodeFrom 0 (UInt8.ofNat (v / 262144 % 8 + 240) :: UInt8.ofNat (v / 4096 % 64 + 128) ::
        UInt8.ofNat (v / 64 % 64 + 128) :: UInt8.ofNat (v % 64 + 128) :: rest) =
      Char.ofNat v :: decodeFrom 0 rest := by
  have ha := toNat_ofNat_of_lt (n := v / 262144 % 8 + 240) (by omega)
  have hb := toNat_ofNat_of_lt (n := v / 4096 % 64 + 128) (by omega)
  have hc := toNat_ofNat_of_lt (n := v / 64 % 64 + 128) (by omega)
  have hd := toNat_ofNat_of_lt (n := v % 64 + 128) (by omega)
  have hthird := isContinuation_ofNat (n := v / 64 % 64) (by omega)
  have hfourth := isContinuation_ofNat (n := v % 64) (by omega)
  generalize UInt8.ofNat (v / 262144 % 8 + 240) = a at ha ⊢
  generalize UInt8.ofNat (v / 4096 % 64 + 128) = b at hb ⊢
  generalize UInt8.ofNat (v / 64 % 64 + 128) = c at hc hthird ⊢
  generalize UInt8.ofNat (v % 64 + 128) = d at hd hfourth ⊢
  obtain ⟨hascii, hlead⟩ := lead?_eq (a := a) (by omega)
  have hallows : (leadOf a.toNat).allows b = true := by
    rw [Lead.allows_iff, ha, hb, leadOf]
    repeat' split
    all_goals simp only [UInt8.reduceToNat]; omega
  have hfurther : (leadOf a.toNat).further = 2 := by
    rw [ha, leadOf]
    repeat' split
    all_goals first | rfl | omega
  have hvalue : char4 a b c d = Char.ofNat v := by
    unfold char4
    rw [ha, hb, hc, hd]
    exact congrArg Char.ofNat (by omega)
  rw [decodeFrom, next_four rest hascii hlead hallows hfurther hthird hfourth, hvalue]
  rfl

end Lengths

/-- Whatever follows the bytes of a character, the character is read off in front of it. -/
theorem decodeFrom_encodeChar (c : Char) (rest : List UInt8) :
    decodeFrom 0 (String.utf8EncodeChar c ++ rest) = c :: decodeFrom 0 rest := by
  have hchar : Char.ofNat c.val.toNat = c := Char.ofNat_toNat c
  have hscalar : c.val.toNat < 0xD800 ∨ (0xDFFF < c.val.toNat ∧ c.val.toNat < 0x110000) := c.valid
  unfold String.utf8EncodeChar
  rw [← congrArg (· :: decodeFrom 0 rest) hchar]
  generalize c.val.toNat = v at hscalar
  dsimp only
  split
  · exact decodeFrom_one rest (by omega)
  · split
    · exact decodeFrom_two rest (by omega)
    · split
      · exact decodeFrom_three rest (by omega) (by omega)
      · exact decodeFrom_four rest (by omega)

theorem zero_eq_ofNat_iff {n : Nat} (h : n < 256) : 0 = UInt8.ofNat n ↔ n = 0 := by
  rw [← UInt8.toNat_inj, toNat_ofNat_of_lt h]
  exact eq_comm

theorem zero_mem_encodeChar_iff (c : Char) : 0 ∈ String.utf8EncodeChar c ↔ c = '\x00' := by
  have hnul : c = '\x00' ↔ c.val.toNat = 0 := by
    rw [Char.ext_iff, ← UInt32.toNat_inj]
    rfl
  rw [hnul]
  unfold String.utf8EncodeChar
  generalize c.val.toNat = v
  dsimp only
  split
  · rw [List.mem_singleton, zero_eq_ofNat_iff (by omega)]
  · -- all other bytes are at least 128
    refine iff_of_false (fun hmem => ?_) (by omega)
    split at hmem
    · rw [List.mem_cons, List.mem_singleton, zero_eq_ofNat_iff (by omega),
        zero_eq_ofNat_iff (by omega)] at hmem
      omega
    · split at hmem
      · rw [List.mem_cons, List.mem_cons, List.mem_singleton, zero_eq_ofNat_iff (by omega),
          zero_eq_ofNat_iff (by omega), zero_eq_ofNat_iff (by omega)] at hmem
        omega
      · rw [List.mem_cons, List.mem_cons, List.mem_cons, List.mem_singleton,
          zero_eq_ofNat_iff (by omega), zero_eq_ofNat_iff (by omega),
          zero_eq_ofNat_iff (by omega), zero_eq_ofNat_iff (by omega)] at hmem
        omega

/-! ## Texts -/

theorem decodeFrom_flatMap_append (chars : List Char) (rest : List UInt8) :
    decodeFrom 0 (chars.flatMap String.utf8EncodeChar ++ rest) = chars ++ decodeFrom 0 rest := by
  induction chars with
  | nil => rfl
  | cons c chars ih =>
    rw [List.flatMap_cons, List.append_assoc, decodeFrom_encodeChar, ih, List.cons_append]

theorem decodeChars_flatMap (chars : List Char) :
    decodeChars (chars.flatMap String.utf8EncodeChar) = chars := by
  have hread := decodeFrom_flatMap_append chars []
  rwa [List.append_nil, decodeFrom, List.append_nil] at hread

theorem decodeLossy_encode (s : String) : decodeLossy (encode s) = s := by
  unfold decodeLossy encode
  rw [decodeChars_flatMap, String.ofList_toList]

theorem zero_mem_encode_iff (s : String) : 0 ∈ encode s ↔ '\x00' ∈ s.toList := by
  unfold encode
  simp only [List.mem_flatMap, zero_mem_encodeChar_iff, exists_eq_right]

theorem length_encode (s : String) : (encode s).length = s.utf8ByteSize := by
  have hbytes : (encode s).toByteArray = s.toByteArray := String.utf8Encode_toList
  rw [← String.size_toByteArray, ← hbytes, List.size_toByteArray]

end PassThru.Utf8
