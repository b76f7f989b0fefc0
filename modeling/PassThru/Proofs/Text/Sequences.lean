import PassThru.Proofs.Text.Utf8

/-!
# The bytes of one character

A character is written as a single ASCII byte, or as a lead byte with the bytes that it announces
behind it. `Sequence` says so without naming the character, and it leaves nothing out: the
sequences are exactly the bytes of the characters (`sequence_iff`).

* `next_of_lead`: how far reading gets at a lead byte, and why it stops there.
* `encodeChar_of_next`: a character that is read is the one whose bytes stand there.
* `begins_iff_of_lead`: which bytes the bytes of a character can begin with.
-/

namespace PassThru.Utf8

/-! ## Lead bytes -/

theorem lead?_eq_some_iff {a : UInt8} {lead : Lead} :
    lead? a = some lead ↔ (0xC2 ≤ a.toNat ∧ a.toNat ≤ 0xF4) ∧ lead = leadOf a.toNat := by
  constructor
  · intro h
    have hrange : 0xC2 ≤ a.toNat ∧ a.toNat ≤ 0xF4 := by
      unfold lead? at h
      simp only [UInt8.lt_iff_toNat_lt, UInt8.le_iff_toNat_le, ← UInt8.toNat_inj,
        UInt8.reduceToNat] at h
      repeat' split at h
      all_goals first | omega | cases h
    refine ⟨hrange, ?_⟩
    rw [(lead?_eq hrange).2] at h
    exact (Option.some.inj h).symm
  · rintro ⟨hrange, rfl⟩
    exact (lead?_eq hrange).2

theorem not_ascii_of_lead? {a : UInt8} {lead : Lead} (h : lead? a = some lead) : ¬ a < 0x80 :=
  (lead?_eq (lead?_eq_some_iff.1 h).1).1

/-- A lead byte announces continuation bytes, and at most two after the first. -/
theorem lead_bounds {a : UInt8} {lead : Lead} (h : lead? a = some lead) :
    0x80 ≤ lead.low.toNat ∧ lead.low.toNat ≤ lead.high.toNat ∧ lead.high.toNat ≤ 0xBF ∧
      lead.further ≤ 2 := by
  obtain ⟨-, rfl⟩ := lead?_eq_some_iff.1 h
  unfold leadOf
  repeat' split
  all_goals decide

theorem isContinuation_iff {b : UInt8} :
    isContinuation b = true ↔ 0x80 ≤ b.toNat ∧ b.toNat ≤ 0xBF := by
  unfold isContinuation
  rw [Bool.and_eq_true, decide_eq_true_eq, decide_eq_true_eq, UInt8.le_iff_toNat_le,
    UInt8.le_iff_toNat_le]
  rfl

/-- Whether bytes may stand behind the lead byte, as far as they go. -/
def Lead.admits (lead : Lead) : List UInt8 → Bool
  | [] => true
  | b :: further => lead.allows b && further.all isContinuation

@[simp] theorem Lead.admits_nil (lead : Lead) : lead.admits [] = true := rfl

@[simp] theorem Lead.admits_cons (lead : Lead) (b : UInt8) (further : List UInt8) :
    lead.admits (b :: further) = (lead.allows b && further.all isContinuation) := rfl

/-- What is admitted is admitted as far as one looks. -/
theorem Lead.admits_front {lead : Lead} {front bytes : List UInt8} (h : front <+: bytes)
    (hadmits : lead.admits bytes = true) : lead.admits front = true := by
  obtain ⟨rest, rfl⟩ := h
  cases front with
  | nil => rfl
  | cons b further =>
    rw [List.cons_append, admits_cons, List.all_append] at hadmits
    rw [admits_cons]
    simp only [Bool.and_eq_true] at hadmits ⊢
    exact ⟨hadmits.1, hadmits.2.1⟩

theorem isContinuation_of_admits {a : UInt8} {lead : Lead} {bytes : List UInt8}
    (h : lead? a = some lead) (hadmits : lead.admits bytes = true) :
    ∀ b ∈ bytes, isContinuation b = true := by
  cases bytes with
  | nil => exact fun b hb => absurd hb List.not_mem_nil
  | cons b further =>
    obtain ⟨hlow, -, hhigh, -⟩ := lead_bounds h
    rw [Lead.admits_cons, Bool.and_eq_true, Lead.allows_iff, List.all_eq_true] at hadmits
    intro c hc
    rcases List.mem_cons.1 hc with rfl | hc
    · rw [isContinuation_iff]
      omega
    · exact hadmits.2 c hc

/-! ## How far reading gets -/

/-- At a lead byte reading gets as far as the bytes behind it are admitted: to the end of a
character, or to a byte that is not admitted, or to the last one. -/
theorem next_of_lead {a : UInt8} {lead : Lead} (h : lead? a = some lead) (rest : List UInt8) :
    ∃ k ≤ rest.length, lead.admits (rest.take k) = true ∧
      ((k = lead.further + 1 ∧ ∃ c, next a rest = (some c, k)) ∨
        (k ≤ lead.further ∧ (∀ b after, rest.drop k = b :: after →
          lead.admits (rest.take k ++ [b]) = false) ∧ next a rest = (none, k))) := by
  have hbound : lead.further ≤ 2 := (lead_bounds h).2.2.2
  unfold next
  rw [if_neg (not_ascii_of_lead? h), h]
  dsimp only
  match rest with
  | [] => exact ⟨0, Nat.le_refl _, rfl, .inr ⟨Nat.zero_le _, by simp, rfl⟩⟩
  | b :: rest =>
    by_cases hb : lead.allows b = true
    · by_cases hzero : lead.further = 0
      · exact ⟨1, by simp, by simp [hb], .inl ⟨by omega, char2 a b, by simp [hb, hzero]⟩⟩
      · match rest with
        | [] => exact ⟨1, by simp, by simp [hb], .inr ⟨by omega, by simp, by simp [hb, hzero]⟩⟩
        | c :: rest =>
          by_cases hc : isContinuation c = true
          · by_cases hone : lead.further = 1
            · exact ⟨2, by simp, by simp [hb, hc],
                .inl ⟨by omega, char3 a b c, by simp [hb, hone, hc]⟩⟩
            · match rest with
              | [] =>
                exact ⟨2, by simp, by simp [hb, hc],
                  .inr ⟨by omega, by simp, by simp [hb, hzero, hc, hone]⟩⟩
              | d :: rest =>
                by_cases hd : isContinuation d = true
                · exact ⟨3, by simp, by simp [hb, hc, hd],
                    .inl ⟨by omega, char4 a b c d, by simp [hb, hzero, hc, hone, hd]⟩⟩
                · exact ⟨2, by simp, by simp [hb, hc],
                    .inr ⟨by omega, by simp [hb, hc, hd], by simp [hb, hzero, hc, hone, hd]⟩⟩
          · exact ⟨1, by simp, by simp [hb],
              .inr ⟨by omega, by simp [hb, hc], by simp [hb, hzero, hc]⟩⟩
    · exact ⟨0, Nat.zero_le _, rfl, .inr ⟨Nat.zero_le _, by simp [hb], by simp [hb]⟩⟩

/-! ## Sequences are characters -/

/-- Bytes that are one character: an ASCII byte, or a lead byte with all that it announces. -/
inductive Sequence : List UInt8 → Prop
  | ascii {a : UInt8} (h : a < 0x80) : Sequence [a]
  | led {a : UInt8} {lead : Lead} {bytes : List UInt8} (hlead : lead? a = some lead)
      (hadmits : lead.admits bytes = true) (hlength : bytes.length = lead.further + 1) :
      Sequence (a :: bytes)

theorem encodeChar_ofNat {n : Nat} (h : n.isValidChar) :
    String.utf8EncodeChar (Char.ofNat n) =
      if n ≤ 0x7F then [UInt8.ofNat n]
      else if n ≤ 0x7FF then [UInt8.ofNat (n / 64 % 32 + 192), UInt8.ofNat (n % 64 + 128)]
      else if n ≤ 0xFFFF then
        [UInt8.ofNat (n / 4096 % 16 + 224), UInt8.ofNat (n / 64 % 64 + 128),
          UInt8.ofNat (n % 64 + 128)]
      else
        [UInt8.ofNat (n / 262144 % 8 + 240), UInt8.ofNat (n / 4096 % 64 + 128),
          UInt8.ofNat (n / 64 % 64 + 128), UInt8.ofNat (n % 64 + 128)] := by
  have hvalue : (Char.ofNat n).val.toNat = n := by
    unfold Char.ofNat
    rw [dif_pos h]
    rfl
  unfold String.utf8EncodeChar
  rw [hvalue]

theorem ofNat_eq {n : Nat} {a : UInt8} (h : n = a.toNat) : UInt8.ofNat n = a := by
  rw [h, UInt8.ofNat_toNat]

section Values

variable {a b c d : UInt8}

theorem encodeChar_one (h : a < 0x80) : String.utf8EncodeChar (Char.ofNat a.toNat) = [a] := by
  have ha : a.toNat < 0x80 := UInt8.lt_iff_toNat_lt.1 h
  rw [encodeChar_ofNat (.inl (by omega)), if_pos (by omega), ofNat_eq rfl]

theorem encodeChar_two (ha : 0xC2 ≤ a.toNat ∧ a.toNat ≤ 0xDF) (hb : isContinuation b = true) :
    String.utf8EncodeChar (char2 a b) = [a, b] := by
  rw [isContinuation_iff] at hb
  unfold char2
  rw [encodeChar_ofNat (.inl (by omega)), if_neg (by omega), if_pos (by omega)]
  simp only [List.cons.injEq, and_true]
  exact ⟨ofNat_eq (by omega), ofNat_eq (by omega)⟩

/-- What the lead byte allows leaves out the values of shorter forms and the surrogates. -/
theorem encodeChar_three (ha : 0xE0 ≤ a.toNat ∧ a.toNat ≤ 0xEF)
    (hb : (leadOf a.toNat).allows b = true) (hc : isContinuation c = true) :
    String.utf8EncodeChar (char3 a b c) = [a, b, c] := by
  rw [isContinuation_iff] at hc
  have hvalue : (0x80 ≤ b.toNat ∧ b.toNat ≤ 0xBF) ∧ (a.toNat = 0xE0 → 0xA0 ≤ b.toNat) ∧
      (a.toNat = 0xED → b.toNat ≤ 0x9F) := by
    rw [Lead.allows_iff, leadOf] at hb
    repeat' split at hb
    all_goals simp only [UInt8.reduceToNat] at hb; omega
  unfold char3
  rw [encodeChar_ofNat (by unfold Nat.isValidChar; omega), if_neg (by omega), if_neg (by omega),
    if_pos (by omega)]
  simp only [List.cons.injEq, and_true]
  exact ⟨ofNat_eq (by omega), ofNat_eq (by omega), ofNat_eq (by omega)⟩

/-- What the lead byte allows leaves out the values of shorter forms and those above the largest. -/
theorem encodeChar_four (ha : 0xF0 ≤ a.toNat ∧ a.toNat ≤ 0xF4)
    (hb : (leadOf a.toNat).allows b = true) (hc : isContinuation c = true)
    (hd : isContinuation d = true) :
    String.utf8EncodeChar (char4 a b c d) = [a, b, c, d] := by
  rw [isContinuation_iff] at hc hd
  have hvalue : (0x80 ≤ b.toNat ∧ b.toNat ≤ 0xBF) ∧ (a.toNat = 0xF0 → 0x90 ≤ b.toNat) ∧
      (a.toNat = 0xF4 → b.toNat ≤ 0x8F) := by
    rw [Lead.allows_iff, leadOf] at hb
    repeat' split at hb
    all_goals simp only [UInt8.reduceToNat] at hb; omega
  unfold char4
  rw [encodeChar_ofNat (by unfold Nat.isValidChar; omega), if_neg (by omega), if_neg (by omega),
    if_neg (by omega)]
  simp only [List.cons.injEq, and_true]
  exact ⟨ofNat_eq (by omega), ofNat_eq (by omega), ofNat_eq (by omega), ofNat_eq (by omega)⟩

end Values

theorem leadOf_further {n : Nat} (h : 0xC2 ≤ n ∧ n ≤ 0xF4) :
    ((leadOf n).further = 0 ↔ n ≤ 0xDF) ∧ ((leadOf n).further = 1 ↔ 0xE0 ≤ n ∧ n ≤ 0xEF) ∧
      ((leadOf n).further = 2 ↔ 0xF0 ≤ n) := by
  unfold leadOf
  repeat' split
  all_goals dsimp only; omega

/-- Every sequence is the bytes of a character. -/
theorem Sequence.exists_char {bytes : List UInt8} (h : Sequence bytes) :
    ∃ c, String.utf8EncodeChar c = bytes := by
  cases h with
  | ascii h => exact ⟨_, encodeChar_one h⟩
  | @led a lead bytes hlead hadmits hlength =>
    obtain ⟨ha, rfl⟩ := lead?_eq_some_iff.1 hlead
    have hcontinues := isContinuation_of_admits hlead hadmits
    obtain ⟨hzero, hone, htwo⟩ := leadOf_further ha
    match bytes with
    | [b] =>
      have hfurther : (leadOf a.toNat).further = 0 := (Nat.succ.inj hlength).symm
      exact ⟨_, encodeChar_two ⟨ha.1, hzero.1 hfurther⟩ (hcontinues b (by simp))⟩
    | [b, c] =>
      have hfurther : (leadOf a.toNat).further = 1 := (Nat.succ.inj hlength).symm
      rw [Lead.admits_cons, Bool.and_eq_true] at hadmits
      exact ⟨_, encodeChar_three (hone.1 hfurther) hadmits.1 (hcontinues c (by simp))⟩
    | [b, c, d] =>
      have hfurther : (leadOf a.toNat).further = 2 := (Nat.succ.inj hlength).symm
      rw [Lead.admits_cons, Bool.and_eq_true] at hadmits
      exact ⟨_, encodeChar_four ⟨htwo.1 hfurther, ha.2⟩ hadmits.1 (hcontinues c (by simp))
        (hcontinues d (by simp))⟩
    | [] => cases hlength
    | _ :: _ :: _ :: _ :: _ =>
      have hbound := (lead_bounds hlead).2.2.2
      simp only [List.length_cons] at hlength
      omega

/-! ## Characters are sequences -/

/-- The bytes that belong to the character before are passed over. -/
theorem decodeFrom_eq_drop (skip : Nat) (bytes : List UInt8) :
    decodeFrom skip bytes = decodeFrom 0 (bytes.drop skip) := by
  induction bytes generalizing skip with
  | nil => rw [List.drop_nil, decodeFrom, decodeFrom]
  | cons a rest ih =>
    cases skip with
    | zero => rfl
    | succ skip => rw [decodeFrom, ih, List.drop_succ_cons]

theorem length_le_of_decodeFrom_eq_nil {skip : Nat} {bytes : List UInt8}
    (h : decodeFrom skip bytes = []) : bytes.length ≤ skip := by
  rw [decodeFrom_eq_drop] at h
  refine List.drop_eq_nil_iff.1 ?_
  cases hrest : bytes.drop skip with
  | nil => rfl
  | cons a rest =>
    rw [hrest] at h
    cases h

section Next

variable {a : UInt8} {rest : List UInt8} {c : Char} {k : Nat}

theorem sequence_of_next (h : next a rest = (some c, k)) :
    k ≤ rest.length ∧ Sequence (a :: rest.take k) := by
  by_cases hascii : a < 0x80
  · unfold next at h
    rw [if_pos hascii] at h
    cases h
    exact ⟨Nat.zero_le _, .ascii hascii⟩
  · cases hlead : lead? a with
    | none =>
      unfold next at h
      rw [if_neg hascii, hlead] at h
      cases h
    | some lead =>
      obtain ⟨n, hn, hadmits, hwhole | hpart⟩ := next_of_lead hlead rest
      · obtain ⟨hcount, c', hnext⟩ := hwhole
        rw [h] at hnext
        cases hnext
        refine ⟨hn, .led hlead hadmits ?_⟩
        rw [List.length_take, Nat.min_eq_left hn, hcount]
      · have hnext := hpart.2.2
        rw [h] at hnext
        cases hnext

/-- A character that is read is the one whose bytes stand there. -/
theorem encodeChar_of_next (h : next a rest = (some c, k)) :
    String.utf8EncodeChar c = a :: rest.take k := by
  obtain ⟨c', hc'⟩ := (sequence_of_next h).2.exists_char
  have hread := decodeFrom_encodeChar c' (rest.drop k)
  rw [hc', List.cons_append, List.take_append_drop, decodeFrom, h] at hread
  obtain rfl : c = c' := (List.cons.inj hread).1
  exact hc'

end Next

theorem encodeChar_replacement : String.utf8EncodeChar replacement = [0xEF, 0xBF, 0xBD] := by
  decide

theorem sequence_encodeChar (c : Char) : Sequence (String.utf8EncodeChar c) := by
  cases hbytes : String.utf8EncodeChar c with
  | nil => exact absurd hbytes String.utf8EncodeChar_ne_nil
  | cons a rest =>
    have hread := decodeFrom_encodeChar c []
    rw [List.append_nil, hbytes, decodeFrom] at hread
    obtain ⟨hchar, hrest⟩ := List.cons.inj hread
    rcases hnext : next a rest with ⟨found, k⟩
    cases found with
    | some c' =>
      rw [hnext] at hrest
      obtain ⟨-, hsequence⟩ := sequence_of_next hnext
      rwa [List.take_of_length_le (length_le_of_decodeFrom_eq_nil hrest)] at hsequence
    | none =>
      -- the replacement character has bytes of its own
      rw [hnext, Option.getD_none] at hchar
      have hlead : lead? 0xEF = some ⟨0x80, 0xBF, 1⟩ := by decide
      rw [← hbytes, ← hchar, encodeChar_replacement]
      exact .led hlead (by decide) rfl

/-- The sequences are the bytes of the characters. -/
theorem sequence_iff {bytes : List UInt8} :
    Sequence bytes ↔ ∃ c, String.utf8EncodeChar c = bytes :=
  ⟨Sequence.exists_char, fun ⟨c, hc⟩ => hc ▸ sequence_encodeChar c⟩

/-! ## Beginnings of sequences -/

/-- Bytes that the bytes of some character begin with. -/
def Begins (bytes : List UInt8) : Prop := ∃ c, bytes <+: String.utf8EncodeChar c

theorem begins_iff {bytes : List UInt8} :
    Begins bytes ↔ ∃ all, Sequence all ∧ bytes <+: all := by
  constructor
  · rintro ⟨c, hc⟩
    exact ⟨_, sequence_iff.2 ⟨c, rfl⟩, hc⟩
  · rintro ⟨all, hsequence, hfront⟩
    obtain ⟨c, rfl⟩ := sequence_iff.1 hsequence
    exact ⟨c, hfront⟩

theorem not_begins_of_lead?_eq_none {a : UInt8} (hascii : ¬ a < 0x80) (h : lead? a = none)
    (bytes : List UInt8) : ¬ Begins (a :: bytes) := by
  rw [begins_iff]
  rintro ⟨all, hsequence, hfront⟩
  cases hsequence with
  | ascii hlow =>
    rw [List.cons_prefix_cons] at hfront
    exact hascii (hfront.1 ▸ hlow)
  | led hlead =>
    rw [List.cons_prefix_cons] at hfront
    rw [hfront.1, hlead] at h
    cases h

/-- Behind a lead byte a character can begin with what is admitted there. -/
theorem begins_iff_of_lead {a : UInt8} {lead : Lead} (h : lead? a = some lead)
    {bytes : List UInt8} :
    Begins (a :: bytes) ↔ lead.admits bytes = true ∧ bytes.length ≤ lead.further + 1 := by
  rw [begins_iff]
  constructor
  · rintro ⟨all, hsequence, hfront⟩
    cases hsequence with
    | ascii hlow =>
      rw [List.cons_prefix_cons] at hfront
      exact absurd (hfront.1 ▸ hlow) (not_ascii_of_lead? h)
    | led hlead hadmits hlength =>
      rw [List.cons_prefix_cons] at hfront
      rw [← hfront.1, h] at hlead
      cases hlead
      exact ⟨Lead.admits_front hfront.2 hadmits, hlength ▸ hfront.2.length_le⟩
  · rintro ⟨hadmits, hlength⟩
    -- continuation bytes of the least value complete the sequence
    suffices hcomplete : ∃ rest, lead.admits (bytes ++ rest) = true ∧
        (bytes ++ rest).length = lead.further + 1 by
      obtain ⟨rest, hrest, hcount⟩ := hcomplete
      exact ⟨_, .led h hrest hcount, List.prefix_append (a :: bytes) rest⟩
    cases bytes with
    | nil =>
      refine ⟨lead.low :: List.replicate lead.further 0x80, ?_, by simp⟩
      have hlow : lead.allows lead.low = true :=
        Lead.allows_iff.2 ⟨Nat.le_refl _, (lead_bounds h).2.1⟩
      simp [hlow, isContinuation]
    | cons b further =>
      refine ⟨List.replicate (lead.further - further.length) 0x80, ?_, ?_⟩
      · rw [Lead.admits_cons, Bool.and_eq_true] at hadmits
        rw [List.cons_append, Lead.admits_cons, List.all_append, hadmits.1, hadmits.2]
        simp [isContinuation]
      · simp only [List.length_cons] at hlength
        simp only [List.length_append, List.length_cons, List.length_replicate]
        omega

end PassThru.Utf8
