import PassThru.Proofs.Text.Lossy

/-!
# Texts cut to a field

A text that is too long for its field is cut, and never inside a character: the writer steps back
from the last byte that it may fill to the last position between two characters.

* `isBoundary_iff`: the positions where the bytes of a text can be cut are those behind whole
  characters.
* `le_boundaryBefore`: stepping back finds the last of them.
* `exists_isCut`: so the bytes that are written are those of the longest beginning that fits.
* `decode_write`: the field then reads as that beginning, as far as its first NUL.
-/

namespace PassThru

namespace Utf8

/-- The first byte of a character continues none, and all the others do. -/
theorem exists_encodeChar_eq (c : Char) :
    ∃ a rest, String.utf8EncodeChar c = a :: rest ∧ isContinuation a = false ∧
      ∀ b ∈ rest, isContinuation b = true := by
  have hsequence := sequence_encodeChar c
  generalize String.utf8EncodeChar c = bytes at hsequence
  have hfirst : ∀ {a : UInt8}, a.toNat < 0x80 ∨ 0xBF < a.toNat → isContinuation a = false := by
    intro a ha
    rw [Bool.eq_false_iff]
    intro hcontinues
    rw [isContinuation_iff] at hcontinues
    omega
  cases hsequence with
  | ascii h =>
    exact ⟨_, [], rfl, hfirst (.inl (UInt8.lt_iff_toNat_lt.1 h)),
      fun b hb => absurd hb List.not_mem_nil⟩
  | led hlead hadmits _ =>
    have hrange := (lead?_eq_some_iff.1 hlead).1
    exact ⟨_, _, rfl, hfirst (.inr (by omega)), isContinuation_of_admits hlead hadmits⟩

/-- The bytes of characters in a row. -/
def bytesOf (chars : List Char) : List UInt8 := chars.flatMap String.utf8EncodeChar

theorem encode_eq_bytesOf (text : String) : encode text = bytesOf text.toList := rfl

@[simp] theorem encode_ofList (chars : List Char) :
    encode (String.ofList chars) = bytesOf chars := by
  rw [encode_eq_bytesOf, String.toList_ofList]

@[simp] theorem bytesOf_cons (c : Char) (chars : List Char) :
    bytesOf (c :: chars) = String.utf8EncodeChar c ++ bytesOf chars := List.flatMap_cons

@[simp] theorem bytesOf_append (front chars : List Char) :
    bytesOf (front ++ chars) = bytesOf front ++ bytesOf chars := List.flatMap_append

theorem bytesOf_eq_nil_iff {chars : List Char} : bytesOf chars = [] ↔ chars = [] := by
  cases chars with
  | nil => exact iff_of_true rfl rfl
  | cons c chars => simp [String.utf8EncodeChar_ne_nil]

theorem bytesOf_mono {front chars : List Char} (h : front <+: chars) :
    bytesOf front <+: bytesOf chars := by
  obtain ⟨rest, rfl⟩ := h
  rw [bytesOf_append]
  exact List.prefix_append _ _

/-- Of two beginnings of a text the one with no more bytes is a beginning of the other. -/
theorem prefix_of_length_bytesOf_le {front front' chars : List Char} (h : front <+: chars)
    (h' : front' <+: chars) (hlength : (bytesOf front).length ≤ (bytesOf front').length) :
    front <+: front' := by
  rcases List.prefix_or_prefix_of_prefix h h' with hprefix | ⟨rest, rfl⟩
  · exact hprefix
  · rw [bytesOf_append, List.length_append] at hlength
    have hnil : rest = [] := bytesOf_eq_nil_iff.1 (List.eq_nil_of_length_eq_zero (by omega))
    exact ⟨[], by rw [hnil, List.append_nil, List.append_nil]⟩

end Utf8

namespace Field

open Utf8

/-! ## Positions between characters -/

/-- No text begins by a continuation byte. -/
theorem isBoundary_zero (chars : List Char) : isBoundary (bytesOf chars) 0 = true := by
  cases chars with
  | nil => rfl
  | cons c chars =>
    obtain ⟨a, rest, hbytes, hfirst, -⟩ := exists_encodeChar_eq c
    rw [bytesOf_cons, hbytes]
    exact congrArg (!·) hfirst

theorem isBoundary_append_of_le {front rest : List UInt8} {n : Nat} (h : front.length ≤ n) :
    isBoundary (front ++ rest) n = isBoundary rest (n - front.length) := by
  unfold isBoundary
  rw [List.getElem?_append_right h]

/-- A character cannot be cut. -/
theorem isBoundary_inside {c : Char} {n : Nat} (hpos : 0 < n)
    (h : n < (String.utf8EncodeChar c).length) (rest : List UInt8) :
    isBoundary (String.utf8EncodeChar c ++ rest) n = false := by
  obtain ⟨a, others, hbytes, -, hcontinues⟩ := exists_encodeChar_eq c
  rw [hbytes] at h ⊢
  obtain ⟨n, rfl⟩ := Nat.exists_eq_succ_of_ne_zero (Nat.ne_of_gt hpos)
  have hn : n < others.length := Nat.lt_of_succ_lt_succ h
  unfold isBoundary
  rw [List.getElem?_append_left h, List.getElem?_cons_succ, List.getElem?_eq_getElem hn]
  exact congrArg (!·) (hcontinues _ (List.getElem_mem hn))

/-- The bytes of a text can be cut behind whole characters, and nowhere else. -/
theorem isBoundary_iff {chars : List Char} {n : Nat} (h : n ≤ (bytesOf chars).length) :
    isBoundary (bytesOf chars) n = true ↔
      ∃ front, front <+: chars ∧ (bytesOf front).length = n := by
  induction chars generalizing n with
  | nil =>
    obtain rfl : n = 0 := Nat.le_zero.1 h
    exact iff_of_true rfl ⟨[], List.prefix_rfl, rfl⟩
  | cons c chars ih =>
    -- a beginning with a character in it has `c` in front
    have hcons : 0 < n → ((∃ front, front <+: c :: chars ∧ (bytesOf front).length = n) ↔
        ∃ front, front <+: chars ∧
          (String.utf8EncodeChar c).length + (bytesOf front).length = n) := by
      intro hpos
      constructor
      · rintro ⟨front, hfront, hlength⟩
        rcases List.prefix_cons_iff.1 hfront with rfl | ⟨behind, rfl, hbehind⟩
        · exact absurd hlength (Nat.ne_of_lt hpos)
        · rw [bytesOf_cons, List.length_append] at hlength
          exact ⟨behind, hbehind, hlength⟩
      · rintro ⟨front, hfront, hlength⟩
        refine ⟨c :: front, List.cons_prefix_cons.2 ⟨rfl, hfront⟩, ?_⟩
        rw [bytesOf_cons, List.length_append, hlength]
    rcases Nat.eq_zero_or_pos n with rfl | hpos
    · exact iff_of_true (isBoundary_zero _) ⟨[], List.nil_prefix, rfl⟩
    · rw [hcons hpos]
      rw [bytesOf_cons] at h ⊢
      rcases Nat.lt_or_ge n (String.utf8EncodeChar c).length with hinside | hbehind
      · rw [isBoundary_inside hpos hinside]
        refine iff_of_false Bool.false_ne_true ?_
        rintro ⟨front, -, hlength⟩
        omega
      · rw [isBoundary_append_of_le hbehind, ih (by rw [List.length_append] at h; omega)]
        refine exists_congr fun front => and_congr_right fun _ => ?_
        omega

/-! ## Stepping back -/

theorem boundaryBefore_le (bytes : List UInt8) (n : Nat) : boundaryBefore bytes n ≤ n := by
  induction n with
  | zero => exact Nat.le_refl 0
  | succ n ih =>
    rw [boundaryBefore]
    split
    · exact Nat.le_refl _
    · exact Nat.le_succ_of_le ih

theorem isBoundary_boundaryBefore (chars : List Char) (n : Nat) :
    isBoundary (bytesOf chars) (boundaryBefore (bytesOf chars) n) = true := by
  induction n with
  | zero => exact isBoundary_zero chars
  | succ n ih =>
    rw [boundaryBefore]
    split
    · assumption
    · exact ih

/-- No position where the bytes can be cut is stepped over. -/
theorem le_boundaryBefore {bytes : List UInt8} {k n : Nat} (hk : k ≤ n)
    (h : isBoundary bytes k = true) : k ≤ boundaryBefore bytes n := by
  induction n with
  | zero => exact hk
  | succ n ih =>
    rw [boundaryBefore]
    split
    · exact hk
    · next hnot =>
      refine ih (Nat.le_of_lt_succ (Nat.lt_of_le_of_ne hk ?_))
      rintro rfl
      exact hnot h

/-! ## The cut -/

/-- The longest text of whole characters that `text` begins with and so many bytes can hold. -/
structure IsCut (limit : Nat) (text cut : String) : Prop where
  begins : cut.toList <+: text.toList
  size_le : cut.utf8ByteSize ≤ limit
  longest : ∀ other : String, other.toList <+: text.toList → other.utf8ByteSize ≤ limit →
    other.toList <+: cut.toList

/-- The bytes that are written are those of the longest beginning of the text that leaves room for a
NUL. -/
theorem exists_isCut (text : String) :
    ∃ cut, IsCut (size - 1) text cut ∧ truncate text = Utf8.encode cut := by
  have hle := boundaryBefore_le (Utf8.encode text) (min (Utf8.encode text).length (size - 1))
  have hcut := isBoundary_boundaryBefore text.toList (min (Utf8.encode text).length (size - 1))
  rw [← encode_eq_bytesOf] at hcut
  unfold truncate
  generalize hn : boundaryBefore _ _ = n at hle hcut
  have hinside : n ≤ (bytesOf text.toList).length := Nat.le_trans hle (Nat.min_le_left _ _)
  obtain ⟨front, hfront, hlength⟩ := (isBoundary_iff hinside).1 hcut
  have hsize : ∀ {chars : List Char},
      (String.ofList chars).utf8ByteSize = (bytesOf chars).length := by
    intro chars
    rw [← Utf8.length_encode, encode_ofList]
  refine ⟨String.ofList front, ⟨?_, ?_, fun other hother hfits => ?_⟩, ?_⟩
  · rwa [String.toList_ofList]
  · rw [hsize, hlength]
    exact Nat.le_trans hle (Nat.min_le_right _ _)
  · rw [String.toList_ofList]
    refine prefix_of_length_bytesOf_le hother hfront ?_
    rw [hlength, ← hn, ← encode_eq_bytesOf]
    have hwhole : (Utf8.encode other).length ≤ (Utf8.encode text).length :=
      (bytesOf_mono hother).length_le
    rw [← Utf8.length_encode] at hfits
    exact le_boundaryBefore (Nat.le_min.2 ⟨hwhole, hfits⟩)
      ((isBoundary_iff hwhole).2 ⟨other.toList, hother, rfl⟩)
  · rw [encode_ofList]
    dsimp only
    rw [hn, ← hlength, encode_eq_bytesOf]
    exact (List.prefix_iff_eq_take.1 (bytesOf_mono hfront)).symm

theorem IsCut.length_encode_le {limit : Nat} {text cut : String} (h : IsCut limit text cut) :
    (Utf8.encode cut).length ≤ limit := by
  rw [Utf8.length_encode]
  exact h.size_le

/-- At most three bytes are left unused: a character has no more than four. -/
theorem IsCut.le_size_add {limit : Nat} {text cut : String} (h : IsCut limit text cut) :
    min text.utf8ByteSize limit ≤ cut.utf8ByteSize + 3 := by
  obtain ⟨rest, hrest⟩ := h.begins
  cases rest with
  | nil =>
    rw [List.append_nil] at hrest
    rw [String.toList_inj.1 hrest]
    omega
  | cons c rest =>
    -- one character more is too much
    have hmore : (String.ofList (cut.toList ++ [c])).utf8ByteSize =
        cut.utf8ByteSize + c.utf8Size := by
      rw [← Utf8.length_encode, encode_ofList, bytesOf_append, List.length_append,
        ← encode_eq_bytesOf, Utf8.length_encode, bytesOf_cons, List.length_append,
        String.length_utf8EncodeChar]
      rfl
    have hlimit : limit < cut.utf8ByteSize + c.utf8Size := by
      rw [← hmore, ← Nat.not_le]
      intro hfits
      have hbegins : (String.ofList (cut.toList ++ [c])).toList <+: text.toList := by
        rw [String.toList_ofList, ← hrest]
        exact ⟨rest, by rw [List.append_assoc]; rfl⟩
      have hlength := (h.longest _ hbegins hfits).length_le
      rw [String.toList_ofList, List.length_append, List.length_singleton] at hlength
      omega
    have hfour := Char.utf8Size_le_four c
    omega

/-! ## Writing and reading -/

/-- The characters of a text in front of its first NUL. -/
def upToNul (text : String) : String := String.ofList (text.toList.takeWhile (· != '\x00'))

theorem mem_of_mem_upToNul {text : String} {c : Char} (h : c ∈ (upToNul text).toList) :
    c ∈ text.toList := by
  unfold upToNul at h
  rw [String.toList_ofList] at h
  exact List.takeWhile_subset _ h

theorem content_bytesOf_append (chars : List Char) (rest : List UInt8) :
    content (bytesOf chars ++ 0 :: rest) = bytesOf (chars.takeWhile (· != '\x00')) := by
  unfold content
  induction chars with
  | nil => rfl
  | cons c chars ih =>
    by_cases hnul : c = '\x00'
    · subst hnul
      rfl
    · have hne : ∀ b ∈ String.utf8EncodeChar c, (b != 0) = true := by
        intro b hb
        rw [bne_iff_ne]
        rintro rfl
        exact hnul ((zero_mem_encodeChar_iff c).1 hb)
      rw [bytesOf_cons, List.append_assoc, List.takeWhile_append_of_pos hne, ih,
        List.takeWhile_cons, if_pos (bne_iff_ne.2 hnul), bytesOf_cons]

theorem decode_encode_append (text : String) (rest : List UInt8) :
    decode (Utf8.encode text ++ 0 :: rest) = upToNul text := by
  unfold decode
  rw [encode_eq_bytesOf, content_bytesOf_append, ← encode_ofList, Utf8.decodeLossy_encode]
  rfl

theorem decode_write {text cut : String} (h : truncate text = Utf8.encode cut)
    (field : List UInt8) : decode (write field text) = upToNul cut := by
  unfold write
  rw [h]
  exact decode_encode_append cut _

theorem length_write {field : List UInt8} {text : String}
    (h : (truncate text).length < field.length) : (write field text).length = field.length := by
  unfold write
  simp only [List.length_append, List.length_cons, List.length_drop]
  omega

end Field

end PassThru
