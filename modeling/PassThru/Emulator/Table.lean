/-!
# Tables

A finite map from 32-bit numbers, listed in ascending order of the keys. The order is part of the
type, so a table is determined by its look-ups (`Table.ext`), and two histories that leave the same
look-ups leave the same table.

`get?_insert`, `get?_erase` and `get?_filter` say what each operation does to the look-ups.
-/

namespace PassThru

/-- A finite map from 32-bit numbers. -/
structure Table (α : Type) where
  entries : List (UInt32 × α)
  ascending : entries.Pairwise fun a b => a.1 < b.1
  deriving DecidableEq

namespace Table

variable {α : Type}

/-! ## Ascending lists -/

/-- Put a key into an ascending list, replacing what it had. -/
def insertAscending (key : UInt32) (value : α) : List (UInt32 × α) → List (UInt32 × α)
  | [] => [(key, value)]
  | entry :: rest =>
    if key < entry.1 then (key, value) :: entry :: rest
    else if key = entry.1 then (key, value) :: rest
    else entry :: insertAscending key value rest

theorem mem_insertAscending {key : UInt32} {value : α} {entry : UInt32 × α} :
    ∀ {list : List (UInt32 × α)}, entry ∈ insertAscending key value list →
      entry = (key, value) ∨ entry ∈ list
  | [], h => by simpa [insertAscending] using h
  | head :: rest, h => by
    unfold insertAscending at h
    split at h
    · simpa using h
    · split at h
      · rcases List.mem_cons.1 h with h | h
        · exact .inl h
        · exact .inr (List.mem_cons_of_mem _ h)
      · rcases List.mem_cons.1 h with h | h
        · exact .inr (h ▸ List.mem_cons_self)
        · exact (mem_insertAscending h).imp_right (List.mem_cons_of_mem _)

theorem pairwise_insertAscending (key : UInt32) (value : α) :
    ∀ {list : List (UInt32 × α)}, (list.Pairwise fun a b => a.1 < b.1) →
      (insertAscending key value list).Pairwise fun a b => a.1 < b.1
  | [], _ => by simp [insertAscending]
  | head :: rest, h => by
    obtain ⟨hhead, hrest⟩ := List.pairwise_cons.1 h
    unfold insertAscending
    split
    · next hlt =>
      refine List.pairwise_cons.2 ⟨fun b hb => ?_, h⟩
      rcases List.mem_cons.1 hb with rfl | hb
      · exact hlt
      · exact UInt32.lt_trans hlt (hhead b hb)
    · next hlt =>
      split
      · next heq => exact List.pairwise_cons.2 ⟨fun b hb => heq ▸ hhead b hb, hrest⟩
      · next hne =>
        refine List.pairwise_cons.2 ⟨fun b hb => ?_, pairwise_insertAscending key value hrest⟩
        rcases mem_insertAscending hb with rfl | hb
        · simp only [UInt32.lt_iff_toNat_lt] at hlt ⊢
          have : key.toNat ≠ head.1.toNat := fun e => hne (UInt32.toNat_inj.1 e)
          omega
        · exact hhead b hb

/-! ## Operations -/

def empty : Table α := ⟨[], .nil⟩

instance : Inhabited (Table α) := ⟨empty⟩

def get? (t : Table α) (key : UInt32) : Option α :=
  (t.entries.find? fun entry => entry.1 == key).map (·.2)

def contains (t : Table α) (key : UInt32) : Bool := (t.get? key).isSome

/-- Give a key a value, replacing what it had. -/
def insert (t : Table α) (key : UInt32) (value : α) : Table α :=
  ⟨insertAscending key value t.entries, pairwise_insertAscending key value t.ascending⟩

/-- Keep the entries that a test accepts. -/
def filter (t : Table α) (keep : UInt32 → α → Bool) : Table α :=
  ⟨t.entries.filter fun entry => keep entry.1 entry.2, t.ascending.filter _⟩

/-- Take a key out. -/
def erase (t : Table α) (key : UInt32) : Table α := t.filter fun k _ => k != key

def values (t : Table α) : List α := t.entries.map (·.2)

def keys (t : Table α) : List UInt32 := t.entries.map (·.1)

/-- The number of keys that have a value. -/
def size (t : Table α) : Nat := t.entries.length

def isEmpty (t : Table α) : Bool := t.entries.isEmpty

/-! ## Look-ups -/

theorem mem_entries_iff {t : Table α} {key : UInt32} {value : α} :
    (key, value) ∈ t.entries ↔ t.get? key = some value := by
  obtain ⟨entries, ascending⟩ := t
  unfold get?
  dsimp only
  induction entries with
  | nil => simp
  | cons head rest ih =>
    obtain ⟨hhead, hrest⟩ := List.pairwise_cons.1 ascending
    rw [List.find?_cons]
    by_cases h : head.1 = key
    · have hnot : (key, value) ∉ rest := fun hm => by
        have := hhead _ hm
        simp [h] at this
      simp [h, hnot]
      constructor
      · intro e; rw [← e]
      · intro e; rw [← h, ← e]
    · have hb : (head.1 == key) = false := by simpa using h
      have hne : (key, value) ≠ head := fun e => h (by rw [← e])
      rw [hb]
      simp [hne, ih hrest]

theorem get?_insert (t : Table α) (key k : UInt32) (value : α) :
    (t.insert key value).get? k = if k = key then some value else t.get? k := by
  obtain ⟨entries, ascending⟩ := t
  unfold get? insert
  dsimp only
  clear ascending
  induction entries with
  | nil =>
    by_cases h : k = key
    · simp [insertAscending, h]
    · have hne : ¬ key = k := fun e => h e.symm
      simp [insertAscending, h, hne]
  | cons head rest ih =>
    unfold insertAscending
    by_cases h : k = key
    · subst h
      split
      · simp
      · split
        · simp
        · next hne =>
          have : (head.1 == k) = false := by simpa using fun e : head.1 = k => hne e.symm
          rw [List.find?_cons, this]
          simpa using ih
    · have hne : ¬ key = k := fun e => h e.symm
      split
      · simp [hne]
      · split
        · next heq =>
          have : (head.1 == k) = false := by simpa [← heq] using hne
          simp [hne, this]
        · rw [List.find?_cons]
          by_cases hk : head.1 = k
          · simp [hk]
          · have : (head.1 == k) = false := by simpa using hk
            rw [this]
            simpa [h, this] using ih

theorem get?_filter (t : Table α) (keep : UInt32 → α → Bool) (k : UInt32) :
    (t.filter keep).get? k = (t.get? k).filter (keep k) := by
  apply Option.ext
  intro value
  rw [← mem_entries_iff]
  simp only [filter, List.mem_filter, mem_entries_iff, Option.filter_eq_some_iff]

theorem get?_erase (t : Table α) (key k : UInt32) :
    (t.erase key).get? k = if k = key then none else t.get? k := by
  unfold erase
  rw [get?_filter]
  by_cases h : k = key
  · cases t.get? k <;> simp [h]
  · cases t.get? k <;> simp [h]

@[simp] theorem get?_empty (k : UInt32) : (empty : Table α).get? k = none := rfl

theorem eq_of_ascending : ∀ {list₁ list₂ : List (UInt32 × α)},
    (list₁.Pairwise fun a b => a.1 < b.1) → (list₂.Pairwise fun a b => a.1 < b.1) →
      (∀ entry, entry ∈ list₁ ↔ entry ∈ list₂) → list₁ = list₂
  | [], [], _, _, _ => rfl
  | [], b :: _, _, _, h => absurd ((h b).2 List.mem_cons_self) (by simp)
  | a :: _, [], _, _, h => absurd ((h a).1 List.mem_cons_self) (by simp)
  | a :: rest₁, b :: rest₂, h₁, h₂, h => by
    obtain ⟨ha, hrest₁⟩ := List.pairwise_cons.1 h₁
    obtain ⟨hb, hrest₂⟩ := List.pairwise_cons.1 h₂
    have hab : a = b := by
      rcases List.mem_cons.1 ((h a).1 List.mem_cons_self) with e | hmem
      · exact e
      · rcases List.mem_cons.1 ((h b).2 List.mem_cons_self) with e | hmem'
        · exact e.symm
        · exact absurd (UInt32.lt_trans (ha b hmem') (hb a hmem)) (UInt32.lt_irrefl _)
    subst hab
    refine congrArg (a :: ·) (eq_of_ascending hrest₁ hrest₂ fun entry => ?_)
    constructor
    · intro hmem
      rcases List.mem_cons.1 ((h entry).1 (List.mem_cons_of_mem _ hmem)) with e | hmem'
      · exact absurd (e ▸ ha entry hmem) (UInt32.lt_irrefl _)
      · exact hmem'
    · intro hmem
      rcases List.mem_cons.1 ((h entry).2 (List.mem_cons_of_mem _ hmem)) with e | hmem'
      · exact absurd (e ▸ hb entry hmem) (UInt32.lt_irrefl _)
      · exact hmem'

/-- A table is determined by its look-ups. -/
theorem ext {t₁ t₂ : Table α} (h : ∀ key, t₁.get? key = t₂.get? key) : t₁ = t₂ := by
  have hentries : t₁.entries = t₂.entries :=
    eq_of_ascending t₁.ascending t₂.ascending fun entry => by
      obtain ⟨key, value⟩ := entry
      rw [mem_entries_iff, mem_entries_iff, h]
  obtain ⟨entries, ascending⟩ := t₁
  cases hentries
  rfl

end Table

end PassThru
