import PassThru.Emulator.Table

/-!
# Look-ups and counts of tables

What `Table.insert`, `Table.erase` and `Table.filter` do to membership, to the values, to the number
of values with a property (`countP_values_insert`), and to the size.
-/

namespace PassThru.Table

variable {α : Type}

/-! ## Look-ups -/

theorem get?_insert_self (t : Table α) (key : UInt32) (value : α) :
    (t.insert key value).get? key = some value := by
  rw [get?_insert, if_pos rfl]

theorem get?_insert_of_ne (t : Table α) {key k : UInt32} (value : α) (h : k ≠ key) :
    (t.insert key value).get? k = t.get? k := by
  rw [get?_insert, if_neg h]

theorem eq_of_get?_insert_self {t : Table α} {key : UInt32} {value v : α}
    (h : (t.insert key value).get? key = some v) : v = value := by
  rw [get?_insert_self, Option.some.injEq] at h
  exact h.symm

theorem get?_insert_cases {t : Table α} {key k : UInt32} {value v : α}
    (h : (t.insert key value).get? k = some v) :
    (k = key ∧ v = value) ∨ (k ≠ key ∧ t.get? k = some v) := by
  rw [get?_insert] at h
  split at h
  · next hk => exact .inl ⟨hk, (Option.some.inj h).symm⟩
  · next hk => exact .inr ⟨hk, h⟩

theorem insert_insert (t : Table α) (key : UInt32) (value value' : α) :
    (t.insert key value).insert key value' = t.insert key value' := by
  refine Table.ext fun k => ?_
  by_cases hk : k = key
  · rw [hk, get?_insert_self, get?_insert_self]
  · rw [get?_insert_of_ne _ _ hk, get?_insert_of_ne _ _ hk, get?_insert_of_ne _ _ hk]

/-- Writing back what is there changes nothing. -/
theorem insert_of_get? {t : Table α} {key : UInt32} {value : α} (h : t.get? key = some value) :
    t.insert key value = t := by
  refine Table.ext fun k => ?_
  by_cases hk : k = key
  · rw [hk, get?_insert_self, h]
  · rw [get?_insert_of_ne _ _ hk]

/-- Writing back what differs in nothing that `f` sees is invisible to `f`. -/
theorem map_get?_insert {β : Type} (f : α → β) {t : Table α} {key : UInt32} {old new : α}
    (hold : t.get? key = some old) (hf : f new = f old) (k : UInt32) :
    ((t.insert key new).get? k).map f = (t.get? k).map f := by
  rw [get?_insert]
  split
  · next hk => rw [hk, hold, Option.map_some, Option.map_some, hf]
  · rfl

theorem get?_filter_eq_some_iff {t : Table α} {keep : UInt32 → α → Bool} {k : UInt32} {v : α} :
    (t.filter keep).get? k = some v ↔ t.get? k = some v ∧ keep k v = true := by
  rw [get?_filter, Option.filter_eq_some_iff]

theorem filter_filter (t : Table α) (keep₁ keep₂ : UInt32 → α → Bool) :
    (t.filter keep₁).filter keep₂ = t.filter fun key value => keep₂ key value && keep₁ key value := by
  unfold filter
  simp only [List.filter_filter]

theorem get?_erase_eq_some_iff {t : Table α} {key k : UInt32} {v : α} :
    (t.erase key).get? k = some v ↔ t.get? k = some v ∧ k ≠ key := by
  unfold erase
  rw [get?_filter_eq_some_iff, bne_iff_ne]

theorem filter_eq_self {t : Table α} {keep : UInt32 → α → Bool}
    (h : ∀ {k v}, t.get? k = some v → keep k v = true) : t.filter keep = t := by
  refine ext fun k => Option.ext fun v => ?_
  rw [get?_filter_eq_some_iff]
  exact ⟨And.left, fun hget => ⟨hget, h hget⟩⟩

/-- What was not there before is gone when it is taken away again. -/
theorem erase_insert {t : Table α} {key : UInt32} (h : t.get? key = none) (value : α) :
    (t.insert key value).erase key = t := by
  refine ext fun k => ?_
  rw [get?_erase]
  split
  · next hk => rw [hk, h]
  · next hk => exact get?_insert_of_ne _ _ hk

/-! ## Membership -/

theorem contains_iff {t : Table α} {key : UInt32} :
    t.contains key = true ↔ ∃ value, t.get? key = some value := by
  unfold contains
  rw [Option.isSome_iff_exists]

theorem contains_eq_false_iff {t : Table α} {key : UInt32} :
    t.contains key = false ↔ t.get? key = none := by
  unfold contains
  rw [Option.isSome_eq_false_iff, Option.isNone_iff_eq_none]

theorem contains_insert (t : Table α) (key : UInt32) (value : α) (k : UInt32) :
    (t.insert key value).contains k = (k == key || t.contains k) := by
  unfold contains
  by_cases h : k = key
  · rw [h, get?_insert_self, beq_self_eq_true]
    rfl
  · rw [get?_insert_of_ne _ _ h, beq_false_of_ne h, Bool.false_or]

theorem contains_erase (t : Table α) (key k : UInt32) :
    (t.erase key).contains k = (k != key && t.contains k) := by
  unfold contains
  rw [get?_erase]
  by_cases h : k = key
  · rw [if_pos h, h, bne_self_eq_false]
    rfl
  · rw [if_neg h, bne_iff_ne.2 h, Bool.true_and]

theorem isEmpty_eq_false_of_get? {t : Table α} {key : UInt32} {value : α}
    (h : t.get? key = some value) : t.isEmpty = false := by
  have hmem := mem_entries_iff.2 h
  unfold isEmpty
  rw [List.isEmpty_eq_false_iff]
  exact List.ne_nil_of_mem hmem

theorem mem_values_iff {t : Table α} {value : α} :
    value ∈ t.values ↔ ∃ key, t.get? key = some value := by
  simp only [values, List.mem_map, Prod.exists, mem_entries_iff, exists_eq_right]

theorem any_values_iff {t : Table α} {test : α → Bool} :
    t.values.any test = true ↔ ∃ key value, t.get? key = some value ∧ test value = true := by
  rw [List.any_eq_true]
  constructor
  · rintro ⟨value, hmem, htest⟩
    obtain ⟨key, hkey⟩ := mem_values_iff.1 hmem
    exact ⟨key, value, hkey, htest⟩
  · rintro ⟨key, value, hkey, htest⟩
    exact ⟨value, mem_values_iff.2 ⟨key, hkey⟩, htest⟩

/-! ## Views -/

/-- The table of what a function sees of each value. -/
def map {β : Type} (f : α → β) (t : Table α) : Table β where
  entries := t.entries.map fun entry => (entry.1, f entry.2)
  ascending := t.ascending.map _ fun _ _ h => h

theorem get?_map {β : Type} (f : α → β) (t : Table α) (key : UInt32) :
    (t.map f).get? key = (t.get? key).map f := by
  unfold get? map
  rw [List.find?_map, Option.map_map, Option.map_map]
  rfl

theorem values_map {β : Type} (f : α → β) (t : Table α) : (t.map f).values = t.values.map f := by
  unfold values map
  rw [List.map_map, List.map_map]
  rfl

/-! ## Counts -/

/-- Inserting into an ascending list exchanges the old value of the key, if any, for the new. -/
theorem countP_insertAscending (test : α → Bool) (key : UInt32) (value : α) :
    ∀ {list : List (UInt32 × α)}, (list.Pairwise fun a b => a.1 < b.1) →
      (insertAscending key value list).countP (fun entry => test entry.2) +
          (if ((list.find? fun entry => entry.1 == key).any fun entry => test entry.2) then 1
            else 0) =
        list.countP (fun entry => test entry.2) + if test value then 1 else 0
  | [], _ => by simp [insertAscending, List.countP_cons]
  | head :: rest, h => by
    obtain ⟨hhead, hrest⟩ := List.pairwise_cons.1 h
    have ih := countP_insertAscending test key value hrest
    unfold insertAscending
    by_cases hlt : key < head.1
    · -- nothing from here on has the key
      have hnone : (head :: rest).find? (fun entry => entry.1 == key) = none := by
        rw [List.find?_eq_none]
        intro entry hmem heq
        have hentry : entry.1 = key := by simpa using heq
        rcases List.mem_cons.1 hmem with rfl | hmem
        · exact absurd (hentry ▸ hlt) (UInt32.lt_irrefl _)
        · exact absurd (UInt32.lt_trans hlt (hentry ▸ hhead entry hmem)) (UInt32.lt_irrefl _)
      rw [if_pos hlt, hnone, List.countP_cons]
      simp
    · rw [if_neg hlt]
      by_cases heq : key = head.1
      · rw [if_pos heq, List.find?_cons_of_pos (by simp [heq]), List.countP_cons, List.countP_cons]
        simp only [Option.any_some]
        omega
      · have hne : head.1 ≠ key := fun e => heq e.symm
        rw [if_neg heq, List.find?_cons_of_neg (by simp [hne]), List.countP_cons, List.countP_cons]
        omega

/-- An insertion exchanges the old value of the key, if any, for the new one. -/
theorem countP_values_insert (test : α → Bool) (t : Table α) (key : UInt32) (value : α) :
    (t.insert key value).values.countP test + (if (t.get? key).any test then 1 else 0) =
      t.values.countP test + if test value then 1 else 0 := by
  have h := countP_insertAscending test key value t.ascending
  have hany : ((t.entries.find? fun entry => entry.1 == key).any fun entry => test entry.2) =
      (t.get? key).any test := by
    unfold get?
    cases t.entries.find? fun entry => entry.1 == key <;> rfl
  rw [hany] at h
  simpa only [values, insert, List.countP_map, Function.comp_def] using h

theorem countP_values_insert_fresh (test : α → Bool) {t : Table α} {key : UInt32} (value : α)
    (h : t.get? key = none) :
    (t.insert key value).values.countP test = t.values.countP test + if test value then 1 else 0 := by
  have := countP_values_insert test t key value
  rw [h] at this
  simpa using this

/-- Tables that look the same through `f` have as many values with a property of what `f` sees. -/
theorem countP_values_congr {β : Type} {f : α → β} {t t' : Table α}
    (h : ∀ key, (t'.get? key).map f = (t.get? key).map f) (test : β → Bool) :
    t'.values.countP (fun value => test (f value)) =
      t.values.countP fun value => test (f value) := by
  have hmap : t'.map f = t.map f := Table.ext fun key => by rw [get?_map, get?_map, h]
  have hvalues := congrArg values hmap
  rw [values_map, values_map] at hvalues
  have hcount := congrArg (List.countP test) hvalues
  rw [List.countP_map, List.countP_map] at hcount
  exact hcount

theorem countP_values_filter_le (test : α → Bool) (t : Table α) (keep : UInt32 → α → Bool) :
    (t.filter keep).values.countP test ≤ t.values.countP test := by
  simp only [values, filter, List.countP_map]
  exact List.filter_sublist.countP_le

/-! ## Sizes -/

theorem size_eq_countP (t : Table α) : t.size = t.values.countP fun _ => true := by
  unfold size values
  rw [List.countP_true, List.length_map]

theorem size_insert_le (t : Table α) (key : UInt32) (value : α) :
    (t.insert key value).size ≤ t.size + 1 := by
  have h := countP_values_insert (fun _ => true) t key value
  rw [← size_eq_countP, ← size_eq_countP] at h
  exact Nat.le_trans (Nat.le_add_right _ _) (Nat.le_of_eq h)

theorem size_erase_le (t : Table α) (key : UInt32) : (t.erase key).size ≤ t.size := by
  unfold erase filter size
  exact List.length_filter_le _ _

end PassThru.Table
