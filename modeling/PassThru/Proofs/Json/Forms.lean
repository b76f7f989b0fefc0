import Mathlib.Data.List.Forall2
import PassThru.Json.Form
import PassThru.Proofs.Standard.Codes

/-!
# What a JSON value stands for

`Denotes` says of a type which JSON values stand for which of its values, without reading or
writing anything. There is often more than one: a constant is a name or an object, a record is an
object or an array, and an object may hold anything besides.

* `Json.IsRecord`: what a record may look like, given what may be found under each of its fields.
* `Json.isRecord_iff_partialRecord?` and `Json.isRecord_iff_record?`: a record is taken apart field
  by field exactly if it is one.
* `Json.isRecord_record`: the object that is written for a record is one.
* `LawfulJsonForm`: a type is read from the JSON values that stand for a value of it, and from no
  others; what is written is one of them.
-/

namespace PassThru

variable {α β : Type}

/-- Which JSON values stand for a value of a type. -/
class JsonMeaning (α : Type) where
  Denotes : Json → α → Prop

export JsonMeaning (Denotes)

/-! ## Records -/

/-- A field that has to be there. -/
def Required [JsonMeaning α] (a : α) (found : Option Json) : Prop :=
  ∃ j, found = some j ∧ Denotes j a

/-- A field that has a default for when it is missing. -/
def Defaulted [JsonMeaning α] (default a : α) (found : Option Json) : Prop :=
  (found = none ∧ a = default) ∨ Required a found

theorem not_required_none [JsonMeaning α] (a : α) : ¬ Required a none := by
  rintro ⟨j, h, -⟩
  cases h

@[simp] theorem required_some [JsonMeaning α] {a : α} {j : Json} :
    Required a (some j) ↔ Denotes j a := by
  simp [Required]

@[simp] theorem defaulted_some [JsonMeaning α] {default a : α} {j : Json} :
    Defaulted default a (some j) ↔ Denotes j a := by
  simp [Defaulted]

theorem mapM_eq_some_iff {f : α → Option β} {list : List α} {values : List β} :
    list.mapM f = some values ↔ list.map f = values.map some := by
  induction list generalizing values with
  | nil => cases values <;> simp
  | cons a list ih => cases values <;> simp [List.mapM_cons, Option.bind_eq_some_iff, ih]

namespace Json

/-- A JSON value with these fields, of each of which it is said what may be found under it. An
object may have other fields besides. An array has the fields in order and may end early. -/
def IsRecord (fields : List (String × (Option Json → Prop))) : Json → Prop
  | object written => ∀ field ∈ fields, field.2 (written.lookup field.1)
  | array items =>
    items.length ≤ fields.length ∧ ∀ (i : Nat) field, fields[i]? = some field → field.2 items[i]?
  | _ => False

variable {fields : List (String × (Option Json → Prop))} {names : List String} {j : Json}

theorem getElem_padded {items : List Json} {n i : Nat}
    (h : i < (items.map some ++ List.replicate n none).length) :
    (items.map some ++ List.replicate n none)[i] = items[i]? := by
  rw [List.getElem_append]
  split
  · rw [List.getElem_map, List.getElem?_eq_getElem]
  · next hnone =>
    rw [List.getElem_replicate, List.getElem?_eq_none]
    simpa using hnone

theorem isRecord_iff_partialRecord? :
    j.IsRecord fields ↔
      ∃ found, j.partialRecord? (fields.map Prod.fst) = some found ∧
        List.Forall₂ (fun field value => field.2 value) fields found := by
  cases j with
  | object written =>
    simp only [IsRecord, partialRecord?, List.map_map, Option.some.injEq, exists_eq_left']
    rw [List.forall₂_map_right_iff, List.forall₂_same]
    rfl
  | array items =>
    simp only [IsRecord, partialRecord?, List.length_map]
    split
    · next hle =>
      simp only [hle, true_and, Option.some.injEq, exists_eq_left', List.forall₂_iff_get,
        List.get_eq_getElem, getElem_padded, List.getElem?_eq_some_iff, forall_exists_index]
      constructor
      · intro h
        exact ⟨by simp [hle], fun i hi _ => h i _ hi rfl⟩
      · rintro ⟨hlength, h⟩ i _ hi rfl
        exact h i hi (hlength ▸ hi)
    · next hlt => simp [hlt]
  | _ => simp [IsRecord, partialRecord?]

/-- A record is complete if nothing is missing from it. -/
theorem record?_eq_some_iff {values : List Json} :
    j.record? names = some values ↔ j.partialRecord? names = some (values.map some) := by
  cases j with
  | object written => simp [record?, partialRecord?, mapM_eq_some_iff]
  | array items =>
    simp only [record?, partialRecord?]
    obtain hlt | heq | hgt := Nat.lt_trichotomy items.length names.length
    · -- a field that is left empty is none of the values
      have hnone : none ∈ items.map some ++ List.replicate (names.length - items.length) none := by
        simp [Nat.sub_ne_zero_of_lt hlt]
      have hne : items.map some ++ List.replicate (names.length - items.length) none ≠
          values.map some := by
        intro h
        simp [h] at hnone
      simp [Nat.ne_of_lt hlt, Nat.le_of_lt hlt, hne]
    · simp [heq, List.map_inj_right (fun _ _ => Option.some.inj)]
    · simp [Nat.ne_of_gt hgt, Nat.not_le.2 hgt]
  | _ => simp [record?, partialRecord?]

theorem exists_values (hrequired : ∀ field ∈ fields, ¬ field.2 none) {found : List (Option Json)}
    (h : List.Forall₂ (fun field value => field.2 value) fields found) :
    ∃ values : List Json, found = values.map some := by
  induction h with
  | nil => exact ⟨[], rfl⟩
  | @cons field value fields found hfield _ ih =>
    obtain ⟨values, rfl⟩ := ih fun field hmem => hrequired field (List.mem_cons_of_mem _ hmem)
    cases value with
    | none => exact absurd hfield (hrequired field List.mem_cons_self)
    | some value => exact ⟨value :: values, rfl⟩

theorem isRecord_iff_record? (hrequired : ∀ field ∈ fields, ¬ field.2 none) :
    j.IsRecord fields ↔
      ∃ values, j.record? (fields.map Prod.fst) = some values ∧
        List.Forall₂ (fun field value => field.2 (some value)) fields values := by
  rw [isRecord_iff_partialRecord?]
  simp only [record?_eq_some_iff]
  constructor
  · rintro ⟨found, hfound, h⟩
    obtain ⟨values, rfl⟩ := exists_values hrequired h
    exact ⟨values, hfound, List.forall₂_map_right_iff.1 h⟩
  · rintro ⟨values, hfound, h⟩
    exact ⟨_, hfound, List.forall₂_map_right_iff.2 h⟩

theorem length_of_partialRecord? {found : List (Option Json)}
    (h : j.partialRecord? names = some found) : found.length = names.length := by
  cases j with
  | object written =>
    obtain rfl := Option.some.inj h
    exact List.length_map _
  | array items =>
    obtain ⟨hle, hfound⟩ := Option.ite_none_right_eq_some.1 h
    obtain rfl := Option.some.inj hfound
    simp [hle]
  | _ => cases h

theorem length_of_record? {values : List Json} (h : j.record? names = some values) :
    values.length = names.length := by
  simpa using length_of_partialRecord? (record?_eq_some_iff.1 h)

/-- To read a record is to read its fields, of which there are as many as it has names. -/
theorem record?_bind_eq_some_iff {read : List Json → Option α} {a : α}
    (hnames : fields.map Prod.fst = names) (hrequired : ∀ field ∈ fields, ¬ field.2 none)
    (h : ∀ values, values.length = names.length →
      (read values = some a ↔
        List.Forall₂ (fun field value => field.2 (some value)) fields values)) :
    (j.record? names).bind read = some a ↔ j.IsRecord fields := by
  rw [Option.bind_eq_some_iff, isRecord_iff_record? hrequired, hnames]
  exact exists_congr fun values => and_congr_right fun hread => h values (length_of_record? hread)

/-- The object with these fields and no others is such a record. -/
theorem isRecord_record {values : List Json} (hnames : (fields.map Prod.fst).Nodup)
    (h : List.Forall₂ (fun field value => field.2 (some value)) fields values) :
    (record (fields.map Prod.fst) values).IsRecord fields := by
  show ∀ field ∈ fields, field.2 (((fields.map Prod.fst).zip values).lookup field.1)
  induction h with
  | nil => nofun
  | @cons field value fields values hfield _ ih =>
    rw [List.map_cons, List.nodup_cons] at hnames
    intro other hmem
    rw [List.map_cons, List.zip_cons_cons, List.lookup_cons]
    obtain rfl | hmem := List.mem_cons.1 hmem
    · simpa using hfield
    · -- the first field does not hide a later one, as its name is another
      have hne : other.1 ≠ field.1 := by
        intro hsame
        exact hnames.1 (hsame ▸ List.mem_map_of_mem hmem)
      simpa [beq_false_of_ne hne] using ih hnames.2 other hmem

theorem natBelow?_eq_some_iff {bound n : Nat} :
    j.natBelow? bound = some n ↔ j = .int n ∧ n < bound := by
  cases j with
  | int value =>
    simp only [natBelow?, int.injEq]
    split <;> simp <;> omega
  | _ => simp [natBelow?]

theorem map_natBelow?_eq_some_iff {bound : Nat} {ofNat : Nat → α} {toNat : α → Nat} {a : α}
    (hlt : ∀ a, toNat a < bound) (hback : ∀ a, ofNat (toNat a) = a)
    (hkept : ∀ n, n < bound → toNat (ofNat n) = n) :
    (j.natBelow? bound).map ofNat = some a ↔ j = .int (toNat a) := by
  simp only [Option.map_eq_some_iff, natBelow?_eq_some_iff]
  constructor
  · rintro ⟨n, ⟨rfl, hn⟩, rfl⟩
    rw [hkept n hn]
  · rintro rfl
    exact ⟨toNat a, ⟨rfl, hlt a⟩, hback a⟩

theorem constant?_eq_some_iff {name : String} :
    j.constant? = some name ↔ j = .string name ∨ j = .object [(name, .null)] := by
  unfold constant?
  split <;> simp_all

end Json

/-! ## Lawful forms -/

/-- A type is read from the JSON values that stand for a value of it, and from no others. The form
in which it is written is one of them. -/
class LawfulJsonForm (α : Type) [JsonForm α] [JsonMeaning α] : Prop where
  ofJson?_eq_some_iff : ∀ {j : Json} {a : α}, ofJson? j = some a ↔ Denotes j a
  denotes_toJson : ∀ a : α, Denotes (toJson a) a

export LawfulJsonForm (ofJson?_eq_some_iff denotes_toJson)

theorem ofJson?_toJson [JsonForm α] [JsonMeaning α] [LawfulJsonForm α] (a : α) :
    ofJson? (toJson a) = some a :=
  ofJson?_eq_some_iff.2 (denotes_toJson a)

theorem ofJsonOr?_eq_some_iff [JsonForm α] [JsonMeaning α] [LawfulJsonForm α] {default a : α}
    {found : Option Json} : ofJsonOr? default found = some a ↔ Defaulted default a found := by
  cases found with
  | none => simp [ofJsonOr?, Defaulted, not_required_none, eq_comm]
  | some j => rw [defaulted_some]; exact ofJson?_eq_some_iff

/-! ## Numbers, texts, lists and constants -/

instance : JsonMeaning UInt8 where
  Denotes j n := j = .int n.toNat

instance : JsonMeaning UInt32 where
  Denotes j n := j = .int n.toNat

instance : JsonMeaning UInt64 where
  Denotes j n := j = .int n.toNat

instance : LawfulJsonForm UInt8 where
  ofJson?_eq_some_iff :=
    Json.map_natBelow?_eq_some_iff UInt8.toNat_lt (fun _ => UInt8.ofNat_toNat)
      fun _ => UInt8.toNat_ofNat_of_lt'
  denotes_toJson _ := rfl

instance : LawfulJsonForm UInt32 where
  ofJson?_eq_some_iff :=
    Json.map_natBelow?_eq_some_iff UInt32.toNat_lt (fun _ => UInt32.ofNat_toNat)
      fun _ => UInt32.toNat_ofNat_of_lt'
  denotes_toJson _ := rfl

instance : LawfulJsonForm UInt64 where
  ofJson?_eq_some_iff :=
    Json.map_natBelow?_eq_some_iff UInt64.toNat_lt (fun _ => UInt64.ofNat_toNat)
      fun _ => UInt64.toNat_ofNat_of_lt'
  denotes_toJson _ := rfl

instance : JsonMeaning String where
  Denotes j text := j = .string text

instance : LawfulJsonForm String where
  ofJson?_eq_some_iff {j text} := by cases j <;> simp [ofJson?, Json.text?, Denotes]
  denotes_toJson _ := rfl

instance [JsonMeaning α] : JsonMeaning (List α) where
  Denotes j list := ∃ items, j = .array items ∧ List.Forall₂ Denotes items list

instance [JsonForm α] [JsonMeaning α] [LawfulJsonForm α] : LawfulJsonForm (List α) where
  ofJson?_eq_some_iff {j list} := by
    cases j with
    | array items =>
      show items.mapM ofJson? = some list ↔ ∃ given, Json.array items = .array given ∧ _
      simp only [Json.array.injEq, exists_eq_left', mapM_eq_some_iff]
      rw [← List.forall₂_eq_eq_eq, List.forall₂_map_left_iff, List.forall₂_map_right_iff]
      simp only [ofJson?_eq_some_iff]
    | _ => simp [ofJson?, Denotes, Json.items?]
  denotes_toJson list := by
    refine ⟨_, rfl, ?_⟩
    rw [List.forall₂_map_left_iff, List.forall₂_same]
    exact fun a _ => denotes_toJson a

/-- Nothing at all is written as `null`. -/
instance : JsonMeaning (Option String) where
  Denotes j
    | none => j = .null
    | some text => Denotes j text

instance : LawfulJsonForm (Option String) where
  ofJson?_eq_some_iff {j text} := by
    cases j <;> cases text <;> simp [ofJson?, Json.text?, Denotes]
  denotes_toJson
    | none => rfl
    | some _ => rfl

namespace Coded

variable [Coded α]

/-- A constant is its name, or an object with `null` under its name. -/
@[reducible] def jsonMeaning : JsonMeaning α where
  Denotes j a := j = .string (name a) ∨ j = .object [(name a, .null)]

theorem lawfulJsonForm [LawfulCoded α] :
    @LawfulJsonForm α Coded.jsonForm Coded.jsonMeaning :=
  @LawfulJsonForm.mk α Coded.jsonForm Coded.jsonMeaning
    (by
      intro j a
      show j.constant?.bind ofName? = some a ↔ j = .string (name a) ∨ j = .object [(name a, .null)]
      simp only [Option.bind_eq_some_iff, Json.constant?_eq_some_iff, ofName?_eq_some_iff]
      constructor
      · rintro ⟨_, h, rfl⟩
        exact h
      · intro h
        exact ⟨_, h, rfl⟩)
    fun _ => .inl rfl

end Coded

end PassThru
