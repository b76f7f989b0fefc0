import PassThru.Error
import PassThru.Standard.FilterType
import PassThru.Standard.Protocol

/-!
# Codes of the standard

The standard numbers its protocols, its control requests and its failures. The tables that write a
number and those that read it are apart from each other, and they agree: each number is read back as
the value that has it, and the numbers that are nobody's are no value's.

* `Protocol.ofCode?_eq_some_iff`, `Ioctl.ofCode?_eq_some_iff`: a number is read as the value that has
  it, and as no other.
* `LawfulCoded`: every value of an enumeration is found by its name.
* `ErrorCode.code_of_ofStatus`, `ErrorCode.ofStatus_asStatus`: the two tables of the failures.
* `ErrorCode.ofStatus_of_inside`, `ErrorCode.ofStatus_of_outside`: a status of the vendor table, and
  any other.
-/

namespace PassThru

/-! ## Enumerations -/

section Numbers

variable {n : UInt32}

theorem Protocol.ofCode?_eq_some_iff {p : Protocol} : ofCode? n = some p ↔ p.code = n := by
  constructor
  · intro h
    unfold ofCode? at h
    split at h
    all_goals cases h <;> rfl
  · rintro rfl
    cases p <;> rfl

theorem Ioctl.ofCode?_eq_some_iff {r : Ioctl} : ofCode? n = some r ↔ r.code = n := by
  constructor
  · intro h
    unfold ofCode? at h
    split at h
    all_goals cases h <;> rfl
  · rintro rfl
    cases r <;> rfl

theorem Ioctl.ofCode?_code (r : Ioctl) : ofCode? r.code = some r := ofCode?_eq_some_iff.2 rfl

end Numbers

/-- An enumeration of which every value is found by its name. -/
class LawfulCoded (α : Type) [Coded α] : Prop where
  ofName?_name : ∀ a : α, Coded.ofName? (Coded.name a) = some a

theorem Coded.ofName?_eq_some_iff {α : Type} [Coded α] [LawfulCoded α] {s : String} {a : α} :
    ofName? s = some a ↔ name a = s := by
  constructor
  · exact fun h => beq_iff_eq.1 (List.find?_some (p := fun a => name a == s) h)
  · rintro rfl
    exact LawfulCoded.ofName?_name a

instance : LawfulCoded Protocol where
  ofName?_name p := by cases p <;> rfl

instance : LawfulCoded Ioctl where
  ofName?_name r := by cases r <;> rfl

instance : LawfulCoded FilterType where
  ofName?_name t := by cases t <;> rfl

instance : LawfulCoded SelectType where
  ofName?_name t := by cases t; rfl

/-! ## Failures -/

namespace ErrorCode

variable {status : Int} {e : ErrorCode}

/-- Every row of the table that reads a status has its own number in the table that writes it. -/
theorem code_of_ofStatus (h : ofStatus status = some e) : e.code = status := by
  unfold ofStatus at h
  split at h
  all_goals cases h <;> rfl

theorem ofStatus_eq_none_iff : ofStatus status = none ↔ status = Status.noError := by
  constructor
  · intro h
    unfold ofStatus at h
    split at h
    · rfl
    all_goals cases h
  · rintro rfl
    rfl

theorem exists_ofStatus (h : status ≠ Status.noError) :
    ∃ e, ofStatus status = some e ∧ e.asStatus = status := by
  obtain ⟨e, he⟩ := Option.ne_none_iff_exists'.1 (mt ofStatus_eq_none_iff.1 h)
  exact ⟨e, he, code_of_ofStatus he⟩

theorem ne_noError_of_ofStatus (h : ofStatus status = some e) : status ≠ Status.noError := by
  rintro rfl
  cases h

theorem ofStatus_asStatus : ∀ code ∈ all, ofStatus code.asStatus = some code := by decide

/-- The codes of the vendor table are numbered from one, without a gap. -/
theorem code_of_getElem? {i : Nat} (h : all[i]? = some e) : e.code = i + 1 := by
  have hcodes : ∀ row ∈ all.zipIdx, row.1.code = row.2 + 1 := by decide
  exact hcodes (e, i) (List.mem_zipIdx_iff_getElem?.2 h)

/-- A status between the first number of the vendor table and the last is a row of it. -/
theorem ofStatus_of_inside (hfirst : 1 ≤ status) (hlast : status ≤ 0x26) :
    ∃ e ∈ all, all[status.toNat - 1]? = some e ∧ ofStatus status = some e := by
  have hlt : status.toNat - 1 < all.length := by
    show status.toNat - 1 < 38
    omega
  have hrow : all[status.toNat - 1]? = some all[status.toNat - 1] := List.getElem?_eq_getElem hlt
  have hmem : all[status.toNat - 1] ∈ all := List.getElem_mem hlt
  have hstatus : (all[status.toNat - 1]).asStatus = status := by
    refine (code_of_getElem? hrow).trans ?_
    omega
  refine ⟨_, hmem, hrow, ?_⟩
  rw [← ofStatus_asStatus _ hmem, hstatus]

theorem ofStatus_of_outside (hne : status ≠ Status.noError)
    (h : ¬ (1 ≤ status ∧ status ≤ 0x26)) : ofStatus status = some (unknown status) := by
  unfold ofStatus
  split
  · exact absurd rfl hne
  all_goals first | rfl | exact absurd (by decide) h

theorem eq_unknown_iff (h : ofStatus status = some e) :
    e = unknown status ↔ ¬ (1 ≤ status ∧ status ≤ 0x26) := by
  constructor
  · rintro rfl ⟨hfirst, hlast⟩
    obtain ⟨row, hmem, -, hrow⟩ := ofStatus_of_inside hfirst hlast
    obtain rfl := Option.some.inj (hrow.symm.trans h)
    have hnamed : ∀ code ∈ all, code ≠ unknown code.code := by decide
    exact hnamed _ hmem rfl
  · intro houtside
    have hunknown := ofStatus_of_outside (ne_noError_of_ofStatus h) houtside
    exact Option.some.inj (h.symm.trans hunknown)

theorem check_of_ofStatus (h : ofStatus status = some e) : check status = .error (.vendor e) := by
  unfold check
  rw [h]

end ErrorCode

end PassThru
