import HomeMesh.Enumerated
import Mathlib.Data.List.Perm.Subperm

/-!
# Places and values

The places of a finite domain are the numbers below its size: each value has one, and the value at
that place is the value itself (`ofIndex?_index`); each of these numbers is the place of a value
(`exists_index`).  In the same way the value with a label is the one that the label belongs to
(`ofLabel?_label`).
-/

namespace HomeMesh.Enumerated

variable {α : Type} [Enumerated α]

/-- A label names its value. -/
@[simp] theorem ofLabel?_label (a : α) : ofLabel? (label a) = some a := by
  have hfound : ((all : List α).find? fun b => label b == label a).isSome = true :=
    List.find?_isSome.mpr ⟨a, mem_all a, beq_self_eq_true (label a)⟩
  obtain ⟨b, hb⟩ := Option.isSome_iff_exists.mp hfound
  have hlabel : label b = label a := by simpa using List.find?_some hb
  rw [ofLabel?, hb, label_injective b a hlabel]

/-- A list without repetition is no longer than the domain. -/
theorem length_le_of_nodup {as : List α} (h : as.Nodup) : as.length ≤ (all : List α).length :=
  (h.subperm fun a _ => mem_all a).length_le

variable [DecidableEq α]

theorem index_lt_length (a : α) : index a < (all : List α).length :=
  List.idxOf_lt_length_of_mem (mem_all a)

/-- A value stands at its own place. -/
@[simp] theorem ofIndex?_index (a : α) : ofIndex? (index a) = some a := by
  rw [ofIndex?, List.getElem?_eq_getElem (index_lt_length a)]
  exact congrArg some (List.getElem_idxOf (index_lt_length a))

theorem index_inj {a b : α} : index a = index b ↔ a = b := by
  constructor
  · intro h
    have hsome : some a = some b := by rw [← ofIndex?_index a, h, ofIndex?_index]
    exact Option.some.inj hsome
  · rintro rfl
    rfl

theorem ofIndex?_eq_some {i : Nat} {a : α} : ofIndex? i = some a ↔ index a = i := by
  constructor
  · intro h
    obtain ⟨hi, rfl⟩ := List.getElem?_eq_some_iff.mp h
    exact nodup_all.idxOf_getElem i hi
  · rintro rfl
    exact ofIndex?_index a

theorem exists_index {i : Nat} (hi : i < (all : List α).length) : ∃ a : α, index a = i :=
  ⟨(all : List α)[i], nodup_all.idxOf_getElem i hi⟩

end HomeMesh.Enumerated
