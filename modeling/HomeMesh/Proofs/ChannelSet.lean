import HomeMesh.Channel
import HomeMesh.Proofs.Enumerated
import Mathlib.Data.Nat.Bitwise

/-!
# Masks as sets of channels

A channel belongs to a `ChannelSet` exactly if the bit at its place is set
(`contains_eq_testBit`), so the operations on masks act on the bits like union and intersection
(`contains_insert`, `contains_inter`).

The seven bits without a meaning are not seen by `contains`.  A set is *proper* if they are clear,
and proper sets with the same channels are equal (`IsProper.ext`).  Inserting channels leaves these
bits alone (`testBit_foldl_insert`), so that every set is its proper part (`cleared`) together with
bits that nobody sees: sets have the same channels exactly if they have the same proper part
(`cleared_eq_iff`), and listing a set and building it again gives the proper part
(`ofList_toList`).  The main result `faithful` collects what makes masks as good as sets.
-/

namespace HomeMesh.ChannelSet

open Enumerated

variable {s t : ChannelSet} {c d : Channel}

/-! ## Membership is a bit test -/

theorem mask_toNat (c : Channel) : c.mask.toNat = 2 ^ index c := by
  cases c <;> rfl

/-- A channel is in a set if its bit is set. -/
theorem contains_eq_testBit (s : ChannelSet) (c : Channel) :
    s.contains c = s.bits.toNat.testBit (index c) := by
  have hand : (s.bits &&& c.mask).toNat = 2 ^ index c * (s.bits.toNat.testBit (index c)).toNat := by
    rw [UInt16.toNat_and, mask_toNat, Nat.and_two_pow, Nat.mul_comm]
  have hne : (s.bits &&& c.mask != 0) = ((s.bits &&& c.mask).toNat != 0) := by
    rw [Bool.eq_iff_iff, bne_iff_ne, bne_iff_ne, ne_eq, ne_eq, ← UInt16.toNat_inj]
    rfl
  rw [contains, hne, hand]
  cases s.bits.toNat.testBit (index c) <;> simp

theorem testBit_insert (s : ChannelSet) (c : Channel) (i : Nat) :
    (s.insert c).bits.toNat.testBit i = (s.bits.toNat.testBit i || decide (index c = i)) := by
  rw [insert, UInt16.toNat_or, Nat.testBit_or, mask_toNat, Nat.testBit_two_pow]

theorem testBit_inter (s t : ChannelSet) (i : Nat) :
    (s.inter t).bits.toNat.testBit i = (s.bits.toNat.testBit i && t.bits.toNat.testBit i) := by
  rw [inter, UInt16.toNat_and, Nat.testBit_and]

/-! ## The operations on sets -/

@[simp] theorem contains_empty : empty.contains c = false := by
  rw [contains_eq_testBit]
  exact Nat.zero_testBit _

@[simp] theorem contains_insert : (s.insert c).contains d = (s.contains d || decide (c = d)) := by
  rw [contains_eq_testBit, testBit_insert, ← contains_eq_testBit, decide_eq_decide.mpr index_inj]

@[simp] theorem contains_insertIf {p : Bool} :
    (s.insertIf p c).contains d = (s.contains d || (p && decide (c = d))) := by
  cases p <;> simp [insertIf]

@[simp] theorem contains_inter : (s.inter t).contains c = (s.contains c && t.contains c) := by
  rw [contains_eq_testBit, testBit_inter, ← contains_eq_testBit, ← contains_eq_testBit]

theorem mem_toList : c ∈ s.toList ↔ s.contains c = true := by
  have hall : c ∈ Channel.all := mem_all c
  rw [toList, List.mem_filter]
  exact and_iff_right hall

theorem contains_foldl_insert (cs : List Channel) :
    (cs.foldl insert s).contains d = (s.contains d || decide (d ∈ cs)) := by
  induction cs generalizing s with
  | nil => simp
  | cons c cs ih =>
    rw [List.foldl_cons, ih, contains_insert, Bool.or_assoc]
    congr 1
    by_cases hd : d = c
    · simp [hd]
    · simp [hd, Ne.symm hd]

@[simp] theorem contains_ofList (cs : List Channel) : (ofList cs).contains d = decide (d ∈ cs) := by
  rw [ofList, contains_foldl_insert, contains_empty, Bool.false_or]

/-! ## Proper sets -/

/-- No bit is set beyond those of the channels. -/
def IsProper (s : ChannelSet) : Prop := ∀ i, 9 ≤ i → s.bits.toNat.testBit i = false

theorem index_lt (c : Channel) : index c < 9 := index_lt_length c

/-- A channel that is inserted leaves the bits without a meaning alone. -/
theorem testBit_insert_of_le (s : ChannelSet) (c : Channel) {i : Nat} (hi : 9 ≤ i) :
    (s.insert c).bits.toNat.testBit i = s.bits.toNat.testBit i := by
  have hne : index c ≠ i := Nat.ne_of_lt (Nat.lt_of_lt_of_le (index_lt c) hi)
  rw [testBit_insert, decide_eq_false hne, Bool.or_false]

/-- So do any number of channels. -/
theorem testBit_foldl_insert (cs : List Channel) {i : Nat} (hi : 9 ≤ i) :
    (cs.foldl insert s).bits.toNat.testBit i = s.bits.toNat.testBit i := by
  induction cs generalizing s with
  | nil => rfl
  | cons c cs ih => rw [List.foldl_cons, ih, testBit_insert_of_le s c hi]

theorem isProper_empty : empty.IsProper := fun i _ => Nat.zero_testBit i

theorem IsProper.insert (h : s.IsProper) (c : Channel) : (s.insert c).IsProper :=
  fun i hi => (testBit_insert_of_le s c hi).trans (h i hi)

theorem IsProper.insertIf (h : s.IsProper) (p : Bool) (c : Channel) :
    (s.insertIf p c).IsProper := by
  cases p
  · exact h
  · exact h.insert c

theorem IsProper.inter (h : s.IsProper) (t : ChannelSet) : (s.inter t).IsProper := by
  intro i hi
  rw [testBit_inter, h i hi]
  rfl

theorem isProper_ofList (cs : List Channel) : (ofList cs).IsProper :=
  fun i hi => (testBit_foldl_insert cs hi).trans (isProper_empty i hi)

/-- Proper sets with the same channels are equal. -/
theorem IsProper.ext (hs : s.IsProper) (ht : t.IsProper)
    (h : ∀ c, s.contains c = t.contains c) : s = t := by
  obtain ⟨sbits⟩ := s
  obtain ⟨tbits⟩ := t
  congr 1
  apply UInt16.toNat_inj.mp
  apply Nat.eq_of_testBit_eq
  intro i
  by_cases hi : i < 9
  · obtain ⟨c, rfl⟩ : ∃ c : Channel, index c = i := exists_index hi
    have hc := h c
    rwa [contains_eq_testBit, contains_eq_testBit] at hc
  · rw [hs i (Nat.le_of_not_lt hi), ht i (Nat.le_of_not_lt hi)]

/-- The set with the bits without a meaning cleared. -/
def cleared (s : ChannelSet) : ChannelSet := ⟨s.bits &&& 0x1FF⟩

theorem testBit_cleared (s : ChannelSet) (i : Nat) :
    s.cleared.bits.toNat.testBit i = (s.bits.toNat.testBit i && decide (i < 9)) := by
  have hlow : (0x1FF : UInt16).toNat = 2 ^ 9 - 1 := rfl
  rw [cleared, UInt16.toNat_and, Nat.testBit_and, hlow, Nat.testBit_two_pow_sub_one]

theorem isProper_cleared (s : ChannelSet) : s.cleared.IsProper := by
  intro i hi
  rw [testBit_cleared, decide_eq_false (Nat.not_lt.mpr hi), Bool.and_false]

@[simp] theorem contains_cleared : s.cleared.contains c = s.contains c := by
  rw [contains_eq_testBit, testBit_cleared, decide_eq_true (index_lt c), Bool.and_true,
    ← contains_eq_testBit]

/-- Two sets have the same channels exactly if they differ in bits without a meaning only. -/
theorem cleared_eq_iff : s.cleared = t.cleared ↔ ∀ c, s.contains c = t.contains c := by
  constructor
  · intro h c
    rw [← contains_cleared, h, contains_cleared]
  · intro h
    exact s.isProper_cleared.ext t.isProper_cleared fun c => by simp only [contains_cleared, h c]

/-! ## Building and listing -/

/-- The mask of a set that is built is put together from those of its channels. -/
theorem bits_foldl_insert (cs : List Channel) :
    (cs.foldl insert s).bits = cs.foldl (fun bits c => bits ||| c.mask) s.bits := by
  induction cs generalizing s with
  | nil => rfl
  | cons c cs ih => exact ih

/-- Neither the order nor the repetition of channels matters. -/
theorem ofList_eq_iff {cs ds : List Channel} :
    ofList cs = ofList ds ↔ ∀ c, c ∈ cs ↔ c ∈ ds := by
  constructor
  · intro h c
    have hc : decide (c ∈ cs) = decide (c ∈ ds) := by rw [← contains_ofList, h, contains_ofList]
    exact decide_eq_decide.mp hc
  · intro h
    refine (isProper_ofList cs).ext (isProper_ofList ds) fun c => ?_
    rw [contains_ofList, contains_ofList, decide_eq_decide.mpr (h c)]

theorem toList_sublist (s : ChannelSet) : s.toList.Sublist Channel.all := List.filter_sublist

theorem nodup_toList (s : ChannelSet) : s.toList.Nodup :=
  s.toList_sublist.nodup (nodup_all : (all : List Channel).Nodup)

/-- Listing a set and building it again loses the bits without a meaning, and nothing else. -/
theorem ofList_toList (s : ChannelSet) : ofList s.toList = s.cleared := by
  refine (isProper_ofList _).ext s.isProper_cleared fun c => ?_
  rw [contains_ofList, contains_cleared, Bool.eq_iff_iff, decide_eq_true_iff, mem_toList]

/-- **Masks are faithful sets.**  Let `s` be any mask, whatever its bits without a meaning, and `cs`
any list of channels.

Inserting the channels of `cs` adds just these, and changes no bit without a meaning.  The set of
`cs` has the masks of the list one on top of the other, which is what inserting one by one into the
empty set gives; two lists have the same set exactly if they have the same members, in whatever
order and however often.  Listing `s` gives its channels, each once, in the order of the channels;
the set of this list is `s` without the bits that mean nothing.  And these bits are never seen: two
masks contain the same channels exactly if their lowest nine bits are the same. -/
theorem faithful (s : ChannelSet) (cs : List Channel) :
    ((∀ c, (cs.foldl insert s).contains c = true ↔ s.contains c = true ∨ c ∈ cs) ∧
      ∀ i, (cs.foldl insert s).bits.toNat.testBit (9 + i) = s.bits.toNat.testBit (9 + i)) ∧
    ((ofList cs).bits = cs.foldl (fun bits c => bits ||| c.mask) 0 ∧
      ofList cs = cs.foldl insert empty ∧
      ∀ ds, ofList cs = ofList ds ↔ ∀ c, c ∈ cs ↔ c ∈ ds) ∧
    ((∀ c, c ∈ s.toList ↔ s.contains c = true) ∧ s.toList.Nodup ∧
      s.toList.Sublist Channel.all ∧ (ofList s.toList).bits = s.bits &&& 0x1FF) ∧
    ∀ t : ChannelSet, (∀ c, s.contains c = t.contains c) ↔ s.bits &&& 0x1FF = t.bits &&& 0x1FF := by
  have hinsert : ∀ c, (cs.foldl insert s).contains c = true ↔ s.contains c = true ∨ c ∈ cs := by
    intro c
    rw [contains_foldl_insert, Bool.or_eq_true, decide_eq_true_iff]
  have hlisted : (ofList s.toList).bits = s.bits &&& 0x1FF := congrArg bits s.ofList_toList
  have hseen : ∀ t : ChannelSet,
      (∀ c, s.contains c = t.contains c) ↔ s.bits &&& 0x1FF = t.bits &&& 0x1FF := by
    intro t
    rw [← cleared_eq_iff, cleared, cleared, mk.injEq]
  exact ⟨⟨hinsert, fun i => testBit_foldl_insert cs (Nat.le_add_right 9 i)⟩,
    ⟨bits_foldl_insert cs, rfl, fun ds => ofList_eq_iff⟩,
    ⟨fun c => mem_toList, s.nodup_toList, s.toList_sublist, hlisted⟩, hseen⟩

end HomeMesh.ChannelSet
