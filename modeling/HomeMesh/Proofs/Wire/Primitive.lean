import HomeMesh.Proofs.Enumerated
import HomeMesh.Wire.Primitive
import Mathlib.Data.List.Forall2

/-!
# Readers take back what writers put

A reader *takes* a value off some bytes if it gives this value whenever the bytes stand at the
front, and leaves what follows them as it is (`Takes`).  Readers that run one after the other take
bytes that stand one after the other (`Takes.bind`), so the round trip of each part of the format is
a fact about that part alone: natural numbers (`takes_putNat`), integers (`takes_putInt32`), finite
domains (`takes_putChoice`), truth values and optional values (`takes_putBool`, `takes_putOption`),
lists (`takes_putList`) and numbers of the 32-bit binary format (`takes_putSingle`).

Beside each of them stands how many bytes the part has.  Parts that are written one after the other
into a buffer are all written just if there is room for all of them (`foldlM_write_of_room`,
`foldlM_write_of_full`).
-/

namespace HomeMesh.Wire

open Enumerated

variable {α β : Type} {a : α} {b : β} {bytes more : Bytes}

/-! ## Readers on bytes -/

/-- The reader gives `a` for these bytes, whatever follows, and leaves what follows. -/
def Takes (read : Reader α) (bytes : Bytes) (a : α) : Prop :=
  ∀ rest, read (bytes ++ rest) = some (a, rest)

theorem takes_pure (a : α) : Takes (pure a) [] a := fun _ => rfl

theorem takes_readByte (b : UInt8) : Takes readByte [b] b := fun _ => rfl

/-- What a reader takes, and what the next one takes after it, the two take together. -/
theorem Takes.bind {read : Reader α} {next : α → Reader β} (h : Takes read bytes a)
    (hnext : Takes (next a) more b) : Takes (read >>= next) (bytes ++ more) b := by
  intro rest
  rw [List.append_assoc]
  calc (read >>= next) (bytes ++ (more ++ rest))
      = (read (bytes ++ (more ++ rest))).bind fun p => next p.1 p.2 := rfl
    _ = next a (more ++ rest) := by rw [h, Option.bind_some]
    _ = some (b, rest) := hnext rest

/-- What follows may also take no bytes at all. -/
theorem Takes.bind_nil {read : Reader α} {next : α → Reader β} (h : Takes read bytes a)
    (hnext : Takes (next a) [] b) : Takes (read >>= next) bytes b := by
  have hboth : Takes (read >>= next) (bytes ++ []) b := h.bind hnext
  rwa [List.append_nil] at hboth

/-- A reader that ends by computing its result takes no bytes for that. -/
theorem Takes.bind_pure {read : Reader α} {f : α → β} (h : Takes read bytes a) :
    Takes (read >>= fun a => pure (f a)) bytes (f a) :=
  h.bind_nil (takes_pure (f a))

/-- Two readers that run one after the other succeed if both do. -/
theorem bind_eq_some {read : Reader α} {next : α → Reader β} {rest : Bytes} :
    (read >>= next) bytes = some (b, rest) ↔
      ∃ a middle, read bytes = some (a, middle) ∧ next a middle = some (b, rest) := by
  change (read bytes).bind (fun p => next p.1 p.2) = some (b, rest) ↔ _
  rw [Option.bind_eq_some_iff, Prod.exists]

theorem readByte_eq_some {b : UInt8} {rest : Bytes} :
    readByte bytes = some (b, rest) ↔ bytes = b :: rest := by
  cases bytes <;> simp [readByte]

theorem Takes.eq_some {read : Reader α} (h : Takes read bytes a) : read bytes = some (a, []) := by
  have hnil : read (bytes ++ []) = some (a, []) := h []
  rwa [List.append_nil] at hnil

/-! ## Buffers -/

section Buffers

variable {size : Nat} {buffer : Bounded UInt8 size} {part : Bytes} {parts : List Bytes}

theorem write_of_room (h : (buffer.items ++ part).length ≤ size) :
    write buffer part = .ok ⟨buffer.items ++ part, h⟩ := by
  rw [write, Bounded.append?, Bounded.ofList?, dif_pos h]

theorem write_of_full (h : ¬ (buffer.items ++ part).length ≤ size) :
    write buffer part = .error .bufferFull := by
  rw [write, Bounded.append?, Bounded.ofList?, dif_neg h]

theorem foldlM_write_of_room (h : (buffer.items ++ parts.flatten).length ≤ size) :
    parts.foldlM write buffer = .ok ⟨buffer.items ++ parts.flatten, h⟩ := by
  induction parts generalizing buffer with
  | nil => simp [pure, Except.pure]
  | cons part parts ih =>
    have hpart : (buffer.items ++ part).length ≤ size := by
      simp only [List.flatten_cons, List.length_append] at h ⊢
      omega
    have hparts : ((buffer.items ++ part) ++ parts.flatten).length ≤ size := by
      rwa [List.append_assoc, ← List.flatten_cons]
    rw [List.foldlM_cons, write_of_room hpart]
    change parts.foldlM write ⟨buffer.items ++ part, hpart⟩ = _
    rw [ih hparts]
    simp

/-- If there is no room for all parts, then the first one without room is refused, and with it the
whole message. -/
theorem foldlM_write_of_full (h : ¬ (buffer.items ++ parts.flatten).length ≤ size) :
    parts.foldlM write buffer = .error .bufferFull := by
  induction parts generalizing buffer with
  | nil => exact absurd (by simpa using buffer.length_le) h
  | cons part parts ih =>
    rw [List.foldlM_cons]
    by_cases hpart : (buffer.items ++ part).length ≤ size
    · rw [write_of_room hpart]
      refine ih ?_
      rwa [List.append_assoc, ← List.flatten_cons]
    · rw [write_of_full hpart]
      rfl

end Buffers

/-! ## Natural numbers -/

theorem toNat_ofNat_byte {n : Nat} (h : n < 256) : (UInt8.ofNat n).toNat = n :=
  UInt8.toNat_ofNat_of_lt' h

theorem putNat_of_lt {n : Nat} (h : n < 128) : putNat n = [UInt8.ofNat n] := by
  rw [putNat, if_pos h]

theorem putNat_of_le {n : Nat} (h : 128 ≤ n) :
    putNat n = UInt8.ofNat (n % 128 + 128) :: putNat (n / 128) := by
  rw [putNat, if_neg (Nat.not_lt.mpr h)]

/-- Room for one more group is room for numbers 128 times as large. -/
theorem lt_shiftLeft_iff {n width : Nat} (h : 7 ≤ width) :
    n < 1 <<< width ↔ n / 128 < 1 <<< (width - 7) := by
  have hsplit : 1 <<< width = 1 <<< (width - 7) * 128 := by
    rw [Nat.one_shiftLeft, Nat.one_shiftLeft, show (128 : Nat) = 2 ^ 7 from rfl, ← Nat.pow_add,
      Nat.sub_add_cancel h]
  rw [hsplit, Nat.div_lt_iff_lt_mul (by decide)]

/-- A number that fits into the width is read back from its groups. -/
theorem takes_putNat {n width : Nat} (hwidth : 0 < width) (h : n < 1 <<< width) :
    Takes (readNat width) (putNat n) n := by
  induction width using Nat.strongRecOn generalizing n with
  | ind width ih =>
    rw [readNat]
    by_cases hlast : width ≤ 7
    · -- Only one group has room, and the number has only one.
      have hroom : (1 : Nat) <<< width ≤ 128 := by
        have hmono : (2 : Nat) ^ width ≤ 2 ^ 7 := Nat.pow_le_pow_right (by decide) hlast
        rwa [Nat.one_shiftLeft]
      have hbyte : (UInt8.ofNat n).toNat = n := toNat_ofNat_byte (by omega)
      rw [putNat_of_lt (by omega)]
      apply (takes_readByte _).bind_nil
      rw [if_pos hlast, hbyte, if_pos h]
      exact takes_pure n
    · by_cases hn : n < 128
      · have hbyte : (UInt8.ofNat n).toNat = n := toNat_ofNat_byte (by omega)
        rw [putNat_of_lt hn]
        apply (takes_readByte _).bind_nil
        rw [if_neg hlast, hbyte, if_pos hn]
        exact takes_pure n
      · have hbyte : (UInt8.ofNat (n % 128 + 128)).toNat = n % 128 + 128 :=
          toNat_ofNat_byte (by omega)
        have hhigh : Takes (readNat (width - 7)) (putNat (n / 128)) (n / 128) :=
          ih (width - 7) (by omega) (by omega) ((lt_shiftLeft_iff (by omega)).mp h)
        have hvalue : (n % 128 + 128) % 128 + 128 * (n / 128) = n := by omega
        rw [putNat_of_le (by omega)]
        apply (takes_readByte _).bind
        rw [if_neg hlast, hbyte, if_neg (by omega)]
        have hjoin := hhigh.bind_pure (f := fun high => (n % 128 + 128) % 128 + 128 * high)
        rwa [hvalue] at hjoin

/-- A number of at most `7 * k` bits has at most `k` groups. -/
theorem length_putNat_le {n k : Nat} (hk : 0 < k) (h : n < 1 <<< (7 * k)) :
    (putNat n).length ≤ k := by
  induction k generalizing n with
  | zero => omega
  | succ k ih =>
    by_cases hn : n < 128
    · rw [putNat_of_lt hn, List.length_singleton]
      omega
    · have hhigh : n / 128 < 1 <<< (7 * k) := by
        have hiff := (lt_shiftLeft_iff (by omega : 7 ≤ 7 * (k + 1))).mp h
        rwa [show 7 * (k + 1) - 7 = 7 * k from by omega] at hiff
      have hpos : 0 < k := by
        apply Nat.pos_of_ne_zero
        rintro rfl
        have hone : (1 : Nat) <<< (7 * 0) = 1 := rfl
        omega
      rw [putNat_of_le (by omega), List.length_cons]
      exact Nat.succ_le_succ (ih hpos hhigh)

theorem takes_putUInt32 (w : UInt32) : Takes readUInt32 (putUInt32 w) w := by
  have hnat : Takes (readNat 32) (putUInt32 w) w.toNat := takes_putNat (by decide) w.toNat_lt
  have hword := hnat.bind_pure (f := UInt32.ofNat)
  rwa [UInt32.ofNat_toNat] at hword

/-! ## Integers -/

theorem unfoldInt_foldInt (v : Int) : unfoldInt (foldInt v) = v := by
  cases v with
  | ofNat n =>
    rw [foldInt, unfoldInt, if_pos (by omega), Nat.mul_div_cancel_left n (by decide)]
  | negSucc n =>
    rw [foldInt, unfoldInt, if_neg (by omega), show (2 * n + 1) / 2 = n from by omega]

theorem foldInt_lt (v : Int32) : foldInt v.toInt < 1 <<< 32 := by
  have hmax : v.toInt < 2 ^ 31 := v.toInt_lt
  have hmin : -2 ^ 31 ≤ v.toInt := v.le_toInt
  have hbound : (1 : Nat) <<< 32 = 4294967296 := rfl
  cases hv : v.toInt with
  | ofNat n =>
    rw [hv, Int.ofNat_eq_natCast] at hmax
    rw [foldInt]
    omega
  | negSucc n =>
    rw [foldInt]
    omega

theorem takes_readInt32 {v : Int32} (h : Takes (readNat 32) bytes (foldInt v.toInt)) :
    Takes readInt32 bytes v := by
  have hint := h.bind_pure (f := fun n => Int32.ofInt (unfoldInt n))
  rwa [unfoldInt_foldInt, Int32.ofInt_toInt] at hint

theorem takes_putInt32 (v : Int32) : Takes readInt32 (putInt32 v) v :=
  takes_readInt32 (takes_putNat (by decide) (foldInt_lt v))

theorem length_putInt32_le (v : Int32) : (putInt32 v).length ≤ 5 := by
  have hbound : (1 : Nat) <<< 32 ≤ 1 <<< (7 * 5) := by decide
  exact length_putNat_le (by decide) (Nat.lt_of_lt_of_le (foldInt_lt v) hbound)

/-! ## Finite domains -/

section Choice

variable [Enumerated α] [DecidableEq α]

theorem takes_readChoice (h : Takes (readNat 32) bytes (index a)) : Takes readChoice bytes a := by
  apply h.bind_nil
  rw [ofIndex?_index]
  exact takes_pure a

theorem takes_putChoice (hsize : (all : List α).length ≤ 128) (a : α) :
    Takes readChoice (putChoice a) a := by
  have hplace : index a < 1 <<< 32 := by
    have hlt : index a < (all : List α).length := index_lt_length a
    have hbound : (1 : Nat) <<< 32 = 4294967296 := rfl
    omega
  exact takes_readChoice (takes_putNat (by decide) hplace)

theorem length_putChoice (hsize : (all : List α).length ≤ 128) (a : α) :
    (putChoice a).length = 1 := by
  have hlt : index a < (all : List α).length := index_lt_length a
  rw [putChoice, putNat_of_lt (by omega), List.length_singleton]

end Choice

/-! ## Truth values and optional values -/

theorem takes_putBool (b : Bool) : Takes readBool (putBool b) b := by
  apply (takes_readByte _).bind_nil
  cases b <;> exact takes_pure _

theorem takes_putOption {read : Reader α} {put : α → Bytes} (h : ∀ a, Takes read (put a) a)
    (o : Option α) : Takes (readOption read) (putOption put o) o := by
  cases o with
  | none => exact (takes_putBool false).bind_nil (takes_pure none)
  | some a =>
    apply (takes_putBool true).bind
    rw [if_pos rfl, map_eq_pure_bind]
    exact (h a).bind_pure

/-! ## Lists -/

section Lists

variable {σ : Type} {capacity : Nat} {read : Reader α} {spell : σ → Bytes} {ss : List σ}

/-- Items that are taken one by one are taken together, however each of them is spelled. -/
theorem takes_readMany {as : List α} (h : List.Forall₂ (fun s a => Takes read (spell s) a) ss as) :
    Takes (readMany read as.length) (ss.flatMap spell) as := by
  induction h with
  | nil => exact takes_pure []
  | @cons s a ss as hs _ ih => exact hs.bind (ih.bind_pure (f := fun as => a :: as))

theorem takes_readList {xs : Bounded α capacity} (hlength : Takes (readNat 64) bytes xs.length)
    (h : List.Forall₂ (fun s a => Takes read (spell s) a) ss xs.items) :
    Takes (readList capacity read) (bytes ++ ss.flatMap spell) xs := by
  have hitems : Takes (readMany read xs.length) (ss.flatMap spell) xs.items := takes_readMany h
  apply hlength.bind
  rw [if_pos (show xs.length ≤ capacity from xs.length_le)]
  apply hitems.bind_nil
  rw [Bounded.ofList?, dif_pos xs.length_le]
  exact takes_pure xs

theorem takes_putList {put : α → Bytes} (h : ∀ a, Takes read (put a) a)
    (hcapacity : capacity < 1 <<< 64) (xs : Bounded α capacity) :
    Takes (readList capacity read) (putList put xs) xs := by
  have hlength : xs.length < 1 <<< 64 := Nat.lt_of_le_of_lt xs.length_le hcapacity
  exact takes_readList (takes_putNat (by decide) hlength) (List.forall₂_same.mpr fun a _ => h a)

end Lists

/-- A list whose items have one byte each has one byte more than it has items. -/
theorem length_putList {capacity : Nat} {put : α → Bytes} (h : ∀ a, (put a).length = 1)
    (hcapacity : capacity < 128) (xs : Bounded α capacity) :
    (putList put xs).length = xs.length + 1 := by
  have hlength : xs.length < 128 := Nat.lt_of_le_of_lt xs.length_le hcapacity
  have hitems : (xs.items.flatMap put).length = xs.length := by
    rw [List.length_flatMap, List.map_congr_left (fun a _ => h a), List.map_const',
      List.sum_replicate_nat, Nat.mul_one]
    rfl
  rw [putList, List.length_append, hitems, putNat_of_lt hlength, List.length_singleton,
    Nat.add_comm]

/-! ## Numbers of the 32-bit binary format -/

theorem length_putSingle (x : Single) : (putSingle x).length = 4 := rfl

/-- Four bytes are taken for the pattern whose lowest byte is the first of them. -/
theorem takes_readSingle {x : Single} {b0 b1 b2 b3 : UInt8}
    (h : x.bits.toNat =
      b0.toNat + 0x100 * b1.toNat + 0x10000 * b2.toNat + 0x1000000 * b3.toNat) :
    Takes readSingle [b0, b1, b2, b3] x := by
  intro rest
  have hvalue : Single.mk (UInt32.ofNat (b0.toNat + 0x100 * b1.toNat + 0x10000 * b2.toNat +
      0x1000000 * b3.toNat)) = x := by
    rw [← h, UInt32.ofNat_toNat]
  exact congrArg (fun y => some (y, rest)) hvalue

/-- Every bit pattern comes back, also those that are not numbers. -/
theorem takes_putSingle (x : Single) : Takes readSingle (putSingle x) x := by
  have hlt : x.bits.toNat < 4294967296 := x.bits.toNat_lt
  apply takes_readSingle
  simp only [UInt8.toNat_ofNat']
  omega

end HomeMesh.Wire
