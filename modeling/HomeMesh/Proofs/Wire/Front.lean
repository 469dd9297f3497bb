import HomeMesh.Proofs.Wire.Format

/-!
# Readers take from the front

A reader *takes from the front* if whatever it gives it takes off the front of the bytes, so that it
would give the same if the bytes went on in any other way (`TakesFront`).  Readers that run one after
the other do so if each of them does (`TakesFront.bind`), and so does every reader that reads a
format (`Reads.takesFront`).  All parts of the wire format take from the front.

It follows that a value never ends too early: if some bytes are taken for a value, then no proper
beginning of them is taken for any value (`TakesFront.eq_none_of_prefix`).
-/

namespace HomeMesh.Wire

variable {α β σ : Type} {read : Reader α} {bytes : Bytes} {a : α}

/-- Whatever the reader gives, it takes it off the front of the bytes. -/
def TakesFront (read : Reader α) : Prop :=
  ∀ ⦃bytes rest a⦄, read bytes = some (a, rest) → ∃ front, bytes = front ++ rest ∧ Takes read front a

/-- Bytes that are taken for a value have no proper beginning that is taken for one. -/
theorem TakesFront.eq_none_of_prefix (hread : TakesFront read) (h : Takes read bytes a)
    {front : Bytes} (hfront : front <+: bytes) (hne : front ≠ bytes) : read front = none := by
  obtain ⟨more, rfl⟩ := hfront
  by_contra hsome
  obtain ⟨⟨early, rest⟩, hearly⟩ := Option.ne_none_iff_exists'.mp hsome
  obtain ⟨used, rfl, hused⟩ := hread hearly
  -- The early value is given again when the bytes go on, with all of `more` left over.
  have hagain : read (used ++ rest ++ more) = some (early, rest ++ more) := by
    rw [List.append_assoc]
    exact hused _
  have hleft : rest ++ more = [] := (Prod.mk.inj (Option.some.inj (hagain.symm.trans h.eq_some))).2
  exact hne (by rw [(List.append_eq_nil_iff.mp hleft).2, List.append_nil])

/-! ## Readers built from readers -/

theorem takesFront_pure (a : α) : TakesFront (pure a) := by
  intro bytes rest b h
  obtain ⟨rfl, rfl⟩ := Prod.mk.inj (Option.some.inj h)
  exact ⟨[], rfl, takes_pure a⟩

theorem takesFront_refuse : TakesFront (refuse : Reader α) := by
  intro bytes rest a h
  cases h

theorem takesFront_readByte : TakesFront readByte := by
  intro bytes rest b h
  exact ⟨[b], readByte_eq_some.mp h, takes_readByte b⟩

theorem TakesFront.bind {next : α → Reader β} (h : TakesFront read)
    (hnext : ∀ a, TakesFront (next a)) : TakesFront (read >>= next) := by
  intro bytes rest b hread
  obtain ⟨a, middle, hfirst, hsecond⟩ := bind_eq_some.mp hread
  obtain ⟨front, rfl, hfront⟩ := h hfirst
  obtain ⟨back, rfl, hback⟩ := hnext a hsecond
  exact ⟨front ++ back, (List.append_assoc ..).symm, hfront.bind hback⟩

theorem TakesFront.ite {other : Reader α} {P : Prop} [Decidable P] (h : TakesFront read)
    (hother : TakesFront other) : TakesFront (if P then read else other) := by
  split
  · exact h
  · exact hother

theorem Reads.takesFront {spell : σ → Bytes} {Holds : σ → α → Prop}
    (h : Reads read spell Holds) : TakesFront read := by
  intro bytes rest a hread
  obtain ⟨s, hs, rfl⟩ := h.exists_spelling hread
  exact ⟨spell s, rfl, h.takes hs⟩

/-! ## The parts of the wire format -/

theorem takesFront_readNat {width : Nat} (hwidth : 0 < width) : TakesFront (readNat width) := by
  intro bytes rest n h
  obtain ⟨g, hg, rfl⟩ := Groups.exists_groups_of_readNat hwidth h
  exact ⟨g.bytes, rfl, hg.takes⟩

theorem takesFront_readUInt32 : TakesFront readUInt32 :=
  (takesFront_readNat (by decide)).bind fun _ => takesFront_pure _

theorem takesFront_readChoice [Enumerated α] [DecidableEq α] :
    TakesFront (readChoice : Reader α) :=
  reads_choice.takesFront

theorem takesFront_readBool : TakesFront readBool :=
  takesFront_readByte.bind fun _ =>
    (takesFront_pure false).ite ((takesFront_pure true).ite takesFront_refuse)

theorem takesFront_readOption (h : TakesFront read) : TakesFront (readOption read) := by
  refine takesFront_readBool.bind fun _ => TakesFront.ite ?_ (takesFront_pure none)
  rw [map_eq_pure_bind]
  exact h.bind fun a => takesFront_pure (some a)

theorem takesFront_readMany (h : TakesFront read) (n : Nat) : TakesFront (readMany read n) := by
  induction n with
  | zero => exact takesFront_pure []
  | succ n ih => exact h.bind fun a => ih.bind fun as => takesFront_pure (a :: as)

theorem takesFront_readList (h : TakesFront read) (capacity : Nat) :
    TakesFront (readList capacity read) := by
  refine (takesFront_readNat (by decide)).bind fun n => TakesFront.ite ?_ takesFront_refuse
  refine (takesFront_readMany h n).bind fun items => ?_
  cases Bounded.ofList? items with
  | none => exact takesFront_refuse
  | some xs => exact takesFront_pure xs

theorem takesFront_readSingle : TakesFront readSingle := reads_single.takesFront

end HomeMesh.Wire
