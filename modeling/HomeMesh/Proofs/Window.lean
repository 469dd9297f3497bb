import HomeMesh.Window

/-!
# Windows as stretches of time

A window that is open is running on a stretch of the counter that begins at its start: up to the
last tick that is at most its duration away (`isRunning_iff`).  The stretch never crosses the point
where the counter wraps.

What the operations do is said in these terms.  Closing the windows that start in the future changes
no answer (`isRunning_normalize`), and leaves a window alone whose start has been reached
(`normalize_of_started`); reopening gives a running window back as it is, and opens any other anew
(`reopenIfExpired_eq`).
-/

namespace HomeMesh.Window

variable {w : Window} {now : Tick} {d : Duration}

@[simp] theorem start_inactive : inactive.start = none := rfl

@[simp] theorem start_openedAt : (openedAt now).start = some now := rfl

/-- No open window starts after `now`. -/
def StartsBy (w : Window) (now : Tick) : Prop := ∀ s, w.start = some s → s ≤ now

@[simp] theorem startsBy_inactive : inactive.StartsBy now := by
  intro s hs
  simp at hs

@[simp] theorem startsBy_openedAt : (openedAt now).StartsBy now := by
  intro s hs
  simp only [start_openedAt, Option.some.injEq] at hs
  exact UInt32.le_of_eq hs.symm

theorem StartsBy.mono {later : Tick} (h : w.StartsBy now) (hle : now ≤ later) :
    w.StartsBy later :=
  fun s hs => UInt32.le_trans (h s hs) hle

/-! ## When a window is running -/

/-- A window is running from its start to the last tick within its duration. -/
theorem isRunning_iff :
    w.isRunning now d = true ↔
      ∃ s, w.start = some s ∧ s ≤ now ∧ now.toNat ≤ s.toNat + d.toNat := by
  obtain ⟨start⟩ := w
  cases start with
  | none => simp [isRunning, isExpired, elapsed]
  | some s =>
    by_cases hs : s ≤ now
    · have hsub : (now - s).toNat = now.toNat - s.toNat := UInt32.toNat_sub_of_le _ _ hs
      have hle : s.toNat ≤ now.toNat := UInt32.le_iff_toNat_le.mp hs
      simp only [isRunning, isExpired, elapsed, hs, if_true, Bool.not_eq_true',
        decide_eq_false_iff_not, UInt32.lt_iff_toNat_lt, hsub, Option.some.injEq, exists_eq_left',
        true_and]
      omega
    · simp [isRunning, isExpired, elapsed, hs]

theorem isRunning_openedAt (now : Tick) (d : Duration) : (openedAt now).isRunning now d = true :=
  isRunning_iff.mpr ⟨now, rfl, UInt32.le_refl now, Nat.le_add_right _ _⟩

theorem isExpired_eq_not_isRunning : w.isExpired now d = !w.isRunning now d := by
  simp [isRunning]

/-! ## The guard against a wrapped counter -/

theorem normalize_eq :
    w.normalize now = if w.start.any fun s => decide (now < s) then inactive else w := by
  obtain ⟨start⟩ := w
  cases start with
  | none => rfl
  | some s => simp [normalize]

theorem normalize_of_started (h : w.StartsBy now) : w.normalize now = w := by
  have hany : (w.start.any fun s => decide (now < s)) = false := by
    rw [Option.any_eq_false]
    intro s hs
    have hle : s ≤ now := h s hs
    simpa using hle
  rw [normalize_eq, hany]
  rfl

theorem startsBy_normalize : (w.normalize now).StartsBy now := by
  obtain ⟨start⟩ := w
  cases start with
  | none => exact startsBy_inactive
  | some s =>
    by_cases hs : now < s
    · simp [normalize, hs]
    · intro s' hs'
      simp only [normalize, hs, if_false, Option.some.injEq] at hs'
      rw [← hs']
      exact UInt32.not_lt.mp hs

/-- The guard keeps the starts that have been reached. -/
theorem start_normalize {s : Tick} :
    (w.normalize now).start = some s ↔ w.start = some s ∧ s ≤ now := by
  obtain ⟨start⟩ := w
  cases start with
  | none => simp [normalize]
  | some s' =>
    by_cases hs : now < s'
    · have hpast : ¬ s' ≤ now := UInt32.not_le.mpr hs
      simp only [normalize, hs, if_true, start_inactive, Option.some.injEq, reduceCtorEq, false_iff]
      rintro ⟨rfl, hle⟩
      exact hpast hle
    · simp only [normalize, hs, if_false, Option.some.injEq, iff_self_and]
      rintro rfl
      exact UInt32.not_lt.mp hs

/-- The guard closes only windows that are not running anyway. -/
@[simp] theorem isRunning_normalize : (w.normalize now).isRunning now d = w.isRunning now d := by
  obtain ⟨start⟩ := w
  cases start with
  | none => rfl
  | some s =>
    by_cases hs : now < s
    · have hpast : ¬ s ≤ now := UInt32.not_le.mpr hs
      simp [normalize, isRunning, isExpired, elapsed, inactive, hs, hpast]
    · simp [normalize, hs]

/-! ## Reopening -/

theorem startsBy_of_isRunning (h : w.isRunning now d = true) : w.StartsBy now := by
  obtain ⟨s, hs, hle, -⟩ := isRunning_iff.mp h
  intro s' hs'
  rw [hs, Option.some.injEq] at hs'
  exact hs' ▸ hle

/-- A running window stays as it is; any other opens at `now`. -/
theorem reopenIfExpired_eq :
    w.reopenIfExpired now d =
      if w.isRunning now d then (w, false) else (openedAt now, true) := by
  rw [reopenIfExpired, isExpired_eq_not_isRunning, isRunning_normalize]
  cases h : w.isRunning now d with
  | false => rfl
  | true => simp [normalize_of_started (startsBy_of_isRunning h)]

end HomeMesh.Window
