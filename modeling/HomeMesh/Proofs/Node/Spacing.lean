import HomeMesh.Proofs.Node.Run
import HomeMesh.Proofs.Node.Step

/-!
# How far reports lie apart

A node tells others that a movement has opened a window: in silence it asks its light peer for
light, and on guard it reports an intrusion.  While the window is running, further movements are
absorbed.

In the meantime the window may open anew, because an envelope asks for it or because another window
takes it along; but then it starts later than before.  So from the report on, its start is never
before the report (`Window.StartsWithin`), until a call closes it (`Profile.Closes`).  Hence two
reports between which no call closes the window lie further apart than its duration
(`reports_apart`).
-/

namespace HomeMesh

/-- Whether a call makes a node with this profile close a window: a restart, or an envelope for the
node that commands a mode or switches off what the window stands for. -/
def Profile.Closes (p : Profile) (k : WindowName) : Call Tick → Prop
  | .event (.message m) _ =>
    m.isAddressedTo p.id p.acceptsBroadcast = true ∧
      (m.mode?.isSome ∨ k.command? = some m.command ∧ m.switchValue = .off)
  | .event _ _ | .pop => False
  | .reset => True

/-! ## Starts between two ticks -/

/-- The window is open, and it started at one of the ticks from `first` to `last`. -/
def Window.StartsWithin (w : Window) (first last : Tick) : Prop :=
  ∃ s, w.start = some s ∧ first ≤ s ∧ s ≤ last

namespace Window.StartsWithin

variable {w : Window} {first last now : Tick}

theorem mono (h : w.StartsWithin first last) (hle : last ≤ now) : w.StartsWithin first now := by
  obtain ⟨s, hs, hfirst, hlast⟩ := h
  exact ⟨s, hs, hfirst, UInt32.le_trans hlast hle⟩

/-- A window that started by `now` stays so whatever is done to it at `now`, unless it is closed. -/
theorem apply (h : w.StartsWithin first last) (hle : last ≤ now) {f : Fate} (hf : f ≠ .closed) :
    (f.apply w now).StartsWithin first now := by
  obtain ⟨s, hs, hfirst, hlast⟩ := h.mono hle
  cases f with
  | spared => exact ⟨s, hs, hfirst, hlast⟩
  | guarded => exact ⟨s, Window.start_normalize.mpr ⟨hs, hlast⟩, hfirst, hlast⟩
  | closed => exact absurd rfl hf
  | opened => exact ⟨now, rfl, UInt32.le_trans hfirst hlast, UInt32.le_refl now⟩

/-- Once such a window has run out, more than its duration has passed since `first`. -/
theorem lt_of_not_isRunning (h : w.StartsWithin first last) (hle : last ≤ now) {d : Duration}
    (hnot : w.isRunning now d = false) : first.toNat + d.toNat < now.toNat := by
  obtain ⟨s, hs, hfirst, hlast⟩ := h.mono hle
  have hpassed : ¬ now.toNat ≤ s.toNat + d.toNat := fun hd =>
    Bool.false_ne_true (hnot.symm.trans (Window.isRunning_iff.mpr ⟨s, hs, hlast, hd⟩))
  have hfirst' : first.toNat ≤ s.toNat := UInt32.le_iff_toNat_le.mp hfirst
  omega

end Window.StartsWithin

namespace Node

variable {n : Node} {k : WindowName} {e : Event} {first last now : Tick}

/-! ## Calls that close no window -/

theorem closes_of_fate (h : n.fate e now k = .closed) : n.profile.Closes k (.event e now) := by
  cases e with
  | movement input =>
    cases haction : n.profile.movementAction? input with
    | none => simp [fate, haction] at h
    | some action =>
      simp only [fate, haction] at h
      obtain hfate | hfate := movementFate_guarded_or_opened action <;> cases hfate.symm.trans h
  | message m =>
    simp only [fate] at h
    split at h
    next haccepts => exact ⟨haccepts, messageFate_eq_closed.mp h⟩
    next => cases h
  | _ => cases h

theorem profile_call (c : Call Tick) : (n.call c).1.profile = n.profile := by
  cases c with
  | event e now =>
    rw [call, node_react]
    rfl
  | pop =>
    obtain ⟨outbox, hpop⟩ := n.call_pop
    rw [hpop]
  | reset => rfl

theorem profile_run (calls : List (Call Tick)) : (n.run calls).1.profile = n.profile := by
  induction calls generalizing n with
  | nil => rfl
  | cons c calls ih => exact ih.trans (profile_call c)

/-- One call: a window that is not closed keeps its start or starts anew. -/
theorem startsWithin_call (h : (n.windows.get k).StartsWithin first last) {c : Call Tick}
    (hlate : ∀ t, c.time? = some t → last ≤ t) (hkept : ¬ n.profile.Closes k c) :
    ((n.call c).1.windows.get k).StartsWithin first (c.time?.getD last) := by
  cases c with
  | event e now =>
    have hfate : n.fate e now k ≠ .closed := fun hclosed => hkept (closes_of_fate hclosed)
    have happly := h.apply (hlate now rfl) hfate
    rw [← get_windowsAfter] at happly
    rw [call, node_react]
    exact happly
  | pop =>
    obtain ⟨outbox, hpop⟩ := n.call_pop
    rw [hpop]
    exact h
  | reset => exact absurd trivial hkept

/-- Some calls: the window has started by the latest event among them, and by any later tick. -/
theorem startsWithin_run {calls : List (Call Tick)}
    (h : (n.windows.get k).StartsWithin first last)
    (hlate : ∀ t ∈ Call.times calls, last ≤ t) (hordered : (Call.times calls).Pairwise (· ≤ ·))
    (hkept : ∀ c ∈ calls, ¬ n.profile.Closes k c) {t : Tick} (ht : last ≤ t)
    (hall : ∀ s ∈ Call.times calls, s ≤ t) :
    ((n.run calls).1.windows.get k).StartsWithin first t := by
  induction calls generalizing n last with
  | nil => exact h.mono ht
  | cons c calls ih =>
    obtain ⟨hfirst, hlater, hrest⟩ := Call.ordered_of_cons hlate hordered
    obtain ⟨hpast, hbefore⟩ := Call.le_of_cons ht hall
    have hstep := startsWithin_call h hfirst (hkept c List.mem_cons_self)
    refine ih hstep hlater hrest (fun c' hc' => ?_) hpast hbefore
    rw [profile_call]
    exact hkept c' (List.mem_cons_of_mem c hc')

/-! ## Reports -/

/-- Whether a movement makes the node tell others that it has opened a window, be there room for
the envelope in its outbox or not. -/
def Reports (n : Node) (k : WindowName) (input : MovementInput) (now : Tick) : Prop :=
  ∃ m, (n.react (.movement input) now).offered = some m ∧ k.command? = some m.command ∧
    m.switchValue = .on

/-- What a window stands for is asked of other nodes when the window opens, and not while it is
running. -/
theorem opened_of_report? {m : Envelope} (h : n.report? e now = some m)
    (hcommand : k.command? = some m.command) :
    n.isRunning k now = false ∧ n.fate e now k = .opened := by
  cases e with
  | environment reading =>
    obtain ⟨-, hm⟩ := Option.ite_none_right_eq_some.mp h
    obtain rfl := Option.some.inj hm
    cases hhumidity : reading.humidity <;> cases k <;>
      simp [Profile.climateReport, WindowName.command?, hhumidity] at hcommand
  | door isOpen =>
    obtain ⟨-, hm⟩ := Option.ite_none_right_eq_some.mp h
    obtain rfl := Option.some.inj hm
    cases k <;> cases hcommand
  | movement input =>
    cases haction : n.profile.movementAction? input with
    | none => simp [report?, haction] at h
    | some action =>
      cases hmode : n.mode with
      | silence =>
        simp only [report?, haction, hmode, Option.ite_none_left_eq_some,
          Option.ite_none_right_eq_some, Option.some.injEq] at h
        obtain ⟨hnot, -, rfl⟩ := h
        cases k <;> cases hcommand
        exact ⟨Bool.eq_false_iff.mpr hnot, by simp [fate, haction, movementFate, hmode, hnot]⟩
      | guard =>
        simp only [report?, haction, hmode, Option.ite_none_left_eq_some,
          Option.some.injEq] at h
        obtain ⟨hnot, rfl⟩ := h
        cases k <;> cases hcommand
        exact ⟨Bool.eq_false_iff.mpr hnot, by simp [fate, haction, movementFate, hmode, hnot]⟩
      | alarm => simp [report?, haction, hmode] at h
  | luminosity _ | button _ | message _ => cases h

/-- A window is reported when it opens, and not while it is running. -/
theorem fate_of_reports {input : MovementInput} (h : n.Reports k input now) :
    n.isRunning k now = false ∧ n.fate (.movement input) now k = .opened := by
  obtain ⟨m, hoffered, hcommand, -⟩ := h
  rw [offered_react] at hoffered
  exact opened_of_report? hoffered hcommand

theorem startsWithin_of_reports {input : MovementInput} (h : n.Reports k input now) :
    ((n.call (.event (.movement input) now)).1.windows.get k).StartsWithin now now := by
  have hstart : (n.call (.event (.movement input) now)).1.windows.get k = .openedAt now := by
    rw [call, node_react, after, get_windowsAfter, (fate_of_reports h).2]
    rfl
  rw [hstart]
  exact ⟨now, rfl, UInt32.le_refl now, UInt32.le_refl now⟩

/-- From a report on, the window that was reported starts too late to be reported again within its
duration. -/
theorem lt_of_reports {between : List (Call Tick)} {input₁ input₂ : MovementInput} {t₁ t₂ : Tick}
    (hordered : (t₁ :: (Call.times between ++ [t₂])).Pairwise (· ≤ ·))
    (hfirst : n.Reports k input₁ t₁) (hkept : ∀ c ∈ between, ¬ n.profile.Closes k c)
    (hsecond :
      ((n.call (.event (.movement input₁) t₁)).1.run between).1.Reports k input₂ t₂) :
    t₁.toNat + (n.profile.timing.duration k).toNat < t₂.toNat := by
  obtain ⟨hlate, hrest⟩ := List.pairwise_cons.mp hordered
  obtain ⟨hbetween, -, hall⟩ := List.pairwise_append.mp hrest
  have ht : t₁ ≤ t₂ := hlate t₂ (List.mem_append_right _ (List.mem_singleton_self t₂))
  have hprofile := profile_call (n := n) (.event (.movement input₁) t₁)
  have hstarts := startsWithin_run (startsWithin_of_reports hfirst)
    (fun t h => hlate t (List.mem_append_left _ h)) hbetween
    (fun c hc => by rw [hprofile]; exact hkept c hc) ht
    (fun s hs => hall s hs t₂ (List.mem_singleton_self t₂))
  have hnot := (fate_of_reports hsecond).1
  rw [isRunning, profile_run, hprofile] at hnot
  exact hstarts.lt_of_not_isRunning (UInt32.le_refl t₂) hnot

/-- **Reports lie apart.**  Call a node at ticks that never decrease, and let two movements make it
report the same window.  If no call between them closes that window, then more than its duration
lies between them, whatever else happens in between. -/
theorem reports_apart (p : Profile) (before between : List (Call Tick))
    (input₁ input₂ : MovementInput) (t₁ t₂ : Tick) (k : WindowName) :
    let first : Call Tick := .event (.movement input₁) t₁
    let second : Call Tick := .event (.movement input₂) t₂
    (Call.times (before ++ first :: (between ++ [second]))).Pairwise (· ≤ ·) →
    ((new p).run before).1.Reports k input₁ t₁ →
    ((new p).run (before ++ first :: between)).1.Reports k input₂ t₂ →
    (∀ c ∈ between, ¬ p.Closes k c) →
    (p.timing.duration k).toNat < t₂.toNat - t₁.toNat := by
  intro first second hordered hfirst hsecond hkept
  have hprofile : ((new p).run before).1.profile = p := profile_run before
  rw [Call.times_append, Call.times_cons, Call.times_append] at hordered
  rw [run_append] at hsecond
  have hapart := lt_of_reports (List.pairwise_append.mp hordered).2.1 hfirst
    (fun c hc => by rw [hprofile]; exact hkept c hc) hsecond
  rw [hprofile] at hapart
  omega

/-- The hub puts the veranda node on guard. -/
def guardVeranda : Envelope where
  source := .b01
  destinations := .truncate [.b02]
  command := .setMode
  value0 := 1

/-- The veranda node reports an intruder at its door.  Just after the alert has run out, the hall
node begins it anew by a report of its own, so that the next movement is absorbed; the veranda node
reports again when that alert has run out as well. -/
theorem reports_apart_renewedAlert :
    let before : List (Call Tick) := [.event (.message guardVeranda) 0]
    let between : List (Call Tick) :=
      [.event (.message Profile.t01.intrusionReport) 30011, .event (.movement .front) 30012]
    let first : Call Tick := .event (.movement .door) 10
    let second : Call Tick := .event (.movement .door) 60012
    (Call.times (before ++ first :: (between ++ [second]))).Pairwise (· ≤ ·) ∧
      ((new .b02).run before).1.Reports .intrusion .door 10 ∧
      ((new .b02).run (before ++ first :: between)).1.Reports .intrusion .door 60012 ∧
      (∀ c ∈ between, ¬ Profile.b02.Closes .intrusion c) ∧
      (Profile.b02.timing.duration .intrusion).toNat < (60012 : Tick).toNat - (10 : Tick).toNat := by
  intro before between first second
  have hordered : (Call.times (before ++ first :: (between ++ [second]))).Pairwise (· ≤ ·) := by
    decide
  have hfirst : ((new .b02).run before).1.Reports .intrusion .door 10 :=
    ⟨Profile.b02.intrusionReport, by decide +kernel, rfl, rfl⟩
  have hsecond : ((new .b02).run (before ++ first :: between)).1.Reports .intrusion .door 60012 :=
    ⟨Profile.b02.intrusionReport, by decide +kernel, rfl, rfl⟩
  have hkept : ∀ c ∈ between, ¬ Profile.b02.Closes .intrusion c := by
    simp [between, Profile.Closes, Envelope.mode?, Profile.intrusionReport, Envelope.switchValue,
      Switch.ofValue]
  exact ⟨hordered, hfirst, hsecond, hkept,
    reports_apart .b02 before between .door .door 10 60012 .intrusion hordered hfirst hsecond hkept⟩

end Node

end HomeMesh
