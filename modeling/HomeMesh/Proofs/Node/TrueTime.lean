import HomeMesh.Proofs.Node.Run
import HomeMesh.Proofs.Node.WrapGuard

/-!
# Windows in true time

The counter of a node starts again after 2³² milliseconds (`lap`), so its ticks alone do not tell
how long ago a window was opened.  Here a node is watched by somebody with a clock that never wraps
(`Watch`), who notes when each window was opened and when the guard against a wrapped counter was
run.

A window that was opened in an earlier lap is recognised only by a guard that is run at a tick below
its start.  If there is none, it comes back when the counter passes its start again.  So a window
reads as running exactly if it has been neither closed nor recognised since it was opened and the
*tick* is within its duration (`isRunning_iff_opened`).  Less than a lap after it was opened, this
means that it is running in true time as well; and windows that open long enough after the counter
starts again are recognised in time, if the guard is run often enough.

Both sides are shown by runs in which a report comes in every minute (`minuteCalls`): a display that
is woken a minute after the counter started is not awake a lap later, and one that is woken sooner
is (`display_returns_after_lap`).
-/

namespace HomeMesh

/-- After so many milliseconds the counter starts again. -/
def lap : Nat := 4294967296

/-- What the counter shows at some time. -/
def tickAt (t : Nat) : Tick := UInt32.ofNat t

theorem toNat_tickAt (t : Nat) : (tickAt t).toNat = t % lap := UInt32.toNat_ofNat'

theorem tickAt_le_iff {s t : Nat} : tickAt s ≤ tickAt t ↔ s % lap ≤ t % lap := by
  rw [UInt32.le_iff_toNat_le, toNat_tickAt, toNat_tickAt]

/-! ## Watching a node -/

/-- When a window was last opened, after its fate at the time `now`. -/
def Fate.openedAt (f : Fate) (before : Option Nat) (now : Nat) : Option Nat :=
  match f with
  | .spared | .guarded => before
  | .closed => none
  | .opened => some now

/-- A node, and what somebody notes who watches it by a clock that never wraps. -/
structure Watch where
  node : Node
  /-- When each window was last opened, unless it was told to close since then. -/
  openedAt : WindowName → Option Nat
  /-- When the guard was run. -/
  guardedAt : List Nat

namespace Watch

/-- What is noted after a call, where the node is called at the tick of its time. -/
def call (w : Watch) (c : Call Nat) : Watch :=
  let node := (w.node.call (c.map tickAt)).1
  match c with
  | .event e now =>
    { node
      openedAt := fun k => (w.node.fate e (tickAt now) k).openedAt (w.openedAt k) now
      guardedAt := if w.node.runsGuard e then w.guardedAt ++ [now] else w.guardedAt }
  | .pop => { w with node }
  | .reset => { w with node, openedAt := fun _ => none }

/-- What is noted after some calls to a node from its start. -/
def run (p : Profile) (calls : List (Call Nat)) : Watch :=
  calls.foldl call ⟨Node.new p, fun _ => none, []⟩

/-- Since the time `t0` no guard was run at a tick below that of `t0`. -/
def Unguarded (w : Watch) (t0 : Nat) : Prop :=
  ∀ s ∈ w.guardedAt, t0 ≤ s → t0 % lap ≤ s % lap

variable {w : Watch} {p : Profile} {past : Nat}

theorem node_foldl_call (w : Watch) (calls : List (Call Nat)) :
    (calls.foldl call w).node = (w.node.run (calls.map (Call.map tickAt))).1 := by
  induction calls generalizing w with
  | nil => rfl
  | cons c calls ih =>
    rw [List.foldl_cons, ih, List.map_cons, Node.run]
    cases c <;> rfl

/-- What is watched is the node that runs. -/
theorem node_run (p : Profile) (calls : List (Call Nat)) :
    (run p calls).node = ((Node.new p).run (calls.map (Call.map tickAt))).1 :=
  node_foldl_call _ calls

/-! ## What the notes say about the windows -/

/-- The notes are up to date, where `past` is the time of the latest event: a window has a start
exactly if it was opened and has not been recognised by the guard since then. -/
structure Consistent (w : Watch) (p : Profile) (past : Nat) : Prop where
  profile : w.node.profile = p
  guarded_le : ∀ s ∈ w.guardedAt, s ≤ past
  opened_le : ∀ k t0, w.openedAt k = some t0 → t0 ≤ past
  start_iff : ∀ k s, (w.node.windows.get k).start = some s ↔
    ∃ t0, w.openedAt k = some t0 ∧ w.Unguarded t0 ∧ s = tickAt t0

theorem consistent_new (p : Profile) :
    Consistent ⟨Node.new p, fun _ => none, []⟩ p past where
  profile := rfl
  guarded_le := by simp
  opened_le := by simp
  start_iff := by
    intro k s
    cases k <;> simp [Node.new, Windows.get]

theorem Consistent.mono (h : w.Consistent p past) {t : Nat} (hle : past ≤ t) :
    w.Consistent p t :=
  ⟨h.profile, fun s hs => Nat.le_trans (h.guarded_le s hs) hle,
    fun k t0 ht0 => Nat.le_trans (h.opened_le k t0 ht0) hle, h.start_iff⟩

section Event

variable {e : Event} {now : Nat}

theorem node_call_event : (w.call (.event e now)).node = w.node.after e (tickAt now) :=
  Node.node_react e

theorem openedAt_call_event (k : WindowName) :
    (w.call (.event e now)).openedAt k =
      (w.node.fate e (tickAt now) k).openedAt (w.openedAt k) now := rfl

theorem mem_guardedAt_call_event {s : Nat} :
    s ∈ (w.call (.event e now)).guardedAt ↔
      s ∈ w.guardedAt ∨ w.node.runsGuard e = true ∧ s = now := by
  simp only [call]
  split <;> simp_all

theorem unguarded_call_event {t0 : Nat} :
    (w.call (.event e now)).Unguarded t0 ↔
      w.Unguarded t0 ∧ (w.node.runsGuard e = true → t0 ≤ now → t0 % lap ≤ now % lap) := by
  simp only [Unguarded, mem_guardedAt_call_event]
  constructor
  · intro h
    exact ⟨fun s hs => h s (Or.inl hs), fun hguard => h now (Or.inr ⟨hguard, rfl⟩)⟩
  · rintro ⟨hbefore, hnow⟩ s (hs | ⟨hguard, rfl⟩)
    · exact hbefore s hs
    · exact hnow hguard

/-- Opening at `now` is after every guard so far. -/
theorem Consistent.unguarded (h : w.Consistent p past) (hle : past ≤ now) : w.Unguarded now := by
  intro s hs hlate
  have hearly : s ≤ past := h.guarded_le s hs
  obtain rfl : s = now := by omega
  exact Nat.le_refl _

/-- An event keeps the notes about the starts up to date: each fate does to the start of a window
what the notes say about it. -/
theorem Consistent.start_iff_event (h : w.Consistent p past) (hle : past ≤ now) (k : WindowName)
    (s : Tick) : ((w.call (.event e now)).node.windows.get k).start = some s ↔
      ∃ t0, (w.call (.event e now)).openedAt k = some t0 ∧
        (w.call (.event e now)).Unguarded t0 ∧ s = tickAt t0 := by
  have hguard : w.node.runsGuard e = true ↔ w.node.fate e (tickAt now) k ≠ .spared :=
    Node.runsGuard_iff k
  rw [node_call_event, Node.after, Node.get_windowsAfter, openedAt_call_event]
  simp only [unguarded_call_event, hguard]
  cases hfate : w.node.fate e (tickAt now) k with
  | spared =>
    simp only [Fate.apply, Fate.openedAt, h.start_iff, ne_eq, not_true_eq_false, false_imp_iff,
      and_true]
  | guarded =>
    -- The guard recognises a start of an earlier lap if its own tick is below it.
    rw [Fate.apply, Window.start_normalize, h.start_iff, Fate.openedAt]
    constructor
    · rintro ⟨⟨t0, hopened, hunguarded, rfl⟩, hstarted⟩
      exact ⟨t0, hopened, ⟨hunguarded, fun _ _ => tickAt_le_iff.mp hstarted⟩, rfl⟩
    · rintro ⟨t0, hopened, ⟨hunguarded, hstarted⟩, rfl⟩
      have ht0 : t0 ≤ now := Nat.le_trans (h.opened_le k t0 hopened) hle
      exact ⟨⟨t0, hopened, hunguarded, rfl⟩, tickAt_le_iff.mpr (hstarted Fate.noConfusion ht0)⟩
  | closed => simp [Fate.apply, Fate.openedAt]
  | opened =>
    rw [Fate.apply, Window.start_openedAt, Option.some.injEq, Fate.openedAt]
    constructor
    · rintro rfl
      exact ⟨now, rfl, ⟨h.unguarded hle, fun _ _ => Nat.le_refl _⟩, rfl⟩
    · rintro ⟨t0, hopened, -, rfl⟩
      rw [Option.some.inj hopened]

theorem Consistent.event (h : w.Consistent p past) (hle : past ≤ now) :
    (w.call (.event e now)).Consistent p now := by
  refine ⟨?_, ?_, ?_, h.start_iff_event hle⟩
  · rw [node_call_event]
    exact h.profile
  · intro s hs
    obtain hold | ⟨-, rfl⟩ := mem_guardedAt_call_event.mp hs
    · exact Nat.le_trans (h.guarded_le s hold) hle
    · exact Nat.le_refl s
  · intro k t0 ht0
    rw [openedAt_call_event] at ht0
    have hold : w.openedAt k = some t0 → t0 ≤ now :=
      fun hopened => Nat.le_trans (h.opened_le k t0 hopened) hle
    cases hfate : w.node.fate e (tickAt now) k with
    | spared | guarded =>
      rw [hfate] at ht0
      exact hold ht0
    | closed =>
      rw [hfate] at ht0
      cases ht0
    | opened =>
      rw [hfate] at ht0
      exact Nat.le_of_eq (Option.some.inj ht0).symm

end Event

theorem Consistent.call (h : w.Consistent p past) (c : Call Nat)
    (hlate : ∀ t, c.time? = some t → past ≤ t) :
    (w.call c).Consistent p (c.time?.getD past) := by
  cases c with
  | event e now => exact h.event (hlate now rfl)
  | pop =>
    obtain ⟨outbox, hpop⟩ := w.node.call_pop
    have hnode : (w.call .pop).node = { w.node with outbox := outbox } := hpop
    refine ⟨?_, h.guarded_le, h.opened_le, ?_⟩
    · rw [hnode]
      exact h.profile
    · rw [hnode]
      exact h.start_iff
  | reset =>
    refine ⟨h.profile, h.guarded_le, by simp [Watch.call], ?_⟩
    intro k s
    rw [show ((w.call .reset).node.windows.get k).start = none from by cases k <;> rfl]
    simp [Watch.call]

/-- The notes on a whole run are up to date at the time of its last event, and at any later time. -/
theorem Consistent.foldl_call (h : w.Consistent p past) (calls : List (Call Nat))
    (hlate : ∀ t ∈ Call.times calls, past ≤ t)
    (hordered : (Call.times calls).Pairwise (· ≤ ·)) {t : Nat} (ht : past ≤ t)
    (hall : ∀ s ∈ Call.times calls, s ≤ t) : (calls.foldl Watch.call w).Consistent p t := by
  induction calls generalizing w past with
  | nil => exact h.mono ht
  | cons c calls ih =>
    obtain ⟨hfirst, hlater, hrest⟩ := Call.ordered_of_cons hlate hordered
    obtain ⟨hpast, hbefore⟩ := Call.le_of_cons ht hall
    exact ih (h.call c hfirst) hlater hrest hpast hbefore

theorem consistent_run {p : Profile} {calls : List (Call Nat)} {t : Nat}
    (hordered : (Call.times calls).Pairwise (· ≤ ·)) (hall : ∀ s ∈ Call.times calls, s ≤ t) :
    (run p calls).Consistent p t :=
  (consistent_new p).foldl_call calls (fun s _ => Nat.zero_le s) hordered (Nat.zero_le t) hall

end Watch

/-! ## Ticks and true time -/

/-- Less than a lap after the start of a window the ticks do not lie about its age. -/
theorem sub_le_of_mod_le {t0 t d : Nat} (hle : t0 % lap ≤ t % lap) (hd : t % lap ≤ t0 % lap + d)
    (hlap : t - t0 < lap) : t - t0 ≤ d := by
  unfold lap at *
  omega

/-- A window that opens at least `gap` ticks after the counter started is recognised within a lap,
if the guard is run once in every stretch of `gap` milliseconds: the first such stretch of the next
lap ends before the counter passes the start of the window again. -/
theorem Watch.Unguarded.sub_lt_lap {w : Watch} {t0 t gap : Nat} (h : w.Unguarded t0)
    (hgap : gap ≤ t0 % lap)
    (hbusy : ∀ u, t0 ≤ u → u + gap ≤ t → ∃ s ∈ w.guardedAt, u ≤ s ∧ s < u + gap) :
    t - t0 < lap := by
  rw [← Nat.not_le]
  intro hlap
  have hnext : t0 ≤ (t0 / lap + 1) * lap ∧ (t0 / lap + 1) * lap + gap ≤ t := by
    unfold lap at *
    omega
  obtain ⟨s, hs, hbegin, hend⟩ := hbusy ((t0 / lap + 1) * lap) hnext.1 hnext.2
  have hrecognised : s % lap < t0 % lap := by
    unfold lap at *
    omega
  exact absurd (h s hs (Nat.le_trans hnext.1 hbegin)) (Nat.not_le.mpr hrecognised)

/-! ## A report in every minute -/

/-- A report that the veranda node accepts, and that does nothing there but run the guard. -/
def vainReport : Envelope where
  source := .t01
  destinations := .truncate [.b02]
  command := .updateTemperature

def reportAt (t : Nat) : Call Nat := .event (.message vainReport) t

theorem foldl_reportAt (w : Watch) (hp : w.node.profile = .b02) (ts : List Nat) :
    ((ts.map reportAt).foldl Watch.call w).openedAt = w.openedAt ∧
      ((ts.map reportAt).foldl Watch.call w).guardedAt = w.guardedAt ++ ts := by
  induction ts generalizing w with
  | nil => exact ⟨rfl, (List.append_nil _).symm⟩
  | cons t ts ih =>
    have haccepts : w.node.accepts vainReport = true := by
      rw [Node.accepts, Node.id, hp]
      decide
    have hopened : (w.call (reportAt t)).openedAt = w.openedAt := by
      funext k
      rw [reportAt, Watch.openedAt_call_event, Node.fate, haccepts, if_pos rfl]
      cases k <;> rfl
    have hguarded : (w.call (reportAt t)).guardedAt = w.guardedAt ++ [t] := by
      simp only [reportAt, Watch.call, Node.runsGuard, haccepts, if_true]
    have hprofile : (w.call (reportAt t)).node.profile = .b02 := by
      rw [reportAt, Watch.node_call_event]
      exact hp
    obtain ⟨hopened', hguarded'⟩ := ih (w.call (reportAt t)) hprofile
    rw [List.map_cons, List.foldl_cons, hopened', hguarded', hopened, hguarded, List.append_assoc]
    exact ⟨rfl, rfl⟩

/-- A movement on the veranda at the time `first`, and then a report in each of `n` minutes. -/
def minuteCalls (first n : Nat) : List (Call Nat) :=
  .event (.movement .veranda) first ::
    ((List.range n).map fun i => 60000 * (i + 1) + first).map reportAt

section MinuteCalls

variable {first n s u : Nat}

theorem times_minuteCalls_eq_cons (first n : Nat) :
    Call.times (minuteCalls first n) =
      first :: (List.range n).map fun i => 60000 * (i + 1) + first := by
  have hreports : ∀ ts : List Nat, Call.times (ts.map reportAt) = ts := by
    intro ts
    rw [Call.times, List.filterMap_map]
    exact List.filterMap_some
  rw [minuteCalls, Call.times_cons, hreports]
  rfl

theorem times_minuteCalls (first n : Nat) :
    Call.times (minuteCalls first n) = (List.range (n + 1)).map fun i => 60000 * i + first := by
  rw [times_minuteCalls_eq_cons, List.range_succ_eq_map, List.map_cons, List.map_map, Nat.mul_zero,
    Nat.zero_add]
  rfl

theorem mem_times_minuteCalls :
    s ∈ Call.times (minuteCalls first n) ↔ ∃ i ≤ n, 60000 * i + first = s := by
  rw [times_minuteCalls, List.mem_map]
  simp only [List.mem_range, Nat.lt_succ_iff]

theorem ordered_minuteCalls (first n : Nat) :
    (Call.times (minuteCalls first n)).Pairwise (· ≤ ·) := by
  rw [times_minuteCalls, List.pairwise_map]
  exact List.pairwise_lt_range.imp fun hlt => by omega

theorem le_of_mem_times_minuteCalls (h : s ∈ Call.times (minuteCalls first n)) :
    s ≤ 60000 * n + first := by
  obtain ⟨i, hi, rfl⟩ := mem_times_minuteCalls.mp h
  omega

/-- Every minute that ends after the first call has a call in it, up to the minute that begins with
the last one. -/
theorem exists_mem_times_minuteCalls (hfirst : first < u + 60000) (hlast : u ≤ 60000 * n + first) :
    ∃ s ∈ Call.times (minuteCalls first n), u ≤ s ∧ s < u + 60000 := by
  refine ⟨60000 * ((u + 59999 - first) / 60000) + first, mem_times_minuteCalls.mpr ⟨_, ?_, rfl⟩,
    ?_, ?_⟩ <;> omega

/-- Every one of the calls runs the guard, and only the first one opens the display window. -/
theorem notes_minuteCalls (first n : Nat) :
    (Watch.run .b02 (minuteCalls first n)).openedAt .display = some first ∧
      (Watch.run .b02 (minuteCalls first n)).guardedAt = Call.times (minuteCalls first n) := by
  obtain ⟨hopened, hguarded⟩ := foldl_reportAt (Watch.run .b02 [.event (.movement .veranda) first])
    rfl ((List.range n).map fun i => 60000 * (i + 1) + first)
  rw [times_minuteCalls_eq_cons]
  exact ⟨congrFun hopened .display, hguarded⟩

end MinuteCalls

/-! ## When a window reads as running -/

section Reading

variable {p : Profile} {calls : List (Call Nat)} {t : Nat}

theorem Watch.Consistent.isRunning_iff {w : Watch} (h : w.Consistent p t) (k : WindowName) :
    w.node.isRunning k (tickAt t) = true ↔
      ∃ t0, w.openedAt k = some t0 ∧ w.Unguarded t0 ∧
        t0 % lap ≤ t % lap ∧ t % lap ≤ t0 % lap + (p.timing.duration k).toNat := by
  rw [Node.isRunning, h.profile, Window.isRunning_iff]
  simp only [h.start_iff]
  constructor
  · rintro ⟨s, ⟨t0, hopened, hunguarded, rfl⟩, hle, hd⟩
    rw [toNat_tickAt, toNat_tickAt] at hd
    exact ⟨t0, hopened, hunguarded, tickAt_le_iff.mp hle, hd⟩
  · rintro ⟨t0, hopened, hunguarded, hle, hd⟩
    rw [← toNat_tickAt, ← toNat_tickAt t0] at hd
    exact ⟨tickAt t0, ⟨t0, hopened, hunguarded, rfl⟩, tickAt_le_iff.mpr hle, hd⟩

/-- **Windows in true time.**  A node is called at times that never decrease, and looked at at a
time `t` that is not before the last event.

A window reads as running exactly if it was last opened at some time `t0` and not told to close
since then, no guard has been run since then at a tick below that of `t0`, and the tick of `t` is
within the duration of the window after the tick of `t0`.  If it does, and `t` is less than a lap
after `t0`, then it is within the duration of the window in true time; and so it is however late `t`
is, if the window was opened at a tick not below `gap` and the guard was run in every stretch of
`gap` milliseconds since then. -/
theorem isRunning_iff_opened (hordered : (Call.times calls).Pairwise (· ≤ ·))
    (hall : ∀ s ∈ Call.times calls, s ≤ t) (k : WindowName) :
    let reads := ((Node.new p).run (calls.map (Call.map tickAt))).1.isRunning k (tickAt t)
    let w := Watch.run p calls
    let d := (p.timing.duration k).toNat
    (reads = true ↔ ∃ t0, w.openedAt k = some t0 ∧ w.Unguarded t0 ∧
      t0 % lap ≤ t % lap ∧ t % lap ≤ t0 % lap + d) ∧
    (reads = true → ∃ t0, w.openedAt k = some t0 ∧ t0 ≤ t ∧
      (t - t0 < lap → t - t0 ≤ d) ∧
      ∀ gap, gap ≤ t0 % lap →
        (∀ u, t0 ≤ u → u + gap ≤ t → ∃ s ∈ w.guardedAt, u ≤ s ∧ s < u + gap) → t - t0 ≤ d) := by
  intro reads w d
  have hw : w.Consistent p t := Watch.consistent_run hordered hall
  have hreads : reads = true ↔ ∃ t0, w.openedAt k = some t0 ∧ w.Unguarded t0 ∧
      t0 % lap ≤ t % lap ∧ t % lap ≤ t0 % lap + d := by
    have hnode : reads = w.node.isRunning k (tickAt t) := by rw [Watch.node_run]
    rw [hnode]
    exact hw.isRunning_iff k
  refine ⟨hreads, fun hrunning => ?_⟩
  obtain ⟨t0, hopened, hunguarded, hle, hd⟩ := hreads.mp hrunning
  refine ⟨t0, hopened, hw.opened_le k t0 hopened, sub_le_of_mod_le hle hd, ?_⟩
  intro gap hgap hbusy
  exact sub_le_of_mod_le hle hd (hunguarded.sub_lt_lap hgap hbusy)

end Reading

/-- The display is woken a minute after the counter started, and looked at when the counter shows
the same tick again.  If nothing has happened meanwhile, it is awake again, a lap too late.  If a
report has come in every minute, it is not. -/
theorem isRunning_iff_opened_secondLap :
    let reads (n : Nat) := ((Node.new .b02).run
      ((minuteCalls 60000 n).map (Call.map tickAt))).1.isRunning .display (tickAt 4295027296)
    (∀ n ≤ 71582, (Call.times (minuteCalls 60000 n)).Pairwise (· ≤ ·) ∧
        (∀ s ∈ Call.times (minuteCalls 60000 n), s ≤ 4295027296) ∧
        (Watch.run .b02 (minuteCalls 60000 n)).openedAt .display = some 60000) ∧
      (∀ u, 60000 ≤ u → u + 60000 ≤ 4295027296 →
        ∃ s ∈ (Watch.run .b02 (minuteCalls 60000 71582)).guardedAt, u ≤ s ∧ s < u + 60000) ∧
      reads 0 = true ∧ reads 71582 = false := by
  intro reads
  have hall : ∀ n ≤ 71582, ∀ s ∈ Call.times (minuteCalls 60000 n), s ≤ 4295027296 := by
    intro n hn s hs
    have hlast := le_of_mem_times_minuteCalls hs
    omega
  have hbusy : ∀ u, 60000 ≤ u → u + 60000 ≤ 4295027296 →
      ∃ s ∈ (Watch.run .b02 (minuteCalls 60000 71582)).guardedAt, u ≤ s ∧ s < u + 60000 := by
    intro u hfirst hlast
    rw [(notes_minuteCalls 60000 71582).2]
    exact exists_mem_times_minuteCalls (by omega) (by omega)
  refine ⟨fun n hn => ⟨ordered_minuteCalls 60000 n, hall n hn, (notes_minuteCalls 60000 n).1⟩,
    hbusy, ?_, ?_⟩
  · obtain ⟨hopened, hguarded⟩ := notes_minuteCalls 60000 0
    refine (isRunning_iff_opened (ordered_minuteCalls 60000 0) (hall 0 (by decide)) .display).1.mpr
      ⟨60000, hopened, ?_, by decide, by decide⟩
    intro s hs _
    rw [hguarded] at hs
    obtain rfl : s = 60000 := List.mem_singleton.mp hs
    exact Nat.le_refl _
  · refine Bool.eq_false_iff.mpr fun hreads => ?_
    obtain ⟨t0, ht0, -, -, hgap⟩ := (isRunning_iff_opened (ordered_minuteCalls 60000 71582)
      (hall 71582 (Nat.le_refl _)) .display).2 hreads
    obtain rfl : 60000 = t0 := Option.some.inj ((notes_minuteCalls 60000 71582).1.symm.trans ht0)
    exact absurd (hgap 60000 (by decide) hbusy) (by decide)

/-! ## A window that comes back

The guard cannot recognise a window if nothing happens between the moment the counter starts again
and the moment it passes the start of the window. -/

/-- Something happens in every minute of a lap, and always runs the guard.  Yet the display is awake
again one lap after it was woken. -/
theorem display_returns_after_lap :
    (∀ k, (Profile.b02.timing.duration k).toNat < 2147483648) ∧
      (Call.times (minuteCalls 100 71582)).Pairwise (· ≤ ·) ∧
      (∀ s ∈ Call.times (minuteCalls 100 71582), s ≤ 4294967396) ∧
      (∀ u, u + 60000 ≤ 4294967396 →
        ∃ s ∈ Call.times (minuteCalls 100 71582), u ≤ s ∧ s < u + 60000) ∧
      (Watch.run .b02 (minuteCalls 100 71582)).guardedAt = Call.times (minuteCalls 100 71582) ∧
      ((Node.new .b02).run ((minuteCalls 100 71582).map (Call.map tickAt))).1.isRunning .display
        (tickAt 4294967396) = true ∧
      ¬ ∃ t0, (Watch.run .b02 (minuteCalls 100 71582)).openedAt .display = some t0 ∧
        4294967396 - t0 ≤ (Profile.b02.timing.duration .display).toNat := by
  have hshort : ∀ k, (Profile.b02.timing.duration k).toNat < 2147483648 := by
    intro k
    cases k <;> decide
  have hordered := ordered_minuteCalls 100 71582
  have hall : ∀ s ∈ Call.times (minuteCalls 100 71582), s ≤ 4294967396 := by
    intro s hs
    have hlast := le_of_mem_times_minuteCalls hs
    omega
  have hbusy : ∀ u, u + 60000 ≤ 4294967396 →
      ∃ s ∈ Call.times (minuteCalls 100 71582), u ≤ s ∧ s < u + 60000 := fun u hu =>
    exists_mem_times_minuteCalls (by omega) (by omega)
  obtain ⟨hopened, hguarded⟩ := notes_minuteCalls 100 71582
  have hreads : ((Node.new .b02).run ((minuteCalls 100 71582).map (Call.map tickAt))).1.isRunning
      .display (tickAt 4294967396) = true := by
    rw [← Watch.node_run]
    refine ((Watch.consistent_run hordered hall).isRunning_iff .display).mpr
      ⟨100, hopened, ?_, by decide, by decide⟩
    intro s hs _
    obtain ⟨i, hi, rfl⟩ := mem_times_minuteCalls.mp (hguarded ▸ hs)
    have hlap : 60000 * i + 100 < lap := by
      unfold lap
      omega
    rw [Nat.mod_eq_of_lt hlap, Nat.mod_eq_of_lt (by decide)]
    exact Nat.le_add_left _ _
  refine ⟨hshort, hordered, hall, hbusy, hguarded, hreads, ?_⟩
  rintro ⟨t0, ht0, hsoon⟩
  obtain rfl : 100 = t0 := Option.some.inj (hopened.symm.trans ht0)
  exact absurd hsoon (by decide)

end HomeMesh
