import HomeMesh.Proofs.Node.Run
import HomeMesh.Proofs.Node.Step

/-!
# Calling a node later

A node knows no tick in particular, not even the tick 0: all that it asks about ticks is how they
lie to each other.  If all its events come later by the same time, and no tick passes the end of the
counter, then everything that depends on ticks comes later by that time, and nothing else changes.

Two windows, or two nodes, are the same but for the time if they are related by `Later`.  Whether a
window is running is the same for both (`Window.Later.isRunning_eq`), so each event has the same
fates and the same report for both nodes (`Node.Later.fate_eq`, `Node.Later.report?_eq`), and leaves
them related (`Node.Later.after`).  This holds for ticks in any order, so a whole run has the same
answers (`Node.Later.run`); `run_later` is the result for a node from its start.
-/

namespace HomeMesh

variable {delay : Nat}

/-! ## Windows -/

namespace Window

/-- The second window is the first one, opened later by `delay`. -/
inductive Later (delay : Nat) : Window → Window → Prop where
  | inactive : Later delay .inactive .inactive
  | openedAt {s s' : Tick} (hs : s'.toNat = s.toNat + delay) :
    Later delay (.openedAt s) (.openedAt s')

namespace Later

variable {w w' : Window} {now now' : Tick}

/-- The start is later by exactly the delay, without passing the end of the counter. -/
theorem start_eq (h : w.Later delay w') :
    w'.start.map UInt32.toNat = w.start.map fun s => s.toNat + delay := by
  cases h with
  | inactive => rfl
  | openedAt hs => exact congrArg some hs

theorem isRunning_eq (h : w.Later delay w') (hnow : now'.toNat = now.toNat + delay)
    (d : Duration) : w'.isRunning now' d = w.isRunning now d := by
  rw [Bool.eq_iff_iff, isRunning_iff, isRunning_iff]
  cases h with
  | inactive => simp only [start_inactive, reduceCtorEq, false_and, exists_false]
  | openedAt hs =>
    simp only [start_openedAt, Option.some.injEq, exists_eq_left', UInt32.le_iff_toNat_le, hs, hnow]
    omega

theorem normalize (h : w.Later delay w') (hnow : now'.toNat = now.toNat + delay) :
    (w.normalize now).Later delay (w'.normalize now') := by
  cases h with
  | inactive => exact .inactive
  | @openedAt s s' hs =>
    have hpast : now' < s' ↔ now < s := by
      rw [UInt32.lt_iff_toNat_lt, UInt32.lt_iff_toNat_lt, hs, hnow]
      omega
    simp only [Window.normalize, start_openedAt, hpast]
    split
    · exact .inactive
    · exact .openedAt hs

theorem apply (h : w.Later delay w') (hnow : now'.toNat = now.toNat + delay) (f : Fate) :
    (f.apply w now).Later delay (f.apply w' now') := by
  cases f with
  | spared => exact h
  | guarded => exact h.normalize hnow
  | closed => exact .inactive
  | opened => exact .openedAt hnow

end Later

end Window

namespace Node

/-! ## Nodes -/

/-- The second node is the first one, whose windows opened later by `delay`. -/
structure Later (delay : Nat) (n n' : Node) : Prop where
  profile : n'.profile = n.profile
  mode : n'.mode = n.mode
  sensors : n'.sensors = n.sensors
  windows : ∀ k, (n.windows.get k).Later delay (n'.windows.get k)
  warningEnabled : n'.warningEnabled = n.warningEnabled
  outbox : n'.outbox = n.outbox

theorem later_new (p : Profile) : (new p).Later delay (new p) where
  profile := rfl
  mode := rfl
  sensors := rfl
  windows k := by cases k <;> exact .inactive
  warningEnabled := rfl
  outbox := rfl

namespace Later

variable {n n' : Node} {now now' : Tick}

/-! ## What two such nodes have in common -/

theorem isRunning_eq (h : n.Later delay n') (hnow : now'.toNat = now.toNat + delay)
    (k : WindowName) : n'.isRunning k now' = n.isRunning k now := by
  rw [isRunning, h.profile]
  exact (h.windows k).isRunning_eq hnow _

theorem isLightRunning_eq (h : n.Later delay n') (hnow : now'.toNat = now.toNat + delay) :
    n'.isLightRunning now' = n.isLightRunning now := h.isRunning_eq hnow .light

theorem isDisplayRunning_eq (h : n.Later delay n') (hnow : now'.toNat = now.toNat + delay) :
    n'.isDisplayRunning now' = n.isDisplayRunning now := h.isRunning_eq hnow .display

theorem isIntrusionRunning_eq (h : n.Later delay n') (hnow : now'.toNat = now.toNat + delay) :
    n'.isIntrusionRunning now' = n.isIntrusionRunning now := h.isRunning_eq hnow .intrusion

theorem accepts_eq (h : n.Later delay n') (m : Envelope) : n'.accepts m = n.accepts m := by
  rw [accepts, id, h.profile]
  rfl

theorem fate_eq (h : n.Later delay n') (hnow : now'.toNat = now.toNat + delay) (e : Event)
    (k : WindowName) : n'.fate e now' k = n.fate e now k := by
  cases e with
  | movement input =>
    simp only [fate, movementFate, h.profile, h.mode, h.isLightRunning_eq hnow,
      h.isIntrusionRunning_eq hnow]
  | message m =>
    simp only [fate, messageFate, h.accepts_eq, h.isLightRunning_eq hnow,
      h.isIntrusionRunning_eq hnow]
  | luminosity _ | environment _ | door _ | button _ => rfl

theorem report?_eq (h : n.Later delay n') (hnow : now'.toNat = now.toNat + delay) (e : Event) :
    n'.report? e now' = n.report? e now := by
  cases e with
  | movement input =>
    simp only [report?, h.profile, h.mode, h.sensors, h.isLightRunning_eq hnow,
      h.isIntrusionRunning_eq hnow]
  | environment reading => simp only [report?, h.profile]
  | door isOpen => simp only [report?, h.profile]
  | luminosity _ | button _ | message _ => rfl

theorem outputs_eq (h : n.Later delay n') (hnow : now'.toNat = now.toNat + delay) :
    n'.outputs now' = n.outputs now := by
  simp only [outputs, outputsInSilence, outputsOnGuard, outputsInAlarm, comfortWarning, h.mode,
    h.profile, h.sensors, h.warningEnabled, h.isLightRunning_eq hnow, h.isDisplayRunning_eq hnow,
    h.isIntrusionRunning_eq hnow]

theorem actuators_eq (h : n.Later delay n') (hnow : now'.toNat = now.toNat + delay) :
    n'.actuators now' = n.actuators now := by
  rw [actuators, h.outputs_eq hnow, h.profile, h.outbox]
  rfl

/-! ## Steps and runs -/

/-- One event, which comes later by the delay. -/
theorem after (h : n.Later delay n') (hnow : now'.toNat = now.toNat + delay) (e : Event) :
    (n.after e now).Later delay (n'.after e now') where
  profile := h.profile
  mode := by cases e <;> simp only [Node.after, modeAfter, h.mode, h.accepts_eq]
  sensors := by cases e <;> simp only [Node.after, sensorsAfter, h.sensors, h.profile]
  windows k := by
    rw [Node.after, Node.after, get_windowsAfter, get_windowsAfter, h.fate_eq hnow]
    exact (h.windows k).apply hnow _
  warningEnabled := by
    cases e <;> simp only [Node.after, warningAfter, h.warningEnabled, h.profile, h.accepts_eq]
  outbox := by simp only [Node.after, h.report?_eq hnow, h.outbox]

theorem delayAfter_eq (h : n.Later delay n') (e : Event) : n'.delayAfter e = n.delayAfter e := by
  cases e <;> simp only [delayAfter, h.profile]

/-- Taking an envelope out gives the same envelope, and concerns no window. -/
theorem pop (h : n.Later delay n') :
    (n.call .pop).1.Later delay (n'.call .pop).1 ∧ (n'.call .pop).2 = (n.call .pop).2 := by
  simp only [call, popMessage?, h.outbox]
  cases Outbox.pop? n.outbox with
  | none => exact ⟨h, rfl⟩
  | some popped =>
    exact ⟨⟨h.profile, h.mode, h.sensors, h.windows, h.warningEnabled, rfl⟩, rfl⟩

variable {f : Tick → Tick}

/-- One call: the answer is the same. -/
theorem call (h : n.Later delay n') {c : Call Tick}
    (hf : ∀ t, c.time? = some t → (f t).toNat = t.toNat + delay) :
    (n.call c).1.Later delay (n'.call (c.map f)).1 ∧ (n'.call (c.map f)).2 = (n.call c).2 := by
  cases c with
  | event e now =>
    simp only [Call.map, Node.call, node_react, delay_react, h.delayAfter_eq, and_true]
    exact h.after (hf now rfl) e
  | pop => exact h.pop
  | reset =>
    refine ⟨?_, rfl⟩
    change (new n.profile).Later delay (new n'.profile)
    rw [h.profile]
    exact later_new n.profile

/-- A whole run: no order among the ticks is needed, since the relation does not speak of them. -/
theorem run (h : n.Later delay n') (calls : List (Call Tick))
    (hf : ∀ t ∈ Call.times calls, (f t).toNat = t.toNat + delay) :
    (n.run calls).1.Later delay (n'.run (calls.map (Call.map f))).1 ∧
      (n'.run (calls.map (Call.map f))).2 = (n.run calls).2 := by
  induction calls generalizing n n' with
  | nil => exact ⟨h, rfl⟩
  | cons c calls ih =>
    simp only [Call.times_cons, List.mem_append, Option.mem_toList] at hf
    obtain ⟨hcall, hanswer⟩ := h.call fun t ht => hf t (Or.inl ht)
    obtain ⟨hrun, hanswers⟩ := ih hcall fun t ht => hf t (Or.inr ht)
    refine ⟨hrun, ?_⟩
    rw [List.map_cons, Node.run, Node.run, hanswer, hanswers]

end Later

theorem toNat_add_of_fits {t d : UInt32} (h : t.toNat + d.toNat < UInt32.size) :
    (t + d).toNat = t.toNat + d.toNat := by
  rw [UInt32.toNat_add]
  exact Nat.mod_eq_of_lt h

/-- **Calling a node later.**  Let all events of a run come later by `d`, in whatever order their
ticks are, so that none passes the end of the counter.  Then after each call of the run all answers
so far are the same, and so are the mode, what the sensors have seen, whether the node warns, and
the outbox; the same windows are open, and have started later by `d`; and the outputs at any tick
are those that were wanted `d` before. -/
theorem run_later (p : Profile) (d : Duration) (calls : List (Call Tick))
    (hfits : ∀ t ∈ Call.times calls, t.toNat + d.toNat < UInt32.size) :
    ∀ first, first <+: calls →
      let early := (new p).run first
      let late := (new p).run (first.map (Call.map (· + d)))
      late.2 = early.2 ∧
        late.1.mode = early.1.mode ∧
        late.1.sensors = early.1.sensors ∧
        late.1.warningEnabled = early.1.warningEnabled ∧
        late.1.outbox = early.1.outbox ∧
        (∀ k, (late.1.windows.get k).start.map UInt32.toNat =
          (early.1.windows.get k).start.map fun s => s.toNat + d.toNat) ∧
        ∀ t : Tick, t.toNat + d.toNat < UInt32.size →
          late.1.actuators (t + d) = early.1.actuators t := by
  intro first hfirst early late
  have htimes : Call.times first ⊆ Call.times calls := (hfirst.filterMap Call.time?).subset
  obtain ⟨hlater, hanswers⟩ := (later_new p).run first fun t ht =>
    toNat_add_of_fits (hfits t (htimes ht))
  exact ⟨hanswers, hlater.mode, hlater.sensors, hlater.warningEnabled, hlater.outbox,
    fun k => (hlater.windows k).start_eq, fun t ht => hlater.actuators_eq (toNat_add_of_fits ht)⟩

/-- It is dark on the veranda, and somebody comes when the counter starts.  The darkness was
measured before the counter started again. -/
def midnightCalls : List (Call Tick) :=
  [.event (.luminosity ⟨.zero, true⟩) 50, .event (.movement .veranda) 0, .pop,
    .event (.movement .door) 5]

/-- A light that is switched on at the tick 0 is as good as one that is switched on shortly before
the counter ends. -/
theorem run_later_midnight :
    (∀ t ∈ Call.times midnightCalls, t.toNat + (4294900000 : Duration).toNat < UInt32.size) ∧
      (((new .b02).run midnightCalls).1.windows.get .light).start = some 0 ∧
      (((new .b02).run (midnightCalls.map (Call.map (· + 4294900000)))).1.windows.get .light).start =
        some 4294900000 ∧
      (((new .b02).run midnightCalls).1.actuators 30000).isOn .verandaLight = true ∧
      ((new .b02).run (midnightCalls.map (Call.map (· + 4294900000)))).1.actuators
          (30000 + 4294900000) =
        ((new .b02).run midnightCalls).1.actuators 30000 := by
  have hfits : ∀ t ∈ Call.times midnightCalls,
      t.toNat + (4294900000 : Duration).toNat < UInt32.size := by
    intro t ht
    have htimes : Call.times midnightCalls = [50, 0, 5] := rfl
    simp only [htimes, List.mem_cons, List.not_mem_nil, or_false] at ht
    obtain rfl | rfl | rfl := ht <;> decide
  obtain ⟨-, -, -, -, -, -, hactuators⟩ :=
    run_later .b02 4294900000 midnightCalls hfits midnightCalls (List.prefix_refl _)
  exact ⟨hfits, by decide +kernel, by decide +kernel, by decide +kernel,
    hactuators 30000 (by decide)⟩

end Node

end HomeMesh
