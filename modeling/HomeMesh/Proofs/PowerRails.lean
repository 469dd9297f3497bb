import HomeMesh.PowerRails
import HomeMesh.Proofs.Applier
import Mathlib.Data.List.DropRight

/-!
# Pins that refuse to be written

An applier writes what differs from the state that it applied last, whether the pins took that state
or not; the rails note a refused write and forget it.  So a write that was refused is not tried
again while the states ask for the same: the pin has a wrong level until the states change, or until
the applier is told to forget.

Here an applier drives the pins of some rails (`Driven`), and a run is a list of states with the
pins that let themselves be driven (`Application`).  `level_apply` says what one application makes
of a pin.  Along a run the states are cut into stretches in which they ask the same of an output;
the output is written where a stretch begins, and what becomes of that write decides for the whole
stretch (`level_eq_iff`).  The main result `levels_eq_iff` says when all outputs have their level
after an application that no pin refuses.
-/

namespace HomeMesh

/-! ## Outputs by role -/

/-- The level that a state asks of the pin of a role. -/
def ActuatorState.level (s : ActuatorState) : PinRole → Bool
  | .redLed => s.led == .red
  | .greenLed => s.led == .green
  | .channel c => s.isOn c

/-- Whether states are applied to the pin of a role, if they are applied to a set of channels. -/
def ChannelSet.drives (channels : ChannelSet) : PinRole → Bool
  | .redLed | .greenLed => true
  | .channel c => channels.contains c

/-- The levels that a write asks of pins, by their roles. -/
def Write.levels : Write → List (PinRole × Bool)
  | .led colour => [(.redLed, colour == .red), (.greenLed, colour == .green)]
  | .channel c on => [(.channel c, on)]

/-- Whether the pin of a role has to be written. -/
def Applier.needs (a : Applier) (s : ActuatorState) (r : PinRole) : Bool :=
  a.last.all fun last => last.level r != s.level r

theorem Applier.needsLed_eq (a : Applier) (s : ActuatorState) :
    a.needsLed s = a.needs s .redLed ∧ a.needsLed s = a.needs s .greenLed := by
  obtain ⟨last⟩ := a
  cases last with
  | none => exact ⟨rfl, rfl⟩
  | some last =>
    simp only [needsLed, needs, Option.all_some, ActuatorState.level]
    cases last.led <;> cases s.led <;> exact ⟨rfl, rfl⟩

/-- An application writes the outputs that need it, each to the level that the state asks for. -/
theorem Applier.mem_levels_writes (a : Applier) (s : ActuatorState) (channels : ChannelSet)
    (r : PinRole) (high : Bool) :
    (r, high) ∈ (a.writes s channels).flatMap Write.levels ↔
      a.needs s r = true ∧ channels.drives r = true ∧ high = s.level r := by
  obtain ⟨hred, hgreen⟩ := a.needsLed_eq s
  have hled : (r, high) ∈ (if a.needsLed s then [Write.led s.led] else []).flatMap Write.levels ↔
      a.needsLed s = true ∧
        (r = .redLed ∧ high = s.level .redLed ∨ r = .greenLed ∧ high = s.level .greenLed) := by
    cases a.needsLed s <;> simp [Write.levels, ActuatorState.level]
  have hchannel : (r, high) ∈ (((channels.toList.filter (a.needsChannel s)).map fun c =>
      Write.channel c (s.isOn c)).flatMap Write.levels) ↔
      ∃ c, r = .channel c ∧ channels.contains c = true ∧ a.needsChannel s c = true ∧
        high = s.isOn c := by
    simp only [List.mem_flatMap, List.mem_map, List.mem_filter, ChannelSet.mem_toList]
    constructor
    · rintro ⟨_, ⟨c, ⟨hc, hneeds⟩, rfl⟩, hmem⟩
      obtain ⟨rfl, rfl⟩ := Prod.mk.inj (List.mem_singleton.mp hmem)
      exact ⟨c, rfl, hc, hneeds, rfl⟩
    · rintro ⟨c, rfl, hc, hneeds, rfl⟩
      exact ⟨_, ⟨c, ⟨hc, hneeds⟩, rfl⟩, List.mem_singleton_self _⟩
  rw [Applier.writes, List.flatMap_append, List.mem_append, hled, hchannel]
  cases r with
  | redLed => simp [hred, ChannelSet.drives]
  | greenLed => simp [hgreen, ChannelSet.drives]
  | channel c =>
    have hneeds : a.needs s (.channel c) = a.needsChannel s c := rfl
    simp [hneeds, ChannelSet.drives, ActuatorState.level, and_left_comm]

namespace PowerRails

variable {Pin : Type} {p : PowerRails Pin}

/-- The pin of a role. -/
def pinOf? (p : PowerRails Pin) : PinRole → Option Pin
  | .redLed => some p.redPin
  | .greenLed => some p.greenPin
  | .channel c => p.pin? c

/-- Each pin belongs to the rails in one role only. -/
def HasOwnPins (p : PowerRails Pin) : Prop :=
  ∀ r r' pin, p.pinOf? r = some pin → p.pinOf? r' = some pin → r = r'

/-- The pin writes that come of levels asked by role. -/
def pinWrites (p : PowerRails Pin) (accepts : Pin → Bool) (levels : List (PinRole × Bool)) :
    List (PinWrite Pin) :=
  levels.filterMap fun l => (p.pinOf? l.1).map fun pin => ⟨pin, l.2, accepts pin⟩

theorem performAll_writes (accepts : Pin → Bool) (ws : List Write) :
    (p.performAll accepts ws).1 = p.pinWrites accepts (ws.flatMap Write.levels) := by
  have hone (w : Write) : (p.perform accepts w).1 = p.pinWrites accepts w.levels := by
    cases w with
    | led colour => rfl
    | channel c on =>
      simp only [perform, setChannel, Write.levels, pinWrites, pinOf?, List.filterMap_cons]
      cases p.pin? c <;> rfl
  simp only [performAll, pinWrites, List.filterMap_flatMap, List.flatMap_map]
  exact congrArg (ws.flatMap ·) (funext hone)

end PowerRails

/-! ## Levels of pins -/

section Levels

variable {Pin : Type} [DecidableEq Pin] {p : PowerRails Pin} {accepts : Pin → Bool}
  {levels : Pin → Bool} {pin : Pin} {r : PinRole}

/-- The levels after a pin write: a pin that refuses stays as it is. -/
def PinWrite.apply (levels : Pin → Bool) (w : PinWrite Pin) : Pin → Bool :=
  if w.accepted then Function.update levels w.pin w.high else levels

/-- The levels after a level was asked of the pin of a role. -/
def PowerRails.ask (p : PowerRails Pin) (accepts : Pin → Bool) (levels : Pin → Bool)
    (l : PinRole × Bool) : Pin → Bool :=
  (p.pinOf? l.1).elim levels fun pin => PinWrite.apply levels ⟨pin, l.2, accepts pin⟩

theorem PowerRails.foldl_pinWrites (asked : List (PinRole × Bool)) :
    (p.pinWrites accepts asked).foldl PinWrite.apply levels =
      asked.foldl (p.ask accepts) levels := by
  rw [pinWrites, List.foldl_filterMap]
  congr 1
  funext levels l
  rw [ask]
  cases p.pinOf? l.1 <;> rfl

/-- Only the pin of the role is concerned. -/
theorem PowerRails.ask_apply (hp : p.HasOwnPins) (hpin : p.pinOf? r = some pin)
    (l : PinRole × Bool) :
    p.ask accepts levels l pin = if l.1 = r ∧ accepts pin = true then l.2 else levels pin := by
  by_cases hr : l.1 = r
  · rw [ask, hr, hpin, Option.elim_some, PinWrite.apply]
    by_cases haccepts : accepts pin = true
    · simp [haccepts]
    · simp [haccepts]
  · rw [ask, if_neg fun h => hr h.1]
    cases hpin' : p.pinOf? l.1 with
    | none => rfl
    | some pin' =>
      have hne : pin ≠ pin' := by
        rintro rfl
        exact hr (hp l.1 r pin hpin' hpin)
      rw [Option.elim_some, PinWrite.apply]
      split
      · exact Function.update_of_ne hne _ _
      · rfl

/-- If the same level is asked of a role each time, its pin has that level in the end, as long as it
is asked at all and the pin lets itself be driven. -/
theorem PowerRails.foldl_ask (hp : p.HasOwnPins) (hpin : p.pinOf? r = some pin) {high : Bool}
    {asked : List (PinRole × Bool)} (hasked : ∀ l ∈ asked, l.1 = r → l.2 = high) :
    asked.foldl (p.ask accepts) levels pin =
      if (r, high) ∈ asked ∧ accepts pin = true then high else levels pin := by
  induction asked generalizing levels with
  | nil => simp
  | cons l asked ih =>
    have hl : l.1 = r → l.2 = high := hasked l List.mem_cons_self
    have hmem : (r, high) = l ↔ l.1 = r := by
      constructor
      · rintro rfl
        rfl
      · exact fun h => Prod.ext h.symm (hl h).symm
    rw [List.foldl_cons, ih fun l' hl' => hasked l' (List.mem_cons_of_mem l hl'),
      ask_apply hp hpin]
    simp only [List.mem_cons, hmem]
    by_cases hr : l.1 = r
    · by_cases haccepts : accepts pin = true
      · simp [hr, haccepts, hl hr]
      · simp [haccepts]
    · simp [hr]

end Levels

/-! ## Runs -/

/-- A state that is applied, and the pins that let themselves be driven meanwhile. -/
structure Application (Pin : Type) where
  state : ActuatorState
  accepts : Pin → Bool

/-- An applier and the pins that it drives. -/
structure Driven (Pin : Type) where
  applier : Applier
  levels : Pin → Bool

namespace Driven

variable {Pin : Type} [DecidableEq Pin] {p : PowerRails Pin} {channels : ChannelSet}
  {d : Driven Pin} {r : PinRole} {pin : Pin}

/-- A state was applied to the channels of a set. -/
def apply (p : PowerRails Pin) (channels : ChannelSet) (d : Driven Pin) (x : Application Pin) :
    Driven Pin where
  applier := (d.applier.apply x.state channels).1
  levels := (p.performAll x.accepts (d.applier.apply x.state channels).2.writes).1.foldl
    PinWrite.apply d.levels

/-- States were applied, one after the other. -/
def run (p : PowerRails Pin) (channels : ChannelSet) (d : Driven Pin)
    (xs : List (Application Pin)) : Driven Pin :=
  xs.foldl (apply p channels) d

/-- A pin is driven to the level that the state asks for, if that is not what the state before asked
for and the pin lets itself be driven. -/
theorem level_apply (hp : p.HasOwnPins) (hr : channels.drives r = true)
    (hpin : p.pinOf? r = some pin) (x : Application Pin) :
    (d.apply p channels x).levels pin =
      if d.applier.needs x.state r && x.accepts pin then x.state.level r else d.levels pin := by
  have hwritten := d.applier.mem_levels_writes x.state channels
  have hasked : ∀ l ∈ (d.applier.writes x.state channels).flatMap Write.levels,
      l.1 = r → l.2 = x.state.level r := by
    rintro ⟨r', high⟩ hl rfl
    exact ((hwritten r' high).mp hl).2.2
  have hlevels : (d.apply p channels x).levels =
      ((d.applier.writes x.state channels).flatMap Write.levels).foldl (p.ask x.accepts)
        d.levels := by
    rw [apply, Applier.apply_eq, ← PowerRails.foldl_pinWrites, ← PowerRails.performAll_writes]
  rw [hlevels, PowerRails.foldl_ask hp hpin hasked]
  simp [hwritten, hr]

theorem last_run (xs : List (Application Pin)) :
    (d.run p channels xs).applier.last = (xs.getLast?.map Application.state).or d.applier.last := by
  induction xs using List.reverseRecOn with
  | nil => rfl
  | append_singleton xs x _ =>
    rw [run, List.foldl_append, List.getLast?_concat]
    rfl

/-- An output is left alone while the states ask the same of it. -/
theorem level_run_of_same (hp : p.HasOwnPins) (hr : channels.drives r = true)
    (hpin : p.pinOf? r = some pin) {last : ActuatorState} (hlast : d.applier.last = some last)
    {xs : List (Application Pin)} (hsame : ∀ x ∈ xs, x.state.level r = last.level r) :
    (d.run p channels xs).levels pin = d.levels pin := by
  induction xs generalizing d last with
  | nil => rfl
  | cons x xs ih =>
    have hx : x.state.level r = last.level r := hsame x List.mem_cons_self
    have hneeds : d.applier.needs x.state r = false := by
      simp [Applier.needs, hlast, hx]
    have hxs : ∀ y ∈ xs, y.state.level r = x.state.level r := fun y hy =>
      (hsame y (List.mem_cons_of_mem x hy)).trans hx.symm
    calc (d.run p channels (x :: xs)).levels pin
        = ((d.apply p channels x).run p channels xs).levels pin := rfl
      _ = (d.apply p channels x).levels pin := ih rfl hxs
      _ = d.levels pin := by rw [level_apply hp hr hpin, hneeds]; rfl

/-- The pins at any levels, and an applier that has nothing to remember. -/
def fresh (levels : Pin → Bool) : Driven Pin := ⟨.fresh, levels⟩

/-- A stretch of states that ask the same of an output: it has its level at the end just if the
write at the beginning was let through, or if it had that level before. -/
theorem level_eq_iff (hp : p.HasOwnPins) (hr : channels.drives r = true)
    (hpin : p.pinOf? r = some pin) {levels : Pin → Bool} {before stretch : List (Application Pin)}
    {x : Application Pin}
    (hbegin : ∀ y, before.getLast? = some y → y.state.level r ≠ x.state.level r)
    (hstretch : ∀ y ∈ stretch, y.state.level r = x.state.level r) :
    ((fresh levels).run p channels (before ++ x :: stretch)).levels pin = x.state.level r ↔
      x.accepts pin = true ∨
        ((fresh levels).run p channels before).levels pin = x.state.level r := by
  have hneeds : ((fresh levels).run p channels before).applier.needs x.state r = true := by
    rw [Applier.needs, last_run]
    cases hlast : before.getLast? with
    | none => rfl
    | some y => simpa using hbegin y hlast
  have hrun : ((fresh levels).run p channels (before ++ x :: stretch)).levels pin =
      (((fresh levels).run p channels before).apply p channels x).levels pin := by
    rw [run, List.foldl_append, List.foldl_cons]
    exact level_run_of_same hp hr hpin rfl hstretch
  rw [hrun, level_apply hp hr hpin, hneeds]
  cases x.accepts pin <;> simp

/-- The same where the stretch goes on to a state that is applied last. -/
theorem level_concat_eq_iff (hp : p.HasOwnPins) (hr : channels.drives r = true)
    (hpin : p.pinOf? r = some pin) {levels : Pin → Bool} {before stretch : List (Application Pin)}
    {x y : Application Pin}
    (hbegin : ∀ z, before.getLast? = some z → z.state.level r ≠ y.state.level r)
    (hsame : ∀ z ∈ x :: stretch, z.state.level r = y.state.level r) :
    ((fresh levels).run p channels (before ++ x :: stretch ++ [y])).levels pin = y.state.level r ↔
      x.accepts pin = true ∨
        ((fresh levels).run p channels before).levels pin = y.state.level r := by
  have hx : x.state.level r = y.state.level r := hsame x List.mem_cons_self
  rw [List.append_assoc, List.cons_append, ← hx]
  refine level_eq_iff hp hr hpin (fun z hz => hx ▸ hbegin z hz) ?_
  intro z hz
  rcases List.mem_append.mp hz with hstretch | hlast
  · exact (hsame z (List.mem_cons_of_mem x hstretch)).trans hx.symm
  · rw [List.mem_singleton.mp hlast, hx]

/-- A list that ends with an item of some kind ends with a stretch of such items, before which there
is none. -/
theorem exists_stretch {α : Type} (P : α → Bool) {xs : List α} (hne : xs ≠ [])
    (hlast : P (xs.getLast hne) = true) :
    ∃ before x stretch, xs = before ++ x :: stretch ∧
      (∀ y, before.getLast? = some y → P y = false) ∧ ∀ y ∈ x :: stretch, P y = true := by
  cases hstretch : xs.rtakeWhile P with
  | nil => exact absurd hlast (List.rtakeWhile_eq_nil_iff.mp hstretch hne)
  | cons x stretch =>
    refine ⟨xs.rdropWhile P, x, stretch, ?_, ?_, ?_⟩
    · rw [← hstretch, List.rdropWhile_append_rtakeWhile]
    · intro y hy
      obtain ⟨hbefore, rfl⟩ := List.mem_getLast?_eq_getLast hy
      exact Bool.eq_false_iff.mpr (List.rdropWhile_last_not P xs hbefore)
    · rw [← hstretch]
      exact fun y hy => List.mem_rtakeWhile_imp hy

/-- **When all outputs have their level.**  Let states be applied, and then one more that no pin
refuses.  All outputs have the level that this state asks for just if none of them is stuck: where
the states before asked the same already, the first of them to do so was let through, or the pin had
that level anyway.  An applier that has been told to forget needs no such condition. -/
theorem levels_eq_iff (hp : p.HasOwnPins) (levels : Pin → Bool) (xs : List (Application Pin))
    {y : Application Pin} (hy : ∀ pin, y.accepts pin = true) :
    ((∀ r pin, channels.drives r = true → p.pinOf? r = some pin →
        ((fresh levels).run p channels (xs ++ [y])).levels pin = y.state.level r) ↔
      ∀ r pin, channels.drives r = true → p.pinOf? r = some pin →
        ∀ before x stretch, xs = before ++ x :: stretch →
          (∀ z, before.getLast? = some z → z.state.level r ≠ y.state.level r) →
          (∀ z ∈ x :: stretch, z.state.level r = y.state.level r) →
          x.accepts pin = true ∨
            ((fresh levels).run p channels before).levels pin = y.state.level r) ∧
      ∀ r pin, channels.drives r = true → p.pinOf? r = some pin →
        ((fresh ((fresh levels).run p channels xs).levels).apply p channels y).levels pin =
          y.state.level r := by
  -- The state that no pin refuses may begin a stretch itself; otherwise it ends one.
  have hwritten {levels : Pin → Bool} {before : List (Application Pin)} {r : PinRole} {pin : Pin}
      (hr : channels.drives r = true) (hpin : p.pinOf? r = some pin)
      (hbegin : ∀ z, before.getLast? = some z → z.state.level r ≠ y.state.level r) :
      ((fresh levels).run p channels (before ++ [y])).levels pin = y.state.level r :=
    (level_eq_iff hp hr hpin hbegin (List.forall_mem_nil _)).mpr (Or.inl (hy pin))
  refine ⟨⟨?_, ?_⟩, ?_⟩
  · rintro hlevels r pin hr hpin before x stretch rfl hbegin hsame
    exact (level_concat_eq_iff hp hr hpin hbegin hsame).mp (hlevels r pin hr hpin)
  · intro hstuck r pin hr hpin
    by_cases hsame : ∃ z, xs.getLast? = some z ∧ z.state.level r = y.state.level r
    · obtain ⟨z, hz, hzlevel⟩ := hsame
      obtain ⟨hne, rfl⟩ := List.mem_getLast?_eq_getLast hz
      obtain ⟨before, x, stretch, rfl, hbegin, hstretch⟩ :=
        exists_stretch (fun z => z.state.level r == y.state.level r) hne (by simpa using hzlevel)
      simp only [beq_eq_false_iff_ne, beq_iff_eq] at hbegin hstretch
      have hbegan := hstuck r pin hr hpin before x stretch rfl hbegin hstretch
      exact (level_concat_eq_iff hp hr hpin hbegin hstretch).mpr hbegan
    · exact hwritten hr hpin fun z hz hzlevel => hsame ⟨z, hz, hzlevel⟩
  · intro r pin hr hpin
    have hfirst : ∀ z, ([] : List (Application Pin)).getLast? = some z →
        z.state.level r ≠ y.state.level r := by simp
    exact hwritten hr hpin hfirst

/-! ## A buzzer that refuses -/

/-- Rails whose pins are the roles themselves. -/
def roleRails : PowerRails PinRole where
  redPin := .redLed
  greenPin := .greenLed
  rails := .truncate (Channel.all.map fun c => (c, .channel c))

theorem pinOf?_roleRails (r : PinRole) : roleRails.pinOf? r = some r := by
  cases r with
  | redLed => rfl
  | greenLed => rfl
  | channel c => cases c <;> rfl

theorem hasOwnPins_roleRails : roleRails.HasOwnPins := by
  intro r r' pin hr hr'
  rw [pinOf?_roleRails] at hr hr'
  exact Option.some.inj (hr.trans hr'.symm)

/-- A state on guard, with or without an intrusion alert, while all pins or all but that of the
buzzer let themselves be driven. -/
def onGuard (alert refused : Bool) : Application PinRole where
  state := { led := .red, lit := ChannelSet.empty.insertIf alert .buzzer, messagePending := false }
  accepts r := !(refused && r == .channel .buzzer)

/-- The buzzer refuses to be switched on, and stays silent when the same state is applied again. -/
theorem refused_write_stays :
    ¬ ∀ (levels : PinRole → Bool) (xs : List (Application PinRole)) (y : Application PinRole),
      xs ≠ [] → (∀ pin, y.accepts pin = true) → ∀ r pin,
        (ChannelSet.ofList [.buzzer]).drives r = true → roleRails.pinOf? r = some pin →
        ((fresh levels).run roleRails (.ofList [.buzzer]) (xs ++ [y])).levels pin =
          y.state.level r := by
  intro h
  have hbuzzer := h (fun _ => false) [onGuard true true] (onGuard true false) (by simp)
    (fun pin => rfl) (.channel .buzzer) (.channel .buzzer) (by decide) (pinOf?_roleRails _)
  exact absurd hbuzzer (by decide)

/-- Once the alert has been off in between, the buzzer is switched on after all. -/
theorem levels_eq_iff_nextAlert :
    let xs := [onGuard true true, onGuard false true]
    roleRails.HasOwnPins ∧ (∀ pin, (onGuard true false).accepts pin = true) ∧
      ∀ r pin, (ChannelSet.ofList [.buzzer]).drives r = true → roleRails.pinOf? r = some pin →
        ((fresh fun _ => false).run roleRails (.ofList [.buzzer])
          (xs ++ [onGuard true false])).levels pin = (onGuard true false).state.level r := by
  intro xs
  have haccepts : ∀ pin, (onGuard true false).accepts pin = true := fun pin => rfl
  refine ⟨hasOwnPins_roleRails, haccepts, ?_⟩
  refine (levels_eq_iff hasOwnPins_roleRails (fun _ => false) xs haccepts).1.mpr ?_
  intro r pin hr hpin before x stretch hxs hbegin hsame
  rw [pinOf?_roleRails, Option.some.injEq] at hpin
  subst hpin
  -- The alert was off just before, so no stretch of the buzzer reaches this far.
  have hlast : (onGuard false true).state.level r = (onGuard true false).state.level r := by
    apply hsame
    have hmem : xs.getLast? = (x :: stretch).getLast? := by
      rw [hxs, List.getLast?_append_cons]
    exact List.mem_of_getLast? (hmem.symm.trans rfl)
  have hbuzzer : r ≠ .channel .buzzer := by
    rintro rfl
    exact absurd hlast (by decide)
  have hx : x ∈ xs := hxs ▸ List.mem_append_right before List.mem_cons_self
  left
  simp only [xs, List.mem_cons, List.not_mem_nil, or_false] at hx
  rcases hx with rfl | rfl <;> simp [onGuard, hbuzzer]

end Driven

end HomeMesh
