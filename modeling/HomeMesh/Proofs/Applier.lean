import HomeMesh.Applier
import HomeMesh.Proofs.ChannelSet
import Mathlib.Data.List.Induction
import Mathlib.Logic.Function.Basic

/-!
# Writing only what differs

An applier remembers the state that it applied last and writes only the outputs that differ from it.
Nobody who looks at the outputs can tell: they show the same as if each state were written in full
(`ActuatorState.allWrites`), as long as every write reaches its output.

The outputs as they were written last are a `Panel`.  An application writes the outputs that need
it, and counts each of these writes (`apply_eq`).  What an applier remembers is what the panel shows
(`Applier.Agrees`), so that the outputs which it leaves out need no write (`writeAll_writes`).  The
main result `run_concat_apply` adds that no write is left out or made without need: the writes of an
application are an `Update` of the state that was applied just before.
-/

namespace HomeMesh

/-! ## The outputs as they were written last -/

/-- What was written last to each output, if anything was. -/
structure Panel where
  led : Option StatusLed
  channel : Channel → Option Bool

/-- All writes that a state asks for, on the channels of a set. -/
def ActuatorState.allWrites (s : ActuatorState) (channels : ChannelSet) : List Write :=
  .led s.led :: channels.toList.map fun c => .channel c (s.isOn c)

namespace Panel

variable {p : Panel} {s : ActuatorState} {channels : ChannelSet}

def write (p : Panel) : Write → Panel
  | .led colour => { p with led := some colour }
  | .channel c on => { p with channel := Function.update p.channel c (some on) }

def writeAll (p : Panel) (ws : List Write) : Panel := ws.foldl write p

/-- The lamp and the channels of a set are as a state says. -/
structure Shows (p : Panel) (s : ActuatorState) (channels : ChannelSet) : Prop where
  led : p.led = some s.led
  channel : ∀ c, channels.contains c = true → p.channel c = some (s.isOn c)

/-- The panel with the lamp and the channels of a set as a state says. -/
def showing (p : Panel) (s : ActuatorState) (channels : ChannelSet) : Panel where
  led := some s.led
  channel c := if channels.contains c then some (s.isOn c) else p.channel c

theorem shows_showing : (p.showing s channels).Shows s channels where
  led := rfl
  channel _ hc := if_pos hc

theorem writeAll_append (ws later : List Write) :
    p.writeAll (ws ++ later) = (p.writeAll ws).writeAll later := List.foldl_append

theorem writeAll_channels (cs : List Channel) :
    p.writeAll (cs.map fun c => .channel c (s.isOn c)) =
      { p with channel := fun c => if c ∈ cs then some (s.isOn c) else p.channel c } := by
  induction cs generalizing p with
  | nil => simp [writeAll]
  | cons c cs ih =>
    rw [List.map_cons, writeAll, List.foldl_cons, ← writeAll, ih, write]
    congr 1
    funext d
    by_cases hd : d = c
    · simp [hd]
    · simp [hd]

theorem writeAll_allWrites : p.writeAll (s.allWrites channels) = p.showing s channels := by
  rw [ActuatorState.allWrites, writeAll, List.foldl_cons, ← writeAll, writeAll_channels]
  simp only [write, showing, ChannelSet.mem_toList]

end Panel

/-! ## One application -/

/-- Going through some outputs adds the writes of those that need it, and as many to the count. -/
theorem Tally.foldl_addIf {α : Type} (needed : α → Bool) (write : α → Write) (outputs : List α)
    (t : Tally) :
    outputs.foldl (fun t o => t.addIf (needed o) (write o)) t =
      ⟨t.writes ++ (outputs.filter needed).map write,
        t.count + (outputs.filter needed).length⟩ := by
  induction outputs generalizing t with
  | nil => simp
  | cons o outputs ih =>
    rw [List.foldl_cons, ih, addIf]
    cases hneeded : needed o with
    | false => simp [hneeded]
    | true =>
      simp only [hneeded, if_true, List.filter_cons_of_pos, List.map_cons, List.length_cons,
        List.append_assoc, List.singleton_append]
      congr 1
      omega

namespace Applier

variable {a : Applier} {s : ActuatorState} {channels : ChannelSet} {p : Panel}

/-- The writes that take the outputs to a state: the lamp first, then the channels of a set in
order. -/
def writes (a : Applier) (s : ActuatorState) (channels : ChannelSet) : List Write :=
  (if a.needsLed s then [.led s.led] else []) ++
    (channels.toList.filter (a.needsChannel s)).map fun c => .channel c (s.isOn c)

/-- An application makes these writes, and its count is their number. -/
theorem apply_eq (a : Applier) (s : ActuatorState) (channels : ChannelSet) :
    a.apply s channels = (⟨some s⟩, ⟨a.writes s channels, (a.writes s channels).length⟩) := by
  rw [apply, Tally.foldl_addIf, writes, Tally.addIf]
  cases a.needsLed s with
  | false => simp
  | true => simp [Nat.add_comm]

theorem needsLed_iff : a.needsLed s = true ↔ ∀ last, a.last = some last → last.led ≠ s.led := by
  simp [needsLed, Option.all_eq_true]

theorem needsChannel_iff {c : Channel} :
    a.needsChannel s c = true ↔ ∀ last, a.last = some last → last.isOn c ≠ s.isOn c := by
  simp [needsChannel, Option.all_eq_true]

/-- The panel shows what the applier remembers. -/
def Agrees (a : Applier) (p : Panel) (channels : ChannelSet) : Prop :=
  ∀ last, a.last = some last → p.Shows last channels

theorem agrees_fresh : fresh.Agrees p channels := by
  intro last hlast
  cases hlast

/-- What the writes make of the outputs: those that need it take the value of the state. -/
theorem writeAll_writes (a : Applier) (s : ActuatorState) (channels : ChannelSet) (p : Panel) :
    p.writeAll (a.writes s channels) =
      { led := if a.needsLed s then some s.led else p.led
        channel := fun c =>
          if channels.contains c && a.needsChannel s c then some (s.isOn c) else p.channel c } := by
  have hlamp : p.writeAll (if a.needsLed s then [.led s.led] else []) =
      { p with led := if a.needsLed s then some s.led else p.led } := by
    split <;> rfl
  rw [writes, Panel.writeAll_append, hlamp, Panel.writeAll_channels]
  simp only [List.mem_filter, ChannelSet.mem_toList, Bool.and_eq_true]

/-- What an applier leaves out shows already, on channels of which it remembers the truth. -/
theorem Agrees.shows_writes {known : ChannelSet} (h : a.Agrees p known)
    (hknown : ∀ c, known.contains c = true → channels.contains c = true) :
    (p.writeAll (a.writes s channels)).Shows s known := by
  rw [writeAll_writes]
  constructor
  case led =>
    by_cases hneeds : a.needsLed s = true
    · exact if_pos hneeds
    · simp only [needsLed_iff, not_forall, ne_eq, not_not, exists_prop] at hneeds
      obtain ⟨last, hlast, hled⟩ := hneeds
      simp only [(h last hlast).led, hled, ite_self]
  case channel =>
    intro c hc
    by_cases hneeds : a.needsChannel s c = true
    · simp [hknown c hc, hneeds]
    · simp only [needsChannel_iff, not_forall, ne_eq, not_not, exists_prop] at hneeds
      obtain ⟨last, hlast, hon⟩ := hneeds
      simp only [(h last hlast).channel c hc, hon, ite_self]

theorem Agrees.writeAll_writes (h : a.Agrees p channels) :
    p.writeAll (a.writes s channels) = p.showing s channels := by
  have hshows : (p.writeAll (a.writes s channels)).Shows s channels := h.shows_writes fun _ hc => hc
  rw [Applier.writeAll_writes] at hshows ⊢
  rw [Panel.showing, Panel.mk.injEq]
  refine ⟨hshows.led, funext fun c => ?_⟩
  by_cases hc : channels.contains c = true
  · rw [if_pos hc]
    exact hshows.channel c hc
  · simp [hc]

/-! ## Requests -/

/-- What an applier is asked to do. -/
inductive Request where
  | apply (s : ActuatorState)
  | forget
deriving DecidableEq

namespace Request

/-- All writes that a request asks for. -/
def allWrites (channels : ChannelSet) : Request → List Write
  | apply s => s.allWrites channels
  | forget => []

/-- The state that a request asks to apply. -/
def state? : Request → Option ActuatorState
  | apply s => some s
  | forget => none

end Request

/-- The applier after a request, and its writes. -/
def respond (channels : ChannelSet) (a : Applier) : Request → Applier × List Write
  | .apply s => ((a.apply s channels).1, (a.apply s channels).2.writes)
  | .forget => (fresh, [])

theorem respond_apply (a : Applier) (s : ActuatorState) (channels : ChannelSet) :
    a.respond channels (.apply s) = (⟨some s⟩, a.writes s channels) := by
  rw [respond, apply_eq]

/-- An applier after some requests to it from its start, and all its writes in order. -/
def run (channels : ChannelSet) (requests : List Request) : Applier × List Write :=
  requests.foldl
    (fun (a, ws) r => ((a.respond channels r).1, ws ++ (a.respond channels r).2)) (fresh, [])

/-- The state that was applied last, unless the applier was told to forget it. -/
def lastApplied (requests : List Request) : Option ActuatorState :=
  requests.getLast?.bind Request.state?

variable {requests : List Request} {r : Request}

theorem run_concat :
    run channels (requests ++ [r]) =
      (((run channels requests).1.respond channels r).1,
        (run channels requests).2 ++ ((run channels requests).1.respond channels r).2) := by
  rw [run, List.foldl_append]
  rfl

theorem last_run_eq (channels : ChannelSet) (requests : List Request) :
    (run channels requests).1.last = lastApplied requests := by
  induction requests using List.reverseRecOn with
  | nil => rfl
  | append_singleton requests r _ =>
    rw [run_concat, lastApplied, List.getLast?_concat]
    cases r <;> rfl

/-- Along a run the applier remembers what the panel shows, and the panel is as if all had been
written. -/
theorem agrees_run (p : Panel) (channels : ChannelSet) (requests : List Request) :
    (run channels requests).1.Agrees (p.writeAll (run channels requests).2) channels ∧
      p.writeAll (run channels requests).2 =
        p.writeAll (requests.flatMap (Request.allWrites channels)) := by
  induction requests using List.reverseRecOn with
  | nil => exact ⟨agrees_fresh, rfl⟩
  | append_singleton requests r ih =>
    obtain ⟨hagrees, hpanel⟩ := ih
    rw [run_concat, Panel.writeAll_append, List.flatMap_append, List.flatMap_singleton,
      Panel.writeAll_append, ← hpanel]
    cases r with
    | apply s =>
      rw [respond_apply, hagrees.writeAll_writes]
      refine ⟨fun last hlast => ?_, Panel.writeAll_allWrites.symm⟩
      cases hlast
      exact Panel.shows_showing
    | forget => exact ⟨agrees_fresh, rfl⟩

/-! ## What is written -/

/-- The writes that take outputs from the state that was applied last to another one: those to the
lamp, and the channels that are switched. -/
structure Update (last : Option ActuatorState) (s : ActuatorState) (channels : ChannelSet)
    (lamp : List Write) (switched : List Channel) : Prop where
  lamp_of_changed : (∀ old, last = some old → old.led ≠ s.led) → lamp = [.led s.led]
  lamp_of_same : ∀ old, last = some old → old.led = s.led → lamp = []
  /-- The channels come in order, and each of them at most once. -/
  sublist : switched.Sublist Channel.all
  mem_iff : ∀ c, c ∈ switched ↔
    channels.contains c = true ∧ ∀ old, last = some old → old.isOn c ≠ s.isOn c

theorem update_writes (a : Applier) (s : ActuatorState) (channels : ChannelSet) :
    Update a.last s channels (if a.needsLed s then [.led s.led] else [])
      (channels.toList.filter (a.needsChannel s)) where
  lamp_of_changed h := if_pos (needsLed_iff.mpr h)
  lamp_of_same old hold hled := if_neg fun hneeds => needsLed_iff.mp hneeds old hold hled
  sublist := List.filter_sublist.trans List.filter_sublist
  mem_iff c := by rw [List.mem_filter, ChannelSet.mem_toList, needsChannel_iff]

theorem contains_of_mem_writes {c : Channel} {on : Bool}
    (h : .channel c on ∈ a.writes s channels) : channels.contains c = true := by
  rw [writes, List.mem_append, List.mem_map] at h
  rcases h with hlamp | ⟨d, hd, heq⟩
  · split at hlamp <;> simp at hlamp
  · obtain ⟨rfl, -⟩ := Write.channel.inj heq
    exact ChannelSet.mem_toList.mp (List.mem_filter.mp hd).1

theorem contains_of_mem_run {c : Channel} {on : Bool}
    (h : .channel c on ∈ (run channels requests).2) : channels.contains c = true := by
  induction requests using List.reverseRecOn with
  | nil => cases h
  | append_singleton requests r ih =>
    rw [run_concat, List.mem_append] at h
    rcases h with hbefore | hwritten
    · exact ih hbefore
    · cases r with
      | apply s =>
        rw [respond_apply] at hwritten
        exact contains_of_mem_writes hwritten
      | forget => cases hwritten

/-- **Writing only what differs.**  Let requests to an applier end with one to apply a state.  Then
the outputs show the same as if every state had been written in full, on the lamp and the channels
of the set what the state says, and no other channel was ever written.  The last application wrote
what the state changes, the lamp first and then the channels in order, and no more; what it counted
is the number of these writes. -/
theorem run_concat_apply (channels : ChannelSet) (p : Panel) (requests : List Request)
    (s : ActuatorState) :
    let all := requests ++ [.apply s]
    let written := (run channels all).2
    let tally := ((run channels requests).1.apply s channels).2
    p.writeAll written = p.writeAll (all.flatMap (Request.allWrites channels)) ∧
      (p.writeAll written).Shows s channels ∧
      (∀ c on, .channel c on ∈ written → channels.contains c = true) ∧
      written = (run channels requests).2 ++ tally.writes ∧
      tally.count = tally.writes.length ∧
      ∃ lamp switched, Update (lastApplied requests) s channels lamp switched ∧
        tally.writes = lamp ++ switched.map (fun c => .channel c (s.isOn c)) := by
  intro all written tally
  obtain ⟨hagrees, hpanel⟩ := agrees_run p channels all
  have hlast : (run channels all).1.last = some s := by
    rw [run_concat]
    rfl
  have hupdate := update_writes (run channels requests).1 s channels
  rw [last_run_eq] at hupdate
  have htally : tally = ⟨_, _⟩ := congrArg Prod.snd (apply_eq (run channels requests).1 s channels)
  refine ⟨hpanel, hagrees s hlast, fun c on h => contains_of_mem_run h,
    congrArg Prod.snd run_concat, ?_, _, _, hupdate, ?_⟩
  · rw [htally]
  · rw [htally, writes]

end Applier

end HomeMesh
