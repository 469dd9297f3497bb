import HomeMesh.Proofs.Applier
import Mathlib.Data.List.DropRight

/-!
# Sets of channels that change

Each state is applied to the channels of a set.  An applier remembers the whole state, also on
channels that are not in the set and were not written.  If a channel comes into the set later on, it
is left out as long as the states ask of it what they asked while it was not in the set; so it may
show something else, or never have been written at all.

A `Switchboard` is an applier with the outputs that it writes to.  What a channel shows in the end
depends on the stretch of states at the end that ask the same of it: it is written where the stretch
begins, if it is in the set there, and at no other place of the stretch (`channel_eq_iff`).  The
lamp is in no set and is always right.

The main result `shows_iff` draws two conclusions: it says for every run when the outputs show the
state that was applied last, and for which sets they show it whatever the states are.
-/

namespace HomeMesh

namespace Applier.Request

/-- Whether a request asks for a state in which the channel is on, or off. -/
def asks (r : Request) (c : Channel) (on : Bool) : Bool := r.state?.any fun s => s.isOn c == on

theorem asks_apply {s : ActuatorState} {c : Channel} {on : Bool} :
    (apply s).asks c on = true ↔ s.isOn c = on := by
  simp [asks, state?]

end Applier.Request

open Applier (Request)

/-- An applier, and the outputs that it writes to. -/
structure Switchboard where
  applier : Applier
  panel : Panel

namespace Switchboard

variable {b : Switchboard} {p : Panel} {s : ActuatorState} {channels : ChannelSet} {c : Channel}
  {on : Bool} {requests before stretch : List (ChannelSet × Request)}

/-- The applier at its start, whatever the outputs show. -/
def start (p : Panel) : Switchboard := ⟨.fresh, p⟩

/-- A request was made, with the set of channels that it is about. -/
def respond (b : Switchboard) (q : ChannelSet × Request) : Switchboard where
  applier := (b.applier.respond q.1 q.2).1
  panel := b.panel.writeAll (b.applier.respond q.1 q.2).2

/-- Requests were made one after the other, each with a set of its own. -/
def run (b : Switchboard) (requests : List (ChannelSet × Request)) : Switchboard :=
  requests.foldl respond b

theorem run_cons (q : ChannelSet × Request) : b.run (q :: requests) = (b.respond q).run requests :=
  rfl

theorem run_append : b.run (before ++ requests) = (b.run before).run requests :=
  List.foldl_append

/-! ## One request -/

theorem panel_respond_apply :
    (b.respond (channels, .apply s)).panel =
      b.panel.writeAll (b.applier.writes s channels) := by
  rw [respond, Applier.respond_apply]

/-- A channel is written if it is in the set and the state before asked something else of it. -/
theorem channel_respond_apply :
    (b.respond (channels, .apply s)).panel.channel c =
      if channels.contains c && b.applier.needsChannel s c then some (s.isOn c)
      else b.panel.channel c := by
  rw [panel_respond_apply, Applier.writeAll_writes]

/-- If the panel shows what the applier remembers, on some channels, then it does so after a request
about at least these channels. -/
theorem agrees_respond {known : ChannelSet} (h : b.applier.Agrees b.panel known)
    {q : ChannelSet × Request} (hknown : ∀ c, known.contains c = true → q.1.contains c = true) :
    (b.respond q).applier.Agrees (b.respond q).panel known := by
  obtain ⟨channels, r⟩ := q
  cases r with
  | apply s =>
    intro last hlast
    cases hlast
    rw [panel_respond_apply]
    exact h.shows_writes hknown
  | forget => exact Applier.agrees_fresh

theorem agrees_run {known : ChannelSet} (h : b.applier.Agrees b.panel known)
    (requests : List (ChannelSet × Request))
    (hknown : ∀ q ∈ requests, ∀ c, known.contains c = true → q.1.contains c = true) :
    (b.run requests).applier.Agrees (b.run requests).panel known := by
  induction requests generalizing b with
  | nil => exact h
  | cons q requests ih =>
    obtain ⟨hq, hrest⟩ := List.forall_mem_cons.mp hknown
    exact ih (agrees_respond h hq) hrest

/-- The lamp shows the state that was applied last. -/
theorem led_run_apply (p : Panel) (requests : List (ChannelSet × Request)) :
    ((start p).run (requests ++ [(channels, .apply s)])).panel.led = some s.led := by
  have hfresh : (start p).applier.Agrees (start p).panel .empty := Applier.agrees_fresh
  have hagrees := agrees_run hfresh (requests ++ [(channels, .apply s)]) (by simp)
  rw [run_append] at hagrees ⊢
  exact (hagrees s rfl).led

theorem last_run (p : Panel) (requests : List (ChannelSet × Request)) :
    ((start p).run requests).applier.last = Applier.lastApplied (requests.map Prod.snd) := by
  induction requests using List.reverseRecOn with
  | nil => rfl
  | append_singleton requests q _ =>
    obtain ⟨channels, r⟩ := q
    rw [run_append, Applier.lastApplied, List.map_append, List.map_singleton,
      List.getLast?_concat]
    cases r <;> rfl

/-! ## Stretches of states that ask the same -/

/-- A channel is left alone while the states ask what the remembered one does. -/
theorem channel_run_of_same {last : ActuatorState} (hlast : b.applier.last = some last)
    (hsame : ∀ q ∈ stretch, q.2.asks c (last.isOn c) = true) :
    (b.run stretch).panel.channel c = b.panel.channel c := by
  induction stretch generalizing b last with
  | nil => rfl
  | cons q stretch ih =>
    obtain ⟨hq, hrest⟩ := List.forall_mem_cons.mp hsame
    obtain ⟨channels, r⟩ := q
    cases r with
    | forget => cases hq
    | apply s =>
      have hs : s.isOn c = last.isOn c := Request.asks_apply.mp hq
      have hneeds : b.applier.needsChannel s c = false := by
        simp [Applier.needsChannel, hlast, hs]
      have hnext : (b.respond (channels, .apply s)).applier.last = some s := rfl
      rw [run_cons, ih hnext fun q' hq' => hs ▸ hrest q' hq', channel_respond_apply, hneeds,
        Bool.and_false]
      rfl

/-- A channel does not come to show what no state asks of it. -/
theorem channel_run_ne (h : b.panel.channel c ≠ some on) (requests : List (ChannelSet × Request))
    (hother : ∀ q ∈ requests, q.2.asks c on = false) :
    (b.run requests).panel.channel c ≠ some on := by
  induction requests generalizing b with
  | nil => exact h
  | cons q requests ih =>
    obtain ⟨hq, hrest⟩ := List.forall_mem_cons.mp hother
    rw [run_cons]
    refine ih ?_ hrest
    obtain ⟨channels, r⟩ := q
    cases r with
    | forget => exact h
    | apply s =>
      have hs : s.isOn c ≠ on := fun hon => Bool.false_ne_true (hq.symm.trans
        (Request.asks_apply.mpr hon))
      rw [channel_respond_apply]
      split
      · simpa using hs
      · exact h

/-- A stretch that begins with a state for some set: in the end the channel shows what the states
ask of it just if it is in that set, or has shown it before. -/
theorem channel_eq_iff {first : ChannelSet} {s : ActuatorState}
    (hbegin : ∀ q, before.getLast? = some q → q.2.asks c (s.isOn c) = false)
    (hstretch : ∀ q ∈ stretch, q.2.asks c (s.isOn c) = true) :
    ((start p).run (before ++ (first, .apply s) :: stretch)).panel.channel c = some (s.isOn c) ↔
      first.contains c = true ∨
        ((start p).run before).panel.channel c = some (s.isOn c) := by
  have hneeds : ((start p).run before).applier.needsChannel s c = true := by
    rw [Applier.needsChannel_iff, last_run, Applier.lastApplied, List.getLast?_map]
    intro last hlast hon
    obtain ⟨r, hr, hstate⟩ := Option.bind_eq_some_iff.mp hlast
    obtain ⟨q, hq, rfl⟩ := Option.map_eq_some_iff.mp hr
    have hasked : q.2.asks c (s.isOn c) = true := by
      simp [Request.asks, hstate, hon]
    exact Bool.false_ne_true ((hbegin q hq).symm.trans hasked)
  have hfirst : (((start p).run before).respond (first, .apply s)).applier.last = some s := rfl
  rw [run_append, run_cons, channel_run_of_same hfirst hstretch, channel_respond_apply, hneeds,
    Bool.and_true]
  cases first.contains c <;> simp

/-- The requests at the end that all ask the same of a channel. -/
def lastStretch (requests : List (ChannelSet × Request)) (c : Channel) (on : Bool) :
    List (ChannelSet × Request) :=
  requests.rtakeWhile fun q => q.2.asks c on

/-- The requests before those at the end that all ask the same of a channel. -/
def beforeStretch (requests : List (ChannelSet × Request)) (c : Channel) (on : Bool) :
    List (ChannelSet × Request) :=
  requests.rdropWhile fun q => q.2.asks c on

theorem beforeStretch_append_lastStretch (requests : List (ChannelSet × Request)) (c : Channel)
    (on : Bool) : beforeStretch requests c on ++ lastStretch requests c on = requests :=
  List.rdropWhile_append_rtakeWhile

theorem asks_of_mem_lastStretch {q : ChannelSet × Request} (h : q ∈ lastStretch requests c on) :
    q.2.asks c on = true :=
  (List.mem_rtakeWhile_imp h :)

theorem asks_of_getLast?_beforeStretch {q : ChannelSet × Request}
    (h : (beforeStretch requests c on).getLast? = some q) : q.2.asks c on = false := by
  obtain ⟨hne, rfl⟩ := List.mem_getLast?_eq_getLast h
  exact Bool.eq_false_iff.mpr (List.rdropWhile_last_not _ _ hne)

/-- If the latest states all ask the same of a channel, then it was in the set when the first of
them was applied, or has shown before what they ask. -/
def WasInTime (p : Panel) (requests : List (ChannelSet × Request)) (c : Channel) (on : Bool) :
    Prop :=
  ∀ q ∈ (lastStretch requests c on).head?, q.1.contains c = true ∨
    ((start p).run (beforeStretch requests c on)).panel.channel c = some on

/-- What a channel shows after a state was applied to a set that it is in. -/
theorem channel_run_apply_eq_iff (p : Panel) (requests : List (ChannelSet × Request))
    (hc : channels.contains c = true) :
    ((start p).run (requests ++ [(channels, .apply s)])).panel.channel c = some (s.isOn c) ↔
      WasInTime p requests c (s.isOn c) := by
  have hparts := beforeStretch_append_lastStretch requests c (s.isOn c)
  have hbegin : ∀ q, (beforeStretch requests c (s.isOn c)).getLast? = some q →
      q.2.asks c (s.isOn c) = false := fun q hq => asks_of_getLast?_beforeStretch hq
  rw [WasInTime]
  cases hstretch : lastStretch requests c (s.isOn c) with
  | nil =>
    -- The state itself begins a stretch, and its set has the channel.
    rw [hstretch, List.append_nil] at hparts
    rw [hparts] at hbegin
    simp [channel_eq_iff hbegin (List.forall_mem_nil _), hc]
  | cons q stretch =>
    have hasks : ∀ q' ∈ q :: stretch, q'.2.asks c (s.isOn c) = true := fun q' hq' =>
      asks_of_mem_lastStretch (hstretch ▸ hq')
    obtain ⟨hq, hrest⟩ := List.forall_mem_cons.mp hasks
    obtain ⟨first, r⟩ := q
    cases r with
    | forget => cases hq
    | apply s' =>
      have hs' : s'.isOn c = s.isOn c := Request.asks_apply.mp hq
      have happly : (Request.apply s).asks c (s.isOn c) = true := Request.asks_apply.mpr rfl
      have hrequests : requests ++ [(channels, .apply s)] =
          beforeStretch requests c (s.isOn c) ++
            (first, .apply s') :: (stretch ++ [(channels, .apply s)]) := by
        conv_lhs => rw [← hparts, hstretch]
        simp
      rw [hrequests, ← hs']
      rw [← hs'] at hbegin happly hrest
      rw [channel_eq_iff hbegin (List.forall_mem_append.mpr ⟨hrest, by simpa using happly⟩)]
      simp

/-! ## Sets that make a difference -/

/-- Requests to apply states, each to the channels of a set. -/
def applications (xs : List (ChannelSet × ActuatorState)) : List (ChannelSet × Request) :=
  xs.map fun x => (x.1, .apply x.2)

/-- If a set is within all those before, then its channels were written whenever they had to be. -/
theorem shows_of_within (hbefore : Applier.lastApplied (before.map Prod.snd) = none)
    {xs : List (ChannelSet × ActuatorState)}
    (hwithin : ∀ x ∈ xs, ∀ c, channels.contains c = true → x.1.contains c = true) :
    ((start p).run (before ++ applications xs ++ [(channels, .apply s)])).panel.Shows s
      channels := by
  rw [← last_run p] at hbefore
  have hforgotten :
      ((start p).run before).applier.Agrees ((start p).run before).panel channels := by
    intro last hlast
    cases hbefore.symm.trans hlast
  have hagrees : (((start p).run before).run (applications xs)).applier.Agrees
      (((start p).run before).run (applications xs)).panel channels := by
    refine agrees_run hforgotten _ fun q hq => ?_
    obtain ⟨x, hx, rfl⟩ := List.mem_map.mp hq
    exact hwithin x hx
  rw [run_append, run_append]
  exact agrees_respond hagrees (q := (channels, .apply s)) (fun c hc => hc) s rfl

/-- The state in which no channel is on, or this one only. -/
def switched (c : Channel) (on : Bool) : ActuatorState where
  led := .green
  lit := ChannelSet.empty.insertIf on c
  messagePending := false

theorem isOn_switched (c : Channel) (on : Bool) : (switched c on).isOn c = on := by
  simp [switched, ActuatorState.isOn]

/-- If a set lacks a channel, then the channel can be made to show the wrong thing: it is switched
when that set has its turn, and never again. -/
theorem exists_channel_ne (p : Panel) (before : List (ChannelSet × Request)) {lacking : ChannelSet}
    (hlacking : lacking.contains c = false) (earlier later : List ChannelSet)
    (channels : ChannelSet) :
    ∃ xs s, xs.map Prod.fst = earlier ++ lacking :: later ∧
      ((start p).run (before ++ applications xs ++ [(channels, .apply s)])).panel.channel c ≠
        some (s.isOn c) := by
  obtain ⟨on, hon⟩ : ∃ on, ((start p).run before).panel.channel c ≠ some on := by
    by_cases h : ((start p).run before).panel.channel c = some true
    · exact ⟨false, by simp [h]⟩
    · exact ⟨true, h⟩
  have hasks (on' : Bool) (sets : List ChannelSet) :
      ∀ q ∈ applications (sets.map fun D => (D, switched c on')), q.2.asks c on = (on' == on) := by
    intro q hq
    obtain ⟨x, hx, rfl⟩ := List.mem_map.mp hq
    obtain ⟨D, -, rfl⟩ := List.mem_map.mp hx
    simp [Request.asks, Request.state?, isOn_switched]
  refine ⟨earlier.map (fun D => (D, switched c !on)) ++
    (lacking, switched c on) :: later.map (fun D => (D, switched c on)), switched c on,
    by simp [Function.comp_def], ?_⟩
  -- Up to the set that lacks the channel nothing asks for what is asked for from then on.
  have hearlier := channel_run_ne hon (applications (earlier.map fun D => (D, switched c !on)))
    fun q hq => by simp [hasks (!on) earlier q hq]
  have hlater : ∀ q ∈ applications (later.map fun D => (D, switched c on)) ++
      [(channels, .apply (switched c on))], q.2.asks c ((switched c on).isOn c) = true := by
    rw [isOn_switched]
    refine List.forall_mem_append.mpr ⟨fun q hq => by simp [hasks on later q hq], ?_⟩
    simp [Request.asks, Request.state?, isOn_switched]
  have hsplit : before ++ applications (earlier.map (fun D => (D, switched c !on)) ++
      (lacking, switched c on) :: later.map (fun D => (D, switched c on))) ++
        [(channels, .apply (switched c on))] =
      (before ++ applications (earlier.map fun D => (D, switched c !on))) ++
        (lacking, .apply (switched c on)) ::
          (applications (later.map fun D => (D, switched c on)) ++
            [(channels, .apply (switched c on))]) := by
    simp [applications]
  rw [hsplit, run_append, run_append, run_cons, channel_run_of_same rfl hlater,
    channel_respond_apply, hlacking, isOn_switched]
  exact hearlier

/-! ## The main result -/

/-- **What outputs show on changing sets.**  Let a state be applied last.  The lamp shows it.  The
channels of the set show it just if each of them was in the set already where the last stretch of
states began that ask the same of it, or has shown that before.  So if only the sets are known, then
all is shown whatever the states are just if the last set is within all those since the applier had
nothing to remember. -/
theorem shows_iff (p : Panel) :
    (∀ requests channels s,
      let after := (start p).run (requests ++ [(channels, .apply s)])
      after.panel.led = some s.led ∧
        (after.panel.Shows s channels ↔
          ∀ c, channels.contains c = true → WasInTime p requests c (s.isOn c))) ∧
      ∀ before, Applier.lastApplied (before.map Prod.snd) = none → ∀ sets channels,
        (∀ xs : List (ChannelSet × ActuatorState), xs.map Prod.fst = sets → ∀ s,
          ((start p).run (before ++ applications xs ++ [(channels, .apply s)])).panel.Shows s
            channels) ↔
          ∀ D ∈ sets, ∀ c, channels.contains c = true → D.contains c = true := by
  refine ⟨fun requests channels s => ⟨led_run_apply p requests, fun h c hc => ?_, fun h => ?_⟩,
    fun before hbefore sets channels => ⟨fun h D hD c hc => ?_, fun h xs hxs s => ?_⟩⟩
  · exact (channel_run_apply_eq_iff p requests hc).mp (h.channel c hc)
  · exact ⟨led_run_apply p requests, fun c hc =>
      (channel_run_apply_eq_iff p requests hc).mpr (h c hc)⟩
  · by_contra hlacking
    obtain ⟨earlier, later, rfl⟩ := List.append_of_mem hD
    obtain ⟨xs, s, hxs, hne⟩ :=
      exists_channel_ne p before (Bool.eq_false_iff.mpr hlacking) earlier later channels
    exact hne ((h xs hxs s).channel c hc)
  · refine shows_of_within hbefore fun x hx => h x.1 ?_
    rw [← hxs]
    exact List.mem_map_of_mem hx

/-- Outputs that were never written. -/
def blank : Panel := ⟨none, fun _ => none⟩

/-- All channels of the veranda node are written first, and then those of its buzzer only: this
shows every state.  If the light is written first, then the buzzer comes in time for an alert that
begins after that. -/
theorem shows_iff_buzzer :
    let light := ChannelSet.ofList [.verandaLight]
    let both := ChannelSet.ofList [.verandaLight, .buzzer]
    (∀ D ∈ [Profile.b02.channels], ∀ c, (ChannelSet.ofList [.buzzer]).contains c = true →
        D.contains c = true) ∧
      (∀ s s', ((start blank).run [(Profile.b02.channels, .apply s),
        (.ofList [.buzzer], .apply s')]).panel.Shows s' (.ofList [.buzzer])) ∧
      ((start blank).run [(light, .apply (switched .buzzer false)),
        (both, .apply (switched .buzzer true))]).panel.Shows (switched .buzzer true) both := by
  intro light both
  obtain ⟨hrun, hsets⟩ := shows_iff blank
  have hwithin : ∀ D ∈ [Profile.b02.channels], ∀ c,
      (ChannelSet.ofList [.buzzer]).contains c = true → D.contains c = true := by
    intro D hD c
    rw [List.mem_singleton.mp hD]
    cases c <;> decide
  refine ⟨hwithin, fun s s' => ?_,
    (hrun [(light, .apply (switched .buzzer false))] both _).2.mpr ?_⟩
  · exact (hsets [] rfl _ _).mpr hwithin [(Profile.b02.channels, s)] rfl s'
  · intro c
    unfold WasInTime
    cases c <;> decide

/-- The buzzer comes into the set while the alert goes on.  It is not written. -/
theorem buzzer_comes_late :
    ¬ ∀ requests channels s,
      ((start blank).run (requests ++ [(channels, .apply s)])).panel.Shows s channels := by
  intro h
  have hshows := h [(.ofList [.verandaLight], .apply (switched .buzzer true))]
    (.ofList [.verandaLight, .buzzer]) (switched .buzzer true)
  exact absurd (hshows.channel .buzzer (by decide)) (by decide)

end Switchboard

end HomeMesh
