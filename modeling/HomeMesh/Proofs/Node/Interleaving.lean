import HomeMesh.Proofs.Node.Exchange

/-!
# Readings and envelopes commute

What a node reads from its sensors and the remote control (`Event.isReading`) and the envelopes that
come in act on different halves of the node.  A reading changes what was measured and the outbox; an
envelope changes the mode, the windows and the comfort warning.  Neither looks at what the other may
change: a report is made from the profile and the reading, and whether an envelope is accepted and
what it does to a window follow from the profile and the windows.  So a reading and an envelope that
come one after the other may change places (`react_comm`).

Then an envelope may pass any number of readings (`handle_react_comm`), and however some readings and
some envelopes are interleaved, the node ends up as if all readings had come first
(`handle_of_interleaved`).  The guard against a wrapped counter is no exception, since an envelope
brings its own tick with it; the ticks need not be in order.
-/

namespace HomeMesh

/-- The third list holds the items of the first two, those of each in their order. -/
inductive Interleaved {α : Type} : List α → List α → List α → Prop
  | nil : Interleaved [] [] []
  | left {a : α} {xs ys zs : List α} : Interleaved xs ys zs → Interleaved (a :: xs) ys (a :: zs)
  | right {a : α} {xs ys zs : List α} : Interleaved xs ys zs → Interleaved xs (a :: ys) (a :: zs)

namespace Event

/-- Whether an event is something that a sensor other than a movement sensor has measured, or a key
of the remote control. -/
def isReading : Event → Bool
  | .luminosity _ | .environment _ | .door _ | .button _ => true
  | .movement _ | .message _ => false

/-- Whether an event is an envelope that has come in. -/
def isMessage : Event → Bool
  | .message _ => true
  | .luminosity _ | .environment _ | .door _ | .movement _ | .button _ => false

end Event

namespace Node

variable {n : Node} {e e' : Event} {now now' : Tick} {readings messages : List (Event × Tick)}

/-- The delays that a node answers to some events. -/
def delays (n : Node) : List (Event × Tick) → List (Option Duration)
  | [] => []
  | (e, now) :: events => (n.react e now).delay :: (n.react e now).node.delays events

/-- The delay of an event hangs on the profile, which no event changes; so it does not matter what
came before. -/
theorem delays_eq (n : Node) (events : List (Event × Tick)) :
    n.delays events = events.map fun event => n.delayAfter event.1 := by
  induction events generalizing n with
  | nil => rfl
  | cons event events ih =>
    obtain ⟨e, now⟩ := event
    have hsame : (n.react e now).node.delayAfter = n.delayAfter := by
      funext later
      rw [node_react]
      cases later <;> rfl
    rw [delays, ih, delay_react, hsame, List.map_cons]

/-- A reading and an envelope may change places. -/
theorem react_comm (n : Node) (he : e.isReading = true) (he' : e'.isMessage = true)
    (now now' : Tick) :
    ((n.react e now).node.react e' now').node = ((n.react e' now').node.react e now).node := by
  cases e' with
  | message m =>
    simp only [node_react]
    -- The parts of the node that decide about one event are none that the other one changes.
    cases e with
    | luminosity _ | environment _ | door _ | button _ => rfl
    | movement _ | message _ => cases he
  | luminosity _ | environment _ | door _ | movement _ | button _ => cases he'

/-- An envelope may come before some readings or after them. -/
theorem handle_react_comm (n : Node) (hreadings : ∀ event ∈ readings, event.1.isReading = true)
    (he' : e'.isMessage = true) (now' : Tick) :
    (n.react e' now').node.handle readings = ((n.handle readings).react e' now').node := by
  induction readings generalizing n with
  | nil => rfl
  | cons event readings ih =>
    obtain ⟨e, now⟩ := event
    obtain ⟨he, hrest⟩ := List.forall_mem_cons.mp hreadings
    rw [handle, handle, ← react_comm n he he', ih _ hrest]

/-- However readings and envelopes are interleaved, it is as if all readings had come first. -/
theorem handle_of_interleaved {events : List (Event × Tick)}
    (hreadings : ∀ event ∈ readings, event.1.isReading = true)
    (hmessages : ∀ event ∈ messages, event.1.isMessage = true)
    (h : Interleaved readings messages events) :
    n.handle events = (n.handle readings).handle messages := by
  induction h generalizing n with
  | nil => rfl
  | left _ ih => exact ih (List.forall_mem_cons.mp hreadings).2 hmessages
  | right _ ih =>
    obtain ⟨he', hrest⟩ := List.forall_mem_cons.mp hmessages
    rw [handle, handle, ih hreadings hrest, handle_react_comm n hreadings he']

/-- **Readings and envelopes commute.**  In any state of a node, all interleavings of some readings
with some envelopes, each at a tick of its own, lead to the same node, and each event is answered by
the same delay in all of them. -/
theorem interleavings_agree (n : Node)
    (hreadings : ∀ event ∈ readings, event.1.isReading = true)
    (hmessages : ∀ event ∈ messages, event.1.isMessage = true) :
    ∃ (last : Node) (delay : Event × Tick → Option Duration),
      ∀ events, Interleaved readings messages events →
        n.handle events = last ∧ n.delays events = events.map delay :=
  ⟨(n.handle readings).handle messages, fun event => n.delayAfter event.1, fun events h =>
    ⟨handle_of_interleaved hreadings hmessages h, n.delays_eq events⟩⟩

/-- It grows dark and cold, and the door of the hall is opened. -/
def hallReadings : List (Event × Tick) :=
  [(.luminosity ⟨.zero, true⟩, 500), (.environment ⟨.zero, none, none, true⟩, 400), (.door true, 9)]

/-- The hall node is told to switch its light on and then to stand guard; an alert for the veranda
comes after that. -/
def hallMessages : List (Event × Tick) :=
  [(.message (Profile.t01.order .setLight 1), 100), (.message (Profile.t01.order .setMode 1), 7),
    (.message (Profile.b02.order .setIntrusion 1), 300)]

/-- Whether the envelopes come all together or one by one, the hall node stands guard in the dark and
waits to report the climate and its door. -/
theorem interleavings_agree_hall :
    let together := hallMessages ++ hallReadings
    let mixed := [hallReadings[0], hallMessages[0], hallMessages[1], hallReadings[1],
      hallMessages[2], hallReadings[2]]
    (∀ event ∈ hallReadings, event.1.isReading = true) ∧
      (∀ event ∈ hallMessages, event.1.isMessage = true) ∧
      Interleaved hallReadings hallMessages together ∧ Interleaved hallReadings hallMessages mixed ∧
      (new .t01).handle mixed = (new .t01).handle together ∧
      ((new .t01).handle together).mode = .guard ∧
      ((new .t01).handle together).outbox.items.length = 2 := by
  intro together mixed
  have hreadings : ∀ event ∈ hallReadings, event.1.isReading = true := by decide
  have hmessages : ∀ event ∈ hallMessages, event.1.isMessage = true := by decide
  have htogether : Interleaved hallReadings hallMessages together :=
    .right (.right (.right (.left (.left (.left .nil)))))
  have hmixed : Interleaved hallReadings hallMessages mixed :=
    .left (.right (.right (.left (.right (.left .nil)))))
  obtain ⟨last, delay, hagree⟩ := interleavings_agree (new .t01) hreadings hmessages
  exact ⟨hreadings, hmessages, htogether, hmixed,
    (hagree _ hmixed).1.trans (hagree _ htogether).1.symm, by decide +kernel, by decide +kernel⟩

end Node

end HomeMesh
