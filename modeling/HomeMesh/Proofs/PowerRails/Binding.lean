import HomeMesh.Proofs.PowerRails
import Mathlib.Data.List.Nodup

/-!
# Channels and their pins

Rails are wired by giving channels their pins, one after the other; a channel that is given another
pin forgets the one before.  From then on channels are switched and the lamp takes its colours.

`Wired` says what the rails hold after some bindings: no channel twice, and for each channel the pin
that it was given last.  One more binding keeps this (`Wired.bind`), whether it replaces a pin or
adds one; there is room for one more channel because no channel is held twice, and so no binding is
ever lost.  Hence it holds of all rails that are wired from the start (`wired_bindAll`).

The word *last* means the same for bindings and for levels: `lastValue?` is the value that a list
has last for a key.  While no pin refuses, a pin that belongs to one role only holds the level
that was asked of this role last (`levelsAfter_eq`).  The main result is `last_binding_is_driven`.
-/

namespace HomeMesh

open Enumerated

/-! ## The last value of a key -/

section LastValue

variable {α β : Type} [DecidableEq α] {entries : List (α × β)} {a : α} {b : β}

theorem lookup_cons_eq (entries : List (α × β)) (a : α) (e : α × β) :
    (e :: entries).lookup a = if a = e.1 then some e.2 else entries.lookup a := by
  rw [List.lookup_cons]
  by_cases ha : a = e.1
  · simp [ha]
  · simp [beq_eq_false_iff_ne.mpr ha, ha]

/-- The value that the list has last for a key. -/
def lastValue? (entries : List (α × β)) (a : α) : Option β := entries.reverse.lookup a

theorem lastValue?_append (earlier later : List (α × β)) (a : α) :
    lastValue? (earlier ++ later) a = (lastValue? later a).or (lastValue? earlier a) := by
  rw [lastValue?, List.reverse_append, List.lookup_append, lastValue?, lastValue?]

theorem lastValue?_concat (entries : List (α × β)) (a : α) (e : α × β) :
    lastValue? (entries ++ [e]) a = if a = e.1 then some e.2 else lastValue? entries a := by
  rw [lastValue?, List.reverse_concat, lookup_cons_eq, lastValue?]

theorem isSome_lastValue? : (lastValue? entries a).isSome ↔ a ∈ entries.map Prod.fst := by
  simp [lastValue?, List.lookup_isSome_iff]

theorem mem_of_lastValue?_eq_some (h : lastValue? entries a = some b) : (a, b) ∈ entries := by
  obtain ⟨before, after, hentries, -⟩ := List.lookup_eq_some_iff.mp h
  have hmem : (a, b) ∈ entries.reverse := by simp [hentries]
  exact List.mem_reverse.mp hmem

end LastValue

namespace PowerRails

variable {Pin : Type} {p : PowerRails Pin} {c d : Channel} {pin redPin greenPin : Pin}
  {bindings : List (Channel × Pin)}

/-! ## The table of the rails -/

/-- The channels that have pins, in the order in which they were given their first one. -/
def channels (p : PowerRails Pin) : List Channel := p.rails.items.map Prod.fst

theorem hasRail_iff : p.hasRail c = true ↔ c ∈ p.channels := by
  simp [hasRail, channels]

theorem isSome_pin? : (p.pin? c).isSome ↔ c ∈ p.channels := by
  simp [pin?, channels, List.lookup_isSome_iff]

/-- The table, where the first entry of a channel takes another pin. -/
def rebind (c : Channel) (pin : Pin) (rails : List (Channel × Pin)) : List (Channel × Pin) :=
  rails.modify (rails.findIdx fun rail => rail.1 == c) fun rail => (rail.1, pin)

theorem rebind_cons (rail : Channel × Pin) (rails : List (Channel × Pin)) :
    rebind c pin (rail :: rails) =
      if rail.1 = c then (rail.1, pin) :: rails else rail :: rebind c pin rails := by
  by_cases hrail : rail.1 = c
  · simp [rebind, List.findIdx_cons, hrail]
  · simp [rebind, List.findIdx_cons, hrail, beq_eq_false_iff_ne.mpr hrail]

theorem map_fst_rebind (rails : List (Channel × Pin)) :
    (rebind c pin rails).map Prod.fst = rails.map Prod.fst := by
  induction rails with
  | nil => rfl
  | cons rail rails ih =>
    rw [rebind_cons]
    split
    · rfl
    · rw [List.map_cons, List.map_cons, ih]

theorem lookup_rebind {rails : List (Channel × Pin)} (hc : c ∈ rails.map Prod.fst)
    (d : Channel) :
    (rebind c pin rails).lookup d = if d = c then some pin else rails.lookup d := by
  induction rails with
  | nil => simp at hc
  | cons rail rails ih =>
    rw [rebind_cons, lookup_cons_eq]
    by_cases hrail : rail.1 = c
    · rw [if_pos hrail, lookup_cons_eq, hrail]
      by_cases hd : d = c
      · rw [if_pos hd, if_pos hd]
      · rw [if_neg hd, if_neg hd, if_neg hd]
    · have hlater : c ∈ rails.map Prod.fst := (List.mem_cons.mp hc).resolve_left (Ne.symm hrail)
      rw [if_neg hrail, lookup_cons_eq, ih hlater]
      by_cases hd : d = rail.1
      · rw [if_pos hd, if_pos hd, if_neg (hd ▸ hrail)]
      · rw [if_neg hd, if_neg hd]

/-- As long as no channel is held twice, a binding changes the table and nothing else: a channel
that has a pin is given another one in the same place, and for any other channel there is room. -/
theorem exists_bind_eq (hnodup : p.channels.Nodup) (c : Channel) (pin : Pin) :
    ∃ rails, p.bind c pin = ({ p with rails := rails }, []) ∧
      (c ∈ p.channels ∧ rails.items = rebind c pin p.rails.items ∨
        c ∉ p.channels ∧ rails.items = p.rails.items ++ [(c, pin)]) := by
  cases hplace : p.rails.items.findIdx? fun rail => rail.1 == c with
  | some i =>
    obtain ⟨-, hfirst⟩ := List.findIdx?_eq_some_iff_findIdx_eq.mp hplace
    have hc : c ∈ p.channels := by
      rw [← hasRail_iff, hasRail, ← List.findIdx?_isSome, hplace]
      rfl
    refine ⟨p.rails.modify i fun rail => (rail.1, pin), ?_, .inl ⟨hc, ?_⟩⟩
    · rw [bind, hplace]
    · rw [rebind, hfirst]
      rfl
  | none =>
    have hc : c ∉ p.channels := by
      rw [← hasRail_iff, hasRail, ← List.findIdx?_isSome, hplace]
      exact Bool.false_ne_true
    have hlength : (c :: p.channels).length ≤ maxRails :=
      length_le_of_nodup (List.nodup_cons.mpr ⟨hc, hnodup⟩)
    have hroom : (p.rails.items ++ [(c, pin)]).length ≤ maxRails := by
      simpa [channels] using hlength
    have hconcat : p.rails.concat? (c, pin) = some ⟨_, hroom⟩ := dif_pos hroom
    refine ⟨⟨_, hroom⟩, ?_, .inr ⟨hc, rfl⟩⟩
    rw [bind, hplace]
    simp only [hconcat]

/-- A binding leaves no channel in the table twice. -/
theorem nodup_bind (hnodup : p.channels.Nodup) (c : Channel) (pin : Pin) :
    (p.bind c pin).1.channels.Nodup := by
  obtain ⟨rails, hbind, ⟨-, hrails⟩ | ⟨hc, hrails⟩⟩ := exists_bind_eq hnodup c pin
  · rw [hbind, channels, hrails, map_fst_rebind]
    exact hnodup
  · rw [hbind, channels, hrails, List.map_append]
    exact (List.perm_append_singleton c _).nodup_iff.mpr (List.nodup_cons.mpr ⟨hc, hnodup⟩)

/-- A binding replaces the pin of its channel, and no other. -/
theorem pin?_bind (hnodup : p.channels.Nodup) (c : Channel) (pin : Pin) (d : Channel) :
    (p.bind c pin).1.pin? d = if d = c then some pin else p.pin? d := by
  obtain ⟨rails, hbind, ⟨hc, hrails⟩ | ⟨hc, hrails⟩⟩ := exists_bind_eq hnodup c pin
  · rw [hbind, pin?, hrails]
    exact lookup_rebind hc d
  · have hunbound : p.pin? c = none :=
      Option.not_isSome_iff_eq_none.mp fun hsome => hc (isSome_pin?.mp hsome)
    have hlookup : (p.rails.items ++ [(c, pin)]).lookup d =
        (p.pin? d).or (if d = c then some pin else none) := by
      rw [List.lookup_append, lookup_cons_eq, List.lookup_nil, pin?]
    rw [hbind, pin?, hrails, hlookup]
    by_cases hd : d = c
    · rw [if_pos hd, if_pos hd, hd, hunbound, Option.none_or]
    · rw [if_neg hd, if_neg hd, Option.or_none]

/-! ## Wiring -/

/-- The rails have these pins for the lamp, and each channel once, with the pin that it was given
last. -/
structure Wired (p : PowerRails Pin) (redPin greenPin : Pin) (bindings : List (Channel × Pin)) :
    Prop where
  redPin : p.redPin = redPin
  greenPin : p.greenPin = greenPin
  nodup : p.channels.Nodup
  pin? : ∀ c, p.pin? c = lastValue? bindings c

theorem wired_new (redPin greenPin : Pin) : (new redPin greenPin).Wired redPin greenPin [] where
  redPin := rfl
  greenPin := rfl
  nodup := List.nodup_nil
  pin? _ := rfl

theorem Wired.hasRail_iff (h : p.Wired redPin greenPin bindings) :
    p.hasRail c = true ↔ c ∈ bindings.map Prod.fst := by
  rw [PowerRails.hasRail_iff, ← isSome_pin?, h.pin?, isSome_lastValue?]

/-- One more binding is kept like those before, and nothing is noted. -/
theorem Wired.bind (h : p.Wired redPin greenPin bindings) (b : Channel × Pin) :
    (p.bind b.1 b.2).1.Wired redPin greenPin (bindings ++ [b]) ∧ (p.bind b.1 b.2).2 = [] := by
  obtain ⟨rails, hbind, -⟩ := exists_bind_eq h.nodup b.1 b.2
  refine ⟨⟨?_, ?_, nodup_bind h.nodup b.1 b.2, fun c => ?_⟩, by rw [hbind]⟩
  · rw [hbind]
    exact h.redPin
  · rw [hbind]
    exact h.greenPin
  · rw [pin?_bind h.nodup, lastValue?_concat, h.pin?]

/-- Gives channels their pins, one after the other. -/
def bindAll (p : PowerRails Pin) (bindings : List (Channel × Pin)) : PowerRails Pin × List Notice :=
  bindings.foldl (fun wired b =>
    let bound := wired.1.bind b.1 b.2
    (bound.1, wired.2 ++ bound.2)) (p, [])

/-- Rails that are wired from the start keep every binding, and note nothing. -/
theorem wired_bindAll (redPin greenPin : Pin) (bindings : List (Channel × Pin)) :
    ((new redPin greenPin).bindAll bindings).1.Wired redPin greenPin bindings ∧
      ((new redPin greenPin).bindAll bindings).2 = [] := by
  induction bindings using List.reverseRecOn with
  | nil => exact ⟨wired_new redPin greenPin, rfl⟩
  | append_singleton bindings b ih =>
    obtain ⟨hwired, hnotices⟩ := ih
    obtain ⟨hbound, hnothing⟩ := hwired.bind b
    rw [bindAll, List.foldl_concat]
    exact ⟨hbound, List.append_eq_nil_iff.mpr ⟨hnotices, hnothing⟩⟩

/-- Switching a channel writes the pin that it was given last.  If it was never given one, no pin is
written, and this is noted. -/
theorem Wired.setChannel_eq (h : p.Wired redPin greenPin bindings) (accepts : Pin → Bool)
    (c : Channel) (on : Bool) :
    p.setChannel accepts c on =
      match lastValue? bindings c with
      | some pin =>
        ([⟨pin, on, accepts pin⟩], if accepts pin then [] else [.pinRefused (.channel c)])
      | none => ([], [.notWired c]) := by
  rw [setChannel, h.pin?]
  rfl

/-- The two pins of the lamp are written to opposite levels. -/
theorem Wired.setLed_eq (h : p.Wired redPin greenPin bindings) (accepts : Pin → Bool)
    (colour : StatusLed) :
    (p.setLed accepts colour).1 =
      [⟨redPin, colour == .red, accepts redPin⟩,
        ⟨greenPin, !(colour == .red), accepts greenPin⟩] := by
  rw [← h.redPin, ← h.greenPin]
  cases colour <;> rfl

/-! ## Pins that are handed over -/

/-- The pins that rails are made of, each with its role. -/
def handedOver (redPin greenPin : Pin) (bindings : List (Channel × Pin)) : List (PinRole × Pin) :=
  (.redLed, redPin) :: (.greenLed, greenPin) :: bindings.map fun b => (.channel b.1, b.2)

theorem Wired.mem_handedOver (h : p.Wired redPin greenPin bindings) {r : PinRole}
    (hpin : p.pinOf? r = some pin) : (r, pin) ∈ handedOver redPin greenPin bindings := by
  cases r with
  | redLed =>
    have hred : p.redPin = pin := Option.some.inj hpin
    simp [handedOver, ← hred, h.redPin]
  | greenLed =>
    have hgreen : p.greenPin = pin := Option.some.inj hpin
    simp [handedOver, ← hgreen, h.greenPin]
  | channel c =>
    have hlast : lastValue? bindings c = some pin := (h.pin? c).symm.trans hpin
    simp [handedOver, mem_of_lastValue?_eq_some hlast]

/-- If no pin is handed over twice, each belongs to the rails in one role only. -/
theorem Wired.hasOwnPins (h : p.Wired redPin greenPin bindings)
    (hpins : ((handedOver redPin greenPin bindings).map Prod.snd).Nodup) : p.HasOwnPins := by
  intro r r' pin hr hr'
  exact congrArg Prod.fst
    (List.inj_on_of_nodup_map hpins (h.mem_handedOver hr) (h.mem_handedOver hr') rfl)

/-! ## Levels -/

section Levels

variable [DecidableEq Pin] {levels : Pin → Bool} {r : PinRole}

/-- The levels of the pins after writes that no pin refuses. -/
def levelsAfter (p : PowerRails Pin) (levels : Pin → Bool) (ws : List Write) : Pin → Bool :=
  (p.performAll (fun _ => true) ws).1.foldl PinWrite.apply levels

/-- A pin holds the level that was asked last of its role. -/
theorem foldl_ask_eq (hp : p.HasOwnPins) (hpin : p.pinOf? r = some pin)
    (asked : List (PinRole × Bool)) :
    asked.foldl (p.ask fun _ => true) levels pin = (lastValue? asked r).getD (levels pin) := by
  induction asked using List.reverseRecOn with
  | nil => rfl
  | append_singleton asked l ih =>
    rw [List.foldl_concat, ask_apply hp hpin, ih, lastValue?_concat]
    by_cases hr : r = l.1
    · simp [hr]
    · simp [hr, Ne.symm hr]

theorem levelsAfter_eq (hp : p.HasOwnPins) (hpin : p.pinOf? r = some pin) (ws : List Write) :
    p.levelsAfter levels ws pin = (lastValue? (ws.flatMap Write.levels) r).getD (levels pin) := by
  rw [levelsAfter, performAll_writes, foldl_pinWrites, foldl_ask_eq hp hpin]

/-- Whatever is asked of the red pin, the opposite is asked of the green one. -/
theorem lastValue?_greenLed (ws : List Write) :
    lastValue? (ws.flatMap Write.levels) .greenLed =
      (lastValue? (ws.flatMap Write.levels) .redLed).map (!·) := by
  induction ws using List.reverseRecOn with
  | nil => rfl
  | append_singleton ws w ih =>
    rw [List.flatMap_append, List.flatMap_singleton, lastValue?_append, lastValue?_append, ih]
    cases w with
    | led colour => cases colour <;> rfl
    | channel c on => rfl

/-- Once the lamp has taken a colour, one of its pins is high and the other is low. -/
theorem Wired.levelsAfter_redPin (h : p.Wired redPin greenPin bindings) (hp : p.HasOwnPins)
    {ws : List Write} {colour : StatusLed} (hled : .led colour ∈ ws) :
    p.levelsAfter levels ws redPin = !p.levelsAfter levels ws greenPin := by
  have hred : p.pinOf? .redLed = some redPin := congrArg some h.redPin
  have hgreen : p.pinOf? .greenLed = some greenPin := congrArg some h.greenPin
  have hasked : (lastValue? (ws.flatMap Write.levels) .redLed).isSome := by
    refine isSome_lastValue?.mpr (List.mem_map.mpr ⟨(.redLed, colour == .red), ?_, rfl⟩)
    exact List.mem_flatMap.mpr ⟨_, hled, List.mem_cons_self⟩
  obtain ⟨high, hhigh⟩ := Option.isSome_iff_exists.mp hasked
  rw [levelsAfter_eq hp hred, levelsAfter_eq hp hgreen, lastValue?_greenLed, hhigh]
  simp

end Levels

/-! ## The main result -/

/-- **The last binding is driven.**  Rails get their two pins for the lamp, and then channels are
given pins, in any order and any number of times.

The table holds each channel at most once and there was always room in it, so that nothing was
noted; it has just the channels that were given a pin.  Switching a channel writes one pin, the one
that the channel was given last; if the channel was never given one, no pin is written and this is
noted.  A colour of the lamp is written to its two pins, to opposite levels.

Pins are handed over to the rails, so that each of them has one role.  While no pin refuses, each
channel then holds the level that it was switched to last, or the one from before if it was not
switched; and one pin of the lamp is high and the other one low, from the first colour on. -/
theorem last_binding_is_driven [DecidableEq Pin] (redPin greenPin : Pin)
    (bindings : List (Channel × Pin)) :
    let wired := (new redPin greenPin).bindAll bindings
    let p := wired.1
    (p.channels.Nodup ∧ wired.2 = [] ∧ ∀ c, p.hasRail c = true ↔ c ∈ bindings.map Prod.fst) ∧
    (∀ accepts c on, p.setChannel accepts c on =
      match lastValue? bindings c with
      | some pin =>
        ([⟨pin, on, accepts pin⟩], if accepts pin then [] else [.pinRefused (.channel c)])
      | none => ([], [.notWired c])) ∧
    (∀ accepts colour, (p.setLed accepts colour).1 =
      [⟨redPin, colour == .red, accepts redPin⟩,
        ⟨greenPin, !(colour == .red), accepts greenPin⟩]) ∧
    (p.HasOwnPins → ∀ levels ws,
      (∀ c pin, lastValue? bindings c = some pin →
        p.levelsAfter levels ws pin =
          (lastValue? (ws.flatMap Write.levels) (.channel c)).getD (levels pin)) ∧
      ∀ colour, .led colour ∈ ws →
        p.levelsAfter levels ws redPin = !p.levelsAfter levels ws greenPin) := by
  intro wired p
  obtain ⟨hwired, hnotices⟩ := wired_bindAll redPin greenPin bindings
  refine ⟨⟨hwired.nodup, hnotices, fun c => hwired.hasRail_iff⟩, hwired.setChannel_eq,
    hwired.setLed_eq, fun hp levels ws => ⟨fun c pin hlast => ?_, fun colour hled => ?_⟩⟩
  · have hpin : p.pinOf? (.channel c) = some pin := (hwired.pin? c).trans hlast
    exact levelsAfter_eq hp hpin ws
  · exact hwired.levelsAfter_redPin hp hled

/-- The display is given another pin after the buzzer was given one; it is switched on by the second
pin, while the first stays low. -/
theorem last_binding_is_driven_newDisplay :
    let bindings := [(Channel.display, 2), (.buzzer, 3), (.display, 4)]
    let p := ((new 0 1).bindAll bindings).1
    let ws := [Write.channel .display true, .led .red, .channel .buzzer true, .led .green]
    let after := p.levelsAfter (fun _ => false) ws
    p.HasOwnPins ∧ lastValue? bindings .display = some 4 ∧ .led .red ∈ ws ∧
      after 4 = true ∧ after 2 = false ∧ after 0 = !after 1 := by
  intro bindings p ws after
  have hp : p.HasOwnPins := (wired_bindAll 0 1 bindings).1.hasOwnPins (by decide)
  have hlast : lastValue? bindings .display = some 4 := by decide
  have hled : .led .red ∈ ws := by decide
  obtain ⟨-, -, -, hlevels⟩ := last_binding_is_driven 0 1 bindings
  obtain ⟨hchannel, hlamp⟩ := hlevels hp (fun _ => false) ws
  exact ⟨hp, hlast, hled, hchannel .display 4 hlast, by decide, hlamp .red hled⟩

end PowerRails

end HomeMesh
