/-!
# Timing windows over a wrapping counter

Time is read from a 32-bit counter of milliseconds that wraps after about 49.7 days.  A `Window`
remembers the tick at which a passing activation (a light, a woken display, a reported intrusion)
began.  It is *running* while no more than a given duration has passed since then, and *expired*
otherwise; a window that is not open counts as expired.

A start that lies after the present tick means that the counter has wrapped since the window
opened.  Such a window is expired too, and `normalize` closes it.
-/

namespace HomeMesh

/-- A reading of the millisecond counter. -/
abbrev Tick := UInt32

/-- A span of time in milliseconds. -/
abbrev Duration := UInt32

/-- A passing activation, known by the tick at which it began. -/
structure Window where
  /-- The tick at which the window opened, if it is open. -/
  start : Option Tick := none
deriving DecidableEq

namespace Window

/-- The window that is not open. -/
def inactive : Window := ⟨none⟩

/-- The window that opens at `now`. -/
def openedAt (now : Tick) : Window := ⟨some now⟩

/-- Whether the window has been opened and not closed since. -/
def isOpen (w : Window) : Bool := w.start.isSome

/-- The time since the window opened; none if it is not open or opens in the future. -/
def elapsed (w : Window) (now : Tick) : Option Duration :=
  match w.start with
  | none => none
  | some start => if start ≤ now then some (now - start) else none

/-- Whether more than `duration` has passed, or there is nothing to measure from. -/
def isExpired (w : Window) (now : Tick) (duration : Duration) : Bool :=
  match w.elapsed now with
  | none => true
  | some passed => duration < passed

/-- Whether at most `duration` has passed since the window opened. -/
def isRunning (w : Window) (now : Tick) (duration : Duration) : Bool := !w.isExpired now duration

/-- Closes a window whose start lies after `now`. -/
def normalize (w : Window) (now : Tick) : Window :=
  match w.start with
  | none => w
  | some start => if now < start then inactive else w

/-- Opens the window at `now` if it has expired; says whether it did. -/
def reopenIfExpired (w : Window) (now : Tick) (duration : Duration) : Window × Bool :=
  let settled := w.normalize now
  if settled.isExpired now duration then (openedAt now, true) else (settled, false)

end Window

end HomeMesh
