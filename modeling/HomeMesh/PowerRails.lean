import HomeMesh.Applier
import HomeMesh.Notice

/-!
# Power rails

Each channel is switched by a pin, and the status lamp by two pins, one for each colour.
`PowerRails` holds which pin belongs to which channel, and turns writes into pin writes.  A pin may
refuse to be written; this is noted and nothing else.
-/

namespace HomeMesh

/-- The most pins for channels: one for each. -/
abbrev maxRails : Nat := Channel.all.length

/-- The pins of the outputs. -/
structure PowerRails (Pin : Type) where
  /-- The pin of the red lamp. -/
  redPin : Pin
  /-- The pin of the green lamp. -/
  greenPin : Pin
  /-- The pins of the channels. -/
  rails : Bounded (Channel × Pin) maxRails := .empty

/-- A pin that was to be driven high or low, and whether it let itself. -/
structure PinWrite (Pin : Type) where
  /-- The pin. -/
  pin : Pin
  /-- Whether it was to be driven high. -/
  high : Bool
  /-- Whether it was driven. -/
  accepted : Bool

namespace PowerRails

variable {Pin : Type}

/-- The rails without pins for channels. -/
def new (redPin greenPin : Pin) : PowerRails Pin := { redPin, greenPin }

/-- Whether a channel has a pin. -/
def hasRail (p : PowerRails Pin) (c : Channel) : Bool := p.rails.items.any fun rail => rail.1 == c

/-- The pin of a channel. -/
def pin? (p : PowerRails Pin) (c : Channel) : Option Pin := p.rails.items.lookup c

/-- Gives a channel a pin.  The first entry of the channel takes the pin in place of its own; if
there is none, one is added. -/
def bind (p : PowerRails Pin) (c : Channel) (pin : Pin) : PowerRails Pin × List Notice :=
  match p.rails.items.findIdx? fun rail => rail.1 == c with
  | some i => ({ p with rails := p.rails.modify i fun rail => (rail.1, pin) }, [])
  | none =>
    match p.rails.concat? (c, pin) with
    | some rails => ({ p with rails := rails }, [])
    | none => (p, [.noRailLeft c])

/-- Drives a pin; `accepts` says which pins let themselves be driven. -/
def drive (accepts : Pin → Bool) (role : PinRole) (pin : Pin) (high : Bool) :
    List (PinWrite Pin) × List Notice :=
  ([⟨pin, high, accepts pin⟩], if accepts pin then [] else [.pinRefused role])

/-- Drives the two pins of the lamp. -/
def setLed (p : PowerRails Pin) (accepts : Pin → Bool) (colour : StatusLed) :
    List (PinWrite Pin) × List Notice :=
  let red := drive accepts .redLed p.redPin (colour == .red)
  let green := drive accepts .greenLed p.greenPin (colour == .green)
  (red.1 ++ green.1, red.2 ++ green.2)

/-- Drives the pin of a channel, if it has one. -/
def setChannel (p : PowerRails Pin) (accepts : Pin → Bool) (c : Channel) (on : Bool) :
    List (PinWrite Pin) × List Notice :=
  match p.pin? c with
  | some pin => drive accepts (.channel c) pin on
  | none => ([], [.notWired c])

/-- Performs a write. -/
def perform (p : PowerRails Pin) (accepts : Pin → Bool) :
    Write → List (PinWrite Pin) × List Notice
  | .led colour => p.setLed accepts colour
  | .channel c on => p.setChannel accepts c on

/-- Performs writes, one after the other. -/
def performAll (p : PowerRails Pin) (accepts : Pin → Bool) (writes : List Write) :
    List (PinWrite Pin) × List Notice :=
  let performed := writes.map (p.perform accepts)
  (performed.flatMap Prod.fst, performed.flatMap Prod.snd)

end PowerRails

end HomeMesh
