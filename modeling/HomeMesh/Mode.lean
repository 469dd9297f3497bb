import HomeMesh.Enumerated

/-!
# Operating modes

The hub puts every node into one of three modes.  A mode travels as the first value of a
`setMode` command.
-/

namespace HomeMesh

/-- The way in which a node reacts to movements and drives its outputs. -/
inductive Mode where
  /-- Somebody is at home: movements bring light. -/
  | silence
  /-- Nobody is at home: movements are intrusions. -/
  | guard
  /-- An intrusion is confirmed: everything is on. -/
  | alarm
deriving DecidableEq

namespace Mode

/-- The name of a mode in log lines. -/
def name : Mode → String
  | .silence => "SILENCE"
  | .guard => "GUARD"
  | .alarm => "ALARM"

def label : Mode → String
  | .silence => "Silence"
  | .guard => "Guard"
  | .alarm => "Alarm"

instance : Enumerated Mode where
  all := [.silence, .guard, .alarm]
  label := label
  mem_all a := by cases a <;> decide
  nodup_all := by decide
  label_injective a b := by cases a <;> cases b <;> decide

/-- The value that stands for a mode. -/
def value : Mode → Int32
  | .silence => 0
  | .guard => 1
  | .alarm => 2

/-- The mode that a value stands for. -/
def ofValue? (v : Int32) : Option Mode :=
  if v = 0 then some .silence
  else if v = 1 then some .guard
  else if v = 2 then some .alarm
  else none

end Mode

end HomeMesh
