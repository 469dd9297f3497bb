import HomeMesh.Enumerated
import HomeMesh.Single

/-!
# Sensor readings

Drivers report a failed measurement by a flag and not by a fault, so a reading is only trusted if
it says that it is valid.  `SensorCache` keeps the latest of what a node has seen.  The remote
control sends one byte for each key; `RemoteButton.ofCode` names the key.
-/

namespace HomeMesh

/-- A measurement of brightness. -/
structure LuminosityReading where
  lux : Single
  valid : Bool
deriving DecidableEq

/-- A failed measurement of brightness. -/
def LuminosityReading.invalid : LuminosityReading := ⟨Single.zero, false⟩

/-- A measurement of the climate. -/
structure EnvironmentReading where
  /-- The temperature in degrees Celsius. -/
  temperature : Single
  /-- The relative humidity, if the sensor measures it. -/
  humidity : Option Single
  /-- The pressure in hectopascal, if the sensor measures it. -/
  pressure : Option Single
  valid : Bool
deriving DecidableEq

/-- A failed measurement of the climate. -/
def EnvironmentReading.invalid : EnvironmentReading := ⟨Single.zero, none, none, false⟩

/-- The latest of what a node has seen. -/
structure SensorCache where
  /-- Whether the last measurement of brightness was valid and below the threshold. -/
  isDark : Bool := false
  /-- The last measurement of the climate, valid or not. -/
  environment : EnvironmentReading := EnvironmentReading.invalid
  doorOpen : Bool := false
deriving DecidableEq

/-- The movement sensors that a node may have. -/
inductive MovementInput where
  | door
  | front
  | veranda
deriving DecidableEq

namespace MovementInput

def label : MovementInput → String
  | .door => "Door"
  | .front => "Front"
  | .veranda => "Veranda"

instance : Enumerated MovementInput where
  all := [.door, .front, .veranda]
  label := label
  mem_all a := by cases a <;> decide
  nodup_all := by decide
  label_injective a b := by cases a <;> cases b <;> decide

end MovementInput

/-- A key of the remote control. -/
inductive RemoteButton where
  | num0 | num1 | num2 | num3 | num4 | num5 | num6 | num7 | num8 | num9
  | star | hash | up | down | left | right | ok
  /-- A byte that no key sends. -/
  | unknown
deriving DecidableEq

namespace RemoteButton

def label : RemoteButton → String
  | .num0 => "Num0"
  | .num1 => "Num1"
  | .num2 => "Num2"
  | .num3 => "Num3"
  | .num4 => "Num4"
  | .num5 => "Num5"
  | .num6 => "Num6"
  | .num7 => "Num7"
  | .num8 => "Num8"
  | .num9 => "Num9"
  | .star => "Star"
  | .hash => "Hash"
  | .up => "Up"
  | .down => "Down"
  | .left => "Left"
  | .right => "Right"
  | .ok => "Ok"
  | .unknown => "Unknown"

/-- The byte that each key sends. -/
def codes : List (UInt8 × RemoteButton) :=
  [(0x19, .num0), (0x45, .num1), (0x46, .num2), (0x47, .num3), (0x44, .num4), (0x40, .num5),
    (0x43, .num6), (0x07, .num7), (0x15, .num8), (0x09, .num9), (0x16, .star), (0x0D, .hash),
    (0x18, .up), (0x52, .down), (0x08, .left), (0x5A, .right), (0x1C, .ok)]

/-- The key that sends a byte. -/
def ofCode (code : UInt8) : RemoteButton := (codes.lookup code).getD .unknown

end RemoteButton

end HomeMesh
