import HomeMesh.Json.Parser
import HomeMesh.Json.Printer
import HomeMesh.Profile
import HomeMesh.Single.Numeral

/-!
# Profiles as JSON

A profile is an object with a member for each of its fields.  `Profile.ofJson?` looks members up by
name, so their order is of no account, and passes over members that it does not know; a member that
it knows must not be there twice.  The two optional fields may be missing.  A record may also be
given as the array of all its fields in order.

`Profile.ofText` reads and validates a text: whatever keeps it from describing a profile is the one
fault `malformed`, and a profile that it describes may have a fault of its own.
`Profile.toText` writes a profile.
-/

namespace HomeMesh

open Json (Text)

namespace Json

/-! ## Records -/

/-- The fields of a record, by name. -/
abbrev Fields := String → Option Json

/-- The members of an object with their names decoded; none if some name cannot be. -/
def named? (members : List (Text × Json)) : Option (List (String × Json)) :=
  members.mapM fun (name, v) => (Text.decode? name).map fun cs => (String.ofList cs, v)

/-- The fields of a record, given as an object or as an array in the order of `names`. -/
def fields? (names : List String) : Json → Option Fields
  | .object members => do
    let members ← named? members
    let known := (members.map Prod.fst).filter names.contains
    if known.Nodup then some fun name => members.lookup name else none
  | .array items =>
    if items.length = names.length then some fun name => items[names.idxOf name]? else none
  | _ => none

/-- A field that must be there. -/
def Fields.get {α : Type} (fields : Fields) (name : String) (read : Json → Option α) :
    Option α :=
  (fields name).bind read

/-- A field that may be missing or `null`. -/
def Fields.getOptional {α : Type} (fields : Fields) (name : String) (read : Json → Option α) :
    Option (Option α) :=
  match fields name with
  | none => some none
  | some .null => some none
  | some v => some <$> read v

/-! ## Values of fields -/

def toBool? : Json → Option Bool
  | .bool b => some b
  | _ => none

/-- A natural number of at most `bits` bits. -/
def toNat? (bits : Nat) : Json → Option Nat
  | .number n => n.toNat?.filter fun value => value < 1 <<< bits
  | _ => none

def toDuration? (v : Json) : Option Duration := (toNat? 32 v).map UInt32.ofNat

def toChannelSet? (v : Json) : Option ChannelSet :=
  (toNat? 16 v).map fun bits => ⟨UInt16.ofNat bits⟩

def toSingle? : Json → Option Single
  | .number n => Single.ofNumeral? n
  | _ => none

/-- The value of a finite domain that a label belongs to. -/
def ofLabelText? {α : Type} [Enumerated α] (t : Text) : Option α :=
  (Text.decode? t).bind fun cs => Enumerated.ofLabel? (String.ofList cs)

/-- A value of a finite domain: its label, or an object with the label as the name of its only
member, which is `null`. -/
def toChoice? {α : Type} [Enumerated α] : Json → Option α
  | .string t => ofLabelText? t
  | .object [(t, .null)] => ofLabelText? t
  | _ => none

/-- A list within its capacity. -/
def toList? {α : Type} (capacity : Nat) (read : Json → Option α) :
    Json → Option (Bounded α capacity)
  | .array items => (items.mapM read).bind Bounded.ofList?
  | _ => none

/-! ## Writing -/

/-- A value of a finite domain, by its label. -/
def ofChoice {α : Type} [Enumerated α] (a : α) : Json :=
  .string (Text.ofString (Enumerated.label a))

def ofNat (n : Nat) : Json := .number (Numeral.ofNat n)

/-- A number of the 32-bit binary format; `null` if it is not finite. -/
def ofSingle (x : Single) : Json :=
  match x.toNumeral? with
  | some n => .number n
  | none => .null

/-- An optional value; `null` if there is none. -/
def ofOption {α : Type} (write : α → Json) : Option α → Json
  | some a => write a
  | none => .null

def ofList {α : Type} (write : α → Json) (xs : List α) : Json := .array (xs.map write)

/-- A record, by the names and values of its fields. -/
def ofFields (fields : List (String × Json)) : Json :=
  .object (fields.map fun (name, v) => (Text.ofString name, v))

end Json

/-! ## The parts of a profile -/

def MovementAction.ofJson? (v : Json) : Option MovementAction := do
  let fields ← v.fields? ["notify_light_peer", "wake_display"]
  let notifyLightPeer ← fields.get "notify_light_peer" Json.toBool?
  let wakeDisplay ← fields.get "wake_display" Json.toBool?
  pure { notifyLightPeer, wakeDisplay }

def MovementAction.toJson (a : MovementAction) : Json :=
  .ofFields [("notify_light_peer", .bool a.notifyLightPeer), ("wake_display", .bool a.wakeDisplay)]

def MovementBinding.ofJson? (v : Json) : Option MovementBinding := do
  let fields ← v.fields? ["channel", "action"]
  let input ← fields.get "channel" Json.toChoice?
  let action ← fields.get "action" MovementAction.ofJson?
  pure { input, action }

def MovementBinding.toJson (b : MovementBinding) : Json :=
  .ofFields [("channel", .ofChoice b.input), ("action", b.action.toJson)]

def Timing.fieldNames : List String :=
  ["light_duration_ms", "display_duration_ms", "intrusion_duration_ms", "luminosity_poll_ms",
    "environment_poll_ms", "door_poll_ms"]

def Timing.ofJson? (v : Json) : Option Timing := do
  let fields ← v.fields? fieldNames
  let light ← fields.get "light_duration_ms" Json.toDuration?
  let display ← fields.get "display_duration_ms" Json.toDuration?
  let intrusion ← fields.get "intrusion_duration_ms" Json.toDuration?
  let luminosityPoll ← fields.get "luminosity_poll_ms" Json.toDuration?
  let environmentPoll ← fields.get "environment_poll_ms" Json.toDuration?
  let doorPoll ← fields.getOptional "door_poll_ms" Json.toDuration?
  pure { light, display, intrusion, luminosityPoll, environmentPoll, doorPoll }

def Timing.toJson (t : Timing) : Json :=
  .ofFields
    [("light_duration_ms", .ofNat t.light.toNat),
      ("display_duration_ms", .ofNat t.display.toNat),
      ("intrusion_duration_ms", .ofNat t.intrusion.toNat),
      ("luminosity_poll_ms", .ofNat t.luminosityPoll.toNat),
      ("environment_poll_ms", .ofNat t.environmentPoll.toNat),
      ("door_poll_ms", .ofOption (fun d => .ofNat d.toNat) t.doorPoll)]

def ComfortBand.ofJson? (v : Json) : Option ComfortBand := do
  let fields ← v.fields? ["low_c", "high_c"]
  let low ← fields.get "low_c" Json.toSingle?
  let high ← fields.get "high_c" Json.toSingle?
  pure { low, high }

def ComfortBand.toJson (c : ComfortBand) : Json :=
  .ofFields [("low_c", .ofSingle c.low), ("high_c", .ofSingle c.high)]

namespace Profile

/-! ## The profile -/

def fieldNames : List String :=
  ["id", "hub", "light_peer", "intrusion_targets", "accepts_broadcast", "channels",
    "primary_light", "alert", "movement", "timing", "darkness_threshold_lux", "comfort"]

/-- A profile, from JSON and without validation. -/
def ofJson? (v : Json) : Option Profile := do
  let fields ← v.fields? fieldNames
  let id ← fields.get "id" Json.toChoice?
  let hub ← fields.get "hub" Json.toChoice?
  let lightPeer ← fields.get "light_peer" Json.toChoice?
  let intrusionTargets ←
    fields.get "intrusion_targets" (Json.toList? maxDestinations Json.toChoice?)
  let acceptsBroadcast ← fields.get "accepts_broadcast" Json.toBool?
  let channels ← fields.get "channels" Json.toChannelSet?
  let primaryLight ← fields.get "primary_light" Json.toChoice?
  let alert ← fields.get "alert" Json.toChoice?
  let movement ← fields.get "movement" (Json.toList? maxMovementInputs MovementBinding.ofJson?)
  let timing ← fields.get "timing" Timing.ofJson?
  let darknessThreshold ← fields.get "darkness_threshold_lux" Json.toSingle?
  let comfort ← fields.getOptional "comfort" ComfortBand.ofJson?
  pure
    { id, hub, lightPeer, intrusionTargets, acceptsBroadcast, channels, primaryLight, alert,
      movement, timing, darknessThreshold, comfort }

def toJson (p : Profile) : Json :=
  .ofFields
    [("id", .ofChoice p.id),
      ("hub", .ofChoice p.hub),
      ("light_peer", .ofChoice p.lightPeer),
      ("intrusion_targets", .ofList .ofChoice p.intrusionTargets.items),
      ("accepts_broadcast", .bool p.acceptsBroadcast),
      ("channels", .ofNat p.channels.bits.toNat),
      ("primary_light", .ofChoice p.primaryLight),
      ("alert", .ofChoice p.alert),
      ("movement", .ofList MovementBinding.toJson p.movement.items),
      ("timing", p.timing.toJson),
      ("darkness_threshold_lux", .ofSingle p.darknessThreshold),
      ("comfort", .ofOption ComfortBand.toJson p.comfort)]

/-- The profile that a text describes, if it describes a valid one. -/
def ofText (text : String) : Except ProfileFault Profile :=
  match (Json.parse? text.toList).bind ofJson? with
  | none => .error .malformed
  | some p =>
    match p.validate with
    | .ok () => .ok p
    | .error fault => .error fault

/-- The text of a profile. -/
def toText (p : Profile) : String := String.ofList p.toJson.print

end Profile

end HomeMesh
