import HomeMesh.Profile
import HomeMesh.Wire.Primitive

/-!
# Profiles on the wire

A profile is its fields in their order, each written as the wire format says.  Reading does not
validate, and leaves the bytes that follow.
-/

namespace HomeMesh

open Wire

/-- The bytes of a movement binding. -/
def MovementBinding.encode (b : MovementBinding) : Bytes :=
  putChoice b.input ++ putBool b.action.notifyLightPeer ++ putBool b.action.wakeDisplay

/-- Takes a movement binding. -/
def MovementBinding.read : Reader MovementBinding := do
  let input ← readChoice
  let notifyLightPeer ← readBool
  let wakeDisplay ← readBool
  pure { input, action := { notifyLightPeer, wakeDisplay } }

/-- The bytes of durations and periods. -/
def Timing.encode (t : Timing) : Bytes :=
  putUInt32 t.light ++ putUInt32 t.display ++ putUInt32 t.intrusion ++
    putUInt32 t.luminosityPoll ++ putUInt32 t.environmentPoll ++ putOption putUInt32 t.doorPoll

/-- Takes durations and periods. -/
def Timing.read : Reader Timing := do
  let light ← readUInt32
  let display ← readUInt32
  let intrusion ← readUInt32
  let luminosityPoll ← readUInt32
  let environmentPoll ← readUInt32
  let doorPoll ← readOption readUInt32
  pure { light, display, intrusion, luminosityPoll, environmentPoll, doorPoll }

/-- The bytes of a comfort band. -/
def ComfortBand.encode (c : ComfortBand) : Bytes := putSingle c.low ++ putSingle c.high

/-- Takes a comfort band. -/
def ComfortBand.read : Reader ComfortBand := do
  let low ← readSingle
  let high ← readSingle
  pure { low, high }

/-- The bytes of a set of channels: its mask. -/
def ChannelSet.encode (s : ChannelSet) : Bytes := putNat s.bits.toNat

/-- Takes a set of channels. -/
def ChannelSet.read : Reader ChannelSet := do
  let mask ← readNat 16
  pure ⟨UInt16.ofNat mask⟩

/-- The bytes of a profile. -/
def Profile.encode (p : Profile) : Bytes :=
  putChoice p.id ++ putChoice p.hub ++ putChoice p.lightPeer ++
    putList putChoice p.intrusionTargets ++ putBool p.acceptsBroadcast ++ p.channels.encode ++
    putChoice p.primaryLight ++ putChoice p.alert ++ putList MovementBinding.encode p.movement ++
    p.timing.encode ++ putSingle p.darknessThreshold ++ putOption ComfortBand.encode p.comfort

/-- Takes a profile off the front of the bytes. -/
def Profile.read : Reader Profile := do
  let id ← readChoice
  let hub ← readChoice
  let lightPeer ← readChoice
  let intrusionTargets ← readList maxDestinations readChoice
  let acceptsBroadcast ← readBool
  let channels ← ChannelSet.read
  let primaryLight ← readChoice
  let alert ← readChoice
  let movement ← readList maxMovementInputs MovementBinding.read
  let timing ← Timing.read
  let darknessThreshold ← readSingle
  let comfort ← readOption ComfortBand.read
  pure
    { id, hub, lightPeer, intrusionTargets, acceptsBroadcast, channels, primaryLight, alert,
      movement, timing, darknessThreshold, comfort }

end HomeMesh
