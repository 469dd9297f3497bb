/-!
# Faults

A node itself never fails.  What can fail are the layers around it: reading and writing bytes,
handing an envelope to a transport, and accepting a profile.  Each fault is named by its cause, and
`Fault.message` gives its text.
-/

namespace HomeMesh

/-- Why bytes could not be written or read. -/
inductive WireFault where
  /-- The buffer has no room for a part. -/
  | bufferFull
  /-- The bytes end within a part. -/
  | unexpectedEnd
  /-- The groups of a number go beyond its width. -/
  | badNumber
  /-- What was read stands for no value. -/
  | noValue
deriving DecidableEq

/-- Why an envelope could not be turned into bytes or back. -/
inductive CodecFault where
  | bufferTooSmall
  | malformed
  /-- The bytes are those of an envelope without a destination. -/
  | badDestinations
deriving DecidableEq

/-- Why a transport refused an envelope. -/
inductive TransportFault where
  | linkDown
  | busy
  | unroutable
deriving DecidableEq

/-- Why a profile was refused. -/
inductive ProfileFault where
  | malformed
  | idIsBroadcast
  | lightPeerIsSelf
  | noIntrusionTargets
  | zeroWindow
  | zeroPoll
  | thresholdNotFinite
  | comfortBandEmpty
  | outputNotCarried
  | displayNotCarried
deriving DecidableEq

/-- What can go wrong around a node. -/
inductive Fault where
  | codec (cause : CodecFault)
  | transport (cause : TransportFault)
  | profile (cause : ProfileFault)
deriving DecidableEq

/-- What such a fault is for the envelope that was to be written or read.  All faults of reading are
the same. -/
def WireFault.codecFault : WireFault → CodecFault
  | .bufferFull => .bufferTooSmall
  | .unexpectedEnd | .badNumber | .noValue => .malformed

def CodecFault.message : CodecFault → String
  | .bufferTooSmall => "buffer too small"
  | .malformed => "malformed envelope"
  | .badDestinations => "invalid destination list"

def TransportFault.message : TransportFault → String
  | .linkDown => "link down"
  | .busy => "transport busy"
  | .unroutable => "no route to destination"

def ProfileFault.message : ProfileFault → String
  | .malformed => "profile JSON is malformed"
  | .idIsBroadcast => "id must not be BROADCAST"
  | .lightPeerIsSelf => "light_peer must differ from id"
  | .noIntrusionTargets => "intrusion_targets must not be empty"
  | .zeroWindow => "window durations must be non-zero"
  | .zeroPoll => "poll periods must be non-zero"
  | .thresholdNotFinite => "darkness_threshold_lux must be finite"
  | .comfortBandEmpty => "comfort low_c must be below high_c"
  | .outputNotCarried => "primary_light and alert must be in channels"
  | .displayNotCarried => "display wake bound without a display channel"

/-- The text of a fault: its layer and its cause. -/
def Fault.message : Fault → String
  | .codec cause => "codec: " ++ cause.message
  | .transport cause => "transport: " ++ cause.message
  | .profile cause => "config: " ++ cause.message

end HomeMesh
