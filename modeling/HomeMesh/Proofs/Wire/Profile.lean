import HomeMesh.Proofs.Wire.Front
import HomeMesh.Wire.Profile

/-!
# Profiles on the wire come back

Every profile is taken back by `Profile.read` from the bytes of `Profile.encode`, whether it is valid
or not: the bits of its channels that mean nothing and the patterns of its numbers are kept as they
are (`takes_encode`).  The reader takes from the front (`takesFront_read`), so a profile that is cut
short is refused.  `read_encode_append` states both.
-/

namespace HomeMesh

open Wire

/-! ## Movement bindings -/

namespace MovementBinding

theorem takes_encode (b : MovementBinding) : Takes read b.encode b := by
  simp only [encode, List.append_assoc]
  apply (takes_putChoice (by decide) _).bind
  apply (takes_putBool _).bind
  exact (takes_putBool _).bind_pure

theorem takesFront_read : TakesFront read :=
  takesFront_readChoice.bind fun _ => takesFront_readBool.bind fun _ =>
    takesFront_readBool.bind fun _ => takesFront_pure _

end MovementBinding

/-! ## Durations and periods -/

namespace Timing

theorem takes_encode (t : Timing) : Takes read t.encode t := by
  simp only [encode, List.append_assoc]
  apply (takes_putUInt32 _).bind
  apply (takes_putUInt32 _).bind
  apply (takes_putUInt32 _).bind
  apply (takes_putUInt32 _).bind
  apply (takes_putUInt32 _).bind
  exact (takes_putOption takes_putUInt32 _).bind_pure

theorem takesFront_read : TakesFront read :=
  takesFront_readUInt32.bind fun _ => takesFront_readUInt32.bind fun _ =>
    takesFront_readUInt32.bind fun _ => takesFront_readUInt32.bind fun _ =>
      takesFront_readUInt32.bind fun _ =>
        (takesFront_readOption takesFront_readUInt32).bind fun _ => takesFront_pure _

end Timing

/-! ## Comfort bands and sets of channels -/

namespace ComfortBand

theorem takes_encode (c : ComfortBand) : Takes read c.encode c := by
  apply (takes_putSingle _).bind
  exact (takes_putSingle _).bind_pure

theorem takesFront_read : TakesFront read :=
  takesFront_readSingle.bind fun _ => takesFront_readSingle.bind fun _ => takesFront_pure _

end ComfortBand

namespace ChannelSet

/-- All sixteen bits come back, also those that stand for no channel. -/
theorem takes_encode (s : ChannelSet) : Takes read s.encode s := by
  have hnat : Takes (readNat 16) s.encode s.bits.toNat := takes_putNat (by decide) s.bits.toNat_lt
  have hset := hnat.bind_pure (f := fun mask => ChannelSet.mk (UInt16.ofNat mask))
  rwa [UInt16.ofNat_toNat] at hset

theorem takesFront_read : TakesFront read :=
  (takesFront_readNat (by decide)).bind fun _ => takesFront_pure _

end ChannelSet

/-! ## Profiles -/

namespace Profile

theorem takes_encode (p : Profile) : Takes read p.encode p := by
  simp only [encode, List.append_assoc]
  unfold read
  apply (takes_putChoice (by decide) p.id).bind
  apply (takes_putChoice (by decide) p.hub).bind
  apply (takes_putChoice (by decide) p.lightPeer).bind
  apply (takes_putList (takes_putChoice (by decide)) (by decide) p.intrusionTargets).bind
  apply (takes_putBool p.acceptsBroadcast).bind
  apply p.channels.takes_encode.bind
  apply (takes_putChoice (by decide) p.primaryLight).bind
  apply (takes_putChoice (by decide) p.alert).bind
  apply (takes_putList MovementBinding.takes_encode (by decide) p.movement).bind
  apply p.timing.takes_encode.bind
  apply (takes_putSingle p.darknessThreshold).bind
  exact (takes_putOption ComfortBand.takes_encode p.comfort).bind_pure

theorem takesFront_read : TakesFront read := by
  unfold read
  refine takesFront_readChoice.bind fun _ => ?_
  refine takesFront_readChoice.bind fun _ => ?_
  refine takesFront_readChoice.bind fun _ => ?_
  refine (takesFront_readList takesFront_readChoice _).bind fun _ => ?_
  refine takesFront_readBool.bind fun _ => ?_
  refine ChannelSet.takesFront_read.bind fun _ => ?_
  refine takesFront_readChoice.bind fun _ => ?_
  refine takesFront_readChoice.bind fun _ => ?_
  refine (takesFront_readList MovementBinding.takesFront_read _).bind fun _ => ?_
  refine Timing.takesFront_read.bind fun _ => ?_
  refine takesFront_readSingle.bind fun _ => ?_
  exact (takesFront_readOption ComfortBand.takesFront_read).bind fun _ => takesFront_pure _

/-- **The round trip.**  Whatever bytes follow a profile, the profile comes back as it was, and just
these bytes are left; of the bytes of a profile no proper beginning is taken for a profile. -/
theorem read_encode_append (p : Profile) :
    (∀ rest, read (p.encode ++ rest) = some (p, rest)) ∧
      ∀ front, front <+: p.encode → front ≠ p.encode → read front = none :=
  ⟨p.takes_encode, fun _ => takesFront_read.eq_none_of_prefix p.takes_encode⟩

/-- A profile that no node could run: its channels have no meaning, and its threshold is no
number. -/
def nonsense : Profile :=
  { t01 with id := .broadcast, channels := ⟨0xFE00⟩, darknessThreshold := ⟨0x7FC00001⟩ }

theorem read_encode_append_nonsense :
    let front := nonsense.encode.take 30
    nonsense.validate = .error .idIsBroadcast ∧
      read (nonsense.encode ++ [0xFF]) = some (nonsense, [0xFF]) ∧
      front <+: nonsense.encode ∧ front ≠ nonsense.encode ∧ read front = none := by
  intro front
  obtain ⟨hback, hcut⟩ := read_encode_append nonsense
  have hprefix : front <+: nonsense.encode := List.take_prefix 30 _
  have hshort : front ≠ nonsense.encode := by decide +kernel
  exact ⟨by rfl, hback _, hprefix, hshort, hcut _ hprefix hshort⟩

end Profile

end HomeMesh
