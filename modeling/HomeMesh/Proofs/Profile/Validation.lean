import HomeMesh.Profile

/-!
# What validation says of a profile

An accepted profile satisfies every condition (`forall_conditions_of_validate`): it carries its
light and its alert, it has somebody to tell of intrusions, its threshold of darkness is finite, and
the bounds of its comfortable temperatures are in order.  A refused profile breaks one of them.
That it is malformed is never the reason (`validate_ne_malformed`), since this is said of texts that
describe no profile.
-/

namespace HomeMesh

/-- No other fault has the text of a malformed one. -/
theorem ProfileFault.message_ne_of_ne_malformed {fault : ProfileFault} (h : fault ≠ .malformed) :
    fault.message ≠ "profile JSON is malformed" := by
  cases fault with
  | malformed => exact absurd rfl h
  | _ => simp [message]

namespace Profile

variable {p : Profile}

/-- An accepted profile satisfies every condition. -/
theorem forall_conditions_of_validate (h : p.validate = .ok ()) :
    ∀ c ∈ p.conditions, c.1 = true := by
  intro c hc
  rw [validate] at h
  split at h
  next hnone => simpa using List.find?_eq_none.mp hnone c hc
  next => cases h

/-- A node with an accepted profile carries its light and its alert. -/
theorem carries_outputs (h : p.validate = .ok ()) :
    p.channels.contains p.primaryLight = true ∧ p.channels.contains p.alert = true := by
  have hcondition := forall_conditions_of_validate h
    (p.channels.contains p.primaryLight && p.channels.contains p.alert, .outputNotCarried)
    (by simp [conditions])
  exact Bool.and_eq_true_iff.mp hcondition

theorem intrusionTargets_ne_nil (h : p.validate = .ok ()) : p.intrusionTargets.items ≠ [] := by
  have hcondition := forall_conditions_of_validate h
    (!p.intrusionTargets.isEmpty, .noIntrusionTargets) (by simp [conditions])
  simpa [Bounded.isEmpty] using hcondition

theorem isFinite_darknessThreshold (h : p.validate = .ok ()) :
    p.darknessThreshold.isFinite = true :=
  forall_conditions_of_validate h (p.darknessThreshold.isFinite, .thresholdNotFinite)
    (by simp [conditions])

/-- Between the bounds of an accepted band there is room. -/
theorem low_lt_high (h : p.validate = .ok ()) {band : ComfortBand} (hband : p.comfort = some band) :
    band.low.lt band.high = true := by
  have hcondition := forall_conditions_of_validate h
    (p.comfort.all fun band => band.low.lt band.high, .comfortBandEmpty) (by simp [conditions])
  simpa [hband] using hcondition

/-- Validation never calls a profile malformed. -/
theorem validate_ne_malformed (p : Profile) : p.validate ≠ .error .malformed := by
  intro h
  rw [validate] at h
  split at h
  · cases h
  next c fault hfind =>
    obtain rfl := Except.error.inj h
    have hmem : (c, ProfileFault.malformed) ∈ p.conditions := List.mem_of_find?_eq_some hfind
    simp [conditions] at hmem

end Profile

end HomeMesh
