import ContractDrill.Proofs.Settings.Fields

/-!
# The bounds of settings

Whatever describes settings, the times in them are in bounds (`Settings.inBounds_of_ofJson`): no
wait is negative, and the pause between two looks is positive.  So not-a-number is no time of
theirs.  An infinity is in bounds.
-/

namespace ContractDrill

/-- A value that is checked once more is valid if it passes the check. -/
theorem Verdict.andThen_eq_valid_iff {α β : Type} {verdict : Verdict α} {check : α → Verdict β}
    {b : β} : verdict.andThen check = .valid b ↔ ∃ a, verdict = .valid a ∧ check a = .valid b := by
  cases verdict <;> simp [andThen]

namespace Schema

/-- What holds of the default of a field, and of all that its reader accepts, holds of the field. -/
theorem of_optional {α : Type} {name : String} {default a : α} {item : Reader α}
    {members : Json.Members} {holds : α → Prop} (hdefault : holds default)
    (hitem : ∀ {value a}, item value = .valid a → holds a)
    (h : optional name default item members = .valid a) : holds a := by
  unfold optional at h
  cases hget : members.get? name with
  | none =>
    rw [hget] at h
    cases h
    exact hdefault
  | some value =>
    rw [hget] at h
    exact hitem (Verdict.under_eq_valid_iff.mp h)

/-- What passes the check for a length of time is not negative, so it is a number. -/
theorem nonneg_of_nonnegative {value : Json} {x : Binary64} (h : nonnegative value = .valid x) :
    0 ≤ x := by
  obtain ⟨y, -, hcheck⟩ := Verdict.andThen_eq_valid_iff.mp h
  split at hcheck
  case isTrue hle =>
    cases hcheck
    exact hle
  case isFalse => cases hcheck

theorem pos_of_positive {value : Json} {x : Binary64} (h : positive value = .valid x) : 0 < x := by
  obtain ⟨y, -, hcheck⟩ := Verdict.andThen_eq_valid_iff.mp h
  split at hcheck
  case isTrue hlt =>
    cases hcheck
    exact hlt
  case isFalse => cases hcheck

end Schema

namespace Settings

/-- The times of the settings are in bounds. -/
structure InBounds (settings : Settings) : Prop where
  waitSeconds : 0 ≤ settings.waitSeconds
  pollTimeout : 0 ≤ settings.pollTimeout
  pollInterval : 0 < settings.pollInterval

theorem inBounds_default : default.InBounds := ⟨by decide +kernel, by decide, by decide +kernel⟩

/-- Settings that were read from a value are in bounds, as the defaults are. -/
theorem inBounds_of_ofJson {value : Json} {settings : Settings}
    (h : ofJson value = .valid settings) : settings.InBounds := by
  cases value with
  | object members =>
    have hfields := verdict_of_ofJson h
    have hwait : Field.ofNumber "wait_seconds" "CRONCAT_WAIT_SECONDS" Schema.nonnegative
        waitSeconds ∈ fields := by simp [fields]
    have htimeout : Field.ofNumber "poll_timeout" "CRONCAT_POLL_TIMEOUT" Schema.nonnegative
        pollTimeout ∈ fields := by simp [fields]
    have hinterval : Field.ofNumber "poll_interval" "CRONCAT_POLL_INTERVAL" Schema.positive
        pollInterval ∈ fields := by simp [fields]
    exact ⟨Schema.of_optional inBounds_default.waitSeconds Schema.nonneg_of_nonnegative
        (hfields _ hwait),
      Schema.of_optional inBounds_default.pollTimeout Schema.nonneg_of_nonnegative
        (hfields _ htimeout),
      Schema.of_optional inBounds_default.pollInterval Schema.pos_of_positive
        (hfields _ hinterval)⟩
  | _ => cases h

theorem inBounds_of_ofEnvironment {environment : String → Option String} {settings : Settings}
    (h : ofEnvironment environment = .valid settings) : settings.InBounds :=
  inBounds_of_ofJson h

end Settings

end ContractDrill
