import FeatureFlags.Config.Schema

/-!
# `Proofs.Config.Validation` — what is known of a configuration that was accepted

Settings are read one by one, and the issues of all of them are collected; a configuration comes out only
if there are none.  So whatever each reader promises holds of every accepted configuration: its interval and
its timeout are above zero (`Config.validated_of_ofSetting`).
-/

namespace FeatureFlags

namespace Checked

variable {α β : Type} {a : α} {b : β}

theorem map_eq_valid {f : α → β} {x : Checked α} : f <$> x = .valid b ↔ ∃ a, x = .valid a ∧ f a = b := by
  cases x with
  | valid a => simp [Functor.map, map]
  | invalid is => simp [Functor.map, map]

/-- Two readings give a value if both of them do. -/
theorem seq_eq_valid {f : Checked (α → β)} {x : Checked α} :
    f <*> x = .valid b ↔ ∃ g a, f = .valid g ∧ x = .valid a ∧ g a = b := by
  cases f with
  | valid g => cases x <;> simp [Seq.seq, seq]
  | invalid is => cases x <;> simp [Seq.seq, seq]

theorem under_eq_valid {step : Step} {x : Checked α} : x.under step = .valid a ↔ x = .valid a := by
  cases x <;> simp [under]

end Checked

namespace Setting

variable {entries : List (Setting × Setting)} {name : String} {x default : Binary64}

theorem pos_of_readPositive {s : Setting} (h : s.readPositive = .valid x) : Binary64.zero.lt x := by
  unfold readPositive at h
  cases hn : s.readNumber with
  | invalid is => rw [hn] at h; cases h
  | valid y =>
      simp only [hn] at h
      split at h
      · next hy =>
          obtain rfl := Checked.valid.inj h
          exact hy
      · cases h

/-- A number above zero is read, or the default is one. -/
theorem pos_of_optional (h : optional entries name readPositive default = .valid x)
    (hdefault : Binary64.zero.lt default) : Binary64.zero.lt x := by
  unfold optional at h
  cases hl : lookUp name entries with
  | none =>
      rw [hl] at h
      obtain rfl := Checked.valid.inj h
      exact hdefault
  | some value =>
      rw [hl] at h
      exact pos_of_readPositive (Checked.under_eq_valid.mp h)

end Setting

/-- What validation establishes of a configuration: it is what settings say, and its interval and its
timeout are above zero. -/
structure Config.Validated (settings : Setting) (config : Config) : Prop where
  accepted : Config.ofSetting settings = .valid config
  interval_pos : Binary64.zero.lt config.pollInterval
  timeout_pos : Binary64.zero.lt config.timeout

/-- **What is accepted has been validated.** -/
theorem Config.validated_of_ofSetting {settings : Setting} {config : Config}
    (h : Config.ofSetting settings = .valid config) : config.Validated settings := by
  cases settings with
  | map entries =>
      have haccepted := h
      simp only [ofSetting, Checked.seq_eq_valid, Checked.map_eq_valid] at h
      -- the readers of the fields, the last field first
      obtain ⟨_, log, ⟨_, types, ⟨_, timeout, ⟨_, interval, ⟨_, personal, ⟨_, project, ⟨endpoint, -, rfl⟩,
        -, rfl⟩, -, rfl⟩, hinterval, rfl⟩, htimeout, rfl⟩, -, rfl⟩, -, rfl⟩ := h
      exact ⟨haccepted, Setting.pos_of_optional hinterval (by decide +kernel),
        Setting.pos_of_optional htimeout (by decide +kernel)⟩
  | null | bool _ | number _ | text _ | bytes _ | moment _ | list _ | set _ => cases h

end FeatureFlags
