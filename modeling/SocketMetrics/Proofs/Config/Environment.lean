import SocketMetrics.Proofs.Config.Interval
import SocketMetrics.Proofs.Config.Precedence
import SocketMetrics.Proofs.Number.Literal
import SocketMetrics.Proofs.Text.Trim
/-!
# The interval in the environment

Whatever the environment holds, it never keeps the collector from starting. `environment_harmless`
compares the resolution with the variable to the resolution without it, for every text: the same
file is loaded with the same success, no setting but the interval can differ, and a valid
configuration stays valid. `Accepted` says which texts count at all: decimal literals, blanks around
them or not, that are not so small that they are rounded to zero and not so great that they are
rounded to infinity. Blanks around a text therefore never matter.
-/

set_option autoImplicit false
set_option relaxedAutoImplicit false

namespace SocketMetrics.Config

open Files Number Text

variable {files : FileSystem} {overrides : Overrides} {raw : Text} {config : Config}

/-! ### Which texts are accepted -/

/-- The text is the literal of a finite positive number, with blanks around it. The names of the
special values are literals too, but none of them is finite. -/
def Accepted (raw : Text) : Prop :=
  ∃ before literal after value, AllBlank before ∧ AllBlank after ∧
    raw = before ++ literal ++ after ∧ IsDecimal literal value ∧
    underflow < value ∧ value < overflow

/-- The number that is taken from the environment is the literal without the blanks around it, if
it is finite and positive. -/
theorem intervalOverride?_eq_some_iff {seconds : Binary64} :
    intervalOverride? raw = some seconds ↔
      Binary64.ofLiteral? raw.trim = some seconds ∧ seconds.IsPositiveFinite := by
  rw [intervalOverride?, Option.filter_eq_some_iff, Bool.and_eq_true, Binary64.IsPositiveFinite]

/-- The accepted texts are those that give an interval. -/
theorem isSome_intervalOverride?_iff : (intervalOverride? raw).isSome = true ↔ Accepted raw := by
  simp only [Option.isSome_iff_exists, intervalOverride?_eq_some_iff, exists_isPositiveFinite_iff]
  constructor
  · rintro ⟨value, hdecimal, hvalue⟩
    obtain ⟨before, after, hbefore, hafter, hraw⟩ := exists_eq_append_trim raw
    exact ⟨before, raw.trim, after, value, hbefore, hafter, hraw, hdecimal, hvalue⟩
  · rintro ⟨before, literal, after, value, hbefore, hafter, rfl, hdecimal, hvalue⟩
    refine ⟨value, ?_, hvalue⟩
    rwa [trim_of_isTrimmed (isTrimmed_of_forall hdecimal.isBlank) hbefore hafter]

example : intervalOverride? " 0.5\t".toList = some ⟨0x3fe0000000000000⟩ := by decide +kernel

-- rounded to zero, rounded to infinity, negative, special, not a literal
example : (["1e-400", "1e400", "-1", "inf", "1 s"].filterMap fun raw ↦
    intervalOverride? raw.toList) = [] := by decide +kernel

/-- Blanks around a text do not change the interval that it gives. -/
theorem intervalOverride?_append {before after : Text} (hbefore : AllBlank before)
    (hafter : AllBlank after) (raw : Text) :
    intervalOverride? (before ++ raw ++ after) = intervalOverride? raw := by
  rw [intervalOverride?, trim_append hbefore hafter, intervalOverride?]

/-! ### What becomes of the configuration -/

/-- With the environment nothing but the interval differs. -/
theorem config_resolved (loaded : Loaded) (overrides : Overrides) (raw : Text) :
    (loaded.resolved overrides (some raw)).config =
      { (loaded.resolved overrides none).config with
        interval := overrides.interval <|> intervalOverride? raw <|> loaded.config.interval } := by
  simp only [Loaded.resolved, Resolved.withOverrides, withEnvironment_eq]
  rfl

/-- Without the environment the interval is that of the command line or of what was loaded. -/
theorem interval_resolved (loaded : Loaded) (overrides : Overrides) :
    (loaded.resolved overrides none).config.interval =
      (overrides.interval <|> loaded.config.interval) := rfl

/-- Another interval that can be waited for leaves a configuration valid. -/
theorem fault?_with_interval (hvalid : config.fault? = none) {interval : Option Binary64}
    (hinterval : ∀ seconds, interval = some seconds → isInterval seconds = true) :
    ({ config with interval } : Config).fault? = none :=
  fault?_eq_none_iff.mpr ⟨hinterval, (fault?_eq_none_iff.mp hvalid).2⟩

/-- What is accepted can be waited for. -/
theorem isInterval_of_intervalOverride? {seconds : Binary64}
    (haccepted : intervalOverride? raw = some seconds) : isInterval seconds = true :=
  isInterval_iff.mpr (intervalOverride?_eq_some_iff.mp haccepted).2

/-- A configuration that is valid without the environment is valid with it. -/
theorem fault?_resolved (loaded : Loaded)
    (hvalid : (loaded.resolved overrides none).config.fault? = none) :
    (loaded.resolved overrides (some raw)).config.fault? = none := by
  rw [config_resolved]
  have hwaits := (fault?_eq_none_iff.mp hvalid).1
  rw [interval_resolved] at hwaits
  refine fault?_with_interval hvalid fun seconds hseconds ↦ ?_
  have hsource : intervalOverride? raw = some seconds ∨
      (overrides.interval <|> loaded.config.interval) = some seconds := by
    revert hseconds
    cases overrides.interval <;> cases intervalOverride? raw <;> simp +contextual
  rcases hsource with haccepted | hbare
  · exact isInterval_of_intervalOverride? haccepted
  · exact hwaits seconds hbare

/-- An environment that is not accepted, or that the command line overrules, changes no setting. -/
theorem config_resolved_of_unused (loaded : Loaded)
    (hunused : overrides.interval.isSome = true ∨ ¬ Accepted raw) :
    (loaded.resolved overrides (some raw)).config = (loaded.resolved overrides none).config := by
  have hinterval : (overrides.interval <|> intervalOverride? raw <|> loaded.config.interval) =
      (loaded.resolved overrides none).config.interval := by
    rw [interval_resolved]
    rcases hunused with htold | hrejected
    · obtain ⟨told, htold⟩ := Option.isSome_iff_exists.mp htold
      rw [htold]
      rfl
    · rw [← isSome_intervalOverride?_iff, Option.not_isSome_iff_eq_none] at hrejected
      rw [hrejected]
      rfl
  rw [config_resolved, hinterval]

/-- Blanks around a text do not change the configuration, nor anything else if it is accepted. -/
theorem resolved_append {before after : Text} (hbefore : AllBlank before) (hafter : AllBlank after)
    (loaded : Loaded) (overrides : Overrides) (raw : Text) :
    (loaded.resolved overrides (some (before ++ raw ++ after))).config =
        (loaded.resolved overrides (some raw)).config ∧
      (Accepted raw → loaded.resolved overrides (some (before ++ raw ++ after)) =
        loaded.resolved overrides (some raw)) := by
  have hsame := intervalOverride?_append hbefore hafter raw
  constructor
  · rw [config_resolved, config_resolved, hsame]
  · intro haccepted
    rw [← isSome_intervalOverride?_iff] at haccepted
    simp only [Loaded.resolved, withEnvironment_eq, ignored, Option.bind_some, hsame, haccepted,
      if_true]

/-! ### The law of the environment -/

/-- What a text in the environment can do to a resolution. -/
structure Harmless (files : FileSystem) (overrides : Overrides) (raw : Text) : Prop where
  /-- A resolution that succeeds without it succeeds with it. The configuration differs in the
  interval at most, and not at all if the command line sets the interval or the text is not
  accepted; and it stays valid. -/
  succeeds : ∀ bare, resolve files overrides none = .ok bare →
    ∃ resolved, resolve files overrides (some raw) = .ok resolved ∧
      (∃ interval, resolved.config = { bare.config with interval }) ∧
      (overrides.interval.isSome = true ∨ ¬ Accepted raw → resolved.config = bare.config) ∧
      (bare.config.fault? = none → resolved.config.fault? = none)
  /-- A resolution that fails without it fails with it in the same way. -/
  fails : ∀ error, resolve files overrides none = .error error →
    resolve files overrides (some raw) = .error error
  /-- The text gives an interval when it is the literal of a finite positive number, with blanks
  around it. -/
  accepts : (intervalOverride? raw).isSome = true ↔ Accepted raw
  /-- More blanks around the text change nothing but what is quoted of an ignored one. -/
  padded : ∀ before after, AllBlank before → AllBlank after →
    (Accepted (before ++ raw ++ after) ↔ Accepted raw) ∧
      (resolve files overrides (some (before ++ raw ++ after))).map Resolved.config =
        (resolve files overrides (some raw)).map Resolved.config ∧
      (Accepted raw → resolve files overrides (some (before ++ raw ++ after)) =
        resolve files overrides (some raw))

/-- Whatever the environment holds, the configuration is resolved as without it, except for the
interval that an accepted text sets where the command line sets none. -/
theorem environment_harmless (files : FileSystem) (overrides : Overrides) (raw : Text) :
    Harmless files overrides raw := by
  constructor
  case succeeds =>
    intro bare hbare
    rw [resolve_eq] at hbare ⊢
    obtain ⟨loaded, hloaded, rfl⟩ := Steps.map_eq_ok_iff.mp hbare
    rw [hloaded]
    exact ⟨_, rfl, ⟨_, config_resolved loaded overrides raw⟩, config_resolved_of_unused loaded,
      fault?_resolved loaded⟩
  case fails =>
    intro error herror
    rw [resolve_eq_error_iff] at herror ⊢
    exact herror
  case accepts => exact isSome_intervalOverride?_iff
  case padded =>
    intro before after hbefore hafter
    have hsame (loaded : Loaded) := resolved_append hbefore hafter loaded overrides raw
    rw [resolve_eq, resolve_eq]
    refine ⟨?_, ?_⟩
    · rw [← isSome_intervalOverride?_iff, intervalOverride?_append hbefore hafter,
        isSome_intervalOverride?_iff]
    · cases loadSelected files (selected? files overrides) with
      | error error => exact ⟨rfl, fun _ ↦ rfl⟩
      | ok loaded =>
        obtain ⟨hconfig, hall⟩ := hsame loaded
        exact ⟨congrArg Except.ok hconfig, fun haccepted ↦ congrArg Except.ok (hall haccepted)⟩

end SocketMetrics.Config
