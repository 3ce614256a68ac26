import SocketMetrics.Proofs.Config.Precedence
import SocketMetrics.Proofs.Text.Encoding
/-!
# Which configurations can be written

Every setting can be written but for a path that is no text (`isSome_settings?_iff`). What a file
says is text, and so are the standard paths; other bytes can come from the command line alone. A
configuration that has been resolved can therefore be written exactly if the command line sets no
path but texts (`hasTextPaths_iff_of_resolve`).
-/

set_option autoImplicit false
set_option relaxedAutoImplicit false

namespace SocketMetrics.Config

open Files

variable {config told : Config} {overrides : Overrides} {path : Option RawText}

/-- A path that is set is a text. -/
def IsTextPath (path : Option RawText) : Prop :=
  ∀ raw, path = some raw → ∃ text, raw = .ofText text

theorem isTextPath_none : IsTextPath none := nofun

theorem isTextPath_some {raw : RawText} : IsTextPath (some raw) ↔ ∃ text, raw = .ofText text :=
  ⟨fun htext ↦ htext raw rfl, fun htext _ hraw ↦ Option.some.inj hraw ▸ htext⟩

/-- The paths of a configuration are texts. -/
structure HasTextPaths (config : Config) : Prop where
  sockstatPath : IsTextPath config.sockstatPath
  netstatPath : IsTextPath config.netstatPath

/-- The paths that the command line sets are texts. -/
structure Overrides.HasTextPaths (overrides : Overrides) : Prop where
  sockstatPath : IsTextPath overrides.sockstatPath
  netstatPath : IsTextPath overrides.netstatPath

/-! ### Writing -/

theorem isSome_pathSetting?_iff : (pathSetting? path).isSome = true ↔ IsTextPath path := by
  cases path with
  | none => exact iff_of_true rfl isTextPath_none
  | some raw =>
    simp only [pathSetting?, Option.isSome_map, Option.isSome_iff_exists,
      RawText.text?_eq_some_iff, isTextPath_some]

/-- A configuration can be written when its paths are texts. -/
theorem isSome_settings?_iff : config.settings?.isSome = true ↔ config.HasTextPaths := by
  have hpaths : config.HasTextPaths ↔
      (pathSetting? config.sockstatPath).isSome = true ∧
        (pathSetting? config.netstatPath).isSome = true := by
    rw [isSome_pathSetting?_iff, isSome_pathSetting?_iff]
    exact ⟨fun ⟨hsockstat, hnetstat⟩ ↦ ⟨hsockstat, hnetstat⟩,
      fun ⟨hsockstat, hnetstat⟩ ↦ ⟨hsockstat, hnetstat⟩⟩
  rw [hpaths, settings?]
  cases pathSetting? config.sockstatPath <;> cases pathSetting? config.netstatPath <;> simp

/-! ### Where the paths come from -/

/-- A path that is taken from a file is a text. -/
theorem isTextPath_of_taken? {candidate : Candidate}
    (htaken : taken? Candidate.path candidate = some path) : IsTextPath path := by
  unfold taken? at htaken
  split at htaken
  · cases htaken
    exact isTextPath_none
  · obtain ⟨raw, hraw, rfl⟩ := Option.map_eq_some_iff.mp htaken
    obtain ⟨text, -, rfl⟩ := Option.map_eq_some_iff.mp hraw
    exact isTextPath_some.mpr ⟨text, rfl⟩

/-- The paths that a file gives are texts. -/
theorem hasTextPaths_of_ofCandidates? {candidates : Candidates}
    (htold : ofCandidates? candidates = some told) : told.HasTextPaths := by
  simp only [ofCandidates?, Option.bind_eq_bind, Option.bind_eq_some_iff] at htold
  obtain ⟨_, -, _, ⟨_, -, hsockstat⟩, _, ⟨_, -, hnetstat⟩, _, -, _, -, _, -, heq⟩ := htold
  cases heq
  exact ⟨isTextPath_of_taken? hsockstat, isTextPath_of_taken? hnetstat⟩

theorem hasTextPaths_of_told {files : FileSystem} {origin : Option RawText}
    (hsource : Says files origin told) : told.HasTextPaths := by
  cases origin with
  | none =>
    obtain rfl : told = empty := hsource
    exact ⟨isTextPath_none, isTextPath_none⟩
  | some path =>
    obtain ⟨content, candidates, -, -, htold⟩ := hsource
    exact hasTextPaths_of_ofCandidates? htold

/-- Of the sources of a path only the command line can say what is no text. -/
theorem isTextPath_getD_iff {asked : Option RawText} (htold : IsTextPath path) (standard : Text) :
    IsTextPath (some ((asked <|> path).getD (.ofText standard))) ↔ IsTextPath asked := by
  cases asked with
  | some raw => rfl
  | none =>
    refine iff_of_true ?_ isTextPath_none
    cases path with
    | none => exact isTextPath_some.mpr ⟨standard, rfl⟩
    | some raw => exact htold

/-- The paths of a resolved configuration are texts when those of the command line are. -/
theorem hasTextPaths_iff_of_resolve {files : FileSystem} {environment : Option Text}
    {resolved : Resolved} (hok : resolve files overrides environment = .ok resolved) :
    resolved.config.HasTextPaths ↔ overrides.HasTextPaths := by
  obtain ⟨origin, told, -, hsource, hresolved⟩ := resolve_eq_ok_iff.mp hok
  have htakes := (eq_resolved_iff.mp hresolved).1
  have htold := hasTextPaths_of_told hsource
  have hsockstat : IsTextPath resolved.config.sockstatPath ↔
      IsTextPath overrides.sockstatPath := by
    rw [htakes.sockstatPath]
    exact isTextPath_getD_iff htold.sockstatPath _
  have hnetstat : IsTextPath resolved.config.netstatPath ↔ IsTextPath overrides.netstatPath := by
    rw [htakes.netstatPath]
    exact isTextPath_getD_iff htold.netstatPath _
  exact ⟨fun ⟨hfirst, hsecond⟩ ↦ ⟨hsockstat.mp hfirst, hnetstat.mp hsecond⟩,
    fun ⟨hfirst, hsecond⟩ ↦ ⟨hsockstat.mpr hfirst, hnetstat.mpr hsecond⟩⟩

end SocketMetrics.Config
