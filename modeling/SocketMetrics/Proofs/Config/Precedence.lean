import SocketMetrics.Config.Resolution
import SocketMetrics.Proofs.Number.Rounding
import SocketMetrics.Proofs.Steps
/-!
# Where the settings come from

A configuration is put together from the command line, the environment, at most one file and the
standard values. `Selects` says which file is read, and `Tells` what it says; `TakesFirst` says for
each setting which source it is taken from, whichever of them have it. `resolves_by_precedence` is
the law of the resolution: with what it succeeds, when and why it fails, and that of two file
systems nothing counts but the file that is selected. Since it fails whenever that file cannot be
used, neither a later place nor the standard values ever stand in for it.
-/

set_option autoImplicit false
set_option relaxedAutoImplicit false

namespace SocketMetrics.Config

open Files Number Steps

variable {files others : FileSystem} {overrides : Overrides} {environment : Option Text}

/-! ### The file that is read -/

/-- The place is the first of the usual ones where anything stands. -/
def IsUsualPlace (files : FileSystem) : RawText → Prop :=
  IsFirst (fun place ↦ files.contains place = true) usualPlaces

/-- The file to read: none, the one that is asked for, or the one in the first usual place. -/
inductive Selects (files : FileSystem) (overrides : Overrides) : Option RawText → Prop where
  | refused (hrefused : overrides.noFile = true) : Selects files overrides none
  | asked {path : RawText} (hrefused : overrides.noFile = false)
      (hasked : overrides.file = some path) : Selects files overrides (some path)
  | usual {place : RawText} (hrefused : overrides.noFile = false) (hasked : overrides.file = none)
      (hplace : IsUsualPlace files place) : Selects files overrides (some place)
  | nowhere (hrefused : overrides.noFile = false) (hasked : overrides.file = none)
      (hnowhere : ∀ place ∈ usualPlaces, files.contains place = false) :
      Selects files overrides none

/-- The file that is read, if any is. -/
def selected? (files : FileSystem) (overrides : Overrides) : Option RawText :=
  if overrides.noFile then none else overrides.file <|> usualPlaces.find? files.contains

/-- Exactly one choice is made. -/
theorem selects_iff {origin : Option RawText} :
    Selects files overrides origin ↔ selected? files overrides = origin := by
  unfold selected?
  constructor
  · intro hselects
    cases hselects with
    | refused hrefused => rw [if_pos hrefused]
    | asked hrefused hasked => simp [hrefused, hasked]
    | usual hrefused hasked hplace =>
      have hfound := find?_eq_some_iff_isFirst.mpr hplace
      simp [hrefused, hasked, hfound]
    | nowhere hrefused hasked hnowhere =>
      have hnone : usualPlaces.find? files.contains = none :=
        List.find?_eq_none.mpr fun place hplace ↦ by simp [hnowhere place hplace]
      simp [hrefused, hasked, hnone]
  · rintro rfl
    cases hrefused : overrides.noFile with
    | true => exact .refused hrefused
    | false =>
      cases hasked : overrides.file with
      | some path => exact .asked hrefused hasked
      | none =>
        cases hfound : usualPlaces.find? files.contains with
        | some place => exact .usual hrefused hasked (find?_eq_some_iff_isFirst.mp hfound)
        | none =>
          refine .nowhere hrefused hasked fun place hplace ↦ ?_
          simpa using List.find?_eq_none.mp hfound place hplace

/-! ### What it says -/

/-- The file at the path can be read, and in the format of the path it says the configuration. -/
def Tells (files : FileSystem) (path : RawText) (told : Config) : Prop :=
  ∃ content candidates, files.readText path = .ok content ∧
    (Format.ofPath path).read? content = some candidates ∧ ofCandidates? candidates = some told

/-- What is said where nothing or the file at a path is read. -/
def Says (files : FileSystem) : Option RawText → Config → Prop
  | none, told => told = empty
  | some path, told => Tells files path told

/-- Why the file at the path says nothing. -/
inductive Rejects (files : FileSystem) (path : RawText) : LoadError → Prop where
  | unreadable {fault : Fault} (hread : files.readText path = .error fault) :
      Rejects files path (.unreadable path fault)
  | malformed {content : Text} (hread : files.readText path = .ok content)
      (hsilent : ∀ told, ¬ Tells files path told) : Rejects files path (.malformed path)

/-- A text gives what it says over the standard configuration. -/
theorem read?_eq_some_iff {path : RawText} {content : Text} {config : Config} :
    read? path content = some config ↔
      ∃ candidates told, (Format.ofPath path).read? content = some candidates ∧
        ofCandidates? candidates = some told ∧ config = told.orElse standard := by
  simp only [read?, Option.bind_eq_bind, Option.bind_eq_some_iff, Option.pure_def,
    Option.some.injEq]
  constructor
  · rintro ⟨candidates, hcandidates, told, htold, rfl⟩
    exact ⟨candidates, told, hcandidates, htold, rfl⟩
  · rintro ⟨candidates, told, hcandidates, htold, rfl⟩
    exact ⟨candidates, hcandidates, told, htold, rfl⟩

/-- A file is loaded when it says a configuration. -/
theorem loadFile_eq_ok_iff {path : RawText} {loaded : Loaded} :
    loadFile files path = .ok loaded ↔
      ∃ told, Tells files path told ∧ loaded = ⟨told.orElse standard, some path⟩ := by
  unfold loadFile Tells
  constructor
  · intro hloaded
    split at hloaded
    · cases hloaded
    · next content hread =>
      split at hloaded
      · cases hloaded
      · next config hconfig =>
        obtain ⟨candidates, told, hcandidates, htold, rfl⟩ := read?_eq_some_iff.mp hconfig
        exact ⟨told, ⟨content, candidates, hread, hcandidates, htold⟩, (Except.ok.inj hloaded).symm⟩
  · rintro ⟨told, ⟨content, candidates, hread, hcandidates, htold⟩, rfl⟩
    have hconfig := read?_eq_some_iff.mpr ⟨candidates, told, hcandidates, htold, rfl⟩
    rw [hread]
    simp only [hconfig]

/-- A file that is not loaded says nothing. -/
theorem loadFile_eq_error_iff {path : RawText} {error : LoadError} :
    loadFile files path = .error error ↔ Rejects files path error := by
  constructor
  · intro herror
    have hsilent : ∀ told, ¬ Tells files path told := by
      intro told htold
      rw [loadFile_eq_ok_iff.mpr ⟨told, htold, rfl⟩] at herror
      cases herror
    unfold loadFile at herror
    split at herror
    · next fault hread =>
      cases herror
      exact .unreadable hread
    · next content hread =>
      split at herror
      · cases herror
        exact .malformed hread hsilent
      · cases herror
  · intro hrejects
    unfold loadFile
    cases hrejects with
    | unreadable hread => rw [hread]
    | @malformed content hread hsilent =>
      have hnone : read? path content = none := by
        by_contra hsome
        obtain ⟨config, hconfig⟩ := Option.ne_none_iff_exists'.mp hsome
        obtain ⟨candidates, told, hcandidates, htold, -⟩ := read?_eq_some_iff.mp hconfig
        exact hsilent told ⟨content, candidates, hread, hcandidates, htold⟩
      rw [hread]
      simp only [hnone]

/-- Of the file system nothing counts for a file but what stands at its path. -/
theorem loadFile_congr {path : RawText} (hsame : others.find path = files.find path) :
    loadFile others path = loadFile files path := by
  unfold loadFile FileSystem.readText FileSystem.versionAt
  rw [hsame]

/-! ### The steps of a resolution -/

/-- Loads the file that is read, or the standard configuration where none is. -/
def loadSelected (files : FileSystem) : Option RawText → Except LoadError Loaded
  | none => .ok ⟨standard, none⟩
  | some path => loadFile files path

/-- What the environment and the command line make of a loaded configuration. -/
def Loaded.resolved (loaded : Loaded) (overrides : Overrides) (environment : Option Text) :
    Resolved :=
  (Resolved.withEnvironment ⟨loaded.config, loaded.origin.toList.map .loaded⟩
    environment).withOverrides overrides

/-- A resolution loads the selected file and lets the environment and the command line follow. -/
theorem resolve_eq (files : FileSystem) (overrides : Overrides) (environment : Option Text) :
    resolve files overrides environment =
      (loadSelected files (selected? files overrides)).map fun loaded ↦
        loaded.resolved overrides environment := by
  unfold resolve selected?
  cases overrides.noFile with
  | true => rfl
  | false =>
    have hload : load files overrides.file =
        loadSelected files (overrides.file <|> usualPlaces.find? files.contains) := by
      unfold load loadSelected
      cases overrides.file <|> usualPlaces.find? files.contains <;> rfl
    simp only [Bool.false_eq_true, if_false, hload]
    cases loadSelected files (overrides.file <|> usualPlaces.find? files.contains) <;> rfl

theorem loadSelected_eq_ok_iff {origin : Option RawText} {loaded : Loaded} :
    loadSelected files origin = .ok loaded ↔
      ∃ told, Says files origin told ∧ loaded = ⟨told.orElse standard, origin⟩ := by
  cases origin with
  | none =>
    simp only [loadSelected, Says, exists_eq_left, Except.ok.injEq]
    exact eq_comm
  | some path => exact loadFile_eq_ok_iff

/-- A resolution succeeds with what is made of the configuration that the selected file says. -/
theorem resolve_eq_ok_iff {resolved : Resolved} :
    resolve files overrides environment = .ok resolved ↔
      ∃ origin told, Selects files overrides origin ∧ Says files origin told ∧
        resolved = Loaded.resolved ⟨told.orElse standard, origin⟩ overrides environment := by
  simp only [selects_iff, resolve_eq, map_eq_ok_iff, loadSelected_eq_ok_iff]
  constructor
  · rintro ⟨_, ⟨told, htold, rfl⟩, rfl⟩
    exact ⟨_, told, rfl, htold, rfl⟩
  · rintro ⟨_, told, rfl, htold, rfl⟩
    exact ⟨_, ⟨told, htold, rfl⟩, rfl⟩

/-- A resolution fails when a file is selected and is rejected. -/
theorem resolve_eq_error_iff {error : LoadError} :
    resolve files overrides environment = .error error ↔
      ∃ path, Selects files overrides (some path) ∧ Rejects files path error := by
  simp only [selects_iff, ← loadFile_eq_error_iff]
  rw [resolve_eq, map_eq_error_iff]
  cases selected? files overrides <;> simp [loadSelected]

/-! ### The order of the sources -/

/-- Thirty seconds. -/
def halfMinute : Binary64 := ⟨0x403e000000000000⟩

theorem toRat_halfMinute : halfMinute.toRat = 30 := by
  have hnumerator : halfMinute.numerator = 30 * 2 ^ 48 := by decide +kernel
  have hdenominator : halfMinute.denominator = 2 ^ 48 := by decide +kernel
  rw [Binary64.toRat_of_not_negative (by decide), hnumerator, hdenominator]
  norm_num

/-- The standard configuration in full. -/
theorem standard_eq : standard = {
    interval := some halfMinute
    sockstatPath := some (.ofText "/proc/net/sockstat".toList)
    netstatPath := some (.ofText "/proc/net/netstat".toList)
    user := some "nobody".toList
    logLevel := some "info".toList
    pageSize := none } := by
  decide +kernel

/-- Every setting is taken from the first source that has it: the command line, the environment,
what a file says, the standard values. -/
structure TakesFirst (overrides : Overrides) (environment : Option Text) (told config : Config) :
    Prop where
  interval : config.interval = some
    ((overrides.interval <|> environment.bind intervalOverride? <|> told.interval).getD halfMinute)
  sockstatPath : config.sockstatPath = some
    ((overrides.sockstatPath <|> told.sockstatPath).getD (.ofText "/proc/net/sockstat".toList))
  netstatPath : config.netstatPath = some
    ((overrides.netstatPath <|> told.netstatPath).getD (.ofText "/proc/net/netstat".toList))
  user : config.user = some ((overrides.user <|> told.user).getD "nobody".toList)
  logLevel : config.logLevel = some (told.logLevel.getD "info".toList)
  pageSize : config.pageSize = told.pageSize

/-- What is told about an environment whose interval cannot be taken. -/
def ignored : Option Text → List Notice
  | none => []
  | some raw => if (intervalOverride? raw).isSome then [] else [.ignoredInterval raw]

/-- The environment sets the interval if it can, and is told about if it cannot. -/
theorem withEnvironment_eq (resolved : Resolved) (environment : Option Text) :
    resolved.withEnvironment environment =
      { config := { resolved.config with
          interval := environment.bind intervalOverride? <|> resolved.config.interval }
        notices := resolved.notices ++ ignored environment } := by
  unfold Resolved.withEnvironment ignored
  cases environment with
  | none => simp
  | some raw => cases hraw : intervalOverride? raw <;> simp [hraw]

/-- The notices of a resolution: the file that was read, and an environment that was ignored. -/
theorem notices_resolved (loaded : Loaded) (overrides : Overrides) (environment : Option Text) :
    (loaded.resolved overrides environment).notices =
      loaded.origin.toList.map .loaded ++ ignored environment := by
  rw [Loaded.resolved, Resolved.withOverrides, withEnvironment_eq]

/-- Each setting of a resolution over the standard configuration is taken from the first source
that has it. -/
theorem takesFirst_resolved (origin : Option RawText) (told : Config) :
    TakesFirst overrides environment told
      (Loaded.resolved ⟨told.orElse standard, origin⟩ overrides environment).config := by
  rw [Loaded.resolved, Resolved.withOverrides, withEnvironment_eq, standard_eq]
  constructor <;>
    simp only [orElse, Option.orElse_eq_or, Option.orElse_eq_orElse, Option.or_some, Option.or_none,
      Option.none_or, Option.getD_or, Option.getD_none]

/-- The sources leave no choice. -/
theorem TakesFirst.unique {told first second : Config}
    (hfirst : TakesFirst overrides environment told first)
    (hsecond : TakesFirst overrides environment told second) : first = second := by
  cases first
  cases second
  simp only [Config.mk.injEq]
  exact ⟨hfirst.interval.trans hsecond.interval.symm,
    hfirst.sockstatPath.trans hsecond.sockstatPath.symm,
    hfirst.netstatPath.trans hsecond.netstatPath.symm, hfirst.user.trans hsecond.user.symm,
    hfirst.logLevel.trans hsecond.logLevel.symm, hfirst.pageSize.trans hsecond.pageSize.symm⟩

/-- The sources say what is made of the configuration, and the notices what happened to them. -/
theorem eq_resolved_iff {origin : Option RawText} {told : Config} {resolved : Resolved} :
    resolved = Loaded.resolved ⟨told.orElse standard, origin⟩ overrides environment ↔
      TakesFirst overrides environment told resolved.config ∧
        resolved.notices = origin.toList.map .loaded ++ ignored environment := by
  constructor
  · rintro rfl
    exact ⟨takesFirst_resolved origin told, notices_resolved ..⟩
  · rintro ⟨htakes, hnotices⟩
    have hconfig := htakes.unique (takesFirst_resolved origin told)
    have hall := hnotices.trans
      (notices_resolved ⟨told.orElse standard, origin⟩ overrides environment).symm
    cases resolved
    exact (Resolved.mk.injEq ..).mpr ⟨hconfig, hall⟩

/-! ### The law of the resolution -/

/-- Resolutions that select the same file agree when the same stands there. -/
theorem resolve_congr (hselected : selected? others overrides = selected? files overrides)
    (hsame : ∀ path, selected? files overrides = some path → others.find path = files.find path) :
    resolve others overrides environment = resolve files overrides environment := by
  rw [resolve_eq, resolve_eq, hselected]
  cases horigin : selected? files overrides with
  | none => rfl
  | some path => rw [loadSelected, loadSelected, loadFile_congr (hsame path horigin)]

/-- What a resolution depends on and how. -/
structure Precedence (files : FileSystem) (overrides : Overrides) (environment : Option Text) :
    Prop where
  /-- It succeeds when the selected file says something, and takes every setting from the first
  source that has it. -/
  succeeds : ∀ resolved, resolve files overrides environment = .ok resolved ↔
    ∃ origin told, Selects files overrides origin ∧ Says files origin told ∧
      TakesFirst overrides environment told resolved.config ∧
      resolved.notices = origin.toList.map .loaded ++ ignored environment
  /-- It fails when a file is selected and rejected. -/
  fails : ∀ error, resolve files overrides environment = .error error ↔
    ∃ path, Selects files overrides (some path) ∧ Rejects files path error
  /-- Without a file no file counts, and no path to one either. -/
  refused : overrides.noFile = true → ∀ (others : FileSystem) (file : Option RawText),
    resolve others { overrides with file } environment = resolve files overrides environment
  /-- Of the file system nothing counts but the file that is asked for. -/
  asked : ∀ path, overrides.noFile = false → overrides.file = some path →
    ∀ others : FileSystem, others.find path = files.find path →
      resolve others overrides environment = resolve files overrides environment
  /-- Of the file system nothing counts but which usual place is the first, and the file there. -/
  usual : overrides.noFile = false → overrides.file = none →
    ∀ others : FileSystem, (∀ place, IsUsualPlace others place ↔ IsUsualPlace files place) →
      (∀ place, IsUsualPlace files place → others.find place = files.find place) →
      resolve others overrides environment = resolve files overrides environment

/-- Every setting is taken from the command line if it is there, else from the environment, else
from the file that is selected, else from the standard values; a selected file that cannot be used
ends the resolution; and the other files do not count. -/
theorem resolves_by_precedence (files : FileSystem) (overrides : Overrides)
    (environment : Option Text) :
    halfMinute.toRat = 30 ∧ Precedence files overrides environment := by
  refine ⟨toRat_halfMinute, ?_⟩
  constructor
  case succeeds =>
    intro resolved
    simp only [resolve_eq_ok_iff, eq_resolved_iff]
  case fails => exact fun error ↦ resolve_eq_error_iff
  case refused =>
    intro hrefused others file
    have hnone : selected? files overrides = none := selects_iff.mp (.refused hrefused)
    have hother : selected? others { overrides with file } = none :=
      selects_iff.mp (.refused hrefused)
    rw [resolve_eq, resolve_eq, hnone, hother]
    rfl
  case asked =>
    intro path hrefused hasked others hsame
    have hselected (files : FileSystem) : selected? files overrides = some path :=
      selects_iff.mp (.asked hrefused hasked)
    refine resolve_congr (by rw [hselected, hselected]) fun found hfound ↦ ?_
    obtain rfl := Option.some.inj ((hselected files).symm.trans hfound)
    exact hsame
  case usual =>
    intro hrefused hasked others hplaces hsame
    have hfind : usualPlaces.find? others.contains = usualPlaces.find? files.contains :=
      Option.ext fun place ↦ by
        rw [find?_eq_some_iff_isFirst, find?_eq_some_iff_isFirst]
        exact hplaces place
    have hselected (files : FileSystem) :
        selected? files overrides = usualPlaces.find? files.contains := by
      simp [selected?, hrefused, hasked]
    refine resolve_congr (by rw [hselected, hselected, hfind]) fun place hplace ↦ hsame place ?_
    rw [hselected] at hplace
    exact find?_eq_some_iff_isFirst.mp hplace

/-- The file in a later place is read when nothing stands in the earlier ones, and an environment
that cannot be taken is told about. -/
example :
    let place := RawText.ofText "./netstat-collector.json".toList
    let files : FileSystem := .ofObservations [(place, .ok (.file
      (Text.toUtf8 "\x7b\"interval_seconds\": 5, \"user\": \"metrics\"\x7d".toList)))]
    let overrides : Overrides := ⟨none, false, none, none, none, some "me".toList⟩
    resolve files overrides (some "fast".toList) = .ok ⟨{ standard with
      interval := some ⟨0x4014000000000000⟩, user := some "me".toList },
      [.loaded place, .ignoredInterval "fast".toList]⟩ := by
  decide +kernel

end SocketMetrics.Config
