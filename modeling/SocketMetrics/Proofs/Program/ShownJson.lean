import SocketMetrics.Proofs.Config.Interval
import SocketMetrics.Proofs.Config.Precedence
import SocketMetrics.Proofs.Json.Object
import SocketMetrics.Proofs.Program.Exit
import SocketMetrics.Proofs.Text.Encoding
/-!
# A shown configuration can be loaded

What is shown of a configuration as JSON is a configuration file. A file name says JSON if `.json`
stands behind something else in it (`ofPath_of_namesJson`); every path that ends in `.json` leads to
such a name, unless a slash or nothing stands in front (`namesJson_append`). A file with such a name
that holds the printed text of a valid configuration, whose paths are texts, is loaded as the same
configuration, up to the interval (`shown_json_loads`). A name that is nothing but `.json` has no
extension: its file is read as YAML, which does not have every text of JSON
(`not_loads_under_bare_extension`).
-/

set_option autoImplicit false
set_option relaxedAutoImplicit false

namespace SocketMetrics.Config

open Files Number

/-! ### Names of JSON files -/

/-- The bytes of `.json`. -/
def dotJson : List UInt8 :=
  dot :: Text.toUtf8 "json".toList

/-- The last name of the path is something with `.json` behind it. -/
def NamesJson (path : RawText) : Prop :=
  ∃ stem, stem ≠ [] ∧ fileName? path = some ⟨stem ++ dotJson⟩

/-- The last piece of a path between slashes is its last name, if it has at least three bytes and so
is no step to a directory. -/
theorem fileName?_eq {path : RawText} {name : List UInt8} {before : List (List UInt8)}
    (hpieces : path.bytes.splitOnP (· == slash) = before ++ [name]) (hlong : 2 < name.length) :
    fileName? path = some ⟨name⟩ := by
  have hother {short : List UInt8} (hshort : short.length ≤ 2) : RawText.mk name ≠ ⟨short⟩ := by
    rintro ⟨rfl⟩
    exact absurd hlong (not_lt.mpr hshort)
  have hnone : RawText.mk name ≠ .empty := hother (by decide)
  have hhere : RawText.mk name ≠ here := hother (by decide)
  have hparent : RawText.mk name ≠ parent := hother (by decide)
  simp [fileName?, steps, hpieces, hnone, hhere, hparent]

/-- What ends a list without any mark is within its last piece. -/
theorem exists_splitOnP_append {α : Type} {isMark : α → Bool} {ending : List α}
    (hending : ∀ x ∈ ending, isMark x = false) (front : List α) :
    ∃ before stub, (front ++ ending).splitOnP isMark = before ++ [stub ++ ending] := by
  induction front with
  | nil => exact ⟨[], [], List.splitOnP_eq_singleton hending⟩
  | cons x front ih =>
    obtain ⟨before, stub, hpieces⟩ := ih
    rw [List.cons_append, List.splitOnP_cons_eq_if_modifyHead, hpieces]
    by_cases hx : isMark x = true
    · rw [if_pos hx]
      exact ⟨[] :: before, stub, rfl⟩
    · rw [if_neg hx]
      cases before with
      | nil => exact ⟨[], x :: stub, rfl⟩
      | cons piece before => exact ⟨(x :: piece) :: before, stub, rfl⟩

/-- A path that ends in `.json` has such a name, unless a slash or nothing stands in front. -/
theorem namesJson_append (front : List UInt8) {byte : UInt8} (hbyte : byte ≠ slash) :
    NamesJson ⟨front ++ byte :: dotJson⟩ := by
  have hdot : ∀ other ∈ dotJson, (other == slash) = false := by decide +kernel
  have hending : ∀ other ∈ byte :: dotJson, (other == slash) = false :=
    List.forall_mem_cons.mpr ⟨beq_eq_false_iff_ne.mpr hbyte, hdot⟩
  obtain ⟨before, stub, hpieces⟩ := exists_splitOnP_append hending front
  have hname : stub ++ [byte] ++ dotJson = stub ++ byte :: dotJson :=
    List.append_assoc stub [byte] _
  refine ⟨stub ++ [byte], List.concat_ne_nil byte stub, ?_⟩
  rw [hname]
  refine fileName?_eq hpieces ?_
  rw [List.length_append]
  have hlong : 2 < dotJson.length := by decide +kernel
  exact hlong.trans_le ((Nat.le_succ _).trans (Nat.le_add_left _ _))

/-- A name is cut at a dot behind which no other one follows. -/
theorem cutAtLastDot?_append {stem ending : List UInt8} (hending : dot ∉ ending) :
    cutAtLastDot? ⟨stem ++ dot :: ending⟩ = some (⟨stem⟩, ⟨ending⟩) := by
  have hinner : ∀ byte ∈ ending.reverse, (byte != dot) = true := fun byte hbyte ↦
    bne_iff_ne.mpr fun hdot ↦ hending (List.mem_reverse.mp (hdot ▸ hbyte))
  have hspan : (stem ++ dot :: ending).reverse.span (· != dot) =
      (ending.reverse, dot :: stem.reverse) := by
    rw [List.reverse_append, List.reverse_cons, List.append_assoc, List.span_eq_takeWhile_dropWhile,
      List.takeWhile_append_of_pos hinner, List.dropWhile_append_of_pos hinner]
    simp
  rw [cutAtLastDot?, hspan]
  simp

/-- Such a name says JSON. -/
theorem ofPath_of_namesJson {path : RawText} (hpath : NamesJson path) :
    Format.ofPath path = .json := by
  obtain ⟨stem, hstem, hname⟩ := hpath
  have hsome : RawText.mk stem ≠ .empty := fun hempty ↦ hstem (congrArg RawText.bytes hempty)
  have hcut : cutAtLastDot? ⟨stem ++ dotJson⟩ = some (⟨stem⟩, .ofText Format.json.name) :=
    cutAtLastDot?_append (by decide +kernel)
  have hextension : extension? path = some (.ofText Format.json.name) := by
    simp [extension?, hname, hcut, hsome]
  rw [Format.ofPath, if_pos hextension]

/-- The bytes of a text that stand at a path are read as the text. -/
theorem readText_of_find {files : FileSystem} {path : RawText} {text : Text}
    {bytes : List UInt8}
    (hfind : files.find path = .ok (.file bytes)) (htext : Text.ofUtf8? bytes = some text) :
    files.readText path = .ok text := by
  have hcontent : (Channel.Version.ofBytes bytes).content = .ok text := by
    simp [Channel.Version.content, Channel.Version.ofBytes, htext, pure, Except.pure]
  rw [FileSystem.readText, FileSystem.versionAt, hfind]
  exact hcontent

/-- A text with a character that YAML does not have is not loaded as YAML. -/
theorem load_of_not_allowed {files : FileSystem} {path : RawText} {content : Text}
    (hyaml : Format.ofPath path = .yaml) (hread : files.readText path = .ok content)
    (hforeign : content.all Yaml.isAllowed = false) :
    load files (some path) = .error (.malformed path) := by
  have htokens : Yaml.tokens? content = none := by
    rw [Yaml.tokens?, hforeign]
    rfl
  have hnone : Yaml.candidates? content = none := by
    rw [Yaml.candidates?, Yaml.Node.ofText?, htokens]
    rfl
  refine loadFile_eq_error_iff.mpr (.malformed hread ?_)
  rintro told ⟨text, candidates, htext, hcandidates, -⟩
  obtain rfl := Except.ok.inj (hread.symm.trans htext)
  rw [hyaml, Format.read?, hnone] at hcandidates
  cases hcandidates

/-! ### What the text says -/

/-- Two configurations that differ in the interval at most, which both of them set. -/
structure SameButInterval (config other : Config) : Prop where
  interval : config.interval.isSome = true ∧ other.interval.isSome = true
  sockstatPath : config.sockstatPath = other.sockstatPath
  netstatPath : config.netstatPath = other.netstatPath
  user : config.user = other.user
  logLevel : config.logLevel = other.logLevel
  pageSize : config.pageSize = other.pageSize

/-- The candidates under the names of all settings, in their order. -/
def underNames (interval sockstatPath netstatPath user logLevel pageSize : Candidate) :
    Candidates :=
  Key.all.map Key.name |>.zip [interval, sockstatPath, netstatPath, user, logLevel, pageSize]

/-- Under the names of all settings each setting is given once. -/
theorem ofCandidates?_underNames
    (interval sockstatPath netstatPath user logLevel pageSize : Candidate) :
    ofCandidates? (underNames interval sockstatPath netstatPath user logLevel pageSize) = do
      return {
        interval := ← taken? Candidate.number interval
        sockstatPath := ← taken? Candidate.path sockstatPath
        netstatPath := ← taken? Candidate.path netstatPath
        user := ← taken? Candidate.text user
        logLevel := ← taken? Candidate.text logLevel
        pageSize := ← taken? Candidate.count pageSize } := by
  rfl

/-- A configuration in which only the page size may be missing. -/
structure IsSet (config : Config) : Prop where
  interval : ∃ seconds, config.interval = some seconds ∧ seconds.IsPositiveFinite
  sockstatPath : config.sockstatPath.isSome = true
  netstatPath : config.netstatPath.isSome = true
  user : config.user.isSome = true
  logLevel : config.logLevel.isSome = true

/-- The standard configuration has nothing to add to such a configuration. -/
theorem SameButInterval.orElse_standard {told config : Config} (hsame : told.SameButInterval config)
    (hset : config.IsSet) : (told.orElse standard).SameButInterval config := by
  have hkept {α : Type} {value kept : Option α} (heq : value = kept) (hkept : kept.isSome = true)
      (other : Option α) : (value <|> other) = kept := by
    subst heq
    cases value with
    | none => cases hkept
    | some value => rfl
  constructor
  case interval =>
    obtain ⟨number, hnumber⟩ := Option.isSome_iff_exists.mp hsame.interval.1
    refine ⟨?_, hsame.interval.2⟩
    rw [orElse, hnumber]
    rfl
  case sockstatPath => exact hkept hsame.sockstatPath hset.sockstatPath _
  case netstatPath => exact hkept hsame.netstatPath hset.netstatPath _
  case user => exact hkept hsame.user hset.user _
  case logLevel => exact hkept hsame.logLevel hset.logLevel _
  case pageSize =>
    change (told.pageSize <|> none) = config.pageSize
    rw [hsame.pageSize]
    cases config.pageSize <;> rfl

/-- What is read from a text. -/
theorem taken?_text (text : Text) :
    taken? Candidate.text (Json.Value.string (Json.characters text)).candidate =
      some (some text) := by
  rw [taken?, Json.Value.candidate, Json.joined?_characters]
  rfl

theorem taken?_path (text : Text) :
    taken? Candidate.path (Json.Value.string (Json.characters text)).candidate =
      some (some (.ofText text)) := by
  rw [taken?, Candidate.path, Json.Value.candidate, Json.joined?_characters]
  rfl

/-- What is read from a counter. -/
theorem taken?_count (n : UInt64) :
    taken? Candidate.count (Json.Value.number (Json.countLiteral n.toNat)).candidate =
      some (some n) := by
  rw [taken?, Json.Value.candidate, Json.count?_countLiteral]
  rfl

/-- The member for a page size that may be missing. -/
theorem exists_pageMember (pageSize : Option UInt64) :
    ∃ token value, Json.Restores ((pageSize.map Setting.count).getD .absent) token value ∧
      taken? Candidate.count value.candidate = some pageSize := by
  cases pageSize with
  | none => exact ⟨_, _, .absent, rfl⟩
  | some n => exact ⟨_, _, .count n, taken?_count n⟩

/-- What is shown of a configuration says the configuration, up to the interval. -/
theorem exists_told {config : Config} (hset : config.IsSet) (hpaths : config.HasTextPaths)
    {spaces : Text} (hspaces : ∀ c ∈ spaces, Json.isSpace c = true) :
    ∃ settings candidates told, config.settings? = some settings ∧
      Format.json.read? (Format.json.write settings ++ spaces) = some candidates ∧
        ofCandidates? candidates = some told ∧ told.SameButInterval config := by
  obtain ⟨interval, sockstatPath, netstatPath, user, logLevel, pageSize⟩ := config
  obtain ⟨⟨seconds, rfl, hseconds⟩, hsockstat, hnetstat, huser, hlevel⟩ := hset
  obtain ⟨sockstat, rfl⟩ := Option.isSome_iff_exists.mp hsockstat
  obtain ⟨netstat, rfl⟩ := Option.isSome_iff_exists.mp hnetstat
  obtain ⟨sockstat, rfl⟩ := isTextPath_some.mp hpaths.sockstatPath
  obtain ⟨netstat, rfl⟩ := isTextPath_some.mp hpaths.netstatPath
  obtain ⟨user, rfl⟩ := Option.isSome_iff_exists.mp huser
  obtain ⟨level, rfl⟩ := Option.isSome_iff_exists.mp hlevel
  obtain ⟨literal, hplain, htext, hnumber⟩ := Json.isReadBack hseconds
  obtain ⟨number, hnumber⟩ := Option.isSome_iff_exists.mp hnumber
  obtain ⟨token, value, hpage, htaken⟩ := exists_pageMember pageSize
  let members : List Json.Member := [
    ⟨Key.interval.name, _, _, _, .number hplain htext⟩,
    ⟨Key.sockstatPath.name, _, _, _, .text sockstat⟩,
    ⟨Key.netstatPath.name, _, _, _, .text netstat⟩,
    ⟨Key.user.name, _, _, _, .text user⟩,
    ⟨Key.logLevel.name, _, _, _, .text level⟩,
    ⟨Key.pageSize.name, _, _, _, hpage⟩]
  have hsome : members ≠ [] := List.cons_ne_nil _ _
  have hread := Json.candidates?_write hsome hspaces (Key.all.map Key.name)
  have hinterval : taken? Candidate.number (Json.Value.number literal).candidate =
      some (some number) := by
    rw [taken?, Json.Value.candidate, hnumber]
    rfl
  have hsettings : settings? ⟨some seconds, some (.ofText sockstat), some (.ofText netstat),
      some user, some level, pageSize⟩ = some (Json.entries members) := by
    simp only [settings?, pathSetting?, RawText.text?_ofText, Option.map_some]
    rfl
  refine ⟨_, _, ⟨some number, some (.ofText sockstat), some (.ofText netstat), some user,
    some level, pageSize⟩, hsettings, hread, ?_, ⟨⟨rfl, rfl⟩, rfl, rfl, rfl, rfl, rfl⟩⟩
  change ofCandidates? (underNames _ _ _ _ _ _) = _
  rw [ofCandidates?_underNames, hinterval]
  simp only [taken?_text, taken?_path, htaken]
  rfl

end SocketMetrics.Config

namespace SocketMetrics.Program

open CommandLine Config Files

variable {invocation : Invocation} {arguments : Arguments} {resolved : Resolved}

/-- What is printed when the configuration is shown as JSON. -/
def printedJson (invocation : Invocation) (arguments : Arguments) : Text :=
  (perform { invocation with stdout := .working } { arguments with
    showConfig := true, checkConfig := false, configFormat := some .json }).stdout

/-- The configuration is printed with a line feed behind it. -/
theorem printedJson_eq (hok : resolution invocation arguments = .ok resolved)
    {settings : Settings} (hsettings : resolved.config.settings? = some settings) :
    printedJson invocation arguments = Format.json.write settings ++ ['\n'] := by
  let showing : Arguments := { arguments with
    showConfig := true, checkConfig := false, configFormat := some .json }
  have hshowing : resolution { invocation with stdout := .working } showing = .ok resolved := hok
  have hshown : shownConfig? .json resolved.config = some (Format.json.write settings) := by
    rw [shownConfig?, hsettings, Option.map_some]
  exact (perform_of_shown rfl rfl rfl hshowing hshown).2

/-- A configuration that is resolved and valid has every setting but the page size. -/
theorem isSet_of_valid (hok : resolution invocation arguments = .ok resolved)
    (hvalid : resolved.config.fault? = none) : resolved.config.IsSet := by
  obtain ⟨origin, told, -, -, hresolved⟩ := resolve_eq_ok_iff.mp hok
  have htakes := (eq_resolved_iff.mp hresolved).1
  have hwaits := isInterval_of_fault?_eq_none htakes.interval hvalid
  exact ⟨⟨_, htakes.interval, isInterval_iff.mp hwaits⟩,
    Option.isSome_of_mem htakes.sockstatPath, Option.isSome_of_mem htakes.netstatPath,
    Option.isSome_of_mem htakes.user, Option.isSome_of_mem htakes.logLevel⟩

/-- A configuration that is resolved and valid, with paths that are texts, is loaded again from a
file with a name for JSON that holds what is printed of it as JSON. -/
theorem shown_json_loads (hok : resolution invocation arguments = .ok resolved)
    (hvalid : resolved.config.fault? = none) (hpaths : arguments.overrides.HasTextPaths)
    {others : FileSystem} {path : RawText} (hpath : NamesJson path)
    (hsaved : others.find path = .ok (.file (Text.toUtf8 (printedJson invocation arguments)))) :
    ∃ loaded, load others (some path) = .ok loaded ∧ loaded.origin = some path ∧
      loaded.config.SameButInterval resolved.config := by
  have hspaces : ∀ c ∈ ['\n'], Json.isSpace c = true := List.forall_mem_singleton.mpr rfl
  obtain ⟨settings, candidates, told, hsettings, hcandidates, htold, hsame⟩ :=
    exists_told (isSet_of_valid hok hvalid) ((hasTextPaths_iff_of_resolve hok).mpr hpaths) hspaces
  have hread := readText_of_find hsaved (Text.ofUtf8?_toUtf8 _)
  have htells : Tells others path told := by
    refine ⟨_, candidates, hread, ?_, htold⟩
    rw [ofPath_of_namesJson hpath, printedJson_eq hok hsettings, hcandidates]
  exact ⟨_, loadFile_eq_ok_iff.mpr ⟨told, htells, rfl⟩, rfl,
    hsame.orElse_standard (isSet_of_valid hok hvalid)⟩

/-- A collector that is told nothing but an account. -/
def withUser (user : Text) : Invocation :=
  ⟨⟨.ofObservations [], .working, fun _ ↦ 7, []⟩,
    [.ofText "--no-config".toList, .ofText "--user".toList, .ofText user], none⟩

/-- The arguments of such a collector. -/
def userArguments (user : Text) : Arguments :=
  { Arguments.empty with user := some user, noConfig := true }

/-- The configuration of such a collector. -/
def userConfig (user : Text) : Config :=
  { standard with user := some user }

/-- The file system with what is printed for the account at a path. -/
def saved (user : Text) (path : RawText) : FileSystem :=
  .ofObservations
    [(path, .ok (.file (Text.toUtf8 (printedJson (withUser user) (userArguments user)))))]

theorem find_saved (user : Text) (path : RawText) :
    (saved user path).find path =
      .ok (.file (Text.toUtf8 (printedJson (withUser user) (userArguments user)))) := by
  simp [saved, FileSystem.ofObservations]

theorem resolution_withUser (user : Text) :
    resolution (withUser user) (userArguments user) = .ok ⟨userConfig user, []⟩ := rfl

theorem fault?_userConfig (user : Text) : (userConfig user).fault? = none := by
  have hstandard : standard.fault? = none := by decide +kernel
  exact hstandard

/-- An account with a quote, a backslash, a control character and letters beyond ASCII. -/
theorem shown_json_loads_quoted :
    let user := "a\"b\\c\nä\x7f".toList
    let path := RawText.ofText "saved.json".toList
    CommandLine.read (withUser user).words = .ok (userArguments user) ∧
      resolution (withUser user) (userArguments user) = .ok ⟨userConfig user, []⟩ ∧
      (userConfig user).fault? = none ∧ (userArguments user).overrides.HasTextPaths ∧
      NamesJson path ∧
      ∃ loaded, load (saved user path) (some path) = .ok loaded ∧ loaded.origin = some path ∧
        loaded.config.SameButInterval (userConfig user) := by
  intro user path
  have hread : CommandLine.read (withUser user).words = .ok (userArguments user) := by
    decide +kernel
  have hok := resolution_withUser user
  have hvalid := fault?_userConfig user
  have hpaths : (userArguments user).overrides.HasTextPaths := ⟨isTextPath_none, isTextPath_none⟩
  have hname : path = ⟨Text.toUtf8 "save".toList ++ 'd'.toUInt8 :: dotJson⟩ := by decide +kernel
  have hpath : NamesJson path := hname ▸ namesJson_append _ (by decide)
  exact ⟨hread, hok, hvalid, hpaths, hpath,
    shown_json_loads hok hvalid hpaths hpath (find_saved user path)⟩

/-- What is printed is not always loaded from a file whose whole name is `.json`: the name has no
extension, so that the text is read as YAML, where no character may be U+007F. -/
theorem not_loads_under_bare_extension :
    let user := "\x7f".toList
    let path := RawText.ofText ".json".toList
    CommandLine.read (withUser user).words = .ok (userArguments user) ∧
      resolution (withUser user) (userArguments user) = .ok ⟨userConfig user, []⟩ ∧
      (userConfig user).fault? = none ∧
      load (saved user path) (some path) = .error (.malformed path) := by
  intro user path
  have hread : CommandLine.read (withUser user).words = .ok (userArguments user) := by
    decide +kernel
  have hforeign :
      (printedJson (withUser user) (userArguments user)).all Yaml.isAllowed = false := by
    decide +kernel
  have hcontent : (saved user path).readText path =
      .ok (printedJson (withUser user) (userArguments user)) :=
    readText_of_find (find_saved user path) (Text.ofUtf8?_toUtf8 _)
  have hrejected := load_of_not_allowed (by decide +kernel) hcontent hforeign
  exact ⟨hread, resolution_withUser user, fault?_userConfig user, hrejected⟩

end SocketMetrics.Program
