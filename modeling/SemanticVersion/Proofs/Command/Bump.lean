import SemanticVersion.Proofs.Command.AllOrNothing
import SemanticVersion.Proofs.Project.Discovery
import SemanticVersion.Proofs.Version.Headroom

/-!
# When `bump` succeeds

The command `bump` takes the version to increment and the identifier from the command line, and what is
missing there from the settings.  It ends well if there are settings, the version to increment is a valid
text and the identifier has a successor.  **In every other case it gives up in an orderly way:** it prints
a message and ends with status 1.

All of this is about numbers below the digit limit.  Over the limit a version cannot be read, written or
displayed, and then the command ends with a failure that it does not expect.

* `Report.Exits` — the command ends with a status, whichever.
* `exits_withVersion`, `exits_withConfig` and the like — one for each kind of step.
* `Value.CanBump` — what can be incremented.
* `exists_bumpResult_iff` — there is a result when there are settings and these allow it.
* `Session.bump_outcome` — what the command does.
* `bump_succeeds_iff` — from the command line on, for every console that keeps to what is documented.
-/

namespace SemanticVersion

/-! ## Giving up in an orderly way -/

/-- The command ends with a status and not with a failure that it does not expect. -/
def Report.Exits (report : Report) : Prop :=
  ∃ status, report.ending = .exited status

/-- A text has room when its numbers do, and so does every value that is no text. -/
def Value.HasRoom (value : Value) : Prop :=
  ∀ text parts, value = .text text → (scan text).components = some parts → parts.HasRoom

namespace Session

variable {session : Session}

lemma exits_fail (message : String) : (session.fail message).Exits :=
  ⟨1, rfl⟩

lemma exits_withVersion {text : String} {next : Version → Report}
    (room : ∀ parts, (scan text).components = some parts → parts.HasRoom)
    (h : ∀ version, Version.parse text = .ok version → (next version).Exits) :
    (session.withVersion text next).Exits := by
  rw [withVersion]
  obtain ⟨version, read⟩ | ⟨report, rejected⟩ := exists_parse_or_malformed room
  · rw [read]
    exact h version read
  · rw [rejected]
    exact ⟨1, rfl⟩

lemma exits_withValue {value : Value} {next : Version → Report}
    (writable : ∀ n ∈ value.integers, IsWritable n) (room : value.HasRoom)
    (h : ∀ version, value.parse = .ok version → (next version).Exits) :
    (session.withValue value next).Exits := by
  obtain ⟨shown, plain⟩ := Value.exists_plain writable
  cases value with
  | text text => exact exits_withVersion (fun parts => room text parts rfl) h
  | _ =>
      rw [withValue, Value.parse, plain]
      · exact ⟨1, rfl⟩
      -- none of the other values is a text
      · simp
      · simp

lemma exits_withConfig {next : Config → Report}
    (expected : ∀ error, session.settings ≠ .error (.failure error))
    (h : ∀ config, session.settings = .ok config → (next config).Exits) :
    (session.withConfig next).Exits := by
  rw [withConfig, Report.Exits, Report.ending_warning]
  cases loaded : (loadConfig _ _ _ _).outcome with
  | ok config => exact h config loaded
  | error error =>
      cases error with
      | failure error => exact absurd loaded (expected error)
      | _ => exact exits_fail _

lemma exits_expected {error : Error} (expected : error.isExpected = true) :
    (session.printResult (.error error)).Exits := by
  rw [printResult, if_pos expected]
  exact ⟨1, rfl⟩

/-- A version with room is incremented, or it is said why it has no successor. -/
lemma exits_printResult_next {version : Version} (wellFormed : version.WellFormed)
    (room : version.toComponents.HasRoom) (identifier : Identifier) :
    (session.printResult (version.next identifier)).Exits := by
  by_cases usable : identifier = .metadata
  · rw [usable]
    exact exits_expected rfl
  · by_cases defined : identifier = .prerelease ∧ version.isStable = true
    · obtain ⟨rfl, stable⟩ := defined
      rw [Version.next, Version.nextPrerelease, if_pos stable]
      exact exits_expected rfl
    · obtain ⟨next, line, incremented, written⟩ :=
        Version.exists_next_text wellFormed room usable defined
      rw [incremented, printResult, written]
      exact ⟨0, rfl⟩

theorem exits_bump {version : Option String} {identifier : Option Identifier}
    (expected : ∀ error, session.settings ≠ .error (.failure error))
    (writable : ∀ config, session.settings = .ok config → ∀ n ∈ config.version.integers, IsWritable n)
    (room : ∀ config, session.settings = .ok config → (version.elim config.version .text).HasRoom) :
    (session.bump version (identifier.map Identifier.name)).Exits := by
  refine exits_withConfig expected fun config loaded => ?_
  simp only [target_eq_ok]
  have increment (value : Value) (shown : ∀ n ∈ value.integers, IsWritable n) (spare : value.HasRoom) :
      (session.withValue value fun start =>
        session.printResult (start.next (identifier.getD config.defaultBump))).Exits := by
    refine exits_withValue shown spare fun start read => ?_
    obtain ⟨text, rfl, parsed⟩ := exists_text_of_parse read
    have wellFormed := (parse_eq_ok_iff.1 parsed).1
    exact exits_printResult_next wellFormed (spare text _ rfl (scan_components_of_parse parsed)) _
  cases version with
  | some text => exact increment (.text text) (by simp [Value.integers]) (room config loaded)
  | none =>
      show Report.Exits (if config.version.holds then _ else _)
      split
      · exact increment config.version (writable config loaded) (room config loaded)
      · exact exits_fail _

end Session

/-! ## When there is a result -/

/-- What can be incremented at an identifier: a valid text, where the metadata has no successor and the
pre-release only has one when there is a pre-release. -/
def Value.CanBump (value : Value) (identifier : Identifier) : Prop :=
  ∃ text, value = .text text ∧ text ≠ "" ∧ SemanticVersion.isVersion text = true ∧
    identifier ≠ .metadata ∧
    ¬ (identifier = .prerelease ∧ ∃ start, Version.parse text = .ok start ∧ start.isStable = true)

lemma Value.canBump_iff {value : Value} (room : value.HasRoom) {identifier : Identifier} :
    value.CanBump identifier ↔ ∃ start next line, value.parse = .ok start ∧
      start.next identifier = .ok next ∧ next.text = .ok line := by
  constructor
  · rintro ⟨text, rfl, -, valid, usable, defined⟩
    obtain ⟨start, read⟩ := exists_parse_of_isVersion (fun parts => room text parts rfl) valid
    have wellFormed := (parse_eq_ok_iff.1 read).1
    obtain ⟨next, line, incremented, written⟩ := Version.exists_next_text wellFormed
      (room text _ rfl (scan_components_of_parse read)) usable fun ⟨prerelease, stable⟩ =>
        defined ⟨prerelease, start, read, stable⟩
    exact ⟨start, next, line, read, incremented, written⟩
  · rintro ⟨start, next, line, read, incremented, -⟩
    obtain ⟨text, rfl, parsed⟩ := Session.exists_text_of_parse read
    obtain ⟨usable, defined⟩ := Version.defined_of_next incremented
    have valid := isVersion_of_parse parsed
    refine ⟨text, rfl, ?_, valid, usable, ?_⟩
    · rintro rfl
      exact absurd valid (by decide)
    · rintro ⟨isPrerelease, other, read', stable⟩
      rw [parsed] at read'
      obtain rfl := Except.ok.inj read'
      exact defined ⟨isPrerelease, stable⟩

/-- There is a result when there are settings and they give something that can be incremented. -/
theorem exists_bumpResult_iff {session : Session} {version : Option String}
    {identifier : Option Identifier}
    (room : ∀ config, session.settings = .ok config → (version.elim config.version .text).HasRoom) :
    (∃ lines, session.bumpResult? version identifier = some lines) ↔
      ∃ config, session.settings = .ok config ∧
        (version.elim config.version .text).CanBump (identifier.getD config.defaultBump) := by
  simp only [Session.bumpResult?_eq_some_iff]
  constructor
  · rintro ⟨lines, config, start, next, line, loaded, read, incremented, written, -⟩
    refine ⟨config, loaded, (Value.canBump_iff (room config loaded)).2 ?_⟩
    exact ⟨start, next, line, read, incremented, written⟩
  · rintro ⟨config, loaded, allowed⟩
    obtain ⟨start, next, line, read, incremented, written⟩ :=
      (Value.canBump_iff (room config loaded)).1 allowed
    exact ⟨[line], config, start, next, line, loaded, read, incremented, written, rfl⟩

/-- A report that ends with a status and delivers a result ends well exactly when there is one. -/
lemma Report.Delivers.ending {report : Report} {result : Option (List String)}
    (delivered : report.Delivers result) (exits : report.Exits) :
    (report.ending = .exited 0 ∧ result = some report.out) ∨
      (report.ending = .exited 1 ∧ report.out = [] ∧ result = none) := by
  obtain ⟨status, ending⟩ := exits
  cases result with
  | some lines =>
      obtain ⟨well, rfl⟩ := delivered
      rw [ending] at well ⊢
      exact .inl ⟨congrArg Ending.exited well, rfl⟩
  | none =>
      obtain ⟨failed, nothing⟩ := delivered
      rw [ending] at failed ⊢
      exact .inr ⟨congrArg Ending.exited failed, nothing, rfl⟩

/-! ## What the command does -/

/-- The command ends well when there is something to increment, and prints the version that follows;
otherwise it gives up. -/
theorem Session.bump_outcome {session : Session} (plainly : session.PrintsPlainly)
    (regular : session.tree.IsRegular) {version : Option String} (identifier : Option Identifier)
    (room : ∀ config,
      session.tree.HasConfig session.working session.environment session.directory config →
        (version.elim config.version .text).HasRoom) :
    let report := session.bump version (identifier.map Identifier.name)
    (report.ending = .exited 0 ↔ ∃ config,
      session.tree.HasConfig session.working session.environment session.directory config ∧
        (version.elim config.version .text).CanBump (identifier.getD config.defaultBump)) ∧
    (report.ending = .exited 0 → ∃ config text start next line,
      session.tree.HasConfig session.working session.environment session.directory config ∧
      version.elim config.version .text = .text text ∧ Version.parse text = .ok start ∧
      start.next (identifier.getD config.defaultBump) = .ok next ∧ next.text = .ok line ∧
      report.out = [line] ∧ isVersion line = true ∧ start.Precedes next) ∧
    (report.ending ≠ .exited 0 → report.ending = .exited 1 ∧ report.out = []) := by
  intro report
  have loaded (config : Config) : session.settings = .ok config ↔
      session.tree.HasConfig session.working session.environment session.directory config :=
    loadConfig_eq_ok_iff regular
  have spare (config : Config) (settings : session.settings = .ok config) :
      (version.elim config.version .text).HasRoom := room config ((loaded config).1 settings)
  have possible : (∃ lines, session.bumpResult? version identifier = some lines) ↔ ∃ config,
      session.tree.HasConfig session.working session.environment session.directory config ∧
        (version.elim config.version .text).CanBump (identifier.getD config.defaultBump) := by
    simpa only [loaded] using exists_bumpResult_iff spare
  have exits : report.Exits :=
    Session.exits_bump (loadConfig_ne_failure regular session.directory)
      (fun config settings => ((loaded config).1 settings).writable regular) spare
  obtain ⟨ending, result⟩ | ⟨ending, nothing, result⟩ :=
    (Session.delivers_bump plainly version identifier).ending exits
  · refine ⟨⟨fun _ => possible.1 ⟨_, result⟩, fun _ => ending⟩, fun _ => ?_,
      fun failed => absurd ending failed⟩
    obtain ⟨config, start, next, line, settings, read, incremented, written, printed⟩ :=
      Session.bumpResult?_eq_some_iff.1 result
    obtain ⟨text, given, parsed⟩ := Session.exists_text_of_parse read
    have wellFormed := (parse_eq_ok_iff.1 parsed).1
    exact ⟨config, text, start, next, line, (loaded config).1 settings, given, parsed, incremented,
      written, printed, Session.isVersion_of_text (wellFormed.next incremented) written,
      wellFormed.precedes_next incremented⟩
  · have failed : report.ending ≠ .exited 0 := by simp [report, ending]
    refine ⟨⟨fun well => absurd well failed, fun allowed => ?_⟩, fun well => absurd well failed,
      fun _ => ⟨ending, nothing⟩⟩
    obtain ⟨lines, some⟩ := possible.2 allowed
    rw [result] at some
    contradiction

/-! ## From the command line on -/

/-- **The command `bump` succeeds when there are settings and they give something to increment,** and
what it prints then is the version that follows, a valid text of higher precedence.  In every other case
it prints nothing on the standard output and ends with status 1.  Settings are those of the given
directory, of the nearest project or the usual ones, after the environment had its say; and whatever the
command line does not give is taken from them.

The command line may be any with which the console runs the command.  Spelled out in full, with the
directory, the identifier and the version that it gives, it is read the same. -/
theorem bump_succeeds_iff (console : Console) (documented : console.IsDocumented) (tree : FileTree)
    (working : List String) (environment : Environment) (arguments : List String) (verbose : Bool)
    (directory : Option Path) (version name : Option String) (regular : tree.IsRegular)
    (accepted : console.read tree working arguments =
      .ok ⟨verbose, directory, .bump version name⟩)
    (room : ∀ config, tree.HasConfig working environment directory config →
      (version.elim config.version .text).HasRoom) :
    ∃ (place : Option String) (identifier : Option Identifier) (report : Report),
      directory = place.map Path.ofText ∧ name = identifier.map Identifier.name ∧
      console.read tree working (commandLine verbose place (.bump version name)) =
        console.read tree working arguments ∧
      console.run tree working environment arguments = .ok report ∧
      (report.ending = .exited 0 ↔ ∃ config, tree.HasConfig working environment directory config ∧
        (version.elim config.version .text).CanBump (identifier.getD config.defaultBump)) ∧
      (report.ending = .exited 0 → ∃ config text start next line,
        tree.HasConfig working environment directory config ∧
        version.elim config.version .text = .text text ∧ Version.parse text = .ok start ∧
        start.next (identifier.getD config.defaultBump) = .ok next ∧ next.text = .ok line ∧
        report.out = [line] ∧ isVersion line = true ∧ start.Precedes next) ∧
      (report.ending ≠ .exited 0 → report.ending = .exited 1 ∧ report.out = []) := by
  obtain ⟨place, leads, spelled⟩ := documented.exists_commandLine accepted
  obtain ⟨identifier, rfl⟩ := documented.complete accepted
  let session : Session := ⟨tree, working, environment, directory, verbose, console.shown⟩
  have plainly : session.PrintsPlainly := documented.shown_eq_self
  refine ⟨place, identifier, session.bump version (identifier.map Identifier.name), leads, rfl,
    spelled.trans accepted.symm, ?_, Session.bump_outcome plainly regular identifier room⟩
  rw [Console.run, accepted]
  rfl

/-- A project whose version is incremented from a directory below it.  The environment has the last word
on the identifier. -/
def projectTree : FileTree where
  directories := [["home", "app", "src"]]
  manifests := [(["home", "app"], .document (.table [
    ("project", .table [("version", .text "1.2.5-rc.1")]),
    ("tool", .table [(toolTable, .table [("default-bump", .text "prerelease")])])]))]

lemma isRegular_projectTree : projectTree.IsRegular := by
  have only (place : List String) (manifest : Manifest)
      (held : projectTree.manifest? place = some manifest) :
      (place, manifest) ∈ projectTree.manifests := by
    obtain ⟨front, back, split, -⟩ := List.lookup_eq_some_iff.1 held
    rw [split]
    exact List.mem_append_right _ List.mem_cons_self
  refine ⟨by decide, fun place holds => ?_, fun place document held => ?_⟩
  · obtain ⟨manifest, held⟩ := Option.isSome_iff_exists.1 holds
    obtain ⟨rfl, -⟩ := Prod.mk.inj (List.mem_singleton.1 (only place manifest held))
    decide
  · obtain ⟨-, same⟩ := Prod.mk.inj (List.mem_singleton.1 (only place _ held))
    obtain rfl := Manifest.document.inj same
    exact ⟨by decide, by decide⟩

/-- The report of a command line in a directory of the project. -/
def runInProject (arguments : List String) : Except UsageError Report :=
  standardConsole.run projectTree ["home", "app", "src"] [("SEMVER_DEFAULT_BUMP", " Minor")] arguments

/-- Without arguments, `bump` increments the version of the project, where the environment has the last
word on the identifier.  A directory, an identifier and a version on the command line are used instead. -/
theorem bump_of_project :
    (∃ report, runInProject ["bump"] = .ok report ∧
      report.ending = .exited 0 ∧ report.out = ["1.3.0"]) ∧
    (∃ report, runInProject ["-C", "..", "bump", "2.0.0-beta.9", "-i", "PreRelease"] = .ok report ∧
      report.ending = .exited 0 ∧ report.out = ["2.0.0-beta.10"]) := by
  have prints (directory : Option Path) (version : Option String) (identifier : Option Identifier)
      {arguments : List String} {config : Config} {text line : String} {start next : Version}
      (accepted : standardConsole.read projectTree ["home", "app", "src"] arguments =
        .ok ⟨false, directory, .bump version (identifier.map Identifier.name)⟩)
      (loaded : (loadConfig projectTree ["home", "app", "src"] [("SEMVER_DEFAULT_BUMP", " Minor")]
        directory).outcome = .ok config)
      (given : version.elim config.version .text = .text text)
      (read : Version.parse text = .ok start) (room : start.toComponents.HasRoom)
      (incremented : start.next (identifier.getD config.defaultBump) = .ok next)
      (written : next.text = .ok line) :
      ∃ report, runInProject arguments = .ok report ∧ report.ending = .exited 0 ∧
        report.out = [line] := by
    have settings (other : Config) : projectTree.HasConfig ["home", "app", "src"]
        [("SEMVER_DEFAULT_BUMP", " Minor")] directory other ↔ config = other := by
      rw [← loadConfig_eq_ok_iff isRegular_projectTree, loaded, Except.ok.injEq]
    have spare : Value.HasRoom (.text text) := by
      intro text' parts same scanned
      obtain rfl := Value.text.inj same
      rw [scan_components_of_parse read] at scanned
      exact Option.some.inj scanned ▸ room
    obtain ⟨place, named, report, -, same, -, ran, succeeds, printed, -⟩ :=
      bump_succeeds_iff standardConsole standardConsole_isDocumented projectTree
        ["home", "app", "src"] [("SEMVER_DEFAULT_BUMP", " Minor")] arguments false directory version
        (identifier.map Identifier.name) isRegular_projectTree accepted
        fun other h => by rwa [← (settings other).1 h, given]
    obtain rfl := Option.map_injective Identifier.name_injective same
    have well : report.ending = .exited 0 := by
      refine succeeds.2 ⟨config, (settings config).2 rfl, ?_⟩
      rw [given]
      exact (Value.canBump_iff spare).2 ⟨start, next, line, read, incremented, written⟩
    refine ⟨report, ran, well, ?_⟩
    obtain ⟨other, text', start', next', line', h, given', parsed, incremented', written', out, -, -⟩ :=
      printed well
    obtain rfl := (settings other).1 h
    obtain rfl := Value.text.inj (given.symm.trans given')
    obtain rfl := Except.ok.inj (read.symm.trans parsed)
    obtain rfl := Except.ok.inj (incremented.symm.trans incremented')
    rw [out, Except.ok.inj (written.symm.trans written')]
  constructor
  · have small : Version.Writable ⟨1, 2, 5, "rc.1", ""⟩ :=
      Version.writable_of_lt_ten (by decide) (by decide) (by decide)
    have read : Version.parse "1.2.5-rc.1" = .ok ⟨1, 2, 5, "rc.1", ""⟩ :=
      parse_eq_ok_iff.2 ⟨by decide +kernel, Version.text_eq_ok_iff.2 ⟨small, by decide +kernel⟩⟩
    exact prints none none none rfl rfl rfl read
      ⟨by decide, by decide, by decide, by decide +kernel⟩ rfl rfl
  · have small : Version.Writable ⟨2, 0, 0, "beta.9", ""⟩ :=
      Version.writable_of_lt_ten (by decide) (by decide) (by decide)
    have read : Version.parse "2.0.0-beta.9" = .ok ⟨2, 0, 0, "beta.9", ""⟩ :=
      parse_eq_ok_iff.2 ⟨by decide +kernel, Version.text_eq_ok_iff.2 ⟨small, by decide +kernel⟩⟩
    exact prints (some ⟨0, [".."]⟩) (some "2.0.0-beta.9") (some .prerelease) rfl rfl rfl read
      ⟨by decide, by decide, by decide, by decide +kernel⟩ rfl rfl

end SemanticVersion
