import SemanticVersion.Proofs.Command.Reading
import SemanticVersion.Proofs.History.Invariant
import SemanticVersion.Proofs.Version.Sorting
import SemanticVersion.Proofs.Version.Validity

/-!
# Commands that print all or nothing

A command is a chain of steps of which each can give up.  The commands `compare`, `bump`, `set` and
`sort` put lines on the standard output in their last step only.  So they end well with their complete
result, or they end with status 1 and have printed nothing.  **The one place where this could go wrong
is a listing of versions,** whose last step writes one version after the other; but what is listed was
read from texts, and what was read can be written.

What is printed are versions and numbers, so nothing of it is lost on the way through a console.

The complete result of a command is put together from the operations on versions alone, without any
printing or reporting, and each kind of step is shown to deliver what its operation gives.

* `Report.Delivers` — a report delivers a result, or nothing when there is none.
* `Session.PrintsPlainly` — no text is lost in which there is no control sequence.
* `delivers_withVersion`, `delivers_withConfig`, `delivers_printResult` and the like — one for each
  kind of step.
* `compareResult?`, `bumpResult?`, `setResult?`, `sortResult?` — the complete results, with
  `delivers_compare` and the like.
* `exists_version_of_bumpResult`, `perm_of_sortResult` — what the results look like.
* `commands_all_or_nothing` — the four commands, from the command line on, for every console that keeps to
  what is documented.
-/

namespace SemanticVersion

/-- The report delivers a result: all lines of it are printed, and nothing else, and the status is 0.  It
delivers that there is no result by printing nothing and ending with status 1. -/
def Report.Delivers (report : Report) : Option (List String) → Prop
  | some lines => report.ending.status = 0 ∧ report.out = lines
  | none => report.ending.status = 1 ∧ report.out = []

/-! ## Names -/

/-- The name of an identifier stands for it. -/
lemma Identifier.ofName_name (identifier : Identifier) : ofName identifier.name = .ok identifier := by
  have found : ofName? identifier.name = some identifier := by
    cases identifier <;> decide +kernel
  rw [ofName, found]

lemma Identifier.name_injective : Function.Injective name := by
  intro a b same
  have stands := ofName_name a
  rw [same, ofName_name] at stands
  exact (Except.ok.inj stands).symm

/-! ## Steps -/

/-- What is printed on the standard error stream makes no difference. -/
@[simp] lemma delivers_warning {report : Report} {lines : List String}
    {result : Option (List String)} :
    (report.warning lines).Delivers result ↔ report.Delivers result := by
  cases result <;> simp [Report.Delivers]

lemma delivers_failed : Report.failed.Delivers none :=
  ⟨rfl, rfl⟩

lemma delivers_aborted (error : Error) : (Report.aborted error).Delivers none :=
  ⟨rfl, rfl⟩

lemma delivers_done_printing (lines : List String) :
    (Report.done.printing lines).Delivers (some lines) :=
  ⟨rfl, List.append_nil lines⟩

namespace Session

variable {session : Session}

lemma delivers_fail (message : String) : (session.fail message).Delivers none :=
  delivers_warning.2 delivers_failed

lemma delivers_withVersion {text : String} {next : Version → Report}
    {result : Version → Option (List String)}
    (h : ∀ version, Version.parse text = .ok version → (next version).Delivers (result version)) :
    (session.withVersion text next).Delivers ((Version.parse text).toOption >>= result) := by
  rw [withVersion]
  cases read : Version.parse text with
  | ok version => exact h version read
  | error error =>
      cases error with
      | malformed report => exact delivers_warning.2 delivers_failed
      | _ => exact delivers_aborted _

/-- Several versions are read one after the other, up to the first that fails. -/
lemma delivers_withVersions {texts : List String} {next : List Version → Report}
    {result : List Version → Option (List String)}
    (h : ∀ versions, texts.mapM Version.parse = .ok versions →
      (next versions).Delivers (result versions)) :
    (session.withVersions texts next).Delivers ((texts.mapM Version.parse).toOption >>= result) := by
  induction texts generalizing next result with
  | nil => exact h [] rfl
  | cons text texts ih =>
      have split : ((text :: texts).mapM Version.parse).toOption >>= result =
          ((Version.parse text).toOption >>= fun version =>
            (texts.mapM Version.parse).toOption >>= fun versions => result (version :: versions)) := by
        rw [List.mapM_cons]
        cases Version.parse text with
        | error error => rfl
        | ok version => cases texts.mapM Version.parse <;> rfl
      rw [split, withVersions]
      refine delivers_withVersion fun version read => ih fun versions reads => ?_
      refine h (version :: versions) ?_
      rw [List.mapM_cons, read, ok_bind, reads]
      rfl

/-- Only a text stands for a version. -/
lemma exists_text_of_parse {value : Value} {version : Version} (read : value.parse = .ok version) :
    ∃ text, value = .text text ∧ Version.parse text = .ok version := by
  cases value with
  | text content => exact ⟨content, rfl, read⟩
  | _ =>
      obtain ⟨_, -, thrown⟩ := bind_eq_ok_iff.1 read
      contradiction

lemma delivers_withValue {value : Value} {next : Version → Report}
    {result : Version → Option (List String)}
    (h : ∀ version, value.parse = .ok version → (next version).Delivers (result version)) :
    (session.withValue value next).Delivers (value.parse.toOption >>= result) := by
  cases value with
  | text content => exact delivers_withVersion h
  | _ =>
      rw [withValue]
      · cases read : Value.parse _ with
        | ok version => exact h version read
        | error error =>
            cases error with
            | malformed report => exact delivers_warning.2 delivers_failed
            | _ => exact delivers_aborted _
      · exact nofun

/-- The settings that the command depends on, or why there are none. -/
def settings (session : Session) : Except ConfigError Config :=
  (loadConfig session.tree session.working session.environment session.directory).outcome

lemma delivers_withConfig {next : Config → Report} {result : Config → Option (List String)}
    (h : ∀ config, session.settings = .ok config → (next config).Delivers (result config)) :
    (session.withConfig next).Delivers (session.settings.toOption >>= result) := by
  rw [withConfig, settings, delivers_warning]
  cases loaded : (loadConfig _ _ _ _).outcome with
  | ok config => exact h config loaded
  | error error =>
      cases error with
      | failure error => exact delivers_aborted error
      | _ => exact delivers_fail _

/-- Where texts are printed, those without control sequences are printed as they are. -/
def PrintsPlainly (session : Session) : Prop :=
  ∀ text, escape ∉ text.toList → session.shown text = text

lemma PrintsPlainly.shown_version (plainly : session.PrintsPlainly) {text : String}
    (valid : isVersion text = true) : session.shown text = text := by
  refine plainly text fun inside => ?_
  exact absurd (forall_mem_of_isVersion valid _ inside) (by decide)

lemma delivers_print {line : Except DigitLimit String}
    (plain : ∀ text, line = .ok text → session.shown text = text) :
    (session.print line).Delivers (line.toOption.map ([·])) := by
  cases line with
  | ok line =>
      rw [print, plain line rfl]
      exact delivers_done_printing [line]
  | error limit => exact delivers_aborted _

/-- What is printed of a well-formed version is valid. -/
lemma isVersion_of_text {version : Version} (wellFormed : version.WellFormed) {line : String}
    (written : version.text = .ok line) : isVersion line = true :=
  isVersion_of_parse (parse_eq_ok_iff.2 ⟨wellFormed, written⟩)

lemma delivers_printResult (plainly : session.PrintsPlainly) {result : Except Error Version}
    (wellFormed : ∀ version, result = .ok version → version.WellFormed) :
    (session.printResult result).Delivers
      (result.toOption >>= fun version => version.text.toOption.map ([·])) := by
  cases result with
  | ok version =>
      refine delivers_print fun text written => ?_
      exact plainly.shown_version (isVersion_of_text (wellFormed version rfl) written)
  | error error =>
      rw [printResult]
      split
      · exact delivers_warning.2 (delivers_fail _)
      · exact delivers_aborted error

/-- Versions that can all be written are printed without a failure between two lines. -/
lemma printVersions_eq {versions : List Version} {lines : List String}
    (written : versionTexts versions = .ok lines) :
    session.printVersions versions = Report.done.printing (lines.map session.shown) := by
  have pointwise := mapM_eq_ok_iff.1 written
  clear written
  induction pointwise with
  | nil => rfl
  | cons head tail ih =>
      rw [printVersions, head]
      show (session.printVersions _).printing _ = _
      rw [ih]
      rfl

/-! ## Complete results -/

/-- What comparing two versions gives: one of the numbers -1, 0 and 1. -/
def compareResult? (first second : String) (strict : Bool) : Option (List String) := do
  let a ← (Version.parse first).toOption
  let b ← (Version.parse second).toOption
  match ← (if strict then a.strictOrder b else a.precedence b).toOption with
  | .lt => return ["-1"]
  | .eq => return ["0"]
  | .gt => return ["1"]

/-- What incrementing a version gives, or the project's version. -/
def bumpResult? (session : Session) (version : Option String) (identifier : Option Identifier) :
    Option (List String) := do
  let config ← session.settings.toOption
  let start ← (version.elim config.version .text).parse.toOption
  let next ← (start.next (identifier.getD config.defaultBump)).toOption
  next.text.toOption.map ([·])

/-- The component that an argument stands for. -/
def componentOf? (identifier : Identifier) (argument : String) : Option Value :=
  if identifier.isNumeric then (readArgument? argument).map .int else some (.text argument)

/-- What replacing a component of a version gives. -/
def setResult? (identifier : Identifier) (argument text : String) : Option (List String) := do
  let start ← (Version.parse text).toOption
  let value ← componentOf? identifier argument
  let replaced ← (start.replace identifier value).toOption
  replaced.text.toOption.map ([·])

/-- What listing versions in order gives. -/
def sortResult? (session : Session) (texts : List String) (mode : Option SortMode) (reverse : Bool) :
    Option (List String) := do
  let mode ← mode.elim (session.settings.toOption.map Config.sortMode) some
  let versions ← (texts.mapM Version.parse).toOption
  let sorted ← (sortVersions mode reverse versions).toOption
  (versionTexts sorted).toOption

/-! ## Commands -/

theorem delivers_compare (plainly : session.PrintsPlainly) (first second : String)
    (strict : Bool) :
    (session.compare first second strict).Delivers (compareResult? first second strict) := by
  refine delivers_withVersion fun a _ => delivers_withVersion fun b _ => ?_
  cases (if strict then a.strictOrder b else a.precedence b) with
  | ok order =>
      have shown : session.shown (orderText order) = orderText order :=
        plainly _ (by cases order <;> decide)
      show (Report.done.printing [session.shown (orderText order)]).Delivers _
      rw [shown]
      cases order <;> exact delivers_done_printing _
  | error limit => exact delivers_aborted _

/-- A setting that counts as absent stands for no version. -/
lemma holds_of_parse {value : Value} {version : Version} (read : value.parse = .ok version) :
    value.holds = true := by
  obtain ⟨text, rfl, parsed⟩ := exists_text_of_parse read
  have valid := isVersion_of_parse parsed
  cases empty : text.isEmpty with
  | false => simp [Value.holds, empty]
  | true =>
      rw [String.isEmpty_iff.1 empty] at valid
      exact absurd valid (by decide)

lemma target_eq_ok (usual : Identifier) (identifier : Option Identifier) :
    target usual (identifier.map Identifier.name) = .ok (identifier.getD usual) := by
  cases identifier with
  | none => rfl
  | some identifier =>
      have given : (some identifier.name).filter (fun name => !name.isEmpty) =
          some identifier.name := by
        cases identifier <;> rfl
      rw [Option.map_some, target, given]
      exact Identifier.ofName_name identifier

theorem delivers_bump (plainly : session.PrintsPlainly) (version : Option String)
    (identifier : Option Identifier) :
    (session.bump version (identifier.map Identifier.name)).Delivers
      (session.bumpResult? version identifier) := by
  refine delivers_withConfig fun config _ => ?_
  simp only [target_eq_ok]
  have increment (value : Value) : (session.withValue value fun start =>
      session.printResult (start.next (identifier.getD config.defaultBump))).Delivers
        (value.parse.toOption >>= fun start =>
          (start.next (identifier.getD config.defaultBump)).toOption >>= fun next =>
            next.text.toOption.map ([·])) := by
    refine delivers_withValue fun start read => delivers_printResult plainly fun next incremented => ?_
    obtain ⟨text, -, parsed⟩ := exists_text_of_parse read
    exact (parse_eq_ok_iff.1 parsed).1.next incremented
  cases version with
  | some text => exact increment (.text text)
  | none =>
      cases present : config.version.holds with
      | true => exact increment config.version
      | false =>
          have refused : config.version.parse.toOption = none := by
            rw [toOption_eq_none_iff]
            intro version read
            rw [holds_of_parse read] at present
            contradiction
          simp only [Bool.false_eq_true, if_false, Option.elim, refused]
          exact delivers_fail _

theorem delivers_set (plainly : session.PrintsPlainly) (identifier : Identifier)
    (argument text : String) :
    (session.set identifier.name argument text).Delivers (setResult? identifier argument text) := by
  rw [set, Identifier.ofName_name]
  refine delivers_withVersion fun start _ => ?_
  have replaced (value : Value) : (session.printResult (start.replace identifier value)).Delivers
      ((start.replace identifier value).toOption >>= fun version =>
        version.text.toOption.map ([·])) :=
    delivers_printResult plainly fun version built =>
      wellFormed_of_exists_parse (exists_parse_of_replace built)
  rw [componentOf?]
  cases identifier.isNumeric with
  | false => exact replaced (.text argument)
  | true =>
      cases readArgument? argument with
      | none => exact delivers_fail _
      | some number => exact replaced (.int number)

/-- In the listing itself nothing fails any more, and nothing is lost of what was read. -/
lemma delivers_printSorted (plainly : session.PrintsPlainly) (texts : List String) (reverse : Bool)
    (mode : SortMode) :
    (session.printSorted texts reverse mode).Delivers (sortResult? session texts mode reverse) := by
  refine delivers_withVersions fun versions read => ?_
  cases sorted : sortVersions mode reverse versions with
  | error limit => exact delivers_aborted _
  | ok listed =>
      obtain ⟨lines, written, perm⟩ := exists_versionTexts_of_sorted read sorted
      have shown : lines.map session.shown = lines := by
        refine (List.map_congr_left fun line mem => ?_).trans (List.map_id lines)
        obtain ⟨version, parsed⟩ :=
          exists_mapM_eq_ok_iff.1 ⟨versions, read⟩ line (perm.subset mem)
        exact plainly.shown_version (isVersion_of_parse parsed)
      show (session.printVersions listed).Delivers (versionTexts listed).toOption
      rw [printVersions_eq written, written, shown]
      exact delivers_done_printing lines

theorem delivers_sort (plainly : session.PrintsPlainly) (texts : List String)
    (mode : Option SortMode) (reverse : Bool) :
    (session.sort texts mode reverse).Delivers (session.sortResult? texts mode reverse) := by
  cases mode with
  | some mode => exact delivers_printSorted plainly texts reverse mode
  | none =>
      have fromSettings : session.sortResult? texts none reverse =
          session.settings.toOption >>= fun config =>
            session.sortResult? texts config.sortMode reverse := by
        rw [sortResult?]
        cases session.settings <;> rfl
      rw [fromSettings]
      exact delivers_withConfig fun config _ =>
        delivers_printSorted plainly texts reverse config.sortMode

/-! ## What results look like -/

/-- A result is one line when it is the text of a version. -/
lemma line_eq_some_iff {version : Version} {lines : List String} :
    version.text.toOption.map ([·]) = some lines ↔
      ∃ line, version.text = .ok line ∧ lines = [line] := by
  cases version.text <;> simp [Except.toOption, eq_comm]

/-- All the steps of an increment succeed. -/
theorem bumpResult?_eq_some_iff {version : Option String} {identifier : Option Identifier}
    {lines : List String} : session.bumpResult? version identifier = some lines ↔
      ∃ config start next line, session.settings = .ok config ∧
        (version.elim config.version .text).parse = .ok start ∧
        start.next (identifier.getD config.defaultBump) = .ok next ∧
        next.text = .ok line ∧ lines = [line] := by
  simp only [bumpResult?, Option.bind_eq_bind, Option.bind_eq_some_iff, toOption_eq_some_iff,
    line_eq_some_iff]
  grind

/-- All the steps of a replacement succeed. -/
theorem setResult?_eq_some_iff {identifier : Identifier} {argument text : String}
    {lines : List String} : setResult? identifier argument text = some lines ↔
    ∃ start value replaced line, Version.parse text = .ok start ∧
      componentOf? identifier argument = some value ∧
      start.replace identifier value = .ok replaced ∧ replaced.text = .ok line ∧ lines = [line] := by
  simp only [setResult?, Option.bind_eq_bind, Option.bind_eq_some_iff, toOption_eq_some_iff,
    line_eq_some_iff]
  grind

theorem exists_version_of_bumpResult {version : Option String} {identifier : Option Identifier}
    {lines : List String} (result : session.bumpResult? version identifier = some lines) :
    ∃ line, lines = [line] ∧ isVersion line = true := by
  obtain ⟨config, start, next, line, -, read, incremented, written, rfl⟩ :=
    bumpResult?_eq_some_iff.1 result
  obtain ⟨text, -, parsed⟩ := exists_text_of_parse read
  have wellFormed := (parse_eq_ok_iff.1 parsed).1
  exact ⟨line, rfl, isVersion_of_text (wellFormed.next incremented) written⟩

theorem exists_version_of_setResult {identifier : Identifier} {argument text : String}
    {lines : List String} (result : setResult? identifier argument text = some lines) :
    ∃ line, lines = [line] ∧ isVersion line = true := by
  obtain ⟨start, value, replaced, line, -, -, built, written, rfl⟩ := setResult?_eq_some_iff.1 result
  have wellFormed := wellFormed_of_exists_parse (exists_parse_of_replace built)
  exact ⟨line, rfl, isVersion_of_text wellFormed written⟩

theorem perm_of_sortResult {texts lines : List String} {mode : Option SortMode} {reverse : Bool}
    (result : session.sortResult? texts mode reverse = some lines) : lines.Perm texts := by
  simp only [sortResult?, Option.bind_eq_bind, Option.bind_eq_some_iff, toOption_eq_some_iff]
    at result
  obtain ⟨mode, -, versions, read, listed, sorted, written⟩ := result
  obtain ⟨lines', written', perm⟩ := exists_versionTexts_of_sorted read sorted
  rw [written] at written'
  rwa [Except.ok.inj written']

end Session

/-! ## From the command line on -/

lemma Report.Delivers.result {report : Report} {result : Option (List String)}
    (h : report.Delivers result) (well : report.ending.status = 0) : result = some report.out := by
  cases result with
  | none =>
      rw [h.1] at well
      contradiction
  | some lines => rw [h.2]

/-- **The commands `compare`, `bump`, `set` and `sort` are all or nothing,** whatever the file tree and
the environment are and however long the numbers: each of them prints its complete result and ends with
status 0, or prints nothing and ends with status 1.  What `bump` and `set` print is one line with a valid
version, and what `sort` prints are its arguments in another order.

The command line may be any with which the console runs a command, so it is none that asks for help.  The
operands of the command are what is no option behind its name, and spelled out in full the command line is
read the same. -/
theorem commands_all_or_nothing (console : Console) (documented : console.IsDocumented)
    (tree : FileTree) (working : List String) (environment : Environment) (arguments : List String)
    (invocation : Invocation)
    (accepted : console.read tree working arguments = .ok invocation) :
    let session := console.session tree working environment invocation
    (∃ front rest, arguments = front ++ invocation.command.name :: rest ∧
      invocation.command.IsTyped rest) ∧
    (∃ place : Option String, invocation.directory = place.map Path.ofText ∧
      console.read tree working (commandLine invocation.verbose place invocation.command) =
        console.read tree working arguments) ∧
    ∃ report, console.run tree working environment arguments = .ok report ∧
      match invocation.command with
      | .compare first second strict =>
        report.Delivers (Session.compareResult? first second strict)
      | .bump version name => ∃ identifier : Option Identifier, name = identifier.map Identifier.name ∧
        report.Delivers (session.bumpResult? version identifier) ∧
          (report.ending.status = 0 → ∃ line, report.out = [line] ∧ isVersion line = true)
      | .set name argument text => ∃ identifier : Identifier, name = identifier.name ∧
        report.Delivers (Session.setResult? identifier argument text) ∧
          (report.ending.status = 0 → ∃ line, report.out = [line] ∧ isVersion line = true)
      | .sort texts mode reverse =>
        report.Delivers (session.sortResult? texts mode reverse) ∧
          (report.ending.status = 0 → report.out.Perm texts)
      | .check _ | .fields _ => True := by
  intro session
  obtain ⟨place, directory, spelled⟩ := documented.exists_commandLine accepted
  have plainly : session.PrintsPlainly := documented.shown_eq_self
  have complete := documented.complete accepted
  refine ⟨documented.typed accepted, ⟨place, directory, spelled.trans accepted.symm⟩,
    session.run invocation.command, ?_, ?_⟩
  · rw [Console.run, accepted]
  · cases command : invocation.command with
    | compare first second strict => exact Session.delivers_compare plainly first second strict
    | bump version name =>
        rw [command] at complete
        obtain ⟨identifier, rfl⟩ := complete
        have delivered := Session.delivers_bump plainly version identifier
        exact ⟨identifier, rfl, delivered,
          fun well => Session.exists_version_of_bumpResult (delivered.result well)⟩
    | set name argument text =>
        rw [command] at complete
        obtain ⟨identifier, rfl⟩ := complete
        have delivered := Session.delivers_set plainly identifier argument text
        exact ⟨identifier, rfl, delivered,
          fun well => Session.exists_version_of_setResult (delivered.result well)⟩
    | sort texts mode reverse =>
        have delivered := Session.delivers_sort plainly texts mode reverse
        exact ⟨delivered, fun well => Session.perm_of_sortResult (delivered.result well)⟩
    | check _ | fields _ => trivial

/-- Two items are put in order by one comparison. -/
lemma mergeSort_pair {α : Type} (a b : α) (le : α → α → Bool) :
    [a, b].mergeSort le = if le a b then [a, b] else [b, a] := by
  simp [List.mergeSort, List.MergeSort.Internal.splitInTwo, List.merge]

/-- Two directories, of which the upper one holds a manifest without settings. -/
def plainTree : FileTree where
  directories := [["home", "library"]]
  manifests := [(["home"], .document (.table []))]

/-- With options before and behind the name of the command and among its arguments, `bump` and `sort`
print their results and nothing else. -/
theorem bump_and_sort_with_options :
    (∃ report, standardConsole.run plainTree ["home", "library"] []
        ["-C", "..", "bump", "1.2.5-alpha", "-i", "MINOR"] = .ok report ∧
      report.Delivers (some ["1.3.0"])) ∧
    (∃ report, standardConsole.run plainTree ["home", "library"] []
        ["sort", "1.0.0-rc.1", "-r", "--strict", "--", "1.0.0"] = .ok report ∧
      report.Delivers (some ["1.0.0", "1.0.0-rc.1"])) := by
  constructor
  · have accepted : standardConsole.read plainTree ["home", "library"]
        ["-C", "..", "bump", "1.2.5-alpha", "-i", "MINOR"] =
        .ok ⟨false, some ⟨0, [".."]⟩, .bump "1.2.5-alpha" (some "minor")⟩ := by
      rfl
    obtain ⟨-, -, report, ran, identifier, named, delivered, -⟩ :=
      commands_all_or_nothing standardConsole standardConsole_isDocumented plainTree
        ["home", "library"] [] _ _ accepted
    obtain rfl : some .minor = identifier := Option.map_injective Identifier.name_injective named
    have result : Session.bumpResult?
        ⟨plainTree, ["home", "library"], [], some ⟨0, [".."]⟩, false, standardConsole.shown⟩
        (some "1.2.5-alpha") (some .minor) = some ["1.3.0"] := by
      decide +kernel
    exact ⟨report, ran, result ▸ delivered⟩
  · have accepted : standardConsole.read plainTree ["home", "library"]
        ["sort", "1.0.0-rc.1", "-r", "--strict", "--", "1.0.0"] =
        .ok ⟨false, none, .sort ["1.0.0-rc.1", "1.0.0"] (some .strict) true⟩ := by
      rfl
    obtain ⟨-, -, report, ran, delivered, -⟩ :=
      commands_all_or_nothing standardConsole standardConsole_isDocumented plainTree
        ["home", "library"] [] _ _ accepted
    have reads : (["1.0.0-rc.1", "1.0.0"].mapM Version.parse).toOption =
        some [⟨1, 0, 0, "rc.1", ""⟩, ⟨1, 0, 0, "", ""⟩] := by
      decide +kernel
    have descending : sortVersions .strict true [⟨1, 0, 0, "rc.1", ""⟩, ⟨1, 0, 0, "", ""⟩] =
        .ok [⟨1, 0, 0, "", ""⟩, ⟨1, 0, 0, "rc.1", ""⟩] := by
      show Except.ok (inOrder true [_, _]) = _
      rw [inOrder, mergeSort_pair]
      rfl
    have result : Session.sortResult?
        ⟨plainTree, ["home", "library"], [], none, false, standardConsole.shown⟩
        ["1.0.0-rc.1", "1.0.0"] (some .strict) true = some ["1.0.0", "1.0.0-rc.1"] := by
      simp only [Session.sortResult?, Option.elim, Option.bind_eq_bind, Option.bind_some, reads,
        descending]
      decide +kernel
    exact ⟨report, ran, result ▸ delivered⟩

end SemanticVersion
