import SemanticVersion.Command.Run
import SemanticVersion.Proofs.Command.Documented
import SemanticVersion.Proofs.Outcome

/-!
# The console of the program keeps to what is documented

The reader of the program goes over a command line twice: first over the options for all commands, up to
the name of the command, and then over what is left.

**What it reads is there.**  In each pass the arguments that are no options are found by induction over the
arguments; an option that waits for its value is what an argument can leave behind for the next one.  Which
options wait differs between the commands, so it is an argument of the induction.

**What is spelled out in full is read.**  Here the options stand in a fixed order, and there are only so many
ways to leave some of them out.

* `others_readArguments`, `exists_front` — what is no option.
* `Command.Fits`, `fits_ofArguments` — a command that is read has nothing missing, and its operands are on
  the line.
* `ofArguments_spelled` — a command is read from its full spelling.
* `standardConsole_isDocumented` — the console of the program keeps to what is documented.
-/

namespace SemanticVersion

/-! ## Options that wait for their values -/

section Options

variable {specs : List OptionSpec} {valued arguments : List String} {waiting : Option String}
  {read : Arguments}

/-- An argument leaves an option waiting for its value when it is one of `valued`. -/
def WaitsFor (specs : List OptionSpec) (valued : List String) : Prop :=
  ∀ {c cs given waiting}, readOptions specs c cs = .ok (given, waiting) →
    waiting.isSome = valued.contains (String.ofList ('-' :: c :: cs))

/-- No option in short spelling waits when none takes a value. -/
lemma waiting_readLetters (flags : ∀ spec ∈ specs, spec.takesValue = false) {cs : List Char}
    {given : List Given} (read : readLetters specs cs = .ok (given, waiting)) : waiting = none := by
  induction cs generalizing given with
  | nil => exact (Prod.mk.inj (Except.ok.inj read)).2.symm
  | cons c rest ih =>
      rw [readLetters] at read
      split at read
      · contradiction
      · next spec found =>
          rw [if_neg (by simp [flags spec (List.mem_of_find?_eq_some found)])] at read
          obtain ⟨⟨more, later⟩, tail, same⟩ := bind_eq_ok_iff.1 read
          obtain ⟨-, rfl⟩ := Prod.mk.inj (Except.ok.inj same)
          exact ih tail

/-- No option in long spelling waits when none takes a value. -/
lemma waiting_readLong (flags : ∀ spec ∈ specs, spec.takesValue = false) {cs : List Char}
    {given : List Given} (read : readLong specs cs = .ok (given, waiting)) : waiting = none := by
  rw [readLong] at read
  split at read
  · contradiction
  · next spec found _ =>
      rw [if_neg (by simp [flags spec (List.mem_of_find?_eq_some found)])] at read
      exact (Prod.mk.inj (Except.ok.inj read)).2.symm
  · next spec _ _ found _ =>
      rw [if_neg (by simp [flags spec (List.mem_of_find?_eq_some found)])] at read
      contradiction

lemma waitsFor_nil (flags : ∀ spec ∈ specs, spec.takesValue = false) : WaitsFor specs [] := by
  intro c cs given waiting read
  rw [readOptions] at read
  split at read
  · rw [waiting_readLong flags read]
    rfl
  · rw [waiting_readLetters flags read]
    rfl

/-! ## Arguments that are no options -/

/-- The arguments that are read besides options are those that are none. -/
theorem others_readArguments (waits : WaitsFor specs valued)
    (h : readArguments specs true waiting arguments = .ok read) :
    read.others = plainArguments valued waiting.isSome arguments := by
  induction arguments generalizing waiting read with
  | nil =>
      cases waiting with
      | none =>
          obtain rfl := Except.ok.inj h
          rfl
      | some name => contradiction
  | cons argument rest ih =>
      cases waiting with
      | some name =>
          obtain ⟨more, tail, rfl⟩ := map_eq_ok_iff.1 h
          exact ih tail
      | none =>
          show _ = plainArguments valued false (argument :: rest)
          rw [readArguments] at h
          split at h
          · next stop =>
              obtain rfl := Except.ok.inj h
              exact (plainArguments_stop stop).symm
          · next c cs goesOn spelled =>
              obtain ⟨⟨given, later⟩, one, h⟩ := bind_eq_ok_iff.1 h
              obtain ⟨more, tail, rfl⟩ := map_eq_ok_iff.1 h
              have taken := waits one
              rw [← spelled, String.ofList_toList] at taken
              rw [plainArguments_option spelled goesOn, ← taken]
              exact (ih tail :)
          · next stop plain =>
              obtain ⟨more, tail, rfl⟩ := map_eq_ok_iff.1 h
              rw [plainArguments_plain plain]
              exact congrArg (argument :: ·) (ih tail)

/-- In front of the first argument that is no option there may be anything. -/
theorem exists_front (h : readArguments specs false waiting arguments = .ok read) :
    ∃ front, arguments = front ++ read.others := by
  induction arguments generalizing waiting read with
  | nil =>
      cases waiting with
      | none =>
          obtain rfl := Except.ok.inj h
          exact ⟨[], rfl⟩
      | some name => contradiction
  | cons argument rest ih =>
      cases waiting with
      | some name =>
          obtain ⟨more, tail, rfl⟩ := map_eq_ok_iff.1 h
          obtain ⟨front, split⟩ := ih tail
          exact ⟨argument :: front, congrArg (argument :: ·) split⟩
      | none =>
          rw [readArguments] at h
          split at h
          · obtain rfl := Except.ok.inj h
            exact ⟨[argument], rfl⟩
          · obtain ⟨_, -, h⟩ := bind_eq_ok_iff.1 h
            obtain ⟨more, tail, rfl⟩ := map_eq_ok_iff.1 h
            obtain ⟨front, split⟩ := ih tail
            exact ⟨argument :: front, congrArg (argument :: ·) split⟩
          · obtain rfl := Except.ok.inj h
            exact ⟨[], rfl⟩

lemma readArguments_of_readWithPages {mixed : Bool}
    (h : readWithPages specs mixed arguments = .ok read) :
    readArguments (helpSpec :: specs) mixed none arguments = .ok read := by
  rw [readWithPages] at h
  split at h
  · contradiction
  · next found =>
      split at h
      · contradiction
      · rw [found, Except.ok.inj h]

/-- Where no option takes a value, the arguments that are read besides options are those that are
none. -/
theorem others_of_flags (flags : ∀ spec ∈ specs, spec.takesValue = false)
    (h : readWithPages specs true arguments = .ok read) :
    read.others = plainArguments [] false arguments :=
  others_readArguments (waitsFor_nil (List.forall_mem_cons.2 ⟨rfl, flags⟩))
    (readArguments_of_readWithPages h)

end Options

/-! ## Commands -/

namespace Command

section Bump

variable {c : Char} {cs : List Char} {given : List Given} {waiting : Option String}

/-- In its short spelling the identifier waits when the letter is all there is. -/
lemma isSome_readLetters (read : readLetters [helpSpec, identifierSpec] (c :: cs) = .ok (given, waiting)) :
    waiting.isSome = true ↔ c = 'i' ∧ cs = [] := by
  rw [readLetters] at read
  split at read
  · contradiction
  · next spec found =>
      have letter := List.find?_some found
      have listed := List.mem_of_find?_eq_some found
      simp only [List.mem_cons, List.not_mem_nil, or_false] at listed
      obtain rfl | rfl := listed
      · contradiction
      · obtain rfl : 'i' = c := by simpa [identifierSpec] using letter
        cases cs with
        | nil =>
            obtain ⟨-, rfl⟩ := Prod.mk.inj (Except.ok.inj read)
            simp
        | cons c rest =>
            obtain ⟨-, rfl⟩ := Prod.mk.inj (Except.ok.inj read)
            simp

/-- In its long spelling the identifier waits when no value is joined to it. -/
lemma isSome_readLong (read : readLong [helpSpec, identifierSpec] cs = .ok (given, waiting)) :
    waiting.isSome = true ↔ cs = "identifier".toList := by
  have parts : cs.takeWhile (· != '=') ++ cs.dropWhile (· != '=') = cs :=
    List.takeWhile_append_dropWhile
  rw [readLong] at read
  split at read
  · contradiction
  · next spec found whole =>
      have name := List.find?_some found
      have listed := List.mem_of_find?_eq_some found
      rw [whole, List.append_nil] at parts
      rw [parts, beq_iff_eq, ← String.toList_inj, String.toList_ofList] at name
      simp only [List.mem_cons, List.not_mem_nil, or_false] at listed
      obtain rfl | rfl := listed
      · obtain ⟨-, rfl⟩ := Prod.mk.inj (Except.ok.inj read)
        rw [← name]
        decide
      · obtain ⟨-, rfl⟩ := Prod.mk.inj (Except.ok.inj read)
        simp [← name, identifierSpec]
  · next spec _ value found joined =>
      split at read
      · obtain ⟨-, rfl⟩ := Prod.mk.inj (Except.ok.inj read)
        refine ⟨nofun, ?_⟩
        rintro rfl
        contradiction
      · contradiction

lemma waitsFor_identifier :
    WaitsFor [helpSpec, identifierSpec] ["-i", "--identifier"] := by
  intro c cs given waiting read
  have spelled : ["-i", "--identifier"].contains (String.ofList ('-' :: c :: cs)) = true ↔
      c = 'i' ∧ cs = [] ∨ c = '-' ∧ cs = "identifier".toList := by
    simp [← String.toList_inj]
  rw [Bool.eq_iff_iff, spelled]
  rw [readOptions] at read
  split at read
  · next hyphen =>
      rw [isSome_readLong read]
      simp [hyphen]
  · next hyphen =>
      rw [isSome_readLetters read]
      simp [hyphen]

end Bump

/-- The command has this name and nothing is missing in it, and it is typed with these arguments. -/
structure Fits (command : Command) (name : String) (arguments : List String) : Prop where
  name_eq : command.name = name
  complete : command.IsComplete
  typed : command.IsTyped arguments

variable {arguments : List String} {command : Command}

lemma fits_readCheck (read : readCheck arguments = .ok command) :
    command.Fits "check" arguments := by
  obtain ⟨found, pages, read⟩ := bind_eq_ok_iff.1 read
  have others := others_of_flags (by simp) pages
  cases operands : found.others with
  | nil =>
      rw [operands] at read
      contradiction
  | cons text texts =>
      rw [operands] at read others
      obtain rfl := Except.ok.inj read
      exact ⟨rfl, List.cons_ne_nil text texts, others.symm⟩

lemma fits_readCompare (read : readCompare arguments = .ok command) :
    command.Fits "compare" arguments := by
  obtain ⟨found, pages, read⟩ := bind_eq_ok_iff.1 read
  have others := others_of_flags (by simp) pages
  split at read
  · contradiction
  · contradiction
  · next operands =>
      obtain rfl := Except.ok.inj read
      exact ⟨rfl, trivial, others.symm.trans operands⟩
  · contradiction

/-- A name is handed over in its usual spelling. -/
lemma exists_identifier_of_readName {argument name : String} (read : readName argument = .ok name) :
    ∃ identifier : Identifier, name = identifier.name := by
  rw [readName] at read
  split at read
  · next identifier _ => exact ⟨identifier, (Except.ok.inj read).symm⟩
  · contradiction

lemma fits_readBump (read : readBump arguments = .ok command) : command.Fits "bump" arguments := by
  obtain ⟨found, pages, read⟩ := bind_eq_ok_iff.1 read
  obtain ⟨name, named, read⟩ := bind_eq_ok_iff.1 read
  have others := others_readArguments waitsFor_identifier (readArguments_of_readWithPages pages)
  have complete : ∃ identifier : Option Identifier, name = identifier.map Identifier.name := by
    cases given : found.value? "identifier" with
    | none =>
        rw [given] at named
        exact ⟨none, (Except.ok.inj named).symm⟩
    | some argument =>
        rw [given] at named
        obtain ⟨spelling, one, rfl⟩ := map_eq_ok_iff.1 named
        obtain ⟨identifier, rfl⟩ := exists_identifier_of_readName one
        exact ⟨identifier, rfl⟩
  split at read
  · next operands =>
      obtain rfl := Except.ok.inj read
      exact ⟨rfl, complete, others.symm.trans operands⟩
  · next operands =>
      obtain rfl := Except.ok.inj read
      exact ⟨rfl, complete, others.symm.trans operands⟩
  · contradiction

lemma fits_readSet (read : readSet arguments = .ok command) : command.Fits "set" arguments := by
  obtain ⟨found, pages, read⟩ := bind_eq_ok_iff.1 read
  have others := others_of_flags (by simp) pages
  split at read
  · next argument value version operands =>
      obtain ⟨name, one, made⟩ := bind_eq_ok_iff.1 read
      obtain rfl := Except.ok.inj made
      exact ⟨rfl, exists_identifier_of_readName one, argument, others.symm.trans operands⟩
  · contradiction
  · contradiction

lemma fits_readSort (read : readSort arguments = .ok command) : command.Fits "sort" arguments := by
  obtain ⟨found, pages, read⟩ := bind_eq_ok_iff.1 read
  have others := others_of_flags (by simp) pages
  cases operands : found.others with
  | nil =>
      rw [operands] at read
      contradiction
  | cons text texts =>
      rw [operands] at read others
      obtain rfl := Except.ok.inj read
      exact ⟨rfl, List.cons_ne_nil text texts, others.symm⟩

lemma fits_readFields (read : readFields arguments = .ok command) :
    command.Fits "fields" arguments := by
  obtain ⟨found, pages, read⟩ := bind_eq_ok_iff.1 read
  have others := others_of_flags (by simp) pages
  split at read
  · contradiction
  · next operands =>
      obtain rfl := Except.ok.inj read
      exact ⟨rfl, trivial, others.symm.trans operands⟩
  · contradiction

/-- **A command that is read has nothing missing, and its operands are on the line.** -/
theorem fits_ofArguments {name : String} (read : Command.ofArguments name arguments = .ok command) :
    command.Fits name arguments := by
  unfold Command.ofArguments at read
  split at read
  · exact fits_readCheck read
  · exact fits_readCompare read
  · exact fits_readBump read
  · exact fits_readSet read
  · exact fits_readSort read
  · exact fits_readFields read
  · contradiction

/-- **A command is read from its full spelling.** -/
theorem ofArguments_spelled (complete : command.IsComplete) :
    Command.ofArguments command.name (command.options ++ "--" :: command.operands) =
      .ok command := by
  cases command with
  | check versions =>
      obtain ⟨text, texts, rfl⟩ := List.exists_cons_of_ne_nil complete
      rfl
  | compare first second strict => cases strict <;> rfl
  | bump version name =>
      obtain ⟨identifier, rfl⟩ := complete
      cases version <;> cases identifier with
      | none => rfl
      | some identifier => cases identifier <;> rfl
  | set name value version =>
      obtain ⟨identifier, rfl⟩ := complete
      cases identifier <;> rfl
  | sort versions mode reverse =>
      obtain ⟨text, texts, rfl⟩ := List.exists_cons_of_ne_nil complete
      cases mode with
      | none => cases reverse <;> rfl
      | some mode => cases mode <;> cases reverse <;> rfl
  | fields version => rfl

end Command

/-! ## Command lines -/

section Lines

variable {tree : FileTree} {working arguments : List String} {invocation : Invocation}

/-- A directory is read from a text when the text leads to it. -/
lemma readPlace_eq_ok_iff {argument : String} {path : Path} :
    readPlace tree working argument = .ok path ↔
      tree.IsPlace working argument ∧ path = Path.ofText argument := by
  have leads : (!argument.isEmpty && (tree.enter working (Path.ofText argument)).isSome) = true ↔
      tree.IsPlace working argument := by
    rw [FileTree.IsPlace, Bool.and_eq_true, Bool.not_eq_true', ← Bool.not_eq_true,
      String.isEmpty_iff]
  rw [readPlace]
  split
  · next h => simp [leads.1 h, eq_comm]
  · next h => simp [misuse, mt leads.2 h]

/-- The options for all commands are read from their full spelling. -/
lemma exists_readWithPages_spelled (verbose : Bool) (place : Option String) (command : Command) :
    ∃ read, readWithPages generalSpecs false (commandLine verbose place command) = .ok read ∧
      read.has "verbose" = verbose ∧ read.value? "directory" = place ∧
      read.others = command.name :: (command.options ++ "--" :: command.operands) := by
  have read : readWithPages generalSpecs false (commandLine verbose place command) =
      .ok ⟨(if verbose then [⟨"verbose", none⟩] else []) ++
        place.elim [] (fun text => [⟨"directory", some text⟩]),
        command.name :: (command.options ++ "--" :: command.operands)⟩ := by
    -- the name of a command has to be written out before it can be seen that it is no option
    cases command <;> cases verbose <;> cases place <;> dsimp only [commandLine, Command.name] <;> rfl
  refine ⟨_, read, ?_, ?_, rfl⟩
  · cases verbose <;> cases place <;> rfl
  · cases verbose <;> cases place <;> rfl

/-- **A command line is read from its full spelling.** -/
theorem readCommandLine_spelled {place : Option String} {command : Command}
    (leads : ∀ text ∈ place, tree.IsPlace working text) (complete : command.IsComplete)
    (verbose : Bool) :
    readCommandLine tree working (commandLine verbose place command) =
      .ok ⟨verbose, place.map Path.ofText, command⟩ := by
  obtain ⟨found, pages, told, named, others⟩ :=
    exists_readWithPages_spelled verbose place command
  have directory : place.mapM (readPlace tree working) = .ok (place.map Path.ofText) := by
    cases place with
    | none => rfl
    | some text => exact map_eq_ok_iff.2 ⟨_, readPlace_eq_ok_iff.2 ⟨leads text rfl, rfl⟩, rfl⟩
  rw [readCommandLine, pages, ok_bind, named, directory, ok_bind, others]
  show (Command.ofArguments _ _ >>= _) = _
  rw [Command.ofArguments_spelled complete, ok_bind, told]
  rfl

/-- What is read of a whole command line. -/
theorem readCommandLine_eq_ok (read : readCommandLine tree working arguments = .ok invocation) :
    ∃ (place : Option String) (front rest : List String),
      (∀ text ∈ place, tree.IsPlace working text) ∧ invocation.directory = place.map Path.ofText ∧
      arguments = front ++ invocation.command.name :: rest ∧
      invocation.command.Fits invocation.command.name rest := by
  obtain ⟨found, pages, read⟩ := bind_eq_ok_iff.1 read
  obtain ⟨directory, named, read⟩ := bind_eq_ok_iff.1 read
  obtain ⟨front, split⟩ := exists_front (readArguments_of_readWithPages pages)
  have place : ∃ place : Option String, (∀ text ∈ place, tree.IsPlace working text) ∧
      directory = place.map Path.ofText := by
    cases given : found.value? "directory" with
    | none =>
        rw [given] at named
        exact ⟨none, nofun, (Except.ok.inj named).symm⟩
    | some text =>
        rw [given] at named
        obtain ⟨path, one, rfl⟩ := map_eq_ok_iff.1 named
        obtain ⟨leads, rfl⟩ := readPlace_eq_ok_iff.1 one
        exact ⟨text, by simpa using leads, rfl⟩
  obtain ⟨place, leads, rfl⟩ := place
  cases others : found.others with
  | nil =>
      rw [others] at read
      contradiction
  | cons name rest =>
      rw [others] at read split
      obtain ⟨command, one, made⟩ := bind_eq_ok_iff.1 read
      obtain rfl := Except.ok.inj made
      have fits := Command.fits_ofArguments one
      obtain rfl := fits.name_eq
      exact ⟨place, front, rest, leads, rfl, split, fits⟩

end Lines

/-- **The console of the program keeps to what is documented.** -/
theorem standardConsole_isDocumented : standardConsole.IsDocumented where
  shown_eq_self text plain := withoutControls_eq_self plain
  complete read := by
    obtain ⟨_, _, _, -, -, -, fits⟩ := readCommandLine_eq_ok read
    exact fits.complete
  directory read := by
    obtain ⟨place, _, _, leads, directory, -, -⟩ := readCommandLine_eq_ok read
    exact ⟨place, leads, directory⟩
  typed read := by
    obtain ⟨_, front, rest, -, -, split, fits⟩ := readCommandLine_eq_ok read
    exact ⟨front, rest, split, fits.typed⟩
  spelled leads complete verbose := readCommandLine_spelled leads complete verbose

end SemanticVersion
