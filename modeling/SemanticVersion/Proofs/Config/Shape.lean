import SemanticVersion.Proofs.Config.Reading

/-!
# Which documents can be read

Reading settings from a document is meant to end in one of two ways: with the settings, or with a refusal
that says which setting is wrong.  A document can hold anything in any place, and then reading can also
end in a third way, with a failure that is not about settings.  This module says for every document which
of the three it is.

**A wrong shape always fails.**  The project and the tools are asked for entries, and what is no table
cannot be asked.  The value with the settings is searched for their names, and a list or a text can be
searched, too; but if it mentions a name, nothing can be looked up under it.

**A wrong value fails only when it cannot be displayed.**  Every wrong identifier and almost every wrong
mode is refused in so many words.  The exception is a mode that holds an integer over the digit limit,
because it cannot be quoted.

* `IsExpected`, `Fails` — the outcomes that are meant, and the third one.
* `fails_of_not_hasShape` — a wrong shape fails.
* `isExpected_of_isReadable`, `fails_of_not_displayable` — the right shape.
* `document_outcomes` — both together.
-/

namespace SemanticVersion

/-! ## Outcomes -/

section Outcome

variable {α β : Type}

/-- The outcomes that are meant: a result, or a refused setting. -/
def IsExpected (outcome : Except ConfigError α) : Prop :=
  (∃ a, outcome = .ok a) ∨ ∃ source problem, outcome = .error (.setting source problem)

/-- A failure that is not about settings. -/
def Fails (outcome : Except ConfigError α) : Prop :=
  ∃ error, outcome = .error (.failure error)

lemma IsExpected.not_fails {outcome : Except ConfigError α} (expected : IsExpected outcome) :
    ¬ Fails outcome := by
  rintro ⟨error, failed⟩
  obtain ⟨a, done⟩ | ⟨source, problem, refused⟩ := expected
  · exact nomatch failed.symm.trans done
  · exact nomatch failed.symm.trans refused

/-- What comes after a failure is not looked at. -/
lemma Fails.bind {first : Except ConfigError α} (failed : Fails first)
    (next : α → Except ConfigError β) : Fails (first >>= next) := by
  obtain ⟨error, rfl⟩ := failed
  exact ⟨error, rfl⟩

lemma fails_bind_of_ok {first : Except ConfigError α} {next : α → Except ConfigError β} {a : α}
    (done : first = .ok a) (failed : Fails (next a)) : Fails (first >>= next) := by
  rw [done]
  exact failed

end Outcome

/-! ## Documents -/

/-- A value with an integer over the limit is no mode and cannot be displayed. -/
lemma fails_sortModeOfValue {source : String} {value : Value}
    (overlong : ¬ ∀ n ∈ value.integers, IsWritable n) : Fails (sortModeOfValue source value) := by
  have unnamed : value.sortMode? = none := by
    rw [Option.eq_none_iff_forall_ne_some]
    intro mode named
    rw [sortMode?_eq_some_iff.1 named] at overlong
    exact overlong (by simp [Value.integers])
  cases shown : value.literal with
  | ok text => exact absurd (value.exists_literal_iff.1 ⟨text, shown⟩) overlong
  | error limit =>
      rw [sortModeOfValue, unnamed, shown]
      exact ⟨_, rfl⟩

namespace Value

lemma fails_entry {value : Value} (notTable : ¬ value.isTable = true) (key : String) :
    Fails <| Value.entry? key value := by
  cases value with
  | table entries => exact absurd rfl notTable
  | _ => exact ⟨_, rfl⟩

lemma fails_subtable {value : Value} (notTable : ¬ value.isTable = true) (key : String) :
    Fails (value.subtable key) :=
  (fails_entry notTable key).bind _

/-- The value under a key of a table. -/
lemma subtable_table {entries : List (String × Value)} {key : String} {value : Value}
    (found : (Value.table entries).at? [key] = some value) :
    (Value.table entries).subtable key = .ok value := by
  rw [at?_singleton] at found
  rw [subtable, entry?_table, ok_bind, found]
  rfl

end Value

namespace Config

variable {entries : List (String × Value)} {directory : Option Path} {document : Value}

lemma fails_documentBump {tool : Value} (unsearchable : ¬ tool.IsSearchable "default-bump") :
    Fails (documentBump tool) := by
  obtain ⟨error, failed⟩ := Value.mentioned?_of_not_isSearchable unsearchable
  exact Fails.bind ⟨error, failed⟩ _

lemma fails_documentSortMode {tool : Value} (unsearchable : ¬ tool.IsSearchable "sort-mode") :
    Fails (documentSortMode tool) := by
  obtain ⟨error, failed⟩ := Value.mentioned?_of_not_isSearchable unsearchable
  exact Fails.bind ⟨error, failed⟩ _

/-- What cannot be searched for the mode is no table, so it sets no identifier. -/
lemma documentBump_of_not_isTable {tool : Value} (notTable : ¬ tool.isTable = true)
    (searchable : tool.IsSearchable "default-bump") : documentBump tool = .ok .patch := by
  rw [documentBump_eq searchable]
  cases tool with
  | table entries => exact absurd rfl notTable
  | _ => rfl

/-- The project and the tools have to be tables when they are there. -/
lemma tables_of_not_fails (well : ¬ Fails (ofDocument (.table entries) directory)) :
    (∀ value, (Value.table entries).at? ["project"] = some value → value.isTable = true) ∧
      ∀ value, (Value.table entries).at? ["tool"] = some value → value.isTable = true := by
  have asked (key : String) :
      (Value.table entries).subtable key = .ok ((entries.lookup key).getD (.table [])) := rfl
  -- the tools are asked before the project is
  have tools (value : Value) (found : (Value.table entries).at? ["tool"] = some value) :
      value.isTable = true := by
    by_contra notTable
    refine well ?_
    rw [ofDocument]
    exact fails_bind_of_ok (asked "project")
      (fails_bind_of_ok (Value.subtable_table found) ((Value.fails_subtable notTable _).bind _))
  refine ⟨fun value found => ?_, tools⟩
  by_contra notTable
  refine well ?_
  rw [ofDocument]
  refine fails_bind_of_ok (Value.subtable_table found) (fails_bind_of_ok (asked "tool") ?_)
  have table : ((entries.lookup "tool").getD (.table [])).isTable = true := by
    cases lookup : entries.lookup "tool" with
    | none => rfl
    | some value => exact tools value (by rw [Value.at?_singleton, lookup])
  obtain ⟨inner, same⟩ := Value.exists_eq_table table
  rw [same]
  exact fails_bind_of_ok rfl ((Value.fails_entry notTable _).bind _)

/-- **A document of the wrong shape cannot be read.** -/
theorem fails_of_not_hasShape (misshapen : ¬ (Value.table entries).HasShape) :
    Fails (ofDocument (.table entries) directory) := by
  by_contra well
  obtain ⟨project, tools⟩ := tables_of_not_fails well
  rw [ofDocument_eq_of_tables rfl project tools] at well
  by_cases bump : (Value.table entries).searched.IsSearchable "default-bump"
  · by_cases mode : (Value.table entries).searched.IsSearchable "sort-mode"
    · exact misshapen ⟨rfl, project, tools, bump, mode⟩
    · have notTable : ¬ (Value.table entries).searched.isTable = true := fun table =>
        mode (Value.isSearchable_of_isTable table _)
      exact well (fails_bind_of_ok (documentBump_of_not_isTable notTable bump)
        ((fails_documentSortMode mode).bind _))
  · exact well ((fails_documentBump bump).bind _)

/-- A document that can be read is read or refused. -/
theorem isExpected_of_isReadable (readable : document.IsReadable) :
    IsExpected (ofDocument document directory) := by
  cases read : ofDocument document directory with
  | ok config => exact .inl ⟨config, rfl⟩
  | error error =>
      obtain ⟨source, problem, rfl⟩ := ofDocument_eq_error readable read
      exact .inr ⟨source, problem, rfl⟩

/-- A mode that has to be displayed but cannot be is a failure. -/
theorem fails_of_not_displayable (shape : document.HasShape) (overlong : ¬ document.Displayable) :
    Fails (ofDocument document directory) := by
  simp only [Value.Displayable, Classical.not_forall] at overlong
  obtain ⟨identifier, value, bump, found, n, mem, unwritable⟩ := overlong
  rw [ofDocument_eq shape]
  refine fails_bind_of_ok (setsBump_iff.1 bump) (Fails.bind ?_ _)
  rw [found]
  exact fails_sortModeOfValue fun writable => unwritable (writable n mem)

end Config

/-- **Every outcome of reading a document.**  A document that can be read gives the settings that it puts
in place of the usual ones, or is refused for a setting.  Any other document is neither read nor refused:
reading it fails in a way that is not about settings. -/
theorem document_outcomes (entries : List (String × Value)) (directory : Option Path) :
    let document := Value.table entries
    let outcome := Config.ofDocument document directory
    (document.IsReadable ↔
      (∃ config, outcome = .ok config) ∨ ∃ source problem, outcome = .error (.setting source problem)) ∧
    (¬ document.IsReadable ↔ ∃ error, outcome = .error (.failure error)) ∧
    (document.IsReadable → ∀ config, outcome = .ok config ↔
      (Config.declared directory document).Sets document.bumpSetting document.modeSetting config) := by
  intro document outcome
  have expected (readable : document.IsReadable) : IsExpected outcome :=
    Config.isExpected_of_isReadable readable
  have failed (unreadable : ¬ document.IsReadable) : Fails outcome := by
    by_cases shape : document.HasShape
    · exact Config.fails_of_not_displayable shape fun displayable => unreadable ⟨shape, displayable⟩
    · exact Config.fails_of_not_hasShape shape
  refine ⟨⟨expected, fun meant => ?_⟩, ⟨failed, fun failed readable => ?_⟩, fun readable config => ?_⟩
  · by_contra unreadable
    exact IsExpected.not_fails meant (failed unreadable)
  · exact (expected readable).not_fails failed
  · exact Config.ofDocument_eq_ok_iff readable.shape

/-- A text where the table of the project is expected is neither read nor refused. -/
theorem document_with_text_for_table :
    let outcome := Config.ofDocument (.table [("project", .text "x")])
    outcome = .error (.failure (.lacks "str" "get")) ∧
    ¬ ((∃ config, outcome = .ok config) ∨
      ∃ source problem, outcome = .error (.setting source problem)) := by
  intro outcome
  have failed : outcome = .error (.failure (.lacks "str" "get")) := rfl
  refine ⟨failed, fun expected => ?_⟩
  exact IsExpected.not_fails expected ⟨_, failed⟩

end SemanticVersion
