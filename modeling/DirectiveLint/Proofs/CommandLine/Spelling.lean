import DirectiveLint.CommandLine.Lint
import DirectiveLint.Proofs.Checker.BuildFailure
import DirectiveLint.Proofs.Json.Limits
import DirectiveLint.Proofs.Table
import DirectiveLint.Proofs.Text.RoundTrip

/-!
# Ways to spell a configuration

The level and the options of the rule for directives can be written in several
ways: as a list of both, as an object of the options with the level among them,
or as this object alone, in place of the entries; and each of these may stand
under the key for entries.  The level of errors may be left out of an object
that is not taken for something else.

All ways come to the same, with a preset or without one.  There is the same
runner, or there is none for the same reason.  Nothing is assumed of the level
and of the values of the options, so this holds of configurations that are
refused as well.  The members of an object may stand in any order.

How deep the text of a file may be nested is a limit of the reader, and so is the
number of digits of an integer.  The ways to spell a configuration wrap the options
in different numbers of lists and objects, so one of them may still be read where
another one goes beyond the limit.
-/

namespace DirectiveLint

/-! ## Spellings -/

/-- The level and the options that an entry of a rule spells. -/
inductive RuleEntry.Spells (level : Value) (options : List (LooseText × Value)) : Value → Prop
  | pair {fields : List (LooseText × Value)} (same : fields.Perm options) :
      Spells level options (.list [level, .object fields])
  | object {fields : List (LooseText × Value)}
      (same : fields.Perm ((severityKey, level) :: options)) :
      Spells level options (.object fields)
  | leftOut {fields : List (LooseText × Value)} (same : fields.Perm options)
      (errors : level = .text Severity.error.name) : Spells level options (.object fields)

namespace RuleOptions

/-- The level and the options that the fields of an object of entries spell. -/
inductive SpellsEntries (level : Value) (options : List (LooseText × Value)) :
    List (LooseText × Value) → Prop
  | entry {entry : Value} (spells : RuleEntry.Spells level options entry) :
      SpellsEntries level options [(DirectiveEvidence.ruleName, entry)]
  | bare {fields : List (LooseText × Value)} (nonempty : fields ≠ [])
      (spells : RuleEntry.Spells level options (.object fields)) :
      SpellsEntries level options fields

/-- The level and the options that the fields of a configuration spell. -/
inductive Spells (level : Value) (options : List (LooseText × Value)) :
    List (LooseText × Value) → Prop
  | entries {fields : List (LooseText × Value)} (spells : SpellsEntries level options fields) :
      Spells level options fields
  | underKey {fields inner : List (LooseText × Value)}
      (found : Value.fieldOf? rulesKey fields = some (.object inner))
      (spells : SpellsEntries level options inner) : Spells level options fields

/-- The level and the options that a JSON text spells. What the text is read as is said by any
limits that it stays within. -/
def SpellsText (level : Value) (options : List (LooseText × Value)) (text : String) : Prop :=
  ∃ limits fields, Json.readWithin limits text = .ok (.object fields) ∧ Spells level options fields

/-- Whether the configuration file that a name stands for holds a text. -/
def Holds (tree : FileTree) (standpoint : Standpoint) (name text : String) : Prop :=
  ∃ path node, standpoint.locate name = .ok path ∧ tree.seek path = .ok (some node) ∧
    tree.readText path = .ok text

/-- Whether a preset, if one is named, is there. -/
def IsKnownPreset (preset : Option String) : Prop :=
  ∀ name ∈ preset, name ∈ PolicyConfiguration.presets.map Prod.fst

/-- The runner under the options of a preset and of a configuration file, unless there are no
options. -/
def runner (tree : FileTree) (standpoint : Standpoint) (config preset : Option String)
    (selection : Value) : Except RuleOptionsFault (Logged Failure Runner) :=
  (load tree standpoint config preset).map fun entries =>
    Runner.build .standard (.object entries) selection

end RuleOptions

/-! ## Entries -/

section

variable {options fields : List (LooseText × Value)} {level entry : Value}

namespace PolicyConfiguration

theorem policiesOf_congr {options others : Mapping}
    (same : ∀ key, options.find? key = others.find? key) (directives : List Directive) :
    policiesOf options directives = policiesOf others directives := by
  induction directives with
  | nil => rfl
  | cons directive rest inductionHypothesis =>
      simp only [policiesOf, same, inductionHypothesis]

theorem checkKeys_ofFields (known : ∀ option ∈ options, option.1 ∈ optionKeys) :
    checkKeys (Mapping.ofFields options) = .ok () := by
  rw [checkKeys_eq_ok_iff]
  intro key member
  simp only [Mapping.keys, Mapping.ofFields, List.map_map, List.mem_map] at member
  rcases member with ⟨option, inOptions, rfl⟩
  exact ⟨option.1, known option inOptions, rfl⟩

/-- Options in another order give the same configuration, or the same fault. -/
theorem ofOptions_eq_of_perm (keyed : Table.Keyed options)
    (known : ∀ option ∈ options, option.1 ∈ optionKeys) (same : fields.Perm options) :
    ofOptions (Mapping.ofFields fields) = ofOptions (Mapping.ofFields options) := by
  have found : ∀ key, (Mapping.ofFields fields).find? key =
      (Mapping.ofFields options).find? key := by
    intro key
    rw [Mapping.find?_ofFields, Mapping.find?_ofFields, Value.fieldOf?_eq_lookup,
      Value.fieldOf?_eq_lookup, keyed.lookup_eq_of_perm same]
  have knownToo : ∀ field ∈ fields, field.1 ∈ optionKeys := fun field member =>
    known field (same.mem_iff.mp member)
  simp only [ofOptions_eq_bind, checkKeys_ofFields known, checkKeys_ofFields knownToo, minimumOf,
    found, policiesOf_congr found]

end PolicyConfiguration

theorem Mapping.erase_ofFields (fields : List (LooseText × Value)) (key : LooseText) :
    (ofFields fields).erase key = ofFields (fields.filter fun field => field.1 != key) := by
  unfold erase ofFields
  rw [List.filter_map]
  simp only [Function.comp_def, Value.text_same_text, bne]

theorem severityKey_not_mem
    (known : ∀ option ∈ options, option.1 ∈ PolicyConfiguration.optionKeys) :
    .plain RuleEntry.severityKey ∉ options.map Prod.fst := by
  intro member
  rcases List.mem_map.mp member with ⟨option, inOptions, named⟩
  have impossible := known option inOptions
  rw [named] at impossible
  exact absurd impossible (by decide)

/-- Options without a level are all left when the level is taken away. -/
theorem filter_ne_severityKey (absent : .plain RuleEntry.severityKey ∉ options.map Prod.fst) :
    options.filter (fun option => option.1 != .plain RuleEntry.severityKey) = options := by
  rw [List.filter_eq_self]
  intro option member
  exact bne_iff_ne.mpr fun same => absent (same ▸ List.mem_map_of_mem member)

/-- Every spelling of an entry gives its level and its options. -/
theorem RuleEntry.ofValue_of_spells (keyed : Table.Keyed options)
    (known : ∀ option ∈ options, option.1 ∈ PolicyConfiguration.optionKeys)
    (spells : Spells level options entry) :
    ∃ fields, fields.Perm options ∧ ofValue entry = ofLevel level (Mapping.ofFields fields) := by
  have absent := severityKey_not_mem known
  cases spells with
  | @pair fields same => exact ⟨fields, same, rfl⟩
  | @object fields same =>
      refine ⟨fields.filter fun field => field.1 != .plain severityKey, ?_, ?_⟩
      · have rest := same.filter fun field => field.1 != .plain severityKey
        rw [List.filter_cons, filter_ne_severityKey absent] at rest
        simpa using rest
      · have whole : Table.Keyed ((.plain severityKey, level) :: options) :=
          List.nodup_cons.mpr ⟨absent, keyed⟩
        have found : (Mapping.ofFields fields).find? severityKey = some level := by
          rw [Mapping.find?_ofFields, Value.fieldOf?_eq_lookup, whole.lookup_eq_of_perm same]
          exact List.lookup_cons_self
        simp only [ofValue, found, Option.getD_some, Mapping.erase_ofFields]
  | @leftOut fields same errors =>
      have absentToo : .plain severityKey ∉ fields.map Prod.fst := fun member =>
        absent ((same.map Prod.fst).mem_iff.mp member)
      refine ⟨fields, same, ?_⟩
      have found : (Mapping.ofFields fields).find? severityKey = none := by
        rw [Mapping.find?_ofFields, Value.fieldOf?_eq_lookup,
          Table.lookup_eq_none_of_not_mem absentToo]
      simp only [ofValue, found, Option.getD_none, Mapping.erase_ofFields,
        filter_ne_severityKey absentToo, errors]

end

/-! ## Runners -/

namespace Runner

variable {entry other : Value}

/-- A checker depends on the level of its entry and on the configuration that the options give. -/
theorem buildChecker_congr {level : Value} {options others : Mapping}
    (read : RuleEntry.ofValue entry = RuleEntry.ofLevel level options)
    (readOther : RuleEntry.ofValue other = RuleEntry.ofLevel level others)
    (same : PolicyConfiguration.ofOptions options = PolicyConfiguration.ofOptions others) :
    buildChecker (Mapping.ofFields [(DirectiveEvidence.ruleName, entry)]) directiveRule =
      buildChecker (Mapping.ofFields [(DirectiveEvidence.ruleName, other)]) directiveRule := by
  have apply : ∀ severity,
      applyEntry (Checker.create directiveRule) ⟨severity, options⟩ =
        applyEntry (Checker.create directiveRule) ⟨severity, others⟩ := by
    intro severity
    cases severity with
    | none => rfl
    | some severity =>
        rw [applyEntry_directiveRule, applyEntry_directiveRule, same]
  simp only [buildChecker, find?_ruleName, Option.getD_some, read, readOther, RuleEntry.ofLevel]
  cases Severity.ofLevel level with
  | error fault => rfl
  | ok severity =>
      simp only [Logged.andThen, Logged.noting, Logged.quiet]
      rw [apply severity]

theorem buildCheckers_congr {options others : Mapping}
    (same : buildChecker options directiveRule = buildChecker others directiveRule) (count : Nat) :
    buildCheckers options (List.replicate count directiveRule) =
      buildCheckers others (List.replicate count directiveRule) := by
  induction count with
  | zero => rfl
  | succ count inductionHypothesis =>
      rw [List.replicate_succ, buildCheckers, buildCheckers, same, inductionHypothesis]

/-- An entry that is on and whose options are refused gives no runner. -/
theorem result_build_of_refused {severity : Severity} {options : Mapping} {failure : Failure}
    (read : RuleEntry.ofValue entry = .ok ⟨some severity, options⟩)
    (refused : PolicyConfiguration.ofOptions options = .error failure) :
    (build .standard (.object [(DirectiveEvidence.ruleName, entry)]) .null).result =
      .error failure := by
  have found : entryFor (Mapping.ofFields [(DirectiveEvidence.ruleName, entry)])
      directiveRule.name = .ok ⟨some severity, options⟩ := by
    rw [entryFor, find?_ruleName, Option.getD_some, read]
  have built : (buildChecker (Mapping.ofFields [(DirectiveEvidence.ruleName, entry)])
      directiveRule).result = .error failure := by
    rw [result_buildChecker, found, Except.bind, applyEntry_directiveRule, refused]
    rfl
  have one : Registry.standard.enabled = [directiveRule] := rfl
  change (ofMapping .standard (Mapping.ofFields [(DirectiveEvidence.ruleName, entry)])
    .null).result = _
  rw [ofMapping, checkNames_standard]
  simp only [Logged.andThen_result, Logged.quiet, selectRules, one, buildCheckers, built,
    Except.bind]

/-- Whatever rules are selected, a runner depends on the checker of the one rule. -/
theorem build_congr
    (same : buildChecker (Mapping.ofFields [(DirectiveEvidence.ruleName, entry)]) directiveRule =
      buildChecker (Mapping.ofFields [(DirectiveEvidence.ruleName, other)]) directiveRule)
    (selection : Value) :
    build .standard (.object [(DirectiveEvidence.ruleName, entry)]) selection =
      build .standard (.object [(DirectiveEvidence.ruleName, other)]) selection := by
  change ofMapping .standard (Mapping.ofFields [(DirectiveEvidence.ruleName, entry)]) selection =
    ofMapping .standard (Mapping.ofFields [(DirectiveEvidence.ruleName, other)]) selection
  rw [ofMapping, ofMapping, checkNames_standard, checkNames_standard]
  cases selected : selectRules .standard selection with
  | error failure => rfl
  | ok rules =>
      rcases selectRules_standard selected with ⟨count, rfl, _⟩
      simp only [Logged.andThen, Logged.quiet, buildCheckers_congr same]

end Runner

/-! ## Files -/

namespace RuleOptions

section

variable {tree : FileTree} {standpoint : Standpoint} {name text : String} {preset : Option String}
  {options fields : List (LooseText × Value)} {level : Value}

/-- A file whose text stands for an object is read as this object unless it goes beyond a limit. -/
theorem ofNamedFile_of_holds {limits : Json.Limits}
    (stands : Json.readWithin limits text = .ok (.object fields))
    (holds : Holds tree standpoint name text) :
    (Json.read text = .ok (.object fields) ∧
        ofNamedFile tree standpoint name = .ok (ofFields fields)) ∨
      ∃ fault limit, Json.read text = .error fault ∧ fault.cause = .beyond limit ∧
        ofNamedFile tree standpoint name = .error (.beyond limit) := by
  rcases holds with ⟨path, node, located, found, readable⟩
  simp only [ofNamedFile, located, ofFile, found, readable, ofText]
  rcases Json.readWithin_eq_or_beyond limits .default stands with read | ⟨fault, limit, read, cause⟩
  · have read : Json.read text = .ok (.object fields) := read
    rw [read]
    exact Or.inl ⟨rfl, rfl⟩
  · have read : Json.read text = .error fault := read
    rw [read]
    simp only [cause]
    exact Or.inr ⟨fault, limit, rfl, cause, rfl⟩

/-- The keys of a bare object are those of options and the key of the level. -/
theorem keys_of_spells (known : ∀ option ∈ options, option.1 ∈ PolicyConfiguration.optionKeys)
    (spells : RuleEntry.Spells level options (.object fields)) :
    ∀ field ∈ fields, field.1 ∈ PolicyConfiguration.optionKeys ∨
      field.1 = .plain RuleEntry.severityKey := by
  intro field member
  cases spells with
  | object same =>
      rcases List.mem_cons.mp (same.mem_iff.mp member) with rfl | inOptions
      · exact Or.inr rfl
      · exact Or.inl (known field inOptions)
  | leftOut same _ => exact Or.inl (known field (same.mem_iff.mp member))

/-- An object of entries has one entry, and it does not hold entries under a key once more. -/
theorem ofEntries_of_spells
    (known : ∀ option ∈ options, option.1 ∈ PolicyConfiguration.optionKeys)
    (spells : SpellsEntries level options fields) :
    Value.fieldOf? rulesKey fields = none ∧
      ∃ entry, RuleEntry.Spells level options entry ∧
        (if areDirectiveOptions fields then [(.plain DirectiveEvidence.ruleName, .object fields)]
          else fields) = [(.plain DirectiveEvidence.ruleName, entry)] := by
  cases spells with
  | @entry entry spells => exact ⟨rfl, entry, spells, rfl⟩
  | bare nonempty spells =>
      have keys := keys_of_spells known spells
      have noKey : .plain rulesKey ∉ fields.map Prod.fst := by
        intro member
        rcases List.mem_map.mp member with ⟨field, inFields, named⟩
        have impossible := keys field inFields
        rw [named] at impossible
        exact absurd impossible (by decide)
      have options : areDirectiveOptions fields = true := by
        simp only [areDirectiveOptions, Bool.and_eq_true, Bool.not_eq_true',
          List.isEmpty_eq_false_iff, List.all_eq_true, Bool.or_eq_true, List.contains_iff_mem,
          beq_iff_eq]
        exact ⟨nonempty, keys⟩
      rw [Value.fieldOf?_eq_lookup, Table.lookup_eq_none_of_not_mem noKey, if_pos options]
      exact ⟨rfl, _, spells, rfl⟩

theorem ofFields_of_spells
    (known : ∀ option ∈ options, option.1 ∈ PolicyConfiguration.optionKeys)
    (spells : Spells level options fields) :
    ∃ entry, RuleEntry.Spells level options entry ∧
      ofFields fields = [(.plain DirectiveEvidence.ruleName, entry)] := by
  cases spells with
  | entries spells =>
      rcases ofEntries_of_spells known spells with ⟨noKey, found⟩
      simpa only [ofFields, unwrap, noKey] using found
  | underKey found spells =>
      simpa only [ofFields, unwrap, found] using (ofEntries_of_spells known spells).2

theorem exists_ofOptionalPreset (isKnown : IsKnownPreset preset) :
    ∃ entries, ofOptionalPreset preset = .ok entries := by
  cases preset with
  | none => exact ⟨[], rfl⟩
  | some name =>
      simp only [ofOptionalPreset, ofPreset]
      cases found : PolicyConfiguration.presets.lookup name with
      | none =>
          rcases List.mem_map.mp (isKnown name rfl) with ⟨preset, member, rfl⟩
          have differs := List.lookup_eq_none_iff.mp found preset member
          exact absurd rfl (bne_iff_ne.mp differs)
      | some preset => exact ⟨_, rfl⟩

theorem exists_unknownPreset (notKnown : ¬IsKnownPreset preset) :
    ∃ unknown ∈ preset, ofOptionalPreset preset = .error (.configuration
      (.unknownPreset unknown (PolicyConfiguration.presets.map Prod.fst))) := by
  unfold IsKnownPreset at notKnown
  push Not at notKnown
  rcases notKnown with ⟨unknown, named, absent⟩
  refine ⟨unknown, named, ?_⟩
  cases named
  have missing : PolicyConfiguration.presets.lookup unknown = none :=
    List.lookup_eq_none_iff.mpr fun preset member =>
      bne_iff_ne.mpr fun same => absent (same ▸ List.mem_map_of_mem member)
  simp only [ofOptionalPreset, ofPreset, missing]

/-- The entry of a file takes the place of that of a preset. -/
theorem update_ofOptionalPreset {entries : List (LooseText × Value)} {entry : Value}
    (taken : ofOptionalPreset preset = .ok entries) :
    update entries [(.plain DirectiveEvidence.ruleName, entry)] =
      [(.plain DirectiveEvidence.ruleName, entry)] := by
  cases preset with
  | none =>
      cases taken
      rfl
  | some name =>
      simp only [ofOptionalPreset, ofPreset] at taken
      cases named : PolicyConfiguration.presets.lookup name with
      | none =>
          rw [named] at taken
          cases taken
      | some found =>
          rw [named] at taken
          cases taken
          rfl

/-- The runner of a file that spells a level and options, which may as well have been a list of
both, unless the file goes beyond a limit. -/
theorem runner_of_spellsText (keyed : Table.Keyed options)
    (known : ∀ option ∈ options, option.1 ∈ PolicyConfiguration.optionKeys)
    (spells : SpellsText level options text) (holds : Holds tree standpoint name text)
    {entries : List (LooseText × Value)} (taken : ofOptionalPreset preset = .ok entries)
    (selection : Value) :
    ((∃ value, Json.read text = .ok value) ∧
      runner tree standpoint (some name) preset selection =
        .ok (Runner.build .standard
          (.object [(.plain DirectiveEvidence.ruleName, .list [level, .object options])])
            selection)) ∨
      ∃ fault limit, Json.read text = .error fault ∧ fault.cause = .beyond limit ∧
        runner tree standpoint (some name) preset selection = .error (.beyond limit) := by
  rcases spells with ⟨limits, fields, stands, spells⟩
  rcases ofFields_of_spells known spells with ⟨entry, spelled, single⟩
  rcases RuleEntry.ofValue_of_spells keyed known spelled with ⟨others, same, read⟩
  have listed : RuleEntry.ofValue (.list [level, .object options]) =
      RuleEntry.ofLevel level (Mapping.ofFields options) := rfl
  have built := Runner.build_congr (Runner.buildChecker_congr read listed
    (PolicyConfiguration.ofOptions_eq_of_perm keyed known same)) selection
  unfold runner load
  rw [taken]
  rcases ofNamedFile_of_holds stands holds with ⟨read, opened⟩ | ⟨fault, limit, read, cause, opened⟩
  · left
    simp only [opened, single, update_ofOptionalPreset taken, Except.map, built]
    exact ⟨⟨_, read⟩, trivial⟩
  · right
    simp only [opened, Except.map]
    exact ⟨fault, limit, read, cause, rfl⟩

theorem runner_of_read (keyed : Table.Keyed options)
    (known : ∀ option ∈ options, option.1 ∈ PolicyConfiguration.optionKeys)
    (spells : SpellsText level options text) (holds : Holds tree standpoint name text)
    {entries : List (LooseText × Value)} (taken : ofOptionalPreset preset = .ok entries)
    (selection : Value) (read : ∃ value, Json.read text = .ok value) :
    runner tree standpoint (some name) preset selection =
      .ok (Runner.build .standard
        (.object [(.plain DirectiveEvidence.ruleName, .list [level, .object options])])
          selection) := by
  rcases runner_of_spellsText keyed known spells holds taken selection with
    ⟨_, here⟩ | ⟨fault, _, stopped, _⟩
  · exact here
  · rcases read with ⟨value, read⟩
    rw [read] at stopped
    cases stopped

end

/-- All files that spell the same level and options come to the same, whichever known presets there
are: to a runner, or to the reason why there is none.  The one exception are files whose text goes
beyond a limit of the reader, and they come to nothing but this.  With a preset that is not known
there are no options in any case. -/
theorem runner_eq_of_spells {options : List (LooseText × Value)} {level : Value}
    (keyed : Table.Keyed options)
    (known : ∀ option ∈ options, option.1 ∈ PolicyConfiguration.optionKeys) (selection : Value) :
    ∃ built, ∀ text, SpellsText level options text → ∀ tree standpoint name,
      Holds tree standpoint name text → ∀ preset,
        (IsKnownPreset preset →
          ((∃ value, Json.read text = .ok value) ∧
            runner tree standpoint (some name) preset selection = .ok built) ∨
          ∃ fault limit, Json.read text = .error fault ∧ fault.cause = .beyond limit ∧
            runner tree standpoint (some name) preset selection = .error (.beyond limit)) ∧
        (¬IsKnownPreset preset → ∃ unknown ∈ preset,
          runner tree standpoint (some name) preset selection = .error (.configuration
            (.unknownPreset unknown (PolicyConfiguration.presets.map Prod.fst)))) := by
  refine ⟨Runner.build .standard (.object
      [(.plain DirectiveEvidence.ruleName, .list [level, .object options])]) selection,
    fun text spells tree standpoint name holds preset => ⟨fun isKnown => ?_, ?_⟩⟩
  · rcases exists_ofOptionalPreset isKnown with ⟨entries, taken⟩
    exact runner_of_spellsText keyed known spells holds taken selection
  · intro notKnown
    rcases exists_unknownPreset notKnown with ⟨unknown, named, refused⟩
    refine ⟨unknown, named, ?_⟩
    rw [runner, load, refused]
    rfl

/-- A list of a level and options. -/
def listText : String :=
  "\x7b\"ban-ts-comment\": [\"warn\", \x7b\"ts-ignore\": \x7b\x7d, \"ts-check\": 7\x7d]\x7d"

/-- The options with the level among them, under the key for entries. -/
def bareText : String :=
  "\x7b\"rules\": \x7b\"ts-check\": 7, \"severity\": \"warn\", \"ts-ignore\": \x7b\x7d\x7d\x7d"

/-- Options of which one is accepted and one refused. -/
def spelledOptions : List (LooseText × Value) :=
  [("ts-ignore", .object []), ("ts-check", .integer 7)]

def spelledTree : FileTree :=
  .directory [("list.json", .file (Text.encodeUtf8 listText)),
    ("bare.json", .file (Text.encodeUtf8 bareText))]

/-- A file that was written with a text holds the text. -/
theorem holds_of_file (path : FilePath) {tree : FileTree} {standpoint : Standpoint}
    {name text : String} (located : standpoint.locate name = .ok path)
    (found : tree.seek path = .ok (some (.file (Text.encodeUtf8 text))))
    (bytes : tree.read path = .ok (Text.encodeUtf8 text)) (noReturn : '\r' ∉ text.toList) :
    Holds tree standpoint name text := by
  refine ⟨path, _, located, found, ?_⟩
  simp only [FileTree.readText, bytes, FileTree.textOf_encodeUtf8 noReturn]

theorem keyed_spelledOptions : Table.Keyed spelledOptions := by
  unfold Table.Keyed
  decide +kernel

/-- The texts are what is printed for their values, and so they are read as these. -/
theorem read_listText : Json.read listText = .ok (.object
    [("ban-ts-comment", .list [.text "warn", .object spelledOptions])]) := by
  have options : Json.Readable Number.digitLimit 2 (.object spelledOptions) := by
    refine .object 1 _ keyed_spelledOptions (by decide) ?_
    simp only [spelledOptions, List.forall_mem_cons, List.not_mem_nil, false_imp_iff, implies_true,
      and_true]
    exact ⟨.object 0 [] List.nodup_nil nofun nofun, .integer 1 7 (by decide)⟩
  have entry : Json.Readable Number.digitLimit 3 (.list [.text "warn", .object spelledOptions]) :=
    .list 2 _ (by simpa using ⟨.text 2 "warn" rfl, options⟩)
  have printed : listText = Json.print (.object
      [("ban-ts-comment", .list [.text "warn", .object spelledOptions])]) := by
    decide +kernel
  rw [printed]
  exact (entry.single rfl).readWithin_print (by decide)

/-- The same options with the level among them, in another order. -/
def bareFields : List (LooseText × Value) :=
  [("ts-check", .integer 7), ("severity", .text "warn"), ("ts-ignore", .object [])]

theorem read_bareText : Json.read bareText = .ok (.object [("rules", .object bareFields)]) := by
  have fields : Json.Readable Number.digitLimit 2 (.object bareFields) := by
    have keyed : Table.Keyed bareFields := by
      unfold Table.Keyed
      decide +kernel
    refine .object 1 _ keyed (by decide) ?_
    simp only [bareFields, List.forall_mem_cons, List.not_mem_nil, false_imp_iff, implies_true,
      and_true]
    exact ⟨.integer 1 7 (by decide), .text 1 "warn" rfl, .object 0 [] List.nodup_nil nofun nofun⟩
  have printed : bareText = Json.print (.object [("rules", .object bareFields)]) := by
    decide +kernel
  rw [printed]
  exact (fields.single rfl).readWithin_print (by decide)

theorem runner_eq_of_spells_wrapped :
    ∃ built,
      runner spelledTree ⟨[], []⟩ (some "list.json") none .null = .ok built ∧
        runner spelledTree ⟨[], []⟩ (some "bare.json") (some "strict") .null = .ok built := by
  have known : ∀ option ∈ spelledOptions, option.1 ∈ PolicyConfiguration.optionKeys := by
    intro option member
    simp only [spelledOptions, List.mem_cons, List.not_mem_nil, or_false] at member
    rcases member with rfl | rfl <;> decide +kernel
  have isKnown : IsKnownPreset (some "strict") := by
    rintro name ⟨⟩
    decide +kernel
  have bare : RuleEntry.Spells (.text "warn") spelledOptions (.object bareFields) :=
    .object ((List.Perm.swap _ _ _).trans (.cons _ (.swap _ _ _)))
  have spellsList : SpellsText (.text "warn") spelledOptions listText :=
    ⟨.default, _, read_listText, .entries (.entry (.pair (.refl _)))⟩
  have spellsBare : SpellsText (.text "warn") spelledOptions bareText :=
    ⟨.default, _, read_bareText, .underKey rfl (.bare (List.cons_ne_nil _ _) bare)⟩
  rcases runner_eq_of_spells keyed_spelledOptions known .null with ⟨built, same⟩
  refine ⟨built, ?_, ?_⟩
  · rcases (same listText spellsList spelledTree ⟨[], []⟩ "list.json"
      (holds_of_file ["list.json"] (by decide +kernel) rfl rfl (by decide +kernel))
      none).1 nofun with ⟨_, here⟩ | ⟨fault, _, stopped, _⟩
    · exact here
    · rw [read_listText] at stopped
      cases stopped
  · rcases (same bareText spellsBare spelledTree ⟨[], []⟩ "bare.json"
      (holds_of_file ["bare.json"] (by decide +kernel) rfl rfl (by decide +kernel))
      (some "strict")).1 isKnown with ⟨_, here⟩ | ⟨fault, _, stopped, _⟩
    · exact here
    · rw [read_bareText] at stopped
      cases stopped

/-! ### Beyond a limit -/

/-- Lists inside of each other around an empty one. -/
def nestedLists : Nat → Value
  | 0 => .list []
  | count + 1 => .list [nestedLists count]

theorem readable_nestedLists (limit count : Nat) :
    Json.Readable limit (count + 1) (nestedLists count) := by
  induction count with
  | zero => exact .list 0 [] (by simp)
  | succ count inductionHypothesis => exact .list (count + 1) _ (by simpa using inductionHypothesis)

theorem isTooDeep_nestedLists {limits : Json.Limits} {levels count : Nat} (deep : levels ≤ count) :
    Json.IsTooDeep limits levels (nestedLists count) := by
  induction levels generalizing count with
  | zero =>
      cases count with
      | zero => exact .list []
      | succ count => exact .list [nestedLists count]
  | succ levels inductionHypothesis =>
      rcases Nat.exists_eq_add_one_of_ne_zero (Nat.ne_zero_of_lt deep) with ⟨count, rfl⟩
      exact (inductionHypothesis (Nat.le_of_succ_le_succ deep)).single

/-- Options of which one has lists where a pattern belongs. -/
def deepOptions (count : Nat) : List (LooseText × Value) :=
  [("ts-ignore", .object [("descriptionFormat", nestedLists count)])]

/-- The entries with a list of the level and the options, under the key for entries. -/
def deepWrapped (count : Nat) : Value :=
  .object [("rules", .object [("ban-ts-comment",
    .list [.text "error", .object (deepOptions count)])])]

/-- A file with the options alone, where the level of errors is left out, and a file in which they
are wrapped. -/
def deepTree (count : Nat) : FileTree :=
  .directory [("bare.json", .file (Text.encodeUtf8 (Json.print (.object (deepOptions count))))),
    ("wrapped.json", .file (Text.encodeUtf8 (Json.print (deepWrapped count))))]

theorem readable_deepOptions (limit count : Nat) :
    Json.Readable limit (count + 3) (.object (deepOptions count)) :=
  ((readable_nestedLists limit count).single rfl).single rfl

theorem readable_deepWrapped (limit count : Nat) :
    Json.Readable limit (count + 6) (deepWrapped count) := by
  have level : Json.Readable limit (count + 3) (.text "error") := .text _ _ rfl
  have entry : Json.Readable limit (count + 4)
      (.list [.text "error", .object (deepOptions count)]) :=
    .list (count + 3) _ (by simpa using ⟨level, readable_deepOptions limit count⟩)
  exact (entry.single rfl).single rfl

/-- Around the lists there are two more values, and three more where the options are wrapped. -/
theorem isTooDeep_deepWrapped {limits : Json.Limits} {levels count : Nat} (deep : levels ≤ count) :
    Json.IsTooDeep limits (levels + 5) (deepWrapped count) := by
  have level : Json.Readable limits.digits (levels + 2) (.text "error") := .text _ _ (by decide)
  have options : Json.IsTooDeep limits (levels + 2) (.object (deepOptions count)) :=
    ((isTooDeep_nestedLists deep).field rfl).field rfl
  exact ((options.second level.readsBack level.startsValue).field rfl).field rfl

theorem spells_deepOptions (count : Nat) :
    SpellsText (.text "error") (deepOptions count) (Json.print (.object (deepOptions count))) :=
  ⟨⟨0, count + 3⟩, _, (readable_deepOptions 0 count).readWithin_print (Nat.le_refl _),
    .entries (.bare (List.cons_ne_nil _ _) (.leftOut (.refl _) rfl))⟩

theorem spells_deepWrapped (count : Nat) :
    SpellsText (.text "error") (deepOptions count) (Json.print (deepWrapped count)) :=
  ⟨⟨0, count + 6⟩, _, (readable_deepWrapped 0 count).readWithin_print (Nat.le_refl _),
    .underKey rfl (.entry (.pair (.refl _)))⟩

/-- A file that was written with what is printed for a value holds it. -/
theorem holds_print (path : FilePath) {tree : FileTree} {standpoint : Standpoint} {name : String}
    {value : Value} (located : standpoint.locate name = .ok path)
    (found : tree.seek path = .ok (some (.file (Text.encodeUtf8 (Json.print value)))))
    (bytes : tree.read path = .ok (Text.encodeUtf8 (Json.print value))) :
    Holds tree standpoint name (Json.print value) := by
  refine holds_of_file path located found bytes fun member => ?_
  rw [Json.print, String.toList_ofList] at member
  exact absurd (Json.arePlain_printValue value '\r' member) (by decide)

theorem keys_deepOptions (count : Nat) :
    ∀ option ∈ deepOptions count, option.1 ∈ PolicyConfiguration.optionKeys := by
  simp only [deepOptions, List.forall_mem_singleton]
  decide +kernel

/-- No pattern is a list, however deep. -/
theorem result_build_deepOptions (count : Nat) :
    (Runner.build .standard (.object [(.plain DirectiveEvidence.ruleName,
      .list [.text "error", .object (deepOptions count)])]) .null).result =
        .error (.configuration (.formatNotText "ts-ignore")) := by
  refine Runner.result_build_of_refused (by rfl) ?_
  rw [PolicyConfiguration.ofOptions_eq_bind,
    PolicyConfiguration.checkKeys_ofFields (keys_deepOptions count)]
  cases count <;> rfl

/-- Options that go up to the limit of the reader are read and refused on their own, but not read
any more where they are wrapped. -/
theorem runner_of_spells_deep :
    SpellsText (.text "error") (deepOptions 985) (Json.print (.object (deepOptions 985))) ∧
      SpellsText (.text "error") (deepOptions 985) (Json.print (deepWrapped 985)) ∧
      Holds (deepTree 985) ⟨[], []⟩ "bare.json" (Json.print (.object (deepOptions 985))) ∧
      Holds (deepTree 985) ⟨[], []⟩ "wrapped.json" (Json.print (deepWrapped 985)) ∧
      (∃ built, runner (deepTree 985) ⟨[], []⟩ (some "bare.json") none .null = .ok built ∧
        built.result = .error (.configuration (.formatNotText "ts-ignore"))) ∧
      runner (deepTree 985) ⟨[], []⟩ (some "wrapped.json") none .null =
        .error (.beyond .nesting) := by
  have bare : Holds (deepTree 985) ⟨[], []⟩ "bare.json" (Json.print (.object (deepOptions 985))) :=
    holds_print ["bare.json"] (by decide +kernel) rfl rfl
  have wrapped : Holds (deepTree 985) ⟨[], []⟩ "wrapped.json" (Json.print (deepWrapped 985)) :=
    holds_print ["wrapped.json"] (by decide +kernel) rfl rfl
  have keyed : Table.Keyed (deepOptions 985) := by simp [Table.Keyed, deepOptions]
  have known := keys_deepOptions 985
  have readBare : Json.read (Json.print (.object (deepOptions 985))) = _ :=
    (readable_deepOptions _ 985).readWithin_print (Nat.le_refl 988)
  have deep : Json.IsTooDeep .default Json.Limits.default.nesting (deepWrapped 985) :=
    isTooDeep_deepWrapped (show 983 ≤ 985 by decide)
  have noPreset : ofOptionalPreset none = .ok [] := rfl
  refine ⟨spells_deepOptions 985, spells_deepWrapped 985, bare, wrapped,
    ⟨_, runner_of_read keyed known (spells_deepOptions 985) bare noPreset .null ⟨_, readBare⟩,
      result_build_deepOptions 985⟩, ?_⟩
  rcases deep.readWithin_print with ⟨fault, stopped, cause⟩
  have stopped : Json.read (Json.print (deepWrapped 985)) = .error fault := stopped
  rcases runner_of_spellsText keyed known (spells_deepWrapped 985) wrapped noPreset .null with
    ⟨⟨value, read⟩, _⟩ | ⟨other, limit, read, beyond, here⟩
  · rw [stopped] at read
    cases read
  · rw [stopped] at read
    cases read
    rw [cause] at beyond
    cases beyond
    exact here

end RuleOptions

/-! ## The command -/

namespace CommandLine

open RuleOptions (SpellsText Holds)

theorem Lint.prepare_eq_runner (tree : FileTree) (standpoint : Standpoint)
    (arguments : LintArguments) :
    prepare tree standpoint arguments =
      match RuleOptions.runner tree standpoint arguments.config arguments.preset
        (match arguments.checkers with
          | some names => .list (names.map fun (name : String) => .text name)
          | none => .null) with
      | .error fault => .quiet (.error (stopOfOptions fault))
      | .ok built => withStop built := by
  unfold prepare RuleOptions.runner
  cases RuleOptions.load tree standpoint arguments.config arguments.preset <;> rfl

/-- The command that lints does the same with either of two files that are read and spell the same
level and options. -/
theorem lint_eq_of_spells {options : List (LooseText × Value)} {level : Value}
    (keyed : Table.Keyed options)
    (known : ∀ option ∈ options, option.1 ∈ PolicyConfiguration.optionKeys)
    {text other : String} (spells : SpellsText level options text)
    (spellsToo : SpellsText level options other)
    (read : ∃ value, Json.read text = .ok value) (readToo : ∃ value, Json.read other = .ok value)
    {tree : FileTree} {standpoint : Standpoint} {name otherName : String}
    (holds : Holds tree standpoint name text) (holdsToo : Holds tree standpoint otherName other)
    (arguments : LintArguments) :
    lint tree standpoint { arguments with config := some name } =
      lint tree standpoint { arguments with config := some otherName } := by
  have runners : ∀ selection,
      RuleOptions.runner tree standpoint (some name) arguments.preset selection =
        RuleOptions.runner tree standpoint (some otherName) arguments.preset selection := by
    intro selection
    cases taken : RuleOptions.ofOptionalPreset arguments.preset with
    | error fault => simp only [RuleOptions.runner, RuleOptions.load, taken]
    | ok entries =>
        rw [RuleOptions.runner_of_read keyed known spells holds taken selection read,
          RuleOptions.runner_of_read keyed known spellsToo holdsToo taken selection readToo]
  have prepared : Lint.prepare tree standpoint { arguments with config := some name } =
      Lint.prepare tree standpoint { arguments with config := some otherName } := by
    simp only [Lint.prepare_eq_runner, runners]
  have results : Lint.results tree standpoint { arguments with config := some name } =
      Lint.results tree standpoint { arguments with config := some otherName } := by
    unfold Lint.results
    rw [prepared]
    rfl
  unfold lint
  rw [results]
  rfl

end CommandLine
end DirectiveLint
