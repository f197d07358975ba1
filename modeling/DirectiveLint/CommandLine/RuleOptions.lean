import DirectiveLint.Checker.DirectiveRule
import DirectiveLint.Checker.RuleEntry
import DirectiveLint.FileTree.ReadText
import DirectiveLint.Json.Reader

/-!
# Rule options

The options of the rules come from a preset and from a configuration file, whose
entries take the place of those of the preset.  The file holds an object of rule
entries, perhaps under a key for them.  An object that has only keys of the rule
for directives stands for the entry of that rule.
-/

namespace DirectiveLint

/-- Why there are no rule options. -/
inductive RuleOptionsFault
  | configuration (fault : ConfigurationFault)
  | missing (path : FilePath)
  | unreadable (fault : TextFault)
  | beyond (limit : Json.Limit)
  deriving Repr

namespace RuleOptions

/-- The entries of a preset. -/
def ofPreset (name : String) : Except ConfigurationFault (List (LooseText × Value)) :=
  match PolicyConfiguration.presets.lookup name with
  | some (level, options) =>
    .ok [(DirectiveEvidence.ruleName, .list [.text level, .object options])]
  | none => .error (.unknownPreset name (PolicyConfiguration.presets.map (·.1)))

/-- The key under which entries may stand. -/
def rulesKey : String := "rules"

/-- The fields under the key for entries, if they are there, or else all fields. -/
def unwrap (fields : List (LooseText × Value)) : List (LooseText × Value) :=
  match Value.fieldOf? rulesKey fields with
  | some (.object rules) => rules
  | _ => fields

/-- Whether fields are the options of the rule for directives. -/
def areDirectiveOptions (fields : List (LooseText × Value)) : Bool :=
  !fields.isEmpty &&
    fields.all fun field =>
      PolicyConfiguration.optionKeys.contains field.1 || field.1 == .plain RuleEntry.severityKey

/-- The entries that the fields of a configuration stand for. -/
def ofFields (fields : List (LooseText × Value)) : List (LooseText × Value) :=
  let fields := unwrap fields
  if areDirectiveOptions fields then [(DirectiveEvidence.ruleName, .object fields)] else fields

/-- The entries of a configuration text; faults name its path. -/
def ofText (path text : String) : Except RuleOptionsFault (List (LooseText × Value)) :=
  match Json.read text with
  | .ok (.object fields) => .ok (ofFields fields)
  | .ok _ => .error (.configuration (.notObject path))
  | .error fault =>
    match fault.cause with
    | .beyond limit => .error (.beyond limit)
    | _ => .error (.configuration (.notJson path fault))

/-- The entries of the configuration file at a path. -/
def ofFile (tree : FileTree) (path : FilePath) :
    Except RuleOptionsFault (List (LooseText × Value)) :=
  match tree.seek path with
  | .error fault => .error (.unreadable (.file fault))
  | .ok none => .error (.missing path)
  | .ok (some _) =>
    match tree.readText path with
    | .error fault => .error (.unreadable fault)
    | .ok text => ofText path.text text

/-- The entries of the configuration file that a text names. -/
def ofNamedFile (tree : FileTree) (standpoint : Standpoint) (name : String) :
    Except RuleOptionsFault (List (LooseText × Value)) :=
  match standpoint.locate name with
  | .error fault => .error (.unreadable (.file fault))
  | .ok path => ofFile tree path

/-- Entries with others in their place. -/
def update (entries others : List (LooseText × Value)) : List (LooseText × Value) :=
  others.foldl (fun entries entry => Value.putField entry.1 entry.2 entries) entries

/-- The entries of a preset, if one is named. -/
def ofOptionalPreset (preset : Option String) :
    Except RuleOptionsFault (List (LooseText × Value)) :=
  match preset with
  | none => .ok []
  | some name =>
    match ofPreset name with
    | .ok entries => .ok entries
    | .error fault => .error (.configuration fault)

/-- The entries of a preset and of a configuration file. -/
def load (tree : FileTree) (standpoint : Standpoint) (config preset : Option String) :
    Except RuleOptionsFault (List (LooseText × Value)) :=
  match ofOptionalPreset preset with
  | .error fault => .error fault
  | .ok entries =>
    match config with
    | none => .ok entries
    | some name =>
      match ofNamedFile tree standpoint name with
      | .ok others => .ok (update entries others)
      | .error fault => .error fault

end RuleOptions
end DirectiveLint
