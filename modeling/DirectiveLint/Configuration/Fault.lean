import DirectiveLint.Diagnostic.Severity
import DirectiveLint.Directive.Basic
import DirectiveLint.Json.Fault
import DirectiveLint.Pattern.Fault

/-!
# Faults of configurations

Each way in which a configuration can be wrong has a message and, where one
option is to blame, that option's key.
-/

namespace DirectiveLint

/-- What is wrong with a configuration. -/
inductive ConfigurationFault
  | unknownOptions (first : LooseText) (others : List LooseText)
  | minimumNotNumber (value : Value)
  | minimumNegative
  | unexpectedProperties (key : String) (properties : List LooseText)
  | formatNotText (key : String)
  | unknownPolicy (key : String) (value : Value)
  | invalidPattern (key : String) (pattern : List Letter) (fault : Pattern.Fault)
  | entryShape (entry : Value)
  | level (fault : LevelFault)
  | optionsForUnknownCheckers (names : List LooseText)
  | unknownChecker (name : Value)
  | unknownPreset (name : String) (presets : List String)
  | notJson (path : String) (fault : Json.Fault)
  | notObject (path : String)
  | ofRule (message : LooseText) (key : String)
  deriving Repr

namespace ConfigurationFault

/-- The key of the least description length among options. -/
def minimumKey : String := "minimumDescriptionLength"

/-- The key of the pattern in the policy of a directive. -/
def formatKey : String := "descriptionFormat"

/-- The policy that asks for a description. -/
def allowWithDescription : String := "allow-with-description"

/-- A key in quotation marks. -/
def inQuotes (key : String) : String :=
  "\"" ++ key ++ "\""

/-- The values that the wording of a fault shows. -/
def shownValues : ConfigurationFault → List Value
  | minimumNotNumber value => [value]
  | unknownPolicy _ value => [value]
  | entryShape entry => [entry]
  | unknownChecker name => [name]
  | _ => []

/-- The wording of a fault. -/
def message : ConfigurationFault → LooseText
  | unknownOptions first others =>
    "unknown option(s): " ++ LooseText.intercalate ", " (first :: others)
  | minimumNotNumber value => minimumKey ++ " must be a number, got " ++ value.written
  | minimumNegative => minimumKey ++ " must not be negative"
  | unexpectedProperties key properties =>
    inQuotes key ++ ": unexpected properties " ++
      (Value.list (properties.map Value.text)).written
  | formatNotText key => inQuotes key ++ ": " ++ formatKey ++ " must be a string"
  | unknownPolicy key value =>
    inQuotes key ++ ": expected a boolean, " ++ inQuotes allowWithDescription ++ " or \x7b" ++
      inQuotes formatKey ++ ": ...\x7d, got " ++ value.written
  | invalidPattern key pattern fault =>
    "invalid pattern for " ++ inQuotes key ++ ": " ++ fault.message pattern
  | entryShape entry => "rule entry must be [level, options]: " ++ entry.written
  | level fault => fault.message
  | optionsForUnknownCheckers names =>
    "options for unknown checker(s): " ++ LooseText.intercalate ", " names
  | unknownChecker name => "unknown checker: " ++ name.shown
  | unknownPreset name presets =>
    "unknown preset " ++ Text.quoted name ++ " (choose from " ++
      Value.commaSeparated presets ++ ")"
  | notJson path fault => path ++ ": not valid JSON: " ++ fault.message
  | notObject path => path ++ ": expected a JSON object"
  | ofRule message _ => message

/-- The key of the option at fault; nothing where none can be named. -/
def key : ConfigurationFault → Value
  | unknownOptions first _ => .text first
  | minimumNotNumber _ => .text minimumKey
  | minimumNegative => .text minimumKey
  | unexpectedProperties key _ => .text key
  | formatNotText key => .text key
  | unknownPolicy key _ => .text key
  | invalidPattern key _ _ => .text key
  | entryShape _ => .null
  | level _ => .text "severity"
  | optionsForUnknownCheckers _ => .null
  | unknownChecker name => name
  | unknownPreset _ _ => .text "preset"
  | notJson _ _ => .null
  | notObject _ => .null
  | ofRule _ key => .text key

end ConfigurationFault
end DirectiveLint
