import DirectiveLint.Value.Mapping
import DirectiveLint.Value.Written

/-!
# Severities and rule levels

A rule level chooses the severity of what a rule reports, or switches the rule
off.  Levels are written as words or as the numbers zero, one and two; truth
values are not levels.
-/

namespace DirectiveLint

inductive Severity
  | error
  | warning
  | information
  deriving DecidableEq, Repr

namespace Severity

def all : List Severity := [error, warning, information]

def name : Severity → String
  | error => "error"
  | warning => "warning"
  | information => "information"

def ofName? (name : String) : Option Severity :=
  all.find? (·.name == name)

end Severity

/-- Why a value is not a rule level. -/
inductive LevelFault
  | unknown (level : Value)
  | unhashable (level : Value)
  deriving Repr

namespace LevelFault

/-- The wording of a fault.  A level that cannot be written is refused for its length. -/
def message : LevelFault → String
  | unknown level =>
    match level.written? with
    | some text => "unknown rule level: " ++ text
    | none => Number.digitLimitText
  | unhashable level => (ConversionFault.unhashable level).message

end LevelFault

namespace Severity

/-- The levels with the severities they choose; nothing stands for a rule that is off. -/
def levels : List (Value × Option Severity) :=
  [(.text "off", none), (.integer 0, none), (.text "warn", some warning),
    (.text "warning", some warning), (.integer 1, some warning), (.text "error", some error),
    (.integer 2, some error)]

/-- The severity that a level chooses. -/
def ofLevel (level : Value) : Except LevelFault (Option Severity) :=
  match level with
  | .boolean _ => .error (.unknown level)
  | .list _ => .error (.unhashable level)
  | .object _ => .error (.unhashable level)
  | _ =>
    match levels.find? (·.1.same level) with
    | some (_, severity) => .ok severity
    | none => .error (.unknown level)

end Severity
end DirectiveLint
