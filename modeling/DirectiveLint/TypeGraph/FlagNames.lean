import DirectiveLint.TypeGraph.Flags
import DirectiveLint.Value.Mapping
import DirectiveLint.Value.Written

/-!
# Flags from names

A list of names stands for the set of the members so named, whatever the order
of the names and however often they occur.  The first name that no member has is
at fault.
-/

namespace DirectiveLint

/-- Why a value does not name flags. -/
inductive FlagNameFault
  | unknown (name : Value)
  | conversion (fault : ConversionFault)
  deriving Repr

namespace FlagNameFault

/-- The values that the wording of a fault shows. -/
def shownValues : FlagNameFault → List Value
  | unknown name => [name]
  | conversion _ => []

/-- The name at fault, or what is wrong with it. -/
def message : FlagNameFault → String
  | unknown name => name.written
  | conversion fault => fault.message

end FlagNameFault

/-- Why a value describes no set of flags. -/
inductive FlagFault
  | names (fault : FlagNameFault)
  | tooManyDigits
  deriving Repr

namespace Flags

variable {Flag : Type} [FlagKind Flag]

/-- The member that a value names. -/
def memberOf (name : Value) : Except FlagNameFault Flag :=
  match name with
  | .text text =>
    match member? text with
    | some flag => .ok flag
    | none => .error (.unknown name)
  | other =>
    match other.asKey with
    | .ok key => .error (.unknown key)
    | .error fault => .error (.conversion fault)

/-- The members that values name. -/
def membersOf : List Value → Except FlagNameFault (List Flag)
  | [] => .ok []
  | name :: rest =>
    match memberOf name with
    | .error fault => .error fault
    | .ok flag =>
      match membersOf rest with
      | .error fault => .error fault
      | .ok flags => .ok (flag :: flags)

/-- The set of the members that values name. -/
def ofNames (names : List Value) : Except FlagNameFault (Flags Flag) :=
  match membersOf names with
  | .ok members => .ok (ofList members)
  | .error fault => .error fault

/-- The set that a number describes. -/
def ofNumber (number : Int) : Except FlagFault (Flags Flag) :=
  match ofInt? number with
  | some flags => .ok flags
  | none => .error .tooManyDigits

/-- The set that a value without a number describes: one name, or several. -/
def ofNameValue (value : Value) : Except FlagNameFault (Flags Flag) :=
  match value with
  | .text name => ofNames [.text name]
  | other =>
    match other.elements with
    | .ok names => ofNames names
    | .error fault => .error (.conversion fault)

/-- The set that a value describes: a number, one name, or several. -/
def ofValue (value : Value) : Except FlagFault (Flags Flag) :=
  match value.toInteger? with
  | some number => ofNumber number
  | none =>
    match ofNameValue value with
    | .ok flags => .ok flags
    | .error fault => .error (.names fault)

end Flags
end DirectiveLint
