import DirectiveLint.Json.Fault
import DirectiveLint.TypeGraph.FlagNames

/-!
# Faults of type dumps

Faults of a dump are reported to the user.  Some values that no dump should hold
stop the reading in another way.
-/

namespace DirectiveLint

/-- What is wrong with a dump. -/
inductive DumpFault
  | notJson (path : String) (fault : Json.Fault)
  | withoutTypes
  | withoutId (entry : Value)
  | idNotInteger (value : Value)
  | duplicateId (id : Int)
  | missingFlags (id : Int)
  | unknownFlag (id : Int) (kind : String) (fault : FlagNameFault)
  | emptyFlags (id : Int)
  | unknownReference (owner : Int) (reference : Value)
  deriving Repr

namespace DumpFault

/-- The values that the wording of a fault shows. -/
def shownValues : DumpFault → List Value
  | notJson _ _ => []
  | withoutTypes => []
  | withoutId entry => [entry]
  | idNotInteger value => [value]
  | duplicateId id => [.integer id]
  | missingFlags id => [.integer id]
  | unknownFlag id _ fault => .integer id :: fault.shownValues
  | emptyFlags id => [.integer id]
  | unknownReference owner reference => [.integer owner, reference]

/-- A message on a type. -/
def onType (id : Int) (message : String) : String :=
  "type " ++ toString id ++ ": " ++ message

/-- The wording of a fault. -/
def message : DumpFault → String
  | notJson path fault => path ++ ": not valid JSON: " ++ fault.message
  | withoutTypes => "type dump must be an object with a \"types\" list"
  | withoutId entry => "type entry without an id: " ++ entry.written
  | idNotInteger value => "type id must be an integer: " ++ value.written
  | duplicateId id => "duplicate type id " ++ toString id
  | missingFlags id => onType id "missing flags"
  | unknownFlag id kind fault =>
    onType id ("unknown " ++ kind ++ " member " ++ fault.message)
  | emptyFlags id => onType id "flags must not be empty"
  | unknownReference owner reference =>
    onType owner ("reference to unknown type id " ++ reference.written)

end DumpFault

/-- Why a dump was not read. -/
inductive DumpFailure
  | malformed (fault : DumpFault)
  | infiniteId
  | conversion (fault : ConversionFault)
  | beyond (limit : Json.Limit)
  | tooManyDigits
  deriving Repr

namespace DumpFailure

/-- The failure that a fault of a dump leads to: where a value that its wording shows cannot be
written, there is no wording to report. -/
def ofFault (fault : DumpFault) : DumpFailure :=
  if fault.shownValues.all Value.isWritable then .malformed fault else .tooManyDigits

end DumpFailure

end DirectiveLint
