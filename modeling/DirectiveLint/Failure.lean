import DirectiveLint.Configuration.Fault

/-!
# Failures

What can go wrong while options are taken in, checkers are built and comments
are evaluated.  Faults of a configuration are reported to the user; the other
failures say that a value was not of a shape that the operation can use, or that
an integer was too long to be written.
-/

namespace DirectiveLint

/-- Why an operation gave no result. -/
inductive Failure
  | configuration (fault : ConfigurationFault)
  | conversion (fault : ConversionFault)
  | patternLimit (fault : Pattern.Fault)
  | disorderedGroup
  | tooManyDigits
  | notComparable (value : Value)
  | unknownMessage (id : Value)
  | missingField (name : String)
  | notFields (value : Value)
  | unknownDirective (key : LooseText)
  | unknownSeverity (name : Value)
  | notAddable (first second : Value)
  | notFormattable (value : Value)
  | unknownFormatCode (value : Value)
  | tooLargeToFormat (value : Value)
  deriving Repr

namespace Failure

/-- The failure that a fault of a configuration leads to: where a value that its wording shows
cannot be written, there is no wording to report. -/
def ofFault (fault : ConfigurationFault) : Failure :=
  if fault.shownValues.all Value.isWritable then .configuration fault else .tooManyDigits

end Failure
end DirectiveLint
