import DirectiveLint.TypeGraph.Classifier

/-!
# Verdicts on a type

The verdicts of all predicates on one type, together with the verdict on a base
type if one is given.
-/

namespace DirectiveLint

structure Verdicts where
  nullable : Bool
  never : Bool
  unknown : Bool
  any : Bool
  anyArray : Bool
  unknownArray : Bool
  arrayOrUnionOfArrays : Bool
  bigIntLiteral : Bool
  templateLiteral : Bool
  typeReference : Bool
  isOrHasBaseType : Option Bool
  deriving DecidableEq, Repr

namespace Verdicts

/-- The verdicts as fields of an object. -/
def toFields (verdicts : Verdicts) : List (LooseText × Value) :=
  ([("nullable", .boolean verdicts.nullable), ("never", .boolean verdicts.never),
    ("unknown", .boolean verdicts.unknown), ("any", .boolean verdicts.any),
    ("anyArray", .boolean verdicts.anyArray), ("unknownArray", .boolean verdicts.unknownArray),
    ("arrayOrUnionOfArrays", .boolean verdicts.arrayOrUnionOfArrays),
    ("bigIntLiteral", .boolean verdicts.bigIntLiteral),
    ("templateLiteral", .boolean verdicts.templateLiteral),
    ("typeReference", .boolean verdicts.typeReference)] : List (LooseText × Value)) ++
    (verdicts.isOrHasBaseType.map fun verdict =>
      (LooseText.plain "isOrHasBaseType", Value.boolean verdict)).toList

end Verdicts

namespace Host

variable {Ref : Type} (host : Host Ref)

/-- The verdicts on a type. -/
def verdicts (accessor : Accessor Ref) (base : Option Ref) (type : Ref) :
    Except HandleFault Verdicts := do
  let nullable ← host.isNullable type
  let never ← host.isNever type
  let unknown ← host.isUnknown type
  let any ← host.isAny type
  let anyArray ← host.isAnyArray accessor type
  let unknownArray ← host.isUnknownArray accessor type
  let arrayOrUnionOfArrays ← host.isArrayOrUnionOfArrays accessor type
  let bigIntLiteral ← host.isBigIntLiteral type
  let templateLiteral ← host.isTemplateLiteral type
  let typeReference ← host.isReference type
  return {
    nullable, never, unknown, any, anyArray, unknownArray, arrayOrUnionOfArrays, bigIntLiteral
    templateLiteral, typeReference
    isOrHasBaseType := base.map fun parent => host.isOrHasBaseType type parent }

/-- What is observed while the verdicts on a type are given. -/
def observations (accessor : Accessor Ref) (type : Ref) : List String :=
  host.anyObservations type ++ host.anyArrayObservations accessor type

end Host
end DirectiveLint
