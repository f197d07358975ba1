import DirectiveLint.TypeGraph.Accessor

/-!
# Classifying types

The flags of a union are those of its constituents taken together, so a flag is
set on a union when it is set on one of them.  A union without constituents has
no flags, and it is made up solely of arrays.

Some predicates make an observation on the way; it never changes an answer.

A question that reads the flags of types is refused if those of one of them
cannot be read, and if those of some of them make no set together.
-/

namespace DirectiveLint
namespace Host

variable {Ref : Type} (host : Host Ref)

/-- The constituents of a union; any other type is its own only constituent. -/
def unionParts (type : Ref) : List Ref :=
  if (host type).flags.contains .union then (host type).types else [type]

/-- The constituents of a type whose flags can be read. -/
def readUnionParts (type : Ref) : Except HandleFault (List Ref) :=
  match (host type).givenFlags with
  | some _ => .ok (host.unionParts type)
  | none => .error .unreadableFlags

/-- The flags of types, added one by one to those before them. -/
def addFlags (flags : Flags TypeFlag) : List Ref → Except HandleFault (Flags TypeFlag)
  | [] => .ok flags
  | part :: rest =>
    match (host part).givenFlags.bind flags.union? with
    | some flags => addFlags flags rest
    | none => .error .unreadableFlags

/-- The flags of a type, taken together over the constituents of a union. -/
def typeFlags (type : Ref) : Except HandleFault (Flags TypeFlag) :=
  match host.readUnionParts type with
  | .ok parts => host.addFlags .empty parts
  | .error fault => .error fault

/-- The flags of types that accept every value. -/
def topFlags : Flags TypeFlag := .ofList [.any, .unknown]

/-- Whether a type has one of some flags; a receiver that accepts every value has them all. -/
def isFlagSet (type : Ref) (flags : Flags TypeFlag) (isReceiver : Bool) :
    Except HandleFault Bool :=
  (host.typeFlags type).map fun own => (isReceiver && own.meets topFlags) || own.meets flags

/-- Whether a type has a flag. -/
def hasFlag (type : Ref) (flag : TypeFlag) : Except HandleFault Bool :=
  host.isFlagSet type (.only flag) false

/-- The flags of types that may have no value. -/
def nullableFlags : Flags TypeFlag := .ofList [.any, .unknown, .null, .undefined, .void]

def isNullable (type : Ref) : Except HandleFault Bool :=
  host.isFlagSet type nullableFlags false

def isNever (type : Ref) : Except HandleFault Bool :=
  host.hasFlag type .never

def isUnknown (type : Ref) : Except HandleFault Bool :=
  host.hasFlag type .unknown

def isAny (type : Ref) : Except HandleFault Bool :=
  host.hasFlag type .any

/-- The observation on a type that stands for an error. -/
def errorTypeObservation : String := "Found an \"error\" any type"

/-- What is observed while a type is tested for being any type. -/
def anyObservations (type : Ref) : List String :=
  match host.isAny type with
  | .ok true =>
    if (host type).intrinsicName.same (.text "error") then [errorTypeObservation] else []
  | _ => []

def isBigIntLiteral (type : Ref) : Except HandleFault Bool :=
  host.hasFlag type .bigIntLiteral

def isTemplateLiteral (type : Ref) : Except HandleFault Bool :=
  host.hasFlag type .templateLiteral

/-- The flags under which a type has object flags. -/
def objectFlagCarriers : Flags TypeFlag :=
  .ofList [.any, .undefined, .null, .never, .object, .union, .intersection]

/-- Whether a type is a reference: its own flags let it have object flags, and they say so. -/
def isReference (type : Ref) : Except HandleFault Bool :=
  match (host type).givenFlags, (host type).givenObjectFlags with
  | none, _ => .error .unreadableFlags
  | some flags, none =>
    if flags.meets objectFlagCarriers then .error .unreadableFlags else .ok false
  | some flags, some objectFlags =>
    .ok (flags.meets objectFlagCarriers && objectFlags.contains .reference)

/-- The first type argument of an array. -/
def elementType (accessor : Accessor Ref) (type : Ref) : Except HandleFault (Option Ref) :=
  match accessor.isArray type with
  | .ok true => .ok (accessor.typeArguments type).head?
  | .ok false => .ok none
  | .error fault => .error fault

/-- Whether a type is an array whose first type argument satisfies a predicate. -/
def isArrayOf (accessor : Accessor Ref) (predicate : Ref → Except HandleFault Bool) (type : Ref) :
    Except HandleFault Bool :=
  match elementType accessor type with
  | .ok none => .ok false
  | .ok (some element) => predicate element
  | .error fault => .error fault

def isAnyArray (accessor : Accessor Ref) (type : Ref) : Except HandleFault Bool :=
  isArrayOf accessor host.isAny type

/-- What is observed while a type is tested for being an array of any type. -/
def anyArrayObservations (accessor : Accessor Ref) (type : Ref) : List String :=
  match elementType accessor type with
  | .ok (some element) => host.anyObservations element
  | _ => []

def isUnknownArray (accessor : Accessor Ref) (type : Ref) : Except HandleFault Bool :=
  isArrayOf accessor host.isUnknown type

/-- Whether all of some types are arrays; the first that is none decides. -/
def areArrays (accessor : Accessor Ref) : List Ref → Except HandleFault Bool
  | [] => .ok true
  | type :: rest =>
    match accessor.isArray type with
    | .ok true => areArrays accessor rest
    | .ok false => .ok false
    | .error fault => .error fault

/-- Whether a type is an array or a union of arrays. -/
def isArrayOrUnionOfArrays (accessor : Accessor Ref) (type : Ref) : Except HandleFault Bool :=
  match host.readUnionParts type with
  | .ok parts => areArrays accessor parts
  | .error fault => .error fault

/-- Whether a type, or one that it is declared to extend, has a symbol of the same name as another
type.  Only the declared parents are looked at, not theirs. -/
def isOrHasBaseType (type parent : Ref) : Bool :=
  match (host type).declaration, (host parent).declaration with
  | some _, some symbol =>
    (type :: (host type).parents).any fun candidate =>
      (host candidate).declaration.any fun found => found.nameOrNull.same symbol.nameOrNull
  | _, _ => false

end Host
end DirectiveLint
