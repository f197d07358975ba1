import DirectiveLint.Value.Basic

/-!
# Flags

A kind of flags is a list of named members, each of which has a bit of its own,
counted from the lowest.  A set of flags is a number; bits above those of the
members are kept, but they stand for no member.

A set with members has a name, in which the number of its other bits is written
behind its members.  A set whose name would need too long a number cannot be
made, neither from a number nor from two other sets.

A negative number stands for the set that has the missing bits.  It is taken
modulo the power of two above all members where that covers it, and else modulo
the least power of two that is above it.
-/

namespace DirectiveLint

/-- A kind of flags. -/
class FlagKind (Flag : Type) where
  /-- What messages call the kind. -/
  title : String
  /-- The members from the lowest bit on. -/
  members : List Flag
  name : Flag → String
  /-- The number of the bit of a member. -/
  position : Flag → Nat

/-- A set of flags of one kind. -/
structure Flags (Flag : Type) where
  bits : Nat
  deriving DecidableEq, Repr

namespace Flags

variable {Flag : Type}

def empty : Flags Flag := ⟨0⟩

def isEmpty (flags : Flags Flag) : Bool :=
  flags.bits == 0

/-- All bits of two sets. -/
def union (flags others : Flags Flag) : Flags Flag :=
  ⟨flags.bits ||| others.bits⟩

/-- Whether two sets have a bit in common. -/
def meets (flags others : Flags Flag) : Bool :=
  (flags.bits &&& others.bits) != 0

variable [FlagKind Flag]

/-- The set of one member. -/
def only (flag : Flag) : Flags Flag :=
  ⟨1 <<< FlagKind.position flag⟩

/-- The set of some members. -/
def ofList (members : List Flag) : Flags Flag :=
  members.foldl (fun flags flag => flags.union (only flag)) empty

def contains (flags : Flags Flag) (flag : Flag) : Bool :=
  flags.bits.testBit (FlagKind.position flag)

/-- The power of two above all members of a kind. -/
def capacity (Flag : Type) [FlagKind Flag] : Nat :=
  1 <<< (FlagKind.members : List Flag).length

/-- The power of two modulo which a negative number of a magnitude is taken. -/
def modulus (Flag : Type) [FlagKind Flag] (magnitude : Nat) : Nat :=
  if magnitude ≤ capacity Flag then capacity Flag else 1 <<< (magnitude.log2 + 1)

/-- The bits that a number stands for. -/
def ofInt (number : Int) : Flags Flag :=
  match number with
  | .ofNat bits => ⟨bits⟩
  | .negSucc below => ⟨modulus Flag (below + 1) - (below + 1)⟩

/-- The bits of a set that belong to members. -/
def memberBits (flags : Flags Flag) : Nat :=
  flags.bits % capacity Flag

/-- Whether a set can be made: it has no members, or its other bits are a number that may be
written. -/
def isNameable (flags : Flags Flag) : Bool :=
  flags.memberBits == 0 || Number.isWritable (flags.bits - flags.memberBits : Nat)

/-- A set that can be made. -/
def named? (flags : Flags Flag) : Option (Flags Flag) :=
  if flags.isNameable then some flags else none

/-- The set that a number stands for, if it can be made. -/
def ofInt? (number : Int) : Option (Flags Flag) :=
  (ofInt number).named?

/-- Two sets taken together, if that set can be made. -/
def union? (flags others : Flags Flag) : Option (Flags Flag) :=
  (flags.union others).named?

/-- The set that a value stands for: an integer, a truth value, or the number of a single member
or of none.  Other values stand for no set. -/
def ofValue? (value : Value) : Option (Flags Flag) :=
  match value.toInteger? with
  | some number => ofInt? number
  | none =>
    (empty :: (FlagKind.members : List Flag).map only).find? fun flags =>
      value.same (.integer flags.bits)

/-- The set that a host gives, where a value that does not count as given stands for no flags. -/
def ofGiven? (value : Value) : Option (Flags Flag) :=
  if value.isGiven then ofValue? value else some empty

/-- The members of a set, from the lowest bit on. -/
def members (flags : Flags Flag) : List Flag :=
  (FlagKind.members : List Flag).filter flags.contains

/-- The names of the members of a set, from the lowest bit on. -/
def names (flags : Flags Flag) : List String :=
  flags.members.map FlagKind.name

/-- The member with a name. -/
def member? (name : LooseText) : Option Flag :=
  (FlagKind.members : List Flag).find? fun flag => .plain (FlagKind.name flag) == name

end Flags

/-- What kind of type a type is. -/
inductive TypeFlag
  | any
  | unknown
  | string
  | number
  | boolean
  | enumeration
  | bigInt
  | stringLiteral
  | numberLiteral
  | booleanLiteral
  | enumLiteral
  | bigIntLiteral
  | symbol
  | uniqueSymbol
  | void
  | undefined
  | null
  | never
  | typeParameter
  | object
  | union
  | intersection
  | index
  | indexedAccess
  | conditional
  | substitution
  | nonPrimitive
  | templateLiteral
  | stringMapping
  deriving DecidableEq, Repr

namespace TypeFlag

def all : List TypeFlag :=
  [any, unknown, string, number, boolean, enumeration, bigInt, stringLiteral, numberLiteral,
    booleanLiteral, enumLiteral, bigIntLiteral, symbol, uniqueSymbol, void, undefined, null,
    never, typeParameter, object, union, intersection, index, indexedAccess, conditional,
    substitution, nonPrimitive, templateLiteral, stringMapping]

def name : TypeFlag → String
  | any => "Any"
  | unknown => "Unknown"
  | string => "String"
  | number => "Number"
  | boolean => "Boolean"
  | enumeration => "Enum"
  | bigInt => "BigInt"
  | stringLiteral => "StringLiteral"
  | numberLiteral => "NumberLiteral"
  | booleanLiteral => "BooleanLiteral"
  | enumLiteral => "EnumLiteral"
  | bigIntLiteral => "BigIntLiteral"
  | symbol => "ESSymbol"
  | uniqueSymbol => "UniqueESSymbol"
  | void => "Void"
  | undefined => "Undefined"
  | null => "Null"
  | never => "Never"
  | typeParameter => "TypeParameter"
  | object => "Object"
  | union => "Union"
  | intersection => "Intersection"
  | index => "Index"
  | indexedAccess => "IndexedAccess"
  | conditional => "Conditional"
  | substitution => "Substitution"
  | nonPrimitive => "NonPrimitive"
  | templateLiteral => "TemplateLiteral"
  | stringMapping => "StringMapping"

end TypeFlag

instance : FlagKind TypeFlag where
  title := "TypeFlags"
  members := TypeFlag.all
  name := TypeFlag.name
  position := TypeFlag.ctorIdx

/-- What kind of object type an object type is. -/
inductive ObjectFlag
  | classType
  | interface
  | reference
  | tuple
  | anonymous
  | mapped
  | instantiated
  | objectLiteral
  | evolvingArray
  | patternWithComputedProperties
  | reverseMapped
  | jsxAttributes
  | scriptLiteral
  | freshLiteral
  | arrayLiteral
  deriving DecidableEq, Repr

namespace ObjectFlag

def all : List ObjectFlag :=
  [classType, interface, reference, tuple, anonymous, mapped, instantiated, objectLiteral,
    evolvingArray, patternWithComputedProperties, reverseMapped, jsxAttributes, scriptLiteral,
    freshLiteral, arrayLiteral]

def name : ObjectFlag → String
  | classType => "Class"
  | interface => "Interface"
  | reference => "Reference"
  | tuple => "Tuple"
  | anonymous => "Anonymous"
  | mapped => "Mapped"
  | instantiated => "Instantiated"
  | objectLiteral => "ObjectLiteral"
  | evolvingArray => "EvolvingArray"
  | patternWithComputedProperties => "ObjectLiteralPatternWithComputedProperties"
  | reverseMapped => "ReverseMapped"
  | jsxAttributes => "JsxAttributes"
  | scriptLiteral => "JSLiteral"
  | freshLiteral => "FreshLiteral"
  | arrayLiteral => "ArrayLiteral"

end ObjectFlag

instance : FlagKind ObjectFlag where
  title := "ObjectFlags"
  members := ObjectFlag.all
  name := ObjectFlag.name
  position := ObjectFlag.ctorIdx

end DirectiveLint
