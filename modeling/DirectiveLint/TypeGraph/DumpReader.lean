import DirectiveLint.Json.Reader
import DirectiveLint.Number.IntegerText
import DirectiveLint.TypeGraph.Dump
import DirectiveLint.TypeGraph.DumpFault

/-!
# Reading type dumps

A dump is an object with a list of entries, one for each type.  All entries are
read before any reference is looked up, so that references may point forward.
Ids and references are taken as integers: numbers lose their fraction, and texts
are read as numerals.
-/

namespace DirectiveLint

/-- Why a value is not an id. -/
inductive TypeIdFault
  | notInteger
  | infinite
  deriving DecidableEq, Repr

namespace TypeId

/-- The id that a value stands for. -/
def ofValue (value : Value) : Except TypeIdFault Int :=
  match value with
  | .real (.infinite _) => .error .infinite
  | .real number =>
    match number.truncate? with
    | some id => .ok id
    | none => .error .notInteger
  | .text (.plain text) =>
    match Number.integer? text.toList with
    | some id => .ok id
    | none => .error .notInteger
  | other =>
    match other.toInteger? with
    | some id => .ok id
    | none => .error .notInteger

end TypeId

namespace TypeNode

/-- The id of an entry. -/
def readId (entry : Value) : Except DumpFailure Int :=
  match entry.field? "id" with
  | none => .error (.ofFault (.withoutId entry))
  | some value =>
    match TypeId.ofValue value with
    | .ok id => .ok id
    | .error .infinite => .error .infiniteId
    | .error .notInteger => .error (.ofFault (.idNotInteger value))

/-- The flags of one kind that a value gives a type. -/
def readFlags {Flag : Type} [FlagKind Flag] (id : Int) (value : Value) :
    Except DumpFailure (Flags Flag) :=
  match Flags.ofValue value with
  | .ok flags => .ok flags
  | .error (.names fault) => .error (.ofFault (.unknownFlag id (FlagKind.title Flag) fault))
  | .error .tooManyDigits => .error .tooManyDigits

/-- The flags of an entry; there is at least one. -/
def readTypeFlags (id : Int) (entry : Value) : Except DumpFailure (Flags TypeFlag) :=
  match entry.field? "flags" with
  | none => .error (.ofFault (.missingFlags id))
  | some value =>
    match readFlags id value with
    | .error failure => .error failure
    | .ok flags =>
      if flags.isEmpty then .error (.ofFault (.emptyFlags id)) else .ok flags

/-- The object flags of an entry, if it has any. -/
def readObjectFlags (id : Int) (entry : Value) :
    Except DumpFailure (Option (Flags ObjectFlag)) :=
  match entry.field? "objectFlags" with
  | none => .ok none
  | some value =>
    match readFlags id value with
    | .ok flags => .ok (some flags)
    | .error failure => .error failure

/-- What a field of an entry yields one by one; nothing if the field is missing. -/
def readElements (entry : Value) (key : LooseText) : Except DumpFailure (List Value) :=
  match entry.field? key with
  | none => .ok []
  | some value =>
    match value.elements with
    | .ok elements => .ok elements
    | .error fault => .error (.conversion fault)

/-- The type of an entry, still without references, next to types with the given ids. -/
def read (known : List Int) (entry : Value) : Except DumpFailure TypeNode := do
  let id ← readId entry
  if known.contains id then throw (.ofFault (.duplicateId id))
  let flags ← readTypeFlags id entry
  let objectFlags ← readObjectFlags id entry
  let texts ← readElements entry "texts"
  return {
    id
    flags
    objectFlags
    intrinsicName := (entry.field? "intrinsicName").getD .null
    symbolName := (entry.field? "symbol").filter Value.isGiven
    value := (entry.field? "value").getD .null
    texts
    types := []
    typeArguments := []
    baseTypes := none
    target := none }

/-- The types of entries, still without references. -/
def readAll (known : List Int) : List Value → Except DumpFailure (List TypeNode)
  | [] => .ok []
  | entry :: rest =>
    match read known entry with
    | .error failure => .error failure
    | .ok node =>
      match readAll (node.id :: known) rest with
      | .error failure => .error failure
      | .ok nodes => .ok (node :: nodes)

/-- The id among the known ones that a reference of a type stands for. -/
def resolve (known : List Int) (owner : Int) (reference : Value) : Except DumpFailure Int :=
  match TypeId.ofValue reference with
  | .error .infinite => .error .infiniteId
  | .error .notInteger => .error (.ofFault (.unknownReference owner reference))
  | .ok id =>
    if known.contains id then .ok id
    else .error (.ofFault (.unknownReference owner reference))

/-- The ids that references of a type stand for. -/
def resolveAll (known : List Int) (owner : Int) : List Value → Except DumpFailure (List Int)
  | [] => .ok []
  | reference :: rest =>
    match resolve known owner reference with
    | .error failure => .error failure
    | .ok id =>
      match resolveAll known owner rest with
      | .error failure => .error failure
      | .ok ids => .ok (id :: ids)

/-- The ids that the references in a field of an entry stand for. -/
def readReferences (known : List Int) (owner : Int) (entry : Value) (key : LooseText) :
    Except DumpFailure (List Int) :=
  match readElements entry key with
  | .error failure => .error failure
  | .ok references => resolveAll known owner references

/-- The base types of an entry, if it says any. -/
def readBaseTypes (known : List Int) (owner : Int) (entry : Value) :
    Except DumpFailure (Option (List Int)) :=
  match entry.field? "baseTypes" with
  | none => .ok none
  | some _ =>
    match readReferences known owner entry "baseTypes" with
    | .ok ids => .ok (some ids)
    | .error failure => .error failure

/-- The target of an entry, if it has one. -/
def readTarget (known : List Int) (owner : Int) (entry : Value) :
    Except DumpFailure (Option Int) :=
  match (entry.field? "target").getD .null with
  | .null => .ok none
  | reference =>
    match resolve known owner reference with
    | .ok id => .ok (some id)
    | .error failure => .error failure

/-- A type with the references of its entry. -/
def connect (known : List Int) (entry : Value) (node : TypeNode) :
    Except DumpFailure TypeNode := do
  let types ← readReferences known node.id entry "types"
  let typeArguments ← readReferences known node.id entry "typeArguments"
  let baseTypes ← readBaseTypes known node.id entry
  let target ← readTarget known node.id entry
  return { node with types, typeArguments, baseTypes, target }

/-- Types with the references of their entries. -/
def connectAll (known : List Int) : List (Value × TypeNode) → Except DumpFailure (List TypeNode)
  | [] => .ok []
  | (entry, node) :: rest =>
    match connect known entry node with
    | .error failure => .error failure
    | .ok node =>
      match connectAll known rest with
      | .error failure => .error failure
      | .ok nodes => .ok (node :: nodes)

end TypeNode

namespace TypeDump

/-- The dump of a list of entries. -/
def ofEntries (entries : List Value) : Except DumpFailure TypeDump :=
  match TypeNode.readAll [] entries with
  | .error failure => .error failure
  | .ok nodes =>
    match TypeNode.connectAll (nodes.map (·.id)) (entries.zip nodes) with
    | .ok nodes => .ok ⟨nodes⟩
    | .error failure => .error failure

/-- The dump that a value describes. -/
def ofValue (value : Value) : Except DumpFailure TypeDump :=
  match value.field? "types" with
  | some (.list entries) => ofEntries entries
  | _ => .error (.malformed .withoutTypes)

/-- The dump that a JSON text describes; faults name the path of the text. -/
def ofText (path text : String) : Except DumpFailure TypeDump :=
  match Json.read text with
  | .ok value => ofValue value
  | .error fault =>
    match fault.cause with
    | .beyond limit => .error (.beyond limit)
    | _ => .error (.malformed (.notJson path fault))

end TypeDump
end DirectiveLint
