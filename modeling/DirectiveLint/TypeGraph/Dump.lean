import DirectiveLint.TypeGraph.Handle
import DirectiveLint.Value.Written

/-!
# Type dumps

A dump is a list of types that refer to each other by their ids, in the order in
which they were read.  It is a host for its types: the handle of an id is that of
the type with this id.
-/

namespace DirectiveLint

/-- A type of a dump.  A symbol is given by its name. -/
structure TypeNode where
  id : Int
  flags : Flags TypeFlag
  objectFlags : Option (Flags ObjectFlag)
  intrinsicName : Value
  symbolName : Option Value
  value : Value
  texts : List Value
  types : List Int
  typeArguments : List Int
  baseTypes : Option (List Int)
  target : Option Int
  deriving Repr

namespace TypeNode

/-- The handle of a type. -/
def toHandle (node : TypeNode) : Handle Int :=
  { givenFlags := some node.flags
    givenObjectFlags := some (node.objectFlags.getD .empty)
    intrinsicName := node.intrinsicName
    value := node.value
    texts := .list node.texts
    symbol := node.symbolName.map fun name => ⟨some name⟩
    askedSymbol := none
    types := node.types
    typeArguments := node.typeArguments
    baseTypes := node.baseTypes.getD []
    askedBaseTypes := none
    target := node.target }

/-- What a type is called: by its symbol, or else by its intrinsic name. -/
def label (node : TypeNode) : Value :=
  node.symbolName.getD node.intrinsicName

/-- How a type is shown: its id, its flags and, if it has one, its label; nothing if one of them
cannot be written. -/
def shown? (node : TypeNode) : Option LooseText :=
  let bits : Value := .integer node.flags.bits
  if (Value.list [.integer node.id, bits, node.label]).isWritable then
    let start := "<TypeNode #" ++ (Value.integer node.id).written ++ " " ++ bits.written
    some (if node.label.isGiven then start ++ " " ++ node.label.shown ++ ">" else start ++ ">")
  else none

end TypeNode

/-- The types of a dump. -/
structure TypeDump where
  nodes : List TypeNode
  deriving Repr

namespace TypeDump

/-- The type with an id. -/
def find? (dump : TypeDump) (id : Int) : Option TypeNode :=
  dump.nodes.find? (·.id == id)

/-- The dump as a host. -/
def host (dump : TypeDump) : Host Int :=
  fun id => ((dump.find? id).map TypeNode.toHandle).getD .blank

end TypeDump
end DirectiveLint
