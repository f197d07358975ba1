import DirectiveLint.TypeGraph.Handle

/-!
# Arrays and type arguments

Only the host knows which references are arrays, and what their type arguments
are; it answers both through an accessor.

The accessor by symbols takes a type for an array if it is a reference whose
target, or the type itself if it has no target, is declared by a symbol with one
of the array names.
-/

namespace DirectiveLint

/-- Answers of a host about arrays. -/
structure Accessor (Ref : Type) where
  isArray : Ref → Except HandleFault Bool
  typeArguments : Ref → List Ref

namespace Symbol

/-- Whether a symbol has one of some names. -/
def isAmong (names : List LooseText) (symbol : Symbol) : Except HandleFault Bool :=
  match symbol.name with
  | none => .error .namelessSymbol
  | some (.text name) => .ok (names.contains name)
  | some other => if other.isKey then .ok false else .error (.unhashableName other)

end Symbol

namespace Accessor

variable {Ref : Type}

/-- The names of the symbols that declare arrays. -/
def arrayNames : List LooseText := ["Array", "ReadonlyArray"]

/-- Whether a type is a reference to a type declared by a symbol with one of some names. -/
def refersTo (host : Host Ref) (names : List LooseText) (type : Ref) : Except HandleFault Bool :=
  let handle := host type
  match handle.givenObjectFlags with
  | none => .error .unreadableFlags
  | some flags =>
    if flags.contains .reference then
      match ((handle.target.map host).getD handle).symbol with
      | none => .ok false
      | some symbol => symbol.isAmong names
    else .ok false

/-- The accessor by symbols. -/
def bySymbols (host : Host Ref) (names : List LooseText) : Accessor Ref :=
  { isArray := refersTo host names
    typeArguments := fun type => (host type).typeArguments }

/-- The accessor by lists of the arrays and of type arguments. -/
def ofTable [BEq Ref] (arrays : List Ref) (arguments : List (Ref × List Ref)) : Accessor Ref :=
  { isArray := fun type => .ok (arrays.contains type)
    typeArguments := fun type => (arguments.lookup type).getD [] }

end Accessor
end DirectiveLint
