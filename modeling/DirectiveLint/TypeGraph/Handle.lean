import DirectiveLint.TypeGraph.Flags
import DirectiveLint.Value.Mapping

/-!
# Type handles

A host describes each of its types by a handle.  Handles refer to other types
by references, and the host gives the handle for every reference.

A host may answer in two ways what symbol or which base types a type has: by a
field, or when it is asked.  What it answers when asked comes first.

A host may also give something as flags that stands for no flags.  Such a type
has no flags, and questions that read them are refused.  They are refused too
where flags that are taken together make no set.
-/

namespace DirectiveLint

/-- The declaration of a type.  A host may leave a symbol without a name. -/
structure Symbol where
  name : Option Value
  deriving Repr

namespace Symbol

/-- The name, where a symbol without one counts as named by nothing. -/
def nameOrNull (symbol : Symbol) : Value :=
  symbol.name.getD .null

end Symbol

/-- Why a handle leaves a question open. -/
inductive HandleFault
  | namelessSymbol
  | unhashableName (name : Value)
  | unreadableFlags
  deriving Repr

/-- What a host says about a type.  Flags are missing where what the host gives stands for none. -/
structure Handle (Ref : Type) where
  givenFlags : Option (Flags TypeFlag)
  givenObjectFlags : Option (Flags ObjectFlag)
  intrinsicName : Value
  value : Value
  texts : Value
  symbol : Option Symbol
  askedSymbol : Option (Option Symbol)
  types : List Ref
  typeArguments : List Ref
  baseTypes : List Ref
  askedBaseTypes : Option (List Ref)
  target : Option Ref
  deriving Repr

namespace Handle

variable {Ref : Type}

/-- The handle of a type about which nothing is said. -/
def blank : Handle Ref :=
  { givenFlags := some .empty
    givenObjectFlags := some .empty
    intrinsicName := .null
    value := .null
    texts := .null
    symbol := none
    askedSymbol := none
    types := []
    typeArguments := []
    baseTypes := []
    askedBaseTypes := none
    target := none }

/-- The flags of a type. -/
def flags (handle : Handle Ref) : Flags TypeFlag :=
  handle.givenFlags.getD .empty

/-- The object flags of a type. -/
def objectFlags (handle : Handle Ref) : Flags ObjectFlag :=
  handle.givenObjectFlags.getD .empty

/-- The symbol of a type. -/
def declaration (handle : Handle Ref) : Option Symbol :=
  handle.askedSymbol.getD handle.symbol

/-- The texts of a template literal, where a host that gives none stands for no texts. -/
def templateTexts (handle : Handle Ref) : Value :=
  if handle.texts.isGiven then handle.texts else .list []

/-- The types that a type is declared to extend. -/
def parents (handle : Handle Ref) : List Ref :=
  handle.askedBaseTypes.getD handle.baseTypes

end Handle

/-- The handles of the types of a host. -/
abbrev Host (Ref : Type) := Ref → Handle Ref

end DirectiveLint
