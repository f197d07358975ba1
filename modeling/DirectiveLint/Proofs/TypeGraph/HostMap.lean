import DirectiveLint.TypeGraph.Verdicts

/-!
# Verdicts under maps of hosts

A map from the types of a host to those of another one keeps what is said about
them if the handle of an image is the handle of the type with all references
replaced by their images.  Types may be mapped to the same one, and the other
host may have types besides.

Every predicate gives the same answer for a type and for its image, so all
verdicts are the same, and so is the fault where there are none.
-/

namespace DirectiveLint

variable {Ref : Type} {Other : Type}

/-- A handle with its references replaced by their images. -/
def Handle.mapReferences (image : Ref → Other) (handle : Handle Ref) : Handle Other :=
  { handle with
    types := handle.types.map image
    typeArguments := handle.typeArguments.map image
    baseTypes := handle.baseTypes.map image
    askedBaseTypes := handle.askedBaseTypes.map fun types => types.map image
    target := handle.target.map image }

namespace Host

/-- Whether another host says of the images of types what the host says of the types. -/
def MapsTo (host : Host Ref) (image : Ref → Other) (other : Host Other) : Prop :=
  ∀ type, other (image type) = (host type).mapReferences image

variable {host : Host Ref} {image : Ref → Other} {other : Host Other}

section

variable (maps : host.MapsTo image other)

include maps

/-! ## Flags -/

theorem givenFlags_image (type : Ref) :
    (other (image type)).givenFlags = (host type).givenFlags := by
  rw [maps type]
  rfl

theorem unionParts_image (type : Ref) :
    other.unionParts (image type) = (host.unionParts type).map image := by
  unfold unionParts Handle.flags
  rw [givenFlags_image maps]
  split
  · rw [maps type]
    rfl
  · rfl

theorem readUnionParts_image (type : Ref) :
    other.readUnionParts (image type) = (host.readUnionParts type).map fun parts =>
      parts.map image := by
  unfold readUnionParts
  rw [givenFlags_image maps, unionParts_image maps]
  cases (host type).givenFlags <;> rfl

theorem addFlags_image (flags : Flags TypeFlag) (parts : List Ref) :
    other.addFlags flags (parts.map image) = host.addFlags flags parts := by
  induction parts generalizing flags with
  | nil => rfl
  | cons part rest inductionHypothesis =>
      simp only [List.map_cons, addFlags, givenFlags_image maps, inductionHypothesis]

theorem typeFlags_image (type : Ref) : other.typeFlags (image type) = host.typeFlags type := by
  unfold typeFlags
  rw [readUnionParts_image maps]
  cases host.readUnionParts type with
  | error fault => rfl
  | ok parts => exact addFlags_image maps .empty parts

theorem isFlagSet_image (type : Ref) (flags : Flags TypeFlag) (isReceiver : Bool) :
    other.isFlagSet (image type) flags isReceiver = host.isFlagSet type flags isReceiver := by
  unfold isFlagSet
  rw [typeFlags_image maps]

theorem hasFlag_image (type : Ref) (flag : TypeFlag) :
    other.hasFlag (image type) flag = host.hasFlag type flag :=
  isFlagSet_image maps type (.only flag) false

theorem isReference_image (type : Ref) :
    other.isReference (image type) = host.isReference type := by
  unfold isReference
  rw [maps type]
  rfl

/-! ## Arrays -/

theorem refersTo_image (names : List LooseText) (type : Ref) :
    Accessor.refersTo other names (image type) = Accessor.refersTo host names type := by
  have declaration : (((other (image type)).target.map other).getD (other (image type))).symbol =
      (((host type).target.map host).getD (host type)).symbol := by
    rw [maps type]
    cases found : (host type).target with
    | none => simp [Handle.mapReferences, found]
    | some target => simp [Handle.mapReferences, found, maps target]
  unfold Accessor.refersTo
  dsimp only
  rw [declaration, maps type]
  rfl

section

variable {accessor : Accessor Ref} {otherAccessor : Accessor Other}
  (sameArrays : ∀ type, otherAccessor.isArray (image type) = accessor.isArray type)

include sameArrays

omit maps in
theorem areArrays_image (types : List Ref) :
    areArrays otherAccessor (types.map image) = areArrays accessor types := by
  induction types with
  | nil => rfl
  | cons type rest inductionHypothesis =>
      simp only [List.map_cons, areArrays, sameArrays, inductionHypothesis]

theorem isArrayOrUnionOfArrays_image (type : Ref) :
    other.isArrayOrUnionOfArrays otherAccessor (image type) =
      host.isArrayOrUnionOfArrays accessor type := by
  unfold isArrayOrUnionOfArrays
  rw [readUnionParts_image maps]
  cases host.readUnionParts type with
  | error fault => rfl
  | ok parts => exact areArrays_image sameArrays parts

variable
  (sameArguments : ∀ type,
    otherAccessor.typeArguments (image type) = (accessor.typeArguments type).map image)

include sameArguments

omit maps in
theorem isArrayOf_image {predicate : Ref → Except HandleFault Bool}
    {otherPredicate : Other → Except HandleFault Bool}
    (samePredicate : ∀ type, otherPredicate (image type) = predicate type) (type : Ref) :
    isArrayOf otherAccessor otherPredicate (image type) = isArrayOf accessor predicate type := by
  unfold isArrayOf elementType
  rw [sameArrays, sameArguments, List.head?_map]
  cases accessor.isArray type with
  | error fault => rfl
  | ok isArray =>
      cases isArray with
      | false => rfl
      | true =>
          cases (accessor.typeArguments type).head? with
          | none => rfl
          | some element => exact samePredicate element

end

/-! ## Base types -/

theorem isOrHasBaseType_image (type parent : Ref) :
    other.isOrHasBaseType (image type) (image parent) = host.isOrHasBaseType type parent := by
  have declaration : ∀ type, (other (image type)).declaration = (host type).declaration := by
    intro type
    rw [maps type]
    rfl
  have parents : (other (image type)).parents = (host type).parents.map image := by
    rw [maps type]
    unfold Handle.parents
    cases found : (host type).askedBaseTypes <;> simp [Handle.mapReferences, found]
  unfold isOrHasBaseType
  rw [declaration, declaration, parents, ← List.map_cons]
  simp only [List.any_map, Function.comp_def, declaration]

/-- The image of a type gets the verdicts on the type. -/
theorem verdicts_image (names : List LooseText) (base : Option Ref) (type : Ref) :
    other.verdicts (.bySymbols other names) (base.map image) (image type) =
      host.verdicts (.bySymbols host names) base type := by
  have sameArrays := refersTo_image maps names
  have sameArguments : ∀ type,
      (other (image type)).typeArguments = ((host type).typeArguments).map image := by
    intro type
    rw [maps type]
    rfl
  have any (type : Ref) : other.isAny (image type) = host.isAny type :=
    hasFlag_image maps type .any
  have unknown (type : Ref) : other.isUnknown (image type) = host.isUnknown type :=
    hasFlag_image maps type .unknown
  have anyArray : other.isAnyArray (.bySymbols other names) (image type) =
      host.isAnyArray (.bySymbols host names) type :=
    isArrayOf_image sameArrays sameArguments any type
  have unknownArray : other.isUnknownArray (.bySymbols other names) (image type) =
      host.isUnknownArray (.bySymbols host names) type :=
    isArrayOf_image sameArrays sameArguments unknown type
  have arrays : other.isArrayOrUnionOfArrays (.bySymbols other names) (image type) =
      host.isArrayOrUnionOfArrays (.bySymbols host names) type :=
    isArrayOrUnionOfArrays_image maps sameArrays type
  have bases : (base.map image).map (other.isOrHasBaseType (image type)) =
      base.map (host.isOrHasBaseType type) := by
    rw [Option.map_map]
    congr 1
    funext parent
    exact isOrHasBaseType_image maps type parent
  unfold verdicts
  simp only [isNullable, isNever, any, unknown, isBigIntLiteral, isTemplateLiteral,
    hasFlag_image maps, isFlagSet_image maps, isReference_image maps, anyArray, unknownArray,
    arrays]
  simp only [bases]

end
end Host
end DirectiveLint
