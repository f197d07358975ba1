import DirectiveLint.Proofs.TypeGraph.Loading
import Mathlib.Data.List.Nodup
import Mathlib.Data.Set.List

/-!
# Ids under other names

The ids of a dump carry no meaning: all of them may get other names, as long as
different ones stay different.  An entry under other names has the other name of
its id, and the other names of the ids to which it refers; everything else stays.

The main statement is that entries under other names are read as a dump exactly
if the entries themselves are, and that this dump is the same one under other
names.

A field with references is read item by item, and it need not be a list for
that.  Under other names its items are in a list, since the other name of an id
may not be a text of one character.
-/

namespace DirectiveLint

namespace List

universe u v w

variable {α : Type u} {β : Type v} {γ : Type w} {Related : α → β → Prop} {image : β → γ}

/-- Related lists up to an image are related to the image of a list. -/
theorem forall₂_image_iff {firsts : List α} {images : List γ} :
    List.Forall₂ (fun first other => ∃ second, other = image second ∧ Related first second)
        firsts images ↔
      ∃ seconds : List β, images = seconds.map image ∧ List.Forall₂ Related firsts seconds := by
  constructor
  · intro related
    induction related with
    | nil => exact ⟨[], rfl, .nil⟩
    | cons here _ inductionHypothesis =>
        rcases here with ⟨second, rfl, here⟩
        rcases inductionHypothesis with ⟨seconds, rfl, later⟩
        exact ⟨second :: seconds, rfl, .cons here later⟩
  · rintro ⟨seconds, rfl, related⟩
    rw [List.forall₂_map_right_iff]
    exact related.imp fun first second here => ⟨second, rfl, here⟩

end List

namespace Value

variable (rename : Int → Int)

/-- An id under another name.  A value that is no id stays. -/
def renamedId (value : Value) : Value :=
  match TypeId.ofValue value with
  | .ok id => .integer (rename id)
  | .error _ => value

/-- References under other names. -/
def renamedReferences (value : Value) : Value :=
  match value.elements with
  | .ok (first :: rest) => .list ((first :: rest).map (renamedId rename))
  | _ => value

/-- The fields of an entry that hold one id. -/
def idKeys : List LooseText := ["id", "target"]

/-- The fields of an entry that hold references. -/
def referenceKeys : List LooseText := ["types", "typeArguments", "baseTypes"]

/-- The value of a field of an entry under other names. -/
def renamedAt (key : LooseText) (value : Value) : Value :=
  if key ∈ idKeys then value.renamedId rename
  else if key ∈ referenceKeys then value.renamedReferences rename
  else value

/-- An entry under other names. -/
def renamedEntry : Value → Value
  | .object fields => .object (fields.map fun field => (field.1, renamedAt rename field.1 field.2))
  | other => other

@[simp] theorem renamedId_integer (id : Int) :
    renamedId rename (.integer id) = .integer (rename id) := rfl

variable {rename}

theorem field?_renamedEntry (entry : Value) (key : LooseText) :
    (renamedEntry rename entry).field? key = (entry.field? key).map (renamedAt rename key) := by
  cases entry with
  | object fields =>
      simp only [renamedEntry, field?, fieldOf?]
      rw [List.find?_map, Option.map_map, Option.map_map]
      cases found : fields.find? (·.1 == key) with
      | none => simp [Function.comp_def, found]
      | some field =>
          have same : field.1 = key := by simpa using List.find?_some found
          simp [Function.comp_def, found, same]
  | _ => rfl

theorem field?_renamedEntry_of_not_mem (entry : Value) {key : LooseText} (noId : key ∉ idKeys)
    (noReferences : key ∉ referenceKeys) :
    (renamedEntry rename entry).field? key = entry.field? key := by
  have unchanged : renamedAt rename key = id := by
    funext value
    simp only [renamedAt, if_neg noId, if_neg noReferences, id]
  rw [field?_renamedEntry, unchanged, Option.map_id_fun, id]

theorem ofValue_renamedId_eq_ok_iff {value : Value} {other : Int} :
    TypeId.ofValue (renamedId rename value) = .ok other ↔
      ∃ id, other = rename id ∧ TypeId.ofValue value = .ok id := by
  unfold renamedId
  cases found : TypeId.ofValue value with
  | ok id =>
      simp only [Except.ok.injEq, exists_eq_right']
      exact ⟨fun same => (Except.ok.inj same).symm, fun same => same ▸ rfl⟩
  | error fault => simp [found]

theorem renamedId_eq_null_iff {value : Value} : renamedId rename value = .null ↔ value = .null := by
  unfold renamedId
  split
  · next id stands =>
      constructor
      · intro impossible
        cases impossible
      · rintro rfl
        cases stands
  · exact Iff.rfl

theorem elements_renamedReferences (value : Value) :
    (renamedReferences rename value).elements =
      value.elements.map fun items => items.map (renamedId rename) := by
  unfold renamedReferences
  cases found : value.elements with
  | error fault => rw [found]; rfl
  | ok items =>
      cases items with
      | nil => rw [found]; rfl
      | cons first rest => rfl

end Value

namespace TypeNode

variable {rename : Int → Int} {known : List Int} {entry : Value}

/-- A type under other names. -/
def renamed (rename : Int → Int) (node : TypeNode) : TypeNode :=
  { node with
    id := rename node.id
    types := node.types.map rename
    typeArguments := node.typeArguments.map rename
    baseTypes := node.baseTypes.map fun ids => ids.map rename
    target := node.target.map rename }

theorem readElements_renamedEntry {key : LooseText} (member : key ∈ Value.referenceKeys) :
    readElements (Value.renamedEntry rename entry) key =
      (readElements entry key).map fun items => items.map (Value.renamedId rename) := by
  have noId : key ∉ Value.idKeys := by
    simp only [Value.referenceKeys, Value.idKeys, List.mem_cons, List.not_mem_nil] at member ⊢
    grind
  unfold readElements
  rw [Value.field?_renamedEntry]
  cases entry.field? key with
  | none => rfl
  | some value =>
      simp only [Option.map_some, Value.renamedAt, if_neg noId, if_pos member]
      rw [Value.elements_renamedReferences]
      cases value.elements <;> rfl

section

variable (injective : Function.Injective rename)

include injective

theorem standsFor_renamedId_iff {reference : Value} {other : Int} :
    StandsFor (known.map rename) (reference.renamedId rename) other ↔
      ∃ id, other = rename id ∧ StandsFor known reference id := by
  unfold StandsFor
  rw [Value.ofValue_renamedId_eq_ok_iff]
  constructor
  · rintro ⟨⟨id, rfl, stands⟩, member⟩
    exact ⟨id, rfl, stands, (List.mem_map_of_injective injective).mp member⟩
  · rintro ⟨id, rfl, stands, member⟩
    exact ⟨⟨id, rfl, stands⟩, List.mem_map_of_mem member⟩

theorem fieldStandsFor_renamedEntry_iff {key : LooseText} (member : key ∈ Value.referenceKeys)
    {others : List Int} :
    FieldStandsFor (known.map rename) (Value.renamedEntry rename entry) key others ↔
      ∃ ids : List Int, others = ids.map rename ∧ FieldStandsFor known entry key ids := by
  unfold FieldStandsFor
  rw [readElements_renamedEntry member]
  cases readElements entry key with
  | error failure => simp [Except.map]
  | ok references =>
      simp only [Except.map, Except.ok.injEq, exists_eq_left', List.forall₂_map_left_iff,
        standsFor_renamedId_iff injective]
      exact List.forall₂_image_iff

theorem baseTypesStandFor_renamedEntry_iff {others : Option (List Int)} :
    BaseTypesStandFor (known.map rename) (Value.renamedEntry rename entry) others ↔
      ∃ baseTypes : Option (List Int), others = baseTypes.map (fun ids => ids.map rename) ∧
        BaseTypesStandFor known entry baseTypes := by
  have member : .plain "baseTypes" ∈ Value.referenceKeys := by simp [Value.referenceKeys]
  have absent : (Value.renamedEntry rename entry).field? "baseTypes" = none ↔
      entry.field? "baseTypes" = none := by
    rw [Value.field?_renamedEntry, Option.map_eq_none_iff]
  unfold BaseTypesStandFor
  simp only [ne_eq, absent, fieldStandsFor_renamedEntry_iff injective member]
  constructor
  · rintro (⟨missing, rfl⟩ | ⟨present, _, rfl, ids, rfl, stands⟩)
    · exact ⟨none, rfl, Or.inl ⟨missing, rfl⟩⟩
    · exact ⟨some ids, rfl, Or.inr ⟨present, ids, rfl, stands⟩⟩
  · rintro ⟨_, rfl, ⟨missing, rfl⟩ | ⟨present, ids, rfl, stands⟩⟩
    · exact Or.inl ⟨missing, rfl⟩
    · exact Or.inr ⟨present, ids.map rename, rfl, ids, rfl, stands⟩

theorem targetStandsFor_renamedEntry_iff {other : Option Int} :
    TargetStandsFor (known.map rename) (Value.renamedEntry rename entry) other ↔
      ∃ target : Option Int, other = target.map rename ∧ TargetStandsFor known entry target := by
  have sameTarget : targetOf (Value.renamedEntry rename entry) =
      (targetOf entry).renamedId rename := by
    unfold targetOf
    rw [Value.field?_renamedEntry]
    cases entry.field? "target" <;> rfl
  unfold TargetStandsFor
  rw [sameTarget]
  simp only [ne_eq, Value.renamedId_eq_null_iff, standsFor_renamedId_iff injective]
  constructor
  · rintro (⟨missing, rfl⟩ | ⟨given, _, rfl, id, rfl, stands⟩)
    · exact ⟨none, rfl, Or.inl ⟨missing, rfl⟩⟩
    · exact ⟨some id, rfl, Or.inr ⟨given, id, rfl, stands⟩⟩
  · rintro ⟨_, rfl, ⟨missing, rfl⟩ | ⟨given, id, rfl, stands⟩⟩
    · exact Or.inl ⟨missing, rfl⟩
    · exact Or.inr ⟨given, rename id, rfl, id, rfl, stands⟩

end

/-! ## Entries and lists of entries -/

theorem exists_id_renamedEntry_iff {other : Int} :
    (∃ value, (Value.renamedEntry rename entry).field? "id" = some value ∧
        TypeId.ofValue value = .ok other) ↔
      ∃ id, other = rename id ∧
        ∃ value, entry.field? "id" = some value ∧ TypeId.ofValue value = .ok id := by
  rw [Value.field?_renamedEntry]
  cases entry.field? "id" with
  | none => simp
  | some value =>
      simp only [Option.map_some, Option.some.injEq, exists_eq_left']
      exact Value.ofValue_renamedId_eq_ok_iff

theorem hasFieldsOf_renamedEntry_iff {other : TypeNode} :
    other.HasFieldsOf (Value.renamedEntry rename entry) ↔
      ∃ id, other.id = rename id ∧ HasFieldsOf entry { other with id } := by
  have kept : ∀ key, key ∉ Value.idKeys → key ∉ Value.referenceKeys →
      (Value.renamedEntry rename entry).field? key = entry.field? key :=
    fun key => Value.field?_renamedEntry_of_not_mem entry
  have flags := kept "flags" (by decide) (by decide)
  have objectFlags := kept "objectFlags" (by decide) (by decide)
  have intrinsicName := kept "intrinsicName" (by decide) (by decide)
  have symbol := kept "symbol" (by decide) (by decide)
  have value := kept "value" (by decide) (by decide)
  have texts := kept "texts" (by decide) (by decide)
  constructor
  · intro fields
    rcases exists_id_renamedEntry_iff.mp fields.id with ⟨id, same, given⟩
    refine ⟨id, same, given, flags ▸ fields.flags, fields.flags_isEmpty, ?_,
      intrinsicName ▸ fields.intrinsicName, symbol ▸ fields.symbolName, value ▸ fields.value, ?_⟩
    · have given := fields.objectFlags
      rwa [GivesObjectFlags, objectFlags] at given
    · have given := fields.texts
      rwa [readElements, texts] at given
  · rintro ⟨id, same, fields⟩
    refine ⟨exists_id_renamedEntry_iff.mpr ⟨id, same, fields.id⟩, ?_, fields.flags_isEmpty, ?_,
      ?_, ?_, ?_, ?_⟩
    · rw [flags]
      exact fields.flags
    · rw [GivesObjectFlags, objectFlags]
      exact fields.objectFlags
    · rw [intrinsicName]
      exact fields.intrinsicName
    · rw [symbol]
      exact fields.symbolName
    · rw [value]
      exact fields.value
    · rw [readElements, texts]
      exact fields.texts

/-- An entry under other names is read as the same type under other names. -/
theorem readsAs_renamedEntry_iff (injective : Function.Injective rename) {other : TypeNode} :
    other.ReadsAs (known.map rename) (Value.renamedEntry rename entry) ↔
      ∃ node : TypeNode, other = node.renamed rename ∧ node.ReadsAs known entry := by
  have types : .plain "types" ∈ Value.referenceKeys := by decide
  have typeArguments : .plain "typeArguments" ∈ Value.referenceKeys := by decide
  constructor
  · rintro ⟨fields, references⟩
    rcases hasFieldsOf_renamedEntry_iff.mp fields with ⟨id, sameId, fields⟩
    rcases (fieldStandsFor_renamedEntry_iff injective types).mp references.types with
      ⟨parts, sameParts, hasParts⟩
    rcases (fieldStandsFor_renamedEntry_iff injective typeArguments).mp
      references.typeArguments with ⟨arguments, sameArguments, hasArguments⟩
    rcases (baseTypesStandFor_renamedEntry_iff injective).mp references.baseTypes with
      ⟨baseTypes, sameBaseTypes, hasBaseTypes⟩
    rcases (targetStandsFor_renamedEntry_iff injective).mp references.target with
      ⟨target, sameTarget, hasTarget⟩
    refine ⟨{ other with id, types := parts, typeArguments := arguments, baseTypes, target }, ?_,
      ⟨fields.id, fields.flags, fields.flags_isEmpty, fields.objectFlags, fields.intrinsicName,
        fields.symbolName, fields.value, fields.texts⟩,
      hasParts, hasArguments, hasBaseTypes, hasTarget⟩
    unfold renamed
    rw [← sameId, ← sameParts, ← sameArguments, ← sameBaseTypes, ← sameTarget]
  · rintro ⟨node, rfl, fields, references⟩
    refine ⟨hasFieldsOf_renamedEntry_iff.mpr ⟨node.id, rfl, fields.id, fields.flags,
      fields.flags_isEmpty, fields.objectFlags, fields.intrinsicName, fields.symbolName,
      fields.value, fields.texts⟩, ?_, ?_, ?_, ?_⟩
    · exact (fieldStandsFor_renamedEntry_iff injective types).mpr
        ⟨node.types, rfl, references.types⟩
    · exact (fieldStandsFor_renamedEntry_iff injective typeArguments).mpr
        ⟨node.typeArguments, rfl, references.typeArguments⟩
    · exact (baseTypesStandFor_renamedEntry_iff injective).mpr
        ⟨node.baseTypes, rfl, references.baseTypes⟩
    · exact (targetStandsFor_renamedEntry_iff injective).mpr
        ⟨node.target, rfl, references.target⟩

theorem forall₂_readsAs_renamedEntry_iff (injective : Function.Injective rename)
    {entries : List Value} {others : List TypeNode} :
    List.Forall₂ (ReadsAs (known.map rename)) (entries.map (Value.renamedEntry rename)) others ↔
      ∃ nodes : List TypeNode, others = nodes.map (renamed rename) ∧
        List.Forall₂ (ReadsAs known) entries nodes := by
  rw [List.forall₂_map_left_iff]
  simp only [readsAs_renamedEntry_iff injective]
  exact List.forall₂_image_iff

end TypeNode

namespace TypeDump

variable {rename : Int → Int} {entries : List Value}

/-- A dump under other names. -/
def renamed (rename : Int → Int) (dump : TypeDump) : TypeDump :=
  ⟨dump.nodes.map (TypeNode.renamed rename)⟩

@[simp] theorem ids_renamed (dump : TypeDump) :
    (dump.renamed rename).ids = dump.ids.map rename := by
  simp [ids, renamed, TypeNode.renamed, Function.comp_def]

/-- Entries under other names have other names as ids. -/
theorem exists_ids_of_renamedEntry {known : List Int} {nodes : List TypeNode}
    (reads : List.Forall₂ (TypeNode.ReadsAs known)
      (entries.map (Value.renamedEntry rename)) nodes) :
    ∃ ids : List Int, ids.map rename = nodes.map TypeNode.id := by
  have ranged : nodes.map TypeNode.id ∈ Set.range (List.map rename) := by
    rw [Set.range_list_map]
    intro other member
    rcases List.mem_map.mp member with ⟨node, listed, rfl⟩
    rcases List.exists_left_of_forall₂ reads listed with ⟨renamedEntry, isRenamed, here⟩
    rcases List.mem_map.mp isRenamed with ⟨entry, _, rfl⟩
    rcases TypeNode.exists_id_renamedEntry_iff.mp here.id with ⟨id, same, _⟩
    exact ⟨id, same.symm⟩
  exact ranged

/-- Entries under other names are read as a dump if and only if the entries are, and then as the
same dump under other names. -/
theorem ofEntries_renamedEntry_iff (injective : Function.Injective rename) {other : TypeDump} :
    ofEntries (entries.map (Value.renamedEntry rename)) = .ok other ↔
      ∃ dump : TypeDump, other = dump.renamed rename ∧ ofEntries entries = .ok dump := by
  simp only [ofEntries_eq_ok_iff]
  constructor
  · rintro ⟨reads, distinct⟩
    -- All ids of the other dump are new names, so references to them have old ones.
    rcases exists_ids_of_renamedEntry reads with ⟨known, same⟩
    have sameIds : other.ids = known.map rename := same.symm
    rw [sameIds] at reads distinct
    rcases (TypeNode.forall₂_readsAs_renamedEntry_iff injective).mp reads with
      ⟨nodes, renamedNodes, reads⟩
    have isRenamed : other = renamed rename ⟨nodes⟩ := congrArg TypeDump.mk renamedNodes
    have isKnown : ids ⟨nodes⟩ = known := by
      apply List.map_injective_iff.mpr injective
      rw [← sameIds, isRenamed, ids_renamed]
    refine ⟨⟨nodes⟩, isRenamed, ?_, ?_⟩
    · rw [isKnown]
      exact reads
    · rw [isKnown]
      exact (List.nodup_map_iff injective).mp distinct
  · rintro ⟨dump, rfl, reads, distinct⟩
    rw [ids_renamed]
    constructor
    · exact (TypeNode.forall₂_readsAs_renamedEntry_iff injective).mpr ⟨dump.nodes, rfl, reads⟩
    · exact (List.nodup_map_iff injective).mpr distinct

end TypeDump
end DirectiveLint
