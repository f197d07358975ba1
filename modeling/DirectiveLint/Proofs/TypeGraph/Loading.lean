import DirectiveLint.Proofs.Escape
import DirectiveLint.TypeGraph.DumpReader
import Mathlib.Data.List.Forall2

/-!
# What the entries of a dump are read as

A dump is read in two passes: the first makes a type of every entry, the second
looks up the references among the ids of all of them.  `ReadsAs` relates one
entry to its finished type.  It goes field by field and knows the other entries
only as a set of ids, so that neither the passes nor the order of the entries
appear in it.

The main statement is that a list of entries is read as a dump exactly if every
entry is related to its type and no id occurs twice.
-/

namespace DirectiveLint

namespace List

universe u v

variable {α : Type u} {β : Type v} {Related : α → β → Prop} {firsts : List α} {seconds : List β}

/-- Whatever stands on the right of related lists is related to something on the left. -/
theorem exists_left_of_forall₂ (related : List.Forall₂ Related firsts seconds) {second : β}
    (member : second ∈ seconds) : ∃ first ∈ firsts, Related first second := by
  induction related with
  | nil => cases member
  | cons here _ inductionHypothesis =>
      rcases List.mem_cons.mp member with rfl | later
      · exact ⟨_, List.mem_cons_self, here⟩
      · rcases inductionHypothesis later with ⟨first, listed, found⟩
        exact ⟨first, List.mem_cons_of_mem _ listed, found⟩

end List

namespace TypeNode

variable {known : List Int} {owner : Int} {entry : Value} {node : TypeNode}

/-! ## Fields of an entry -/

/-- Whether a reference stands for one of the known ids. -/
def StandsFor (known : List Int) (reference : Value) (id : Int) : Prop :=
  TypeId.ofValue reference = .ok id ∧ id ∈ known

/-- Whether what a field yields stands for ids, one after the other. -/
def FieldStandsFor (known : List Int) (entry : Value) (key : LooseText) (ids : List Int) : Prop :=
  ∃ references, readElements entry key = .ok references ∧
    List.Forall₂ (StandsFor known) references ids

/-- Whether the field for the base types stands for some, or is missing where there are none. -/
def BaseTypesStandFor (known : List Int) (entry : Value) (baseTypes : Option (List Int)) : Prop :=
  (entry.field? "baseTypes" = none ∧ baseTypes = none) ∨
    (entry.field? "baseTypes" ≠ none ∧
      ∃ ids, baseTypes = some ids ∧ FieldStandsFor known entry "baseTypes" ids)

/-- What an entry says the target is; nothing if it says none. -/
def targetOf (entry : Value) : Value :=
  (entry.field? "target").getD .null

/-- Whether the field for the target stands for one, or for none. -/
def TargetStandsFor (known : List Int) (entry : Value) (target : Option Int) : Prop :=
  (targetOf entry = .null ∧ target = none) ∨
    (targetOf entry ≠ .null ∧ ∃ id, target = some id ∧ StandsFor known (targetOf entry) id)

/-- Whether an entry gives object flags, or has no field for them where there are none. -/
def GivesObjectFlags (entry : Value) (objectFlags : Option (Flags ObjectFlag)) : Prop :=
  (entry.field? "objectFlags" = none ∧ objectFlags = none) ∨
    ∃ value flags, entry.field? "objectFlags" = some value ∧ Flags.ofValue value = .ok flags ∧
      objectFlags = some flags

theorem readId_eq_ok_iff {id : Int} :
    readId entry = .ok id ↔
      ∃ value, entry.field? "id" = some value ∧ TypeId.ofValue value = .ok id := by
  unfold readId
  constructor
  · intro read
    split at read
    · cases read
    · next value given =>
        split at read
        · next stands =>
            cases read
            exact ⟨value, given, stands⟩
        · cases read
        · cases read
  · rintro ⟨value, given, stands⟩
    simp [given, stands]

theorem readFlags_eq_ok_iff {Flag : Type} [FlagKind Flag] {value : Value} {flags : Flags Flag} :
    readFlags owner value = .ok flags ↔ Flags.ofValue value = .ok flags := by
  unfold readFlags
  split <;> simp [*]

theorem readTypeFlags_eq_ok_iff {flags : Flags TypeFlag} :
    readTypeFlags owner entry = .ok flags ↔
      (∃ value, entry.field? "flags" = some value ∧ Flags.ofValue value = .ok flags) ∧
        flags.isEmpty = false := by
  unfold readTypeFlags
  constructor
  · intro read
    split at read
    · cases read
    · next value given =>
        split at read
        · cases read
        · next others described =>
            split at read
            · cases read
            · next nonempty =>
                cases read
                exact ⟨⟨value, given, readFlags_eq_ok_iff.mp described⟩,
                  Bool.eq_false_iff.mpr nonempty⟩
  · rintro ⟨⟨value, given, described⟩, nonempty⟩
    simp [given, readFlags_eq_ok_iff.mpr described, nonempty]

theorem readObjectFlags_eq_ok_iff {objectFlags : Option (Flags ObjectFlag)} :
    readObjectFlags owner entry = .ok objectFlags ↔ GivesObjectFlags entry objectFlags := by
  unfold readObjectFlags GivesObjectFlags
  constructor
  · intro read
    split at read
    · next absent =>
        cases read
        exact Or.inl ⟨absent, rfl⟩
    · next value given =>
        split at read
        · next flags described =>
            cases read
            exact Or.inr ⟨value, flags, given, readFlags_eq_ok_iff.mp described, rfl⟩
        · cases read
  · rintro (⟨absent, rfl⟩ | ⟨value, flags, given, described, rfl⟩)
    · simp [absent]
    · simp [given, readFlags_eq_ok_iff.mpr described]

theorem resolve_eq_ok_iff {reference : Value} {id : Int} :
    resolve known owner reference = .ok id ↔ StandsFor known reference id := by
  unfold resolve StandsFor
  cases TypeId.ofValue reference with
  | error fault => cases fault <;> simp
  | ok other =>
      simp only [List.contains_iff_mem, Except.ok.injEq]
      split
      · next member =>
          simp only [Except.ok.injEq]
          constructor
          · rintro rfl
            exact ⟨rfl, member⟩
          · exact And.left
      · next missing =>
          simp only [reduceCtorEq, false_iff, not_and]
          rintro rfl
          exact missing

theorem resolveAll_eq_ok_iff {references : List Value} {ids : List Int} :
    resolveAll known owner references = .ok ids ↔
      List.Forall₂ (StandsFor known) references ids := by
  induction references generalizing ids with
  | nil => simp [resolveAll, eq_comm]
  | cons reference rest inductionHypothesis =>
      unfold resolveAll
      constructor
      · intro resolved
        split at resolved
        · cases resolved
        · next id here =>
            split at resolved
            · cases resolved
            · next others later =>
                cases resolved
                exact .cons (resolve_eq_ok_iff.mp here) (inductionHypothesis.mp later)
      · intro stands
        cases stands with
        | cons here later =>
            simp only [resolve_eq_ok_iff.mpr here, inductionHypothesis.mpr later]

theorem readReferences_eq_ok_iff {key : LooseText} {ids : List Int} :
    readReferences known owner entry key = .ok ids ↔ FieldStandsFor known entry key ids := by
  unfold readReferences FieldStandsFor
  cases readElements entry key with
  | error failure => simp
  | ok references => simp [resolveAll_eq_ok_iff]

theorem readBaseTypes_eq_ok_iff {baseTypes : Option (List Int)} :
    readBaseTypes known owner entry = .ok baseTypes ↔
      BaseTypesStandFor known entry baseTypes := by
  unfold readBaseTypes BaseTypesStandFor
  constructor
  · intro read
    split at read
    · next absent =>
        cases read
        exact Or.inl ⟨absent, rfl⟩
    · next value given =>
        split at read
        · next ids resolved =>
            cases read
            exact Or.inr ⟨by simp [given], ids, rfl, readReferences_eq_ok_iff.mp resolved⟩
        · cases read
  · rintro (⟨absent, rfl⟩ | ⟨present, ids, rfl, stands⟩)
    · simp [absent]
    · rcases Option.ne_none_iff_exists'.mp present with ⟨value, given⟩
      simp [given, readReferences_eq_ok_iff.mpr stands]

theorem readTarget_eq_ok_iff {target : Option Int} :
    readTarget known owner entry = .ok target ↔ TargetStandsFor known entry target := by
  unfold readTarget TargetStandsFor targetOf
  constructor
  · intro read
    split at read
    · next missing =>
        cases read
        exact Or.inl ⟨missing, rfl⟩
    · next reference given =>
        split at read
        · next id resolved =>
            cases read
            exact Or.inr ⟨given, id, rfl, resolve_eq_ok_iff.mp resolved⟩
        · cases read
  · rintro (⟨missing, rfl⟩ | ⟨given, id, rfl, stands⟩)
    · simp [missing]
    · split
      · next missing => exact absurd missing given
      · simp [resolve_eq_ok_iff.mpr stands]

/-! ## Entries -/

/-- Whether a type has what an entry says of it, apart from references. -/
structure HasFieldsOf (entry : Value) (node : TypeNode) : Prop where
  id : ∃ value, entry.field? "id" = some value ∧ TypeId.ofValue value = .ok node.id
  flags : ∃ value, entry.field? "flags" = some value ∧ Flags.ofValue value = .ok node.flags
  flags_isEmpty : node.flags.isEmpty = false
  objectFlags : GivesObjectFlags entry node.objectFlags
  intrinsicName : node.intrinsicName = (entry.field? "intrinsicName").getD .null
  symbolName : node.symbolName = (entry.field? "symbol").filter Value.isGiven
  value : node.value = (entry.field? "value").getD .null
  texts : readElements entry "texts" = .ok node.texts

/-- Whether a type has the references of an entry, all of them to known ids. -/
structure HasReferencesOf (known : List Int) (entry : Value) (node : TypeNode) : Prop where
  types : FieldStandsFor known entry "types" node.types
  typeArguments : FieldStandsFor known entry "typeArguments" node.typeArguments
  baseTypes : BaseTypesStandFor known entry node.baseTypes
  target : TargetStandsFor known entry node.target

/-- Whether a type is what an entry is read as, next to types with the known ids. -/
structure ReadsAs (known : List Int) (entry : Value) (node : TypeNode) : Prop
    extends HasFieldsOf entry node, HasReferencesOf known entry node

/-- A type without its references, as the first pass makes it. -/
def bare (node : TypeNode) : TypeNode :=
  { node with types := [], typeArguments := [], baseTypes := none, target := none }

theorem hasFieldsOf_bare : node.bare.HasFieldsOf entry ↔ node.HasFieldsOf entry :=
  ⟨fun ⟨id, flags, someFlag, objectFlags, name, symbol, value, texts⟩ =>
      ⟨id, flags, someFlag, objectFlags, name, symbol, value, texts⟩,
    fun ⟨id, flags, someFlag, objectFlags, name, symbol, value, texts⟩ =>
      ⟨id, flags, someFlag, objectFlags, name, symbol, value, texts⟩⟩

/-- What the first pass makes of an entry after those with some ids. -/
theorem read_eq_ok_iff {before : List Int} :
    read before entry = .ok node ↔
      node.HasFieldsOf entry ∧ node.id ∉ before ∧ node.bare = node := by
  unfold read
  constructor
  · intro read
    rcases Except.bind_eq_ok_iff.mp read with ⟨id, hasId, read⟩
    dsimp only at read
    split at read
    · cases read
    · next fresh =>
        rcases Except.bind_eq_ok_iff.mp read with ⟨flags, hasFlags, read⟩
        rcases Except.bind_eq_ok_iff.mp read with ⟨objectFlags, hasObjectFlags, read⟩
        rcases Except.bind_eq_ok_iff.mp read with ⟨texts, hasTexts, read⟩
        cases read
        have flagged := readTypeFlags_eq_ok_iff.mp hasFlags
        refine ⟨⟨readId_eq_ok_iff.mp hasId, flagged.1, flagged.2,
          readObjectFlags_eq_ok_iff.mp hasObjectFlags, rfl, rfl, rfl, hasTexts⟩, ?_, rfl⟩
        intro member
        exact fresh (List.contains_iff_mem.mpr member)
  · rintro ⟨fields, fresh, isBare⟩
    refine Except.bind_eq_ok_iff.mpr ⟨node.id, readId_eq_ok_iff.mpr fields.id, ?_⟩
    dsimp only
    rw [if_neg (mt List.contains_iff_mem.mp fresh)]
    refine Except.bind_eq_ok_iff.mpr
      ⟨node.flags, readTypeFlags_eq_ok_iff.mpr ⟨fields.flags, fields.flags_isEmpty⟩, ?_⟩
    refine Except.bind_eq_ok_iff.mpr
      ⟨node.objectFlags, readObjectFlags_eq_ok_iff.mpr fields.objectFlags, ?_⟩
    refine Except.bind_eq_ok_iff.mpr ⟨node.texts, fields.texts, ?_⟩
    rw [← fields.intrinsicName, ← fields.symbolName, ← fields.value]
    exact congrArg Except.ok isBare

/-- What the second pass makes of a type. -/
theorem connect_eq_ok_iff {connected : TypeNode} :
    connect known entry node = .ok connected ↔
      connected.HasReferencesOf known entry ∧ connected.bare = node.bare := by
  unfold connect
  constructor
  · intro connect
    rcases Except.bind_eq_ok_iff.mp connect with ⟨types, hasTypes, connect⟩
    rcases Except.bind_eq_ok_iff.mp connect with ⟨arguments, hasArguments, connect⟩
    rcases Except.bind_eq_ok_iff.mp connect with ⟨baseTypes, hasBaseTypes, connect⟩
    rcases Except.bind_eq_ok_iff.mp connect with ⟨target, hasTarget, connect⟩
    cases connect
    exact ⟨⟨readReferences_eq_ok_iff.mp hasTypes, readReferences_eq_ok_iff.mp hasArguments,
      readBaseTypes_eq_ok_iff.mp hasBaseTypes, readTarget_eq_ok_iff.mp hasTarget⟩, rfl⟩
  · rintro ⟨references, same⟩
    refine Except.bind_eq_ok_iff.mpr
      ⟨connected.types, readReferences_eq_ok_iff.mpr references.types, ?_⟩
    refine Except.bind_eq_ok_iff.mpr
      ⟨connected.typeArguments, readReferences_eq_ok_iff.mpr references.typeArguments, ?_⟩
    refine Except.bind_eq_ok_iff.mpr
      ⟨connected.baseTypes, readBaseTypes_eq_ok_iff.mpr references.baseTypes, ?_⟩
    refine Except.bind_eq_ok_iff.mpr
      ⟨connected.target, readTarget_eq_ok_iff.mpr references.target, ?_⟩
    cases connected
    cases node
    cases same
    rfl

/-! ## Lists of entries -/

/-- Whether a type is what the first pass makes of an entry. -/
def IsBareOf (entry : Value) (node : TypeNode) : Prop :=
  node.HasFieldsOf entry ∧ node.bare = node

/-- The first pass makes a type of every entry, and no id occurs twice. -/
theorem readAll_eq_ok_iff {before : List Int} {entries : List Value} {nodes : List TypeNode} :
    readAll before entries = .ok nodes ↔
      List.Forall₂ IsBareOf entries nodes ∧
        (nodes.map TypeNode.id).Nodup ∧ ∀ node ∈ nodes, node.id ∉ before := by
  -- What an entry is refused for depends on the entries before it by their ids only.
  induction entries generalizing before nodes with
  | nil =>
      constructor
      · intro read
        cases read
        simp
      · rintro ⟨fields, _⟩
        cases fields
        rfl
  | cons entry rest inductionHypothesis =>
      unfold readAll
      constructor
      · intro read
        split at read
        · cases read
        · next node here =>
            split at read
            · cases read
            · next nodes later =>
                cases read
                rcases read_eq_ok_iff.mp here with ⟨fields, fresh, isBare⟩
                rcases inductionHypothesis.mp later with ⟨others, distinct, laterFresh⟩
                refine ⟨.cons ⟨fields, isBare⟩ others, ?_, ?_⟩
                · rw [List.map_cons, List.nodup_cons]
                  refine ⟨?_, distinct⟩
                  intro member
                  rcases List.mem_map.mp member with ⟨other, listed, same⟩
                  exact laterFresh other listed (same ▸ List.mem_cons_self)
                · rw [List.forall_mem_cons]
                  refine ⟨fresh, fun other listed member => ?_⟩
                  exact laterFresh other listed (List.mem_cons_of_mem _ member)
      · rintro ⟨fields, distinct, fresh⟩
        cases fields with
        | @cons _ node _ nodes here others =>
            rw [List.forall_mem_cons] at fresh
            rw [List.map_cons, List.nodup_cons] at distinct
            have first := read_eq_ok_iff.mpr ⟨here.1, fresh.1, here.2⟩
            have later : readAll (node.id :: before) rest = .ok nodes := by
              refine inductionHypothesis.mpr ⟨others, distinct.2, fun other listed member => ?_⟩
              rcases List.mem_cons.mp member with same | earlier
              · exact distinct.1 (List.mem_map.mpr ⟨other, listed, same⟩)
              · exact fresh.2 other listed earlier
            simp only [first, later]

/-- The second pass gives each type the references of its entry. -/
theorem connectAll_eq_ok_iff {pairs : List (Value × TypeNode)} {nodes : List TypeNode} :
    connectAll known pairs = .ok nodes ↔
      List.Forall₂ (fun pair node => HasReferencesOf known pair.1 node ∧ node.bare = pair.2.bare)
        pairs nodes := by
  induction pairs generalizing nodes with
  | nil => simp [connectAll, eq_comm]
  | cons pair rest inductionHypothesis =>
      rcases pair with ⟨entry, node⟩
      unfold connectAll
      constructor
      · intro connected
        split at connected
        · cases connected
        · next node here =>
            split at connected
            · cases connected
            · next nodes later =>
                cases connected
                exact .cons (connect_eq_ok_iff.mp here) (inductionHypothesis.mp later)
      · intro references
        cases references with
        | cons here later =>
            simp only [connect_eq_ok_iff.mpr here, inductionHypothesis.mpr later]

/-- The second pass finishes the types of the first one and changes nothing else of them. -/
theorem forall₂_hasReferencesOf_iff {entries : List Value} {made nodes : List TypeNode}
    (fields : List.Forall₂ IsBareOf entries made) :
    List.Forall₂ (fun pair node => HasReferencesOf known pair.1 node ∧ node.bare = pair.2.bare)
        (entries.zip made) nodes ↔
      List.Forall₂ (ReadsAs known) entries nodes ∧ nodes.map bare = made := by
  induction fields generalizing nodes with
  | nil =>
      constructor
      · intro references
        cases references
        exact ⟨.nil, rfl⟩
      · rintro ⟨reads, _⟩
        cases reads
        exact .nil
  | @cons entry first entries made here _ inductionHypothesis =>
      constructor
      · intro references
        cases references with
        | @cons _ node _ nodes found rest =>
            rcases inductionHypothesis.mp rest with ⟨reads, same⟩
            have sameHere : node.bare = first := found.2.trans here.2
            have kept : node.HasFieldsOf entry := by
              rw [← hasFieldsOf_bare, sameHere]
              exact here.1
            refine ⟨.cons ⟨kept, found.1⟩ reads, ?_⟩
            rw [List.map_cons, same, sameHere]
      · rintro ⟨reads, same⟩
        cases reads with
        | @cons _ node _ nodes found rest =>
            rw [List.map_cons, List.cons.injEq] at same
            refine .cons ⟨found.toHasReferencesOf, ?_⟩ (inductionHypothesis.mpr ⟨rest, same.2⟩)
            rw [same.1, here.2]

end TypeNode

namespace TypeDump

/-- The ids of the types of a dump. -/
def ids (dump : TypeDump) : List Int :=
  dump.nodes.map TypeNode.id

theorem map_id_bare (nodes : List TypeNode) :
    (nodes.map TypeNode.bare).map TypeNode.id = nodes.map TypeNode.id := by
  rw [List.map_map]
  rfl

/-- A dump is read from entries exactly if each of its types is what the entry in its place is read
as, next to the types of this dump, and no id occurs twice. -/
theorem ofEntries_eq_ok_iff {entries : List Value} {dump : TypeDump} :
    ofEntries entries = .ok dump ↔
      List.Forall₂ (TypeNode.ReadsAs dump.ids) entries dump.nodes ∧ dump.ids.Nodup := by
  unfold ofEntries
  constructor
  · intro read
    split at read
    · cases read
    · next made first =>
        split at read
        · next nodes second =>
            cases read
            rcases TypeNode.readAll_eq_ok_iff.mp first with ⟨fields, distinct, _⟩
            have references := TypeNode.connectAll_eq_ok_iff.mp second
            rcases (TypeNode.forall₂_hasReferencesOf_iff fields).mp references with ⟨reads, rfl⟩
            rw [map_id_bare] at reads distinct
            exact ⟨reads, distinct⟩
        · cases read
  · rintro ⟨reads, distinct⟩
    have fields : List.Forall₂ TypeNode.IsBareOf entries (dump.nodes.map TypeNode.bare) := by
      rw [List.forall₂_map_right_iff]
      exact reads.imp fun entry node here =>
        ⟨TypeNode.hasFieldsOf_bare.mpr here.toHasFieldsOf, rfl⟩
    have first : TypeNode.readAll [] entries = .ok (dump.nodes.map TypeNode.bare) := by
      refine TypeNode.readAll_eq_ok_iff.mpr ⟨fields, ?_, by simp⟩
      rw [map_id_bare]
      exact distinct
    have second : TypeNode.connectAll dump.ids (entries.zip (dump.nodes.map TypeNode.bare)) =
        .ok dump.nodes :=
      TypeNode.connectAll_eq_ok_iff.mpr
        ((TypeNode.forall₂_hasReferencesOf_iff fields).mpr ⟨reads, rfl⟩)
    rw [first]
    dsimp only
    rw [map_id_bare]
    simp only [ids] at second
    rw [second]

end TypeDump
end DirectiveLint
