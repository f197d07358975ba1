import DirectiveLint.Proofs.TypeGraph.Loading

/-!
# Dumps are closed graphs

A dump that was read has one type for each entry, in the order of the entries,
and all ids are distinct.  Every reference of a type is one that its entry lists,
in the same place, and it leads to a type of the same dump.  It does not matter
whether that type comes earlier or later, is the type itself, or leads back to
it.
-/

namespace DirectiveLint

namespace TypeNode

/-- The ids to which a type refers. -/
def references (node : TypeNode) : List Int :=
  node.types ++ node.typeArguments ++ node.baseTypes.getD [] ++ node.target.toList

end TypeNode

namespace TypeDump

variable {dump : TypeDump}

/-- Whether an id is that of a type of the dump. -/
def Has (dump : TypeDump) (id : Int) : Prop :=
  ∃ node ∈ dump.nodes, node.id = id ∧ dump.find? id = some node

/-- Whether a reference, as an integer, is an id of the dump. -/
def Resolves (dump : TypeDump) (reference : Value) (id : Int) : Prop :=
  TypeId.ofValue reference = .ok id ∧ dump.Has id

/-- Whether a field of an entry lists references to some types of the dump, one after the other. -/
def FieldResolves (dump : TypeDump) (entry : Value) (key : String) (ids : List Int) : Prop :=
  ∃ references, TypeNode.readElements entry key = .ok references ∧
    List.Forall₂ dump.Resolves references ids

/-- What a type of the dump has from its entry: an id, and references that resolve in the dump. -/
structure Presents (dump : TypeDump) (entry : Value) (node : TypeNode) : Prop where
  id : ∃ value, entry.field? "id" = some value ∧ TypeId.ofValue value = .ok node.id
  types : dump.FieldResolves entry "types" node.types
  typeArguments : dump.FieldResolves entry "typeArguments" node.typeArguments
  baseTypes_of_absent : entry.field? "baseTypes" = none → node.baseTypes = none
  baseTypes_of_present : entry.field? "baseTypes" ≠ none →
    ∃ ids, node.baseTypes = some ids ∧ dump.FieldResolves entry "baseTypes" ids
  target_of_null : TypeNode.targetOf entry = .null → node.target = none
  target_of_given : TypeNode.targetOf entry ≠ .null →
    ∃ id, node.target = some id ∧ dump.Resolves (TypeNode.targetOf entry) id

/-- A type is found by its id where ids are distinct. -/
theorem find?_id_of_mem (distinct : dump.ids.Nodup) {node : TypeNode} (member : node ∈ dump.nodes) :
    dump.find? node.id = some node := by
  rcases dump with ⟨nodes⟩
  simp only [ids, find?] at distinct member ⊢
  induction nodes with
  | nil => cases member
  | cons first rest inductionHypothesis =>
      rw [List.map_cons, List.nodup_cons] at distinct
      rw [List.find?_cons]
      rcases List.mem_cons.mp member with rfl | later
      · simp
      · have different : first.id ≠ node.id := by
          intro same
          exact distinct.1 (same ▸ List.mem_map_of_mem later)
        rw [beq_eq_false_iff_ne.mpr different]
        exact inductionHypothesis distinct.2 later

theorem find?_eq_some_iff (distinct : dump.ids.Nodup) {id : Int} {node : TypeNode} :
    dump.find? id = some node ↔ node ∈ dump.nodes ∧ node.id = id := by
  constructor
  · intro found
    exact ⟨List.mem_of_find?_eq_some found, by simpa using List.find?_some found⟩
  · rintro ⟨member, rfl⟩
    exact find?_id_of_mem distinct member

theorem has_of_mem_ids (distinct : dump.ids.Nodup) {id : Int} (member : id ∈ dump.ids) :
    dump.Has id := by
  rcases List.mem_map.mp member with ⟨node, listed, rfl⟩
  exact ⟨node, listed, rfl, find?_id_of_mem distinct listed⟩

section

variable (distinct : dump.ids.Nodup) {entry : Value}

include distinct

theorem resolves_of_standsFor {reference : Value} {id : Int}
    (stands : TypeNode.StandsFor dump.ids reference id) : dump.Resolves reference id :=
  ⟨stands.1, has_of_mem_ids distinct stands.2⟩

theorem fieldResolves_of_standsFor {key : String} {ids : List Int}
    (stands : TypeNode.FieldStandsFor dump.ids entry key ids) :
      dump.FieldResolves entry key ids := by
  rcases stands with ⟨references, listed, related⟩
  exact ⟨references, listed, related.imp fun _ _ here => resolves_of_standsFor distinct here⟩

/-- What an entry is read as has references that resolve. -/
theorem presents_of_readsAs {node : TypeNode} (reads : node.ReadsAs dump.ids entry) :
    dump.Presents entry node := by
  refine ⟨reads.id, fieldResolves_of_standsFor distinct reads.types,
    fieldResolves_of_standsFor distinct reads.typeArguments, ?_, ?_, ?_, ?_⟩
  · intro absent
    rcases reads.baseTypes with ⟨_, none⟩ | ⟨present, _⟩
    · exact none
    · exact absurd absent present
  · intro present
    rcases reads.baseTypes with ⟨absent, _⟩ | ⟨_, ids, same, stands⟩
    · exact absurd absent present
    · exact ⟨ids, same, fieldResolves_of_standsFor distinct stands⟩
  · intro null
    rcases reads.target with ⟨_, none⟩ | ⟨given, _⟩
    · exact none
    · exact absurd null given
  · intro given
    rcases reads.target with ⟨null, _⟩ | ⟨_, id, same, stands⟩
    · exact absurd null given
    · exact ⟨id, same, resolves_of_standsFor distinct stands⟩

end

theorem has_of_fieldResolves {entry : Value} {key : String} {ids : List Int}
    (resolves : dump.FieldResolves entry key ids) : ∀ id ∈ ids, dump.Has id := by
  intro id member
  rcases resolves with ⟨references, _, related⟩
  rcases List.exists_left_of_forall₂ related member with ⟨reference, _, found⟩
  exact found.2

/-- A type refers to types of the dump only. -/
theorem Presents.has_of_mem_references {entry : Value} {node : TypeNode}
    (presents : dump.Presents entry node) : ∀ id ∈ node.references, dump.Has id := by
  intro id member
  unfold TypeNode.references at member
  rw [List.mem_append, List.mem_append, List.mem_append] at member
  rcases member with ((inTypes | inArguments) | inBases) | isTarget
  · exact has_of_fieldResolves presents.types id inTypes
  · exact has_of_fieldResolves presents.typeArguments id inArguments
  · by_cases absent : entry.field? "baseTypes" = none
    · rw [presents.baseTypes_of_absent absent] at inBases
      cases inBases
    · rcases presents.baseTypes_of_present absent with ⟨ids, same, resolves⟩
      rw [same] at inBases
      exact has_of_fieldResolves resolves id inBases
  · by_cases null : TypeNode.targetOf entry = .null
    · rw [presents.target_of_null null] at isTarget
      cases isTarget
    · rcases presents.target_of_given null with ⟨target, same, resolves⟩
      rw [same, Option.toList_some, List.mem_singleton] at isTarget
      rw [isTarget]
      exact resolves.2

/-- A value is only read as a dump if it lists entries. -/
theorem exists_entries_of_ofValue {value : Value} (loaded : ofValue value = .ok dump) :
    ∃ entries, value.field? "types" = some (.list entries) ∧ ofEntries entries = .ok dump := by
  unfold ofValue at loaded
  split at loaded
  · next entries listed => exact ⟨entries, listed, loaded⟩
  · cases loaded

/-- A dump that was read presents its entries one by one and in their order.  Ids are distinct, a
type is found by its id and has flags, and all references lead to types of the dump. -/
theorem ofValue_closed {value : Value} (loaded : ofValue value = .ok dump) :
    ∃ entries, value.field? "types" = some (.list entries) ∧
      dump.nodes.length = entries.length ∧
      List.Forall₂ dump.Presents entries dump.nodes ∧
      (dump.nodes.map TypeNode.id).Nodup ∧
      (∀ node ∈ dump.nodes, dump.find? node.id = some node ∧ node.flags ≠ .empty) ∧
      ∀ node ∈ dump.nodes, ∀ id ∈ node.references, dump.Has id := by
  rcases exists_entries_of_ofValue loaded with ⟨entries, listed, read⟩
  rcases ofEntries_eq_ok_iff.mp read with ⟨reads, distinct⟩
  have presents : List.Forall₂ dump.Presents entries dump.nodes :=
    reads.imp fun _ _ here => presents_of_readsAs distinct here
  refine ⟨entries, listed, reads.length_eq.symm, presents, distinct, ?_, ?_⟩
  · intro node member
    rcases List.exists_left_of_forall₂ reads member with ⟨entry, _, here⟩
    refine ⟨find?_id_of_mem distinct member, ?_⟩
    intro empty
    have flags := here.flags_isEmpty
    rw [empty] at flags
    cases flags
  · intro node member
    rcases List.exists_left_of_forall₂ reads member with ⟨entry, _, here⟩
    exact (presents_of_readsAs distinct here).has_of_mem_references

/-- Two types that refer to themselves and to each other, forwards and backwards. The first id has a
fraction, the second one is a text. -/
def entwined : Value :=
  .object [("types", .list [
    .object [("id", .real (.ofDecimal false 19 (-1))), ("flags", .integer 1),
      ("types", .list [.text " 2 ", .integer 1])],
    .object [("id", .text "2"), ("flags", .text "Object"), ("target", .boolean true),
      ("baseTypes", .list [.integer 2, .integer 1])]])]

theorem ofValue_closed_entwined :
    ∃ dump, ofValue entwined = .ok dump ∧
      dump.nodes.map (fun node => (node.id, node.types, node.baseTypes, node.target)) =
        [(1, [2, 1], none, none), (2, [], some [2, 1], some 1)] ∧
      ∀ node ∈ dump.nodes, ∀ id ∈ node.references, dump.Has id := by
  have graph : (ofValue entwined).toOption.map (fun dump =>
        dump.nodes.map fun node => (node.id, node.types, node.baseTypes, node.target)) =
      some [(1, [2, 1], none, none), (2, [], some [2, 1], some 1)] := by
    decide +kernel
  cases loaded : ofValue entwined with
  | error failure =>
      rw [loaded] at graph
      cases graph
  | ok dump =>
      rw [loaded] at graph
      rcases ofValue_closed loaded with ⟨_, _, _, _, _, _, closed⟩
      exact ⟨dump, rfl, Option.some.inj graph, closed⟩

end TypeDump
end DirectiveLint
