import DirectiveLint.Proofs.TypeGraph.ClosedGraph
import DirectiveLint.Proofs.TypeGraph.HostMap
import DirectiveLint.Proofs.TypeGraph.Renaming
import Mathlib.Data.List.Perm.Basic

/-!
# Dumps up to order and names

Neither the order of the entries of a dump nor the names of its ids matter.  A
dump with the same entries in another order and under other names is read
exactly if the dump is read, and then every type gets the verdicts that the type
of the other name gets.

A change of order does not change what is found under an id, so the two hosts
are one.  A change of names maps the one host to the other.
-/

namespace DirectiveLint

namespace TypeNode

/-- What an entry is read as does not change with ids that are known besides. -/
theorem ReadsAs.mono {known others : List Int} {entry : Value} {node : TypeNode}
    (reads : node.ReadsAs known entry) (subset : known ⊆ others) : node.ReadsAs others entry := by
  have stands : ∀ reference id, StandsFor known reference id → StandsFor others reference id := by
    intro reference id here
    exact ⟨here.1, subset here.2⟩
  have fieldStands : ∀ {key ids}, FieldStandsFor known entry key ids →
      FieldStandsFor others entry key ids := by
    rintro key ids ⟨references, listed, related⟩
    exact ⟨references, listed, related.imp stands⟩
  refine ⟨reads.toHasFieldsOf, fieldStands reads.types, fieldStands reads.typeArguments, ?_, ?_⟩
  · rcases reads.baseTypes with absent | ⟨present, ids, same, here⟩
    · exact Or.inl absent
    · exact Or.inr ⟨present, ids, same, fieldStands here⟩
  · rcases reads.target with missing | ⟨given, id, same, here⟩
    · exact Or.inl missing
    · exact Or.inr ⟨given, id, same, stands _ _ here⟩

theorem toHandle_renamed (rename : Int → Int) (node : TypeNode) :
    (node.renamed rename).toHandle = node.toHandle.mapReferences rename := by
  cases found : node.baseTypes <;> simp [toHandle, renamed, Handle.mapReferences, found]

end TypeNode

namespace TypeDump

variable {dump other : TypeDump} {entries others : List Value} {rename : Int → Int}

/-- The verdicts on a type of a dump. -/
def verdicts (dump : TypeDump) (base : Option Int) (id : Int) : Except HandleFault Verdicts :=
  dump.host.verdicts (.bySymbols dump.host Accessor.arrayNames) base id

/-! ## Other orders -/

/-- The same entries in another order are read as the same types in another order. -/
theorem ofEntries_perm (reordered : others.Perm entries) (loaded : ofEntries entries = .ok dump) :
    ∃ other : TypeDump, ofEntries others = .ok other ∧ other.nodes.Perm dump.nodes := by
  rcases ofEntries_eq_ok_iff.mp loaded with ⟨reads, distinct⟩
  rcases List.perm_comp_forall₂ reordered reads with ⟨nodes, readsReordered, sameNodes⟩
  have sameIds : (ids ⟨nodes⟩).Perm dump.ids := sameNodes.map TypeNode.id
  refine ⟨⟨nodes⟩, ofEntries_eq_ok_iff.mpr ⟨?_, sameIds.nodup_iff.mpr distinct⟩, sameNodes⟩
  exact readsReordered.imp fun entry node here => here.mono sameIds.symm.subset

theorem find?_eq_of_perm (reordered : other.nodes.Perm dump.nodes) (distinct : dump.ids.Nodup)
    (id : Int) : other.find? id = dump.find? id := by
  have otherDistinct : other.ids.Nodup := (reordered.map TypeNode.id).nodup_iff.mpr distinct
  apply Option.ext
  intro node
  rw [find?_eq_some_iff distinct, find?_eq_some_iff otherDistinct, reordered.mem_iff]

theorem host_eq_of_perm (reordered : other.nodes.Perm dump.nodes) (distinct : dump.ids.Nodup) :
    other.host = dump.host := by
  funext id
  unfold host
  rw [find?_eq_of_perm reordered distinct]

/-! ## Other names -/

section

variable (injective : Function.Injective rename)

include injective

theorem find?_renamed (dump : TypeDump) (id : Int) :
    (dump.renamed rename).find? (rename id) = (dump.find? id).map (TypeNode.renamed rename) := by
  have sameTest : ∀ node : TypeNode,
      ((node.renamed rename).id == rename id) = (node.id == id) := by
    intro node
    apply Bool.eq_iff_iff.mpr
    rw [beq_iff_eq, beq_iff_eq]
    exact injective.eq_iff
  unfold find? renamed
  rw [List.find?_map]
  simp only [Function.comp_def, sameTest]

/-- Other names map the host of a dump to that of the dump under these names. -/
theorem mapsTo_host_renamed (dump : TypeDump) :
    dump.host.MapsTo rename (dump.renamed rename).host := by
  intro id
  unfold host
  rw [find?_renamed injective]
  cases dump.find? id with
  | none => rfl
  | some node => exact TypeNode.toHandle_renamed rename node

end

/-! ## Both -/

theorem ofValue_of_types {value : Value} (listed : value.field? "types" = some (.list entries)) :
    ofValue value = ofEntries entries := by
  unfold ofValue
  rw [listed]

/-- A dump with the entries of another one, in any order and under other names, is read if and only
if the other one is.  Then it has the other names as ids, and it gives the same verdicts under them,
or leaves them out because of the same fault. -/
theorem ofValue_relabelled (injective : Function.Injective rename) {value otherValue : Value}
    (listed : value.field? "types" = some (.list entries))
    (otherListed : otherValue.field? "types" = some (.list others))
    (relabelled : others.Perm (entries.map (Value.renamedEntry rename))) :
    ((∃ dump, ofValue value = .ok dump) ↔ ∃ other, ofValue otherValue = .ok other) ∧
      ∀ dump other, ofValue value = .ok dump → ofValue otherValue = .ok other →
        other.ids.Perm (dump.ids.map rename) ∧
          ∀ base id, other.verdicts (base.map rename) (rename id) = dump.verdicts base id := by
  rw [ofValue_of_types listed, ofValue_of_types otherListed]
  have renamedLoads : ∀ {dump}, ofEntries entries = .ok dump →
      ofEntries (entries.map (Value.renamedEntry rename)) = .ok (dump.renamed rename) := by
    intro dump loaded
    exact (ofEntries_renamedEntry_iff injective).mpr ⟨dump, rfl, loaded⟩
  constructor
  · constructor
    -- There and back by way of the entries under other names in the old order.
    · rintro ⟨dump, loaded⟩
      rcases ofEntries_perm relabelled (renamedLoads loaded) with ⟨other, otherLoaded, _⟩
      exact ⟨other, otherLoaded⟩
    · rintro ⟨other, loaded⟩
      rcases ofEntries_perm relabelled.symm loaded with ⟨renamedDump, renamedLoaded, _⟩
      rcases (ofEntries_renamedEntry_iff injective).mp renamedLoaded with ⟨dump, _, dumpLoaded⟩
      exact ⟨dump, dumpLoaded⟩
  · intro dump other loaded otherLoaded
    rcases ofEntries_perm relabelled (renamedLoads loaded) with ⟨reordered, again, sameNodes⟩
    have same : reordered = other := Except.ok.inj (again.symm.trans otherLoaded)
    rw [same] at sameNodes
    have distinct : (dump.renamed rename).ids.Nodup :=
      (ofEntries_eq_ok_iff.mp (renamedLoads loaded)).2
    constructor
    · rw [← ids_renamed]
      exact sameNodes.map TypeNode.id
    · intro base id
      unfold verdicts
      rw [host_eq_of_perm sameNodes distinct]
      exact Host.verdicts_image (mapsTo_host_renamed injective dump) Accessor.arrayNames base id

/-- The array type, an array of any type that refers to it, and the type of its items. -/
def arrayOfAny : List Value :=
  [.object [("id", .integer 1), ("flags", .text "Object"), ("symbol", .text "Array")],
    .object [("id", .integer 2), ("flags", .text "Object"), ("objectFlags", .text "Reference"),
      ("target", .integer 1), ("typeArguments", .list [.integer 3]),
      ("baseTypes", .list [.integer 1])],
    .object [("id", .integer 3), ("flags", .text "Any")]]

/-- The same dump backwards, with ids that count down from nine. -/
def arrayOfAnyBackwards : List Value :=
  (arrayOfAny.map (Value.renamedEntry fun id => 10 - id)).reverse

theorem ofValue_relabelled_arrayOfAny :
    ∃ dump other,
      ofValue (.object [("types", .list arrayOfAny)]) = .ok dump ∧
      ofValue (.object [("types", .list arrayOfAnyBackwards)]) = .ok other ∧
      (dump.verdicts (some 1) 2).toOption.map
        (fun found => (found.anyArray, found.typeReference)) = some (true, true) ∧
      other.verdicts (some 9) 8 = dump.verdicts (some 1) 2 := by
  have judged : (ofValue (.object [("types", .list arrayOfAny)])).toOption.bind (fun dump =>
      (dump.verdicts (some 1) 2).toOption.map fun found => (found.anyArray, found.typeReference)) =
        some (true, true) := by
    decide +kernel
  have injective : Function.Injective fun id : Int => 10 - id := by
    intro first second same
    dsimp only at same
    omega
  have listed : Value.field? "types" (.object [("types", .list arrayOfAny)]) =
      some (.list arrayOfAny) := rfl
  have otherListed : Value.field? "types" (.object [("types", .list arrayOfAnyBackwards)]) =
      some (.list arrayOfAnyBackwards) := rfl
  have relabelled := ofValue_relabelled injective listed otherListed (List.reverse_perm _)
  cases loaded : ofValue (.object [("types", .list arrayOfAny)]) with
  | error failure =>
      rw [loaded] at judged
      cases judged
  | ok dump =>
      rw [loaded] at judged
      rcases relabelled.1.mp ⟨dump, loaded⟩ with ⟨other, otherLoaded⟩
      have same := (relabelled.2 dump other loaded otherLoaded).2 (some 1) 2
      exact ⟨dump, other, rfl, otherLoaded, judged, same⟩

end TypeDump
end DirectiveLint
