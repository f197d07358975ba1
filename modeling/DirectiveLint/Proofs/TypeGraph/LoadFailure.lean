import DirectiveLint.Proofs.Escape
import DirectiveLint.Proofs.TypeGraph.Loading

/-!
# What is not reported of a dump

Most of what can be wrong with a dump is reported as its fault.  Two things are
not: a number that is infinite where an id or a reference is expected, and a
value that yields nothing one by one where a list is expected.  Nothing is
checked before it is used, so they only show if everything that is read before
them is in order: in the first pass the entries before and the fields before, in
the second pass also the references before.

Neither is a fault reported if its wording shows an integer with too many digits,
nor are flags that make no set for such an integer.  A text cannot hold such
integers, but a value can.

The main statement says exactly when a failure is not reported.
-/

namespace DirectiveLint

namespace Value

/-- Whether a value is an infinite number. -/
def IsInfinite (value : Value) : Prop :=
  ∃ negative, value = .real (.infinite negative)

/-- Whether a value yields something one by one, be it nothing at all. -/
def IsIterable (value : Value) : Prop :=
  (∃ items, value = .list items) ∨ (∃ text, value = .text text) ∨ ∃ fields, value = .object fields

theorem isIterable_iff {value : Value} :
    value.IsIterable ↔ ∃ elements, value.elements = .ok elements := by
  cases value <;> simp [IsIterable, elements]

end Value

theorem TypeId.ofValue_eq_infinite_iff {value : Value} :
    ofValue value = .error .infinite ↔ value.IsInfinite := by
  constructor
  · intro infinite
    unfold ofValue at infinite
    split at infinite
    · next negative => exact ⟨negative, rfl⟩
    all_goals split at infinite <;> cases infinite
  · rintro ⟨negative, rfl⟩
    rfl

namespace DumpFailure

/-- Whether a failure is reported as a fault of the dump. -/
def IsReported (failure : DumpFailure) : Prop :=
  ∃ fault, failure = .malformed fault

@[simp] theorem isReported_malformed (fault : DumpFault) : IsReported (.malformed fault) :=
  ⟨fault, rfl⟩

@[simp] theorem isReported_ofFault_iff {fault : DumpFault} :
    IsReported (.ofFault fault) ↔ ∀ value ∈ fault.shownValues, value.isWritable = true := by
  unfold ofFault
  split <;> simp_all [IsReported]

@[simp] theorem not_isReported_tooManyDigits : ¬IsReported .tooManyDigits := by
  rintro ⟨fault, impossible⟩
  cases impossible

@[simp] theorem not_isReported_infiniteId : ¬IsReported .infiniteId := by
  rintro ⟨fault, impossible⟩
  cases impossible

@[simp] theorem not_isReported_conversion (fault : ConversionFault) :
    ¬IsReported (.conversion fault) := by
  rintro ⟨fault, impossible⟩
  cases impossible

end DumpFailure

namespace TypeNode

open DumpFailure (IsReported)

variable {known : List Int} {owner : Int} {entry : Value} {key : LooseText}

/-! ## Fields of an entry -/

/-- Whether a field of an entry is there and does not yield anything one by one. -/
def IsNotIterable (entry : Value) (key : LooseText) : Prop :=
  ∃ value, entry.field? key = some value ∧ ¬value.IsIterable

/-- Whether the id of an entry lets a failure escape: it is infinite, or it is missing or no integer
and what is said of it cannot be written. -/
def IdBreaks (entry : Value) : Prop :=
  (entry.field? "id" = none ∧ entry.isWritable = false) ∨
    ∃ value, entry.field? "id" = some value ∧
      (value.IsInfinite ∨ TypeId.ofValue value = .error .notInteger ∧ value.isWritable = false)

theorem escapes_readId_iff : Except.Escapes IsReported (readId entry) ↔ IdBreaks entry := by
  unfold readId IdBreaks
  cases entry.field? "id" with
  | none => simp [DumpFault.shownValues]
  | some value =>
      simp only [Option.some.injEq, exists_eq_left', ← TypeId.ofValue_eq_infinite_iff]
      cases TypeId.ofValue value with
      | ok id => simp
      | error fault => cases fault <;> simp [DumpFault.shownValues]

/-- Whether a value lets a failure escape where flags are expected: the flags make no set, or the
value names no flags and what is said of it cannot be written. -/
def FlagsBreak (Flag : Type) [FlagKind Flag] (id : Int) (value : Value) : Prop :=
  (Flags.ofValue value : Except FlagFault (Flags Flag)) = .error .tooManyDigits ∨
    ∃ fault, (Flags.ofValue value : Except FlagFault (Flags Flag)) = .error (.names fault) ∧
      (Number.isWritable id = false ∨ ∃ name ∈ fault.shownValues, name.isWritable = false)

theorem escapes_readFlags_iff (Flag : Type) [FlagKind Flag] {id : Int} {value : Value} :
    Except.Escapes IsReported (readFlags id value : Except DumpFailure (Flags Flag)) ↔
      FlagsBreak Flag id value := by
  unfold readFlags FlagsBreak
  split <;> simp [*, DumpFault.shownValues, Value.isWritable, imp_iff_not_or]

/-- Whether the flags of an entry let a failure escape. -/
def TypeFlagsBreak (id : Int) (entry : Value) : Prop :=
  (entry.field? "flags" = none ∧ Number.isWritable id = false) ∨
    ∃ value, entry.field? "flags" = some value ∧
      (FlagsBreak TypeFlag id value ∨
        ∃ flags : Flags TypeFlag, Flags.ofValue value = .ok flags ∧ flags.isEmpty = true ∧
          Number.isWritable id = false)

theorem escapes_readTypeFlags_iff {id : Int} :
    Except.Escapes IsReported (readTypeFlags id entry) ↔ TypeFlagsBreak id entry := by
  unfold readTypeFlags TypeFlagsBreak
  cases entry.field? "flags" with
  | none => simp [DumpFault.shownValues, Value.isWritable]
  | some value =>
      simp only [Option.some.injEq, exists_eq_left', reduceCtorEq, false_and, false_or,
        ← escapes_readFlags_iff TypeFlag, ← @readFlags_eq_ok_iff id TypeFlag]
      cases (readFlags id value : Except DumpFailure (Flags TypeFlag)) with
      | error failure => simp
      | ok flags =>
          simp only [Except.ok.injEq, exists_eq_left', Except.not_escapes_ok, false_or]
          cases flags.isEmpty <;> simp [DumpFault.shownValues, Value.isWritable]

/-- Whether the object flags of an entry let a failure escape. -/
def ObjectFlagsBreak (id : Int) (entry : Value) : Prop :=
  ∃ value, entry.field? "objectFlags" = some value ∧ FlagsBreak ObjectFlag id value

theorem escapes_readObjectFlags_iff {id : Int} :
    Except.Escapes IsReported (readObjectFlags id entry) ↔ ObjectFlagsBreak id entry := by
  unfold readObjectFlags ObjectFlagsBreak
  cases entry.field? "objectFlags" with
  | none => simp
  | some value =>
      simp only [Option.some.injEq, exists_eq_left', ← escapes_readFlags_iff ObjectFlag]
      cases (readFlags id value : Except DumpFailure (Flags ObjectFlag)) <;> simp

theorem escapes_readElements_iff :
    Except.Escapes IsReported (readElements entry key) ↔ IsNotIterable entry key := by
  unfold readElements IsNotIterable
  cases entry.field? key with
  | none => simp
  | some value =>
      simp only [Option.some.injEq, exists_eq_left', Value.isIterable_iff]
      cases value.elements with
      | ok elements => simp
      | error fault => simp

/-- Whether a reference stands for one of the known ids, whichever it is. -/
def Stands (known : List Int) (reference : Value) : Prop :=
  ∃ id, StandsFor known reference id

/-- Whether a reference of a type lets a failure escape: it is infinite, or it stands for none of
the known ids and what is said of it cannot be written. -/
def ReferenceBreaks (known : List Int) (owner : Int) (reference : Value) : Prop :=
  reference.IsInfinite ∨ ¬Stands known reference ∧
    (Number.isWritable owner = false ∨ reference.isWritable = false)

theorem escapes_resolve_iff {reference : Value} :
    Except.Escapes IsReported (resolve known owner reference) ↔
      ReferenceBreaks known owner reference := by
  rw [ReferenceBreaks, ← TypeId.ofValue_eq_infinite_iff]
  simp only [Stands, ← @resolve_eq_ok_iff known owner]
  unfold resolve
  cases TypeId.ofValue reference with
  | error fault =>
      cases fault <;> simp [DumpFault.shownValues, Value.isWritable, imp_iff_not_or]
  | ok id =>
      dsimp only
      split <;> simp [DumpFault.shownValues, Value.isWritable, imp_iff_not_or]

theorem resolveAll_cons {reference : Value} {rest : List Value} :
    resolveAll known owner (reference :: rest) =
      (resolve known owner reference).bind fun id =>
        (resolveAll known owner rest).bind fun ids => .ok (id :: ids) := by
  rw [resolveAll]
  cases resolve known owner reference with
  | error failure => rfl
  | ok id => cases resolveAll known owner rest <;> rfl

theorem escapes_resolveAll_iff {references : List Value} :
    Except.Escapes IsReported (resolveAll known owner references) ↔
      List.StopsAt (Stands known) (ReferenceBreaks known owner) references := by
  induction references with
  | nil => simp [resolveAll]
  | cons reference rest inductionHypothesis =>
      rw [resolveAll_cons, Except.escapes_bind_iff, List.stopsAt_cons_iff, escapes_resolve_iff]
      simp only [Except.escapes_bind_ok_iff, inductionHypothesis, resolve_eq_ok_iff,
        exists_and_right, Stands]

/-- Whether a field for references lets a failure escape: it yields nothing one by one, or a
reference does after some that stand for known ids. -/
def FieldBreaks (known : List Int) (owner : Int) (entry : Value) (key : LooseText) : Prop :=
  IsNotIterable entry key ∨
    ∃ references, readElements entry key = .ok references ∧
      List.StopsAt (Stands known) (ReferenceBreaks known owner) references

theorem escapes_readReferences_iff :
    Except.Escapes IsReported (readReferences known owner entry key) ↔
      FieldBreaks known owner entry key := by
  have steps : readReferences known owner entry key =
      (readElements entry key).bind (resolveAll known owner) := by
    unfold readReferences
    cases readElements entry key <;> rfl
  rw [steps, Except.escapes_bind_iff, escapes_readElements_iff]
  simp only [escapes_resolveAll_iff, FieldBreaks]

theorem escapes_readBaseTypes_iff :
    Except.Escapes IsReported (readBaseTypes known owner entry) ↔
      FieldBreaks known owner entry "baseTypes" := by
  rw [← escapes_readReferences_iff]
  unfold readBaseTypes
  cases absent : entry.field? "baseTypes" with
  | none => simp [readReferences, readElements, absent, resolveAll]
  | some value =>
      dsimp only
      cases readReferences known owner entry "baseTypes" with
      | ok ids => simp
      | error failure => simp

/-- Whether the target of an entry lets a failure escape. -/
def TargetBreaks (known : List Int) (owner : Int) (entry : Value) : Prop :=
  targetOf entry ≠ .null ∧ ReferenceBreaks known owner (targetOf entry)

theorem escapes_readTarget_iff :
    Except.Escapes IsReported (readTarget known owner entry) ↔ TargetBreaks known owner entry := by
  unfold TargetBreaks
  rw [← escapes_resolve_iff]
  unfold readTarget targetOf
  split
  · next missing => simp [missing]
  · next given =>
      rw [ne_eq, and_iff_right given]
      cases resolve known owner ((entry.field? "target").getD .null) with
      | ok id => simp
      | error failure => simp

/-! ## The first pass -/

/-- Whether the first pass lets a failure escape at an entry after those with some ids.  Up to texts
that yield nothing one by one the fields are in order before the one that does. -/
def EntryBreaks (before : List Int) (entry : Value) : Prop :=
  IdBreaks entry ∨
    ∃ id, (∃ value, entry.field? "id" = some value ∧ TypeId.ofValue value = .ok id) ∧
      (id ∈ before ∧ Number.isWritable id = false ∨
        id ∉ before ∧ (TypeFlagsBreak id entry ∨
          (∃ flags : Flags TypeFlag,
            (∃ value, entry.field? "flags" = some value ∧ Flags.ofValue value = .ok flags) ∧
              flags.isEmpty = false) ∧
            (ObjectFlagsBreak id entry ∨
              (∃ objectFlags, GivesObjectFlags entry objectFlags) ∧ IsNotIterable entry "texts")))

theorem escapes_read_iff {before : List Int} :
    Except.Escapes IsReported (read before entry) ↔ EntryBreaks before entry := by
  unfold read
  refine Except.escapes_bind_iff.trans ?_
  rw [EntryBreaks, escapes_readId_iff]
  refine or_congr_right (exists_congr fun id => ?_)
  rw [readId_eq_ok_iff]
  refine and_congr_right fun _ => ?_
  by_cases member : id ∈ before
  · rw [if_pos (List.contains_iff_mem.mpr member), and_iff_right member]
    refine Except.escapes_error_iff.trans ?_
    simp [member, DumpFault.shownValues, Value.isWritable]
  · rw [if_neg (mt List.contains_iff_mem.mp member)]
    simp only [member, false_and, not_false_iff, true_and, false_or]
    refine Except.escapes_bind_iff.trans ?_
    rw [escapes_readTypeFlags_iff, ← exists_and_right]
    refine or_congr_right (exists_congr fun flags => ?_)
    rw [readTypeFlags_eq_ok_iff]
    refine and_congr_right fun _ => Except.escapes_bind_iff.trans ?_
    rw [escapes_readObjectFlags_iff, ← exists_and_right]
    refine or_congr_right (exists_congr fun objectFlags => ?_)
    rw [readObjectFlags_eq_ok_iff, ← escapes_readElements_iff]
    exact and_congr_right fun _ => Except.escapes_bind_ok_iff

theorem readAll_cons {before : List Int} {rest : List Value} :
    readAll before (entry :: rest) =
      (read before entry).bind fun node =>
        (readAll (node.id :: before) rest).bind fun nodes => .ok (node :: nodes) := by
  rw [readAll]
  cases read before entry with
  | error failure => rfl
  | ok node =>
      dsimp only [Except.bind]
      cases readAll (node.id :: before) rest <;> rfl

/-- The first pass lets a failure escape at an entry after some that it has read. -/
theorem escapes_readAll_iff {before : List Int} {entries : List Value} :
    Except.Escapes IsReported (readAll before entries) ↔
      ∃ earlier entry later nodes, entries = earlier ++ entry :: later ∧
        readAll before earlier = .ok nodes ∧
        EntryBreaks ((nodes.map TypeNode.id).reverse ++ before) entry := by
  -- Every entry puts its id in front of those before it, hence the reversed list.
  induction entries generalizing before with
  | nil =>
      constructor
      · intro impossible
        exact absurd impossible (Except.not_escapes_ok _)
      · rintro ⟨earlier, entry, later, nodes, split, _⟩
        cases earlier <;> cases split
  | cons first rest inductionHypothesis =>
      rw [readAll_cons, Except.escapes_bind_iff, escapes_read_iff]
      simp only [Except.escapes_bind_ok_iff, inductionHypothesis]
      constructor
      · rintro (here | ⟨node, made, earlier, entry, later, nodes, rfl, others, breaks⟩)
        · exact ⟨[], first, rest, [], rfl, rfl, here⟩
        · refine ⟨first :: earlier, entry, later, node :: nodes, rfl, ?_, ?_⟩
          · rw [readAll_cons, made]
            dsimp only [Except.bind]
            rw [others]
          · rw [List.map_cons, List.reverse_cons, List.append_assoc]
            exact breaks
      · rintro ⟨earlier, entry, later, nodes, split, made, breaks⟩
        cases earlier with
        | nil =>
            cases split
            cases made
            exact Or.inl breaks
        | cons other earlier =>
            cases split
            rw [readAll_cons] at made
            rcases Except.bind_eq_ok_iff.mp made with ⟨node, here, made⟩
            rcases Except.bind_eq_ok_iff.mp made with ⟨nodes, others, same⟩
            cases same
            rw [List.map_cons, List.reverse_cons, List.append_assoc] at breaks
            exact Or.inr ⟨node, here, earlier, entry, later, nodes, rfl, others, breaks⟩

/-! ## The second pass -/

/-- Whether all references of an entry stand for known ids. -/
def Connects (known : List Int) (entry : Value) : Prop :=
  ∃ node : TypeNode, node.HasReferencesOf known entry

/-- Whether the second pass lets a failure escape at the entry of a type: a field for references or
the target does, and the fields before are in order. -/
def ConnectionBreaks (known : List Int) (owner : Int) (entry : Value) : Prop :=
  FieldBreaks known owner entry "types" ∨
    (∃ ids, FieldStandsFor known entry "types" ids) ∧
      (FieldBreaks known owner entry "typeArguments" ∨
        (∃ ids, FieldStandsFor known entry "typeArguments" ids) ∧
          (FieldBreaks known owner entry "baseTypes" ∨
            (∃ ids, BaseTypesStandFor known entry ids) ∧ TargetBreaks known owner entry))

theorem exists_connect_iff {node : TypeNode} :
    (∃ connected, connect known entry node = .ok connected) ↔ Connects known entry := by
  simp only [connect_eq_ok_iff]
  constructor
  · rintro ⟨connected, references, _⟩
    exact ⟨connected, references⟩
  · rintro ⟨other, references⟩
    refine ⟨{ node with
      types := other.types
      typeArguments := other.typeArguments
      baseTypes := other.baseTypes
      target := other.target }, ⟨references.types, references.typeArguments,
        references.baseTypes, references.target⟩, rfl⟩

theorem escapes_connect_iff {node : TypeNode} :
    Except.Escapes IsReported (connect known entry node) ↔
      ConnectionBreaks known node.id entry := by
  have steps : connect known entry node =
      (readReferences known node.id entry "types").bind fun types =>
        (readReferences known node.id entry "typeArguments").bind fun typeArguments =>
          (readBaseTypes known node.id entry).bind fun baseTypes =>
            (readTarget known node.id entry).bind fun target =>
              .ok { node with types, typeArguments, baseTypes, target } := rfl
  rw [steps, Except.escapes_bind_iff]
  simp only [Except.escapes_bind_iff, Except.not_escapes_ok, and_false, exists_false, or_false,
    exists_and_right, escapes_readReferences_iff, escapes_readBaseTypes_iff,
    escapes_readTarget_iff, readReferences_eq_ok_iff, readBaseTypes_eq_ok_iff, ConnectionBreaks]

theorem connectAll_cons {node : TypeNode} {rest : List (Value × TypeNode)} :
    connectAll known ((entry, node) :: rest) =
      (connect known entry node).bind fun connected =>
        (connectAll known rest).bind fun nodes => .ok (connected :: nodes) := by
  rw [connectAll]
  cases connect known entry node with
  | error failure => rfl
  | ok connected => cases connectAll known rest <;> rfl

/-- The second pass lets a failure escape at an entry after some with references in order. -/
theorem escapes_connectAll_iff {pairs : List (Value × TypeNode)} :
    Except.Escapes IsReported (connectAll known pairs) ↔
      List.StopsAt (fun pair => Connects known pair.1)
        (fun pair => ConnectionBreaks known pair.2.id pair.1) pairs := by
  induction pairs with
  | nil => simp [connectAll]
  | cons pair rest inductionHypothesis =>
      rcases pair with ⟨entry, node⟩
      rw [connectAll_cons, Except.escapes_bind_iff, escapes_connect_iff, List.stopsAt_cons_iff]
      simp only [Except.escapes_bind_ok_iff, inductionHypothesis, exists_and_right,
        exists_connect_iff]

end TypeNode

namespace TypeDump

open DumpFailure (IsReported)

/-- Whether the types of a list of entries are made, one after the other, with distinct ids. -/
def Makes (entries : List Value) (nodes : List TypeNode) : Prop :=
  List.Forall₂ TypeNode.IsBareOf entries nodes ∧ (nodes.map TypeNode.id).Nodup

theorem readAll_eq_ok_iff_makes {entries : List Value} {nodes : List TypeNode} :
    TypeNode.readAll [] entries = .ok nodes ↔ Makes entries nodes := by
  rw [TypeNode.readAll_eq_ok_iff]
  simp [Makes]

/-- Whether a failure escapes from one of the two passes over entries. -/
def EntriesBreak (entries : List Value) : Prop :=
  (∃ earlier entry later nodes, entries = earlier ++ entry :: later ∧ Makes earlier nodes ∧
    TypeNode.EntryBreaks (nodes.map TypeNode.id) entry) ∨
  ∃ nodes, Makes entries nodes ∧
    List.StopsAt (fun pair => TypeNode.Connects (nodes.map TypeNode.id) pair.1)
      (fun pair => TypeNode.ConnectionBreaks (nodes.map TypeNode.id) pair.2.id pair.1)
      (entries.zip nodes)

/-- Whether a failure escapes when a value is read as a dump. -/
def Breaks (value : Value) : Prop :=
  ∃ entries, value.field? "types" = some (.list entries) ∧ EntriesBreak entries

theorem escapes_ofEntries_iff {entries : List Value} :
    Except.Escapes IsReported (ofEntries entries) ↔ EntriesBreak entries := by
  have steps : ofEntries entries =
      (TypeNode.readAll [] entries).bind fun nodes =>
        (TypeNode.connectAll (nodes.map TypeNode.id) (entries.zip nodes)).bind fun nodes =>
          .ok ⟨nodes⟩ := by
    unfold ofEntries
    cases TypeNode.readAll [] entries with
    | error failure => rfl
    | ok nodes =>
        dsimp only [Except.bind]
        cases TypeNode.connectAll (nodes.map TypeNode.id) (entries.zip nodes) <;> rfl
  rw [steps, Except.escapes_bind_iff]
  simp only [Except.escapes_bind_ok_iff, TypeNode.escapes_readAll_iff,
    TypeNode.escapes_connectAll_iff, readAll_eq_ok_iff_makes, List.append_nil, EntriesBreak,
    TypeNode.EntryBreaks, List.mem_reverse]

/-- A value that is no dump is reported as such, unless a failure escapes for one of the known
reasons. -/
theorem escapes_ofValue_iff (value : Value) :
    Except.Escapes IsReported (ofValue value) ↔ Breaks value := by
  unfold ofValue Breaks
  split
  · next entries listed =>
      simp only [listed, Option.some.injEq, Value.list.injEq, exists_eq_left']
      exact escapes_ofEntries_iff
  · next others =>
      constructor
      · intro impossible
        exact absurd (DumpFailure.isReported_malformed _) (Except.escapes_error_iff.mp impossible)
      · rintro ⟨entries, listed, _⟩
        exact absurd listed (others entries)

end TypeDump
end DirectiveLint
