import DirectiveLint.Proofs.TypeGraph.Relabelling

/-!
# Arrays that are no references

An array is a reference to a type that is declared as an array.  Whether a type is
a reference is decided in two places.  The accessor by symbols takes the object
flags of a type as they are.  The classifier heeds them only under flags with which
a type can have object flags.

The reading of a dump does not compare the two kinds of flags.  So a dump may hold
an array that is not classified as a reference, and this depends on the flags of
the array only: not on its target, on its symbol or on what the items are.
-/

namespace DirectiveLint

theorem Symbol.isAmong_eq_ok_true_iff {symbol : Symbol} {names : List LooseText} :
    symbol.isAmong names = .ok true ↔ ∃ name ∈ names, symbol.name = some (.text name) := by
  unfold isAmong
  split
  · next missing => simp [missing]
  · next name found => simp [found, eq_comm]
  · next other noText found =>
      have differs : ∀ name, other ≠ .text name := noText
      split <;> simp [found, differs]

namespace Host

variable {Ref : Type} {host : Host Ref} {accessor : Accessor Ref} {type : Ref}

/-- The accessor by symbols looks at object flags and at one symbol. -/
theorem refersTo_eq_ok_true_iff {names : List LooseText} :
    Accessor.refersTo host names type = .ok true ↔
      (host type).objectFlags.contains .reference = true ∧
        ∃ symbol, (((host type).target.map host).getD (host type)).symbol = some symbol ∧
          ∃ name ∈ names, symbol.name = some (.text name) := by
  unfold Accessor.refersTo Handle.objectFlags
  dsimp only
  cases (host type).givenObjectFlags with
  | none => simp [Flags.contains, Flags.empty]
  | some flags =>
      cases said : flags.contains .reference with
      | false => simp [said]
      | true =>
          cases (((host type).target.map host).getD (host type)).symbol with
          | none => simp [said]
          | some symbol => simp [said, Symbol.isAmong_eq_ok_true_iff]

/-- Only an array has items that satisfy something. -/
theorem isArray_of_isArrayOf {predicate : Ref → Except HandleFault Bool}
    (found : isArrayOf accessor predicate type = .ok true) :
    accessor.isArray type = .ok true := by
  unfold isArrayOf elementType at found
  cases answer : accessor.isArray type with
  | error fault => simp [answer] at found
  | ok isArray =>
      cases isArray with
      | false => simp [answer] at found
      | true => rfl

theorem verdicts_eq_ok {base : Option Ref} {row : Verdicts}
    (given : host.verdicts accessor base type = .ok row) :
    host.isAnyArray accessor type = .ok row.anyArray ∧
      host.isUnknownArray accessor type = .ok row.unknownArray ∧
      host.isReference type = .ok row.typeReference := by
  rcases Except.bind_eq_ok_iff.mp given with ⟨_, _, rest⟩
  rcases Except.bind_eq_ok_iff.mp rest with ⟨_, _, rest⟩
  rcases Except.bind_eq_ok_iff.mp rest with ⟨_, _, rest⟩
  rcases Except.bind_eq_ok_iff.mp rest with ⟨_, _, rest⟩
  rcases Except.bind_eq_ok_iff.mp rest with ⟨anyArray, isAnyArray, rest⟩
  rcases Except.bind_eq_ok_iff.mp rest with ⟨unknownArray, isUnknownArray, rest⟩
  rcases Except.bind_eq_ok_iff.mp rest with ⟨_, _, rest⟩
  rcases Except.bind_eq_ok_iff.mp rest with ⟨_, _, rest⟩
  rcases Except.bind_eq_ok_iff.mp rest with ⟨_, _, rest⟩
  rcases Except.bind_eq_ok_iff.mp rest with ⟨typeReference, isReference, last⟩
  cases last
  exact ⟨isAnyArray, isUnknownArray, isReference⟩

end Host

namespace TypeDump

variable {dump : TypeDump} {node : TypeNode}

/-- Whether a type is an array: it is said to be a reference, and the type that it refers to, or the
type itself if it refers to none, is declared by a symbol with the name of an array. -/
def IsArray (dump : TypeDump) (node : TypeNode) : Prop :=
  (node.objectFlags.getD .empty).contains .reference = true ∧
    ∃ declared ∈ dump.nodes, declared.id = node.target.getD node.id ∧
      ∃ name ∈ Accessor.arrayNames, declared.symbolName = some (.text name)

section

variable (distinct : dump.ids.Nodup)

include distinct

theorem host_id_of_mem (member : node ∈ dump.nodes) : dump.host node.id = node.toHandle := by
  unfold host
  rw [find?_id_of_mem distinct member]
  rfl

/-- What is declared under an id has the symbol of the type with this id. -/
theorem symbol_host_iff {id : Int} {name : Value} :
    (∃ symbol, (dump.host id).symbol = some symbol ∧ symbol.name = some name) ↔
      ∃ declared ∈ dump.nodes, declared.id = id ∧ declared.symbolName = some name := by
  have found : ∀ declared, dump.find? id = some declared ↔
      declared ∈ dump.nodes ∧ declared.id = id :=
    fun _ => find?_eq_some_iff distinct
  unfold host
  constructor
  · rintro ⟨symbol, declares, named⟩
    cases looked : dump.find? id with
    | none =>
        rw [looked] at declares
        cases declares
    | some declared =>
        rcases (found declared).mp looked with ⟨member, same⟩
        refine ⟨declared, member, same, ?_⟩
        rw [looked] at declares
        rcases Option.map_eq_some_iff.mp declares with ⟨given, symbolName, rfl⟩
        cases named
        exact symbolName
  · rintro ⟨declared, member, same, symbolName⟩
    rw [(found declared).mpr ⟨member, same⟩]
    refine ⟨⟨some name⟩, ?_, rfl⟩
    change declared.symbolName.map _ = _
    rw [symbolName]
    rfl

theorem isArray_iff (member : node ∈ dump.nodes) :
    Accessor.refersTo dump.host Accessor.arrayNames node.id = .ok true ↔ dump.IsArray node := by
  have declaredAt : ((dump.host node.id).target.map dump.host).getD (dump.host node.id) =
      dump.host (node.target.getD node.id) := by
    rw [host_id_of_mem distinct member]
    cases target : node.target with
    | none => simp [TypeNode.toHandle, target, host_id_of_mem distinct member]
    | some id => simp [TypeNode.toHandle, target]
  rw [Host.refersTo_eq_ok_true_iff, declaredAt, host_id_of_mem distinct member]
  apply and_congr Iff.rfl
  constructor
  · rintro ⟨symbol, declares, name, isName, named⟩
    rcases (symbol_host_iff distinct).mp ⟨symbol, declares, named⟩ with
      ⟨declared, listed, same, symbolName⟩
    exact ⟨declared, listed, same, name, isName, symbolName⟩
  · rintro ⟨declared, listed, same, name, isName, symbolName⟩
    rcases (symbol_host_iff distinct).mpr ⟨declared, listed, same, symbolName⟩ with
      ⟨symbol, declares, named⟩
    exact ⟨symbol, declares, name, isName, named⟩

/-- The flags of an array decide whether it is a reference. -/
theorem isReference_of_isArray (member : node ∈ dump.nodes) (array : dump.IsArray node) :
    dump.host.isReference node.id = .ok (node.flags.meets Host.objectFlagCarriers) := by
  have said : (node.objectFlags.getD .empty).contains .reference = true := array.1
  unfold Host.isReference
  rw [host_id_of_mem distinct member]
  simp only [TypeNode.toHandle, said, Bool.and_true]

end

/-- The accessor takes a type of a dump for an array if the dump declares it as one, whatever its
flags are.  Such a type is a reference if and only if it has one of the flags under which a type has
object flags.  This holds for every row of verdicts that judges the items of an array. -/
theorem arrays_readReference {value : Value} (loaded : ofValue value = .ok dump) :
    ∀ node ∈ dump.nodes,
      (Accessor.refersTo dump.host Accessor.arrayNames node.id = .ok true ↔ dump.IsArray node) ∧
      (dump.IsArray node →
        dump.host.isReference node.id = .ok (node.flags.meets Host.objectFlagCarriers)) ∧
      ∀ base row, dump.verdicts base node.id = .ok row →
        row.anyArray = true ∨ row.unknownArray = true →
          dump.IsArray node ∧ row.typeReference = node.flags.meets Host.objectFlagCarriers := by
  intro node member
  rcases ofValue_closed loaded with ⟨_, _, _, _, distinct, _, _⟩
  have array := isArray_iff distinct member
  refine ⟨array, isReference_of_isArray distinct member, ?_⟩
  · intro base row given found
    rcases Host.verdicts_eq_ok given with ⟨any, unknown, reference⟩
    have isArray : dump.IsArray node := by
      rw [← array]
      rcases found with isAny | isUnknown
      · rw [isAny] at any
        exact Host.isArray_of_isArrayOf any
      · rw [isUnknown] at unknown
        exact Host.isArray_of_isArrayOf unknown
    have judged := reference.symm.trans (isReference_of_isArray distinct member isArray)
    exact ⟨isArray, Except.ok.inj judged⟩

/-- A type that is declared as an array of any type, but has the flag of texts. -/
def flagString : Value :=
  .object [("types", .list [
    .object [("id", .integer 1), ("flags", .list [.text "Any"])],
    .object [("id", .integer 2), ("flags", .list [.text "String"]),
      ("objectFlags", .list [.text "Reference"]), ("symbol", .text "Array"),
      ("typeArguments", .list [.integer 1])]])]

theorem arrays_readReference_flagString :
    ∃ dump node row, ofValue flagString = .ok dump ∧ node ∈ dump.nodes ∧
      dump.IsArray node ∧ dump.host.isReference node.id = .ok false ∧
      dump.verdicts none node.id = .ok row ∧ row.anyArray = true ∧ row.typeReference = false := by
  have judged : (ofValue flagString).toOption.bind (fun dump =>
      (dump.find? 2).bind fun node => (dump.verdicts none 2).toOption.map fun row =>
        (node.flags.meets Host.objectFlagCarriers, row.anyArray)) = some (false, true) := by
    decide +kernel
  rcases Option.bind_eq_some_iff.mp judged with ⟨dump, loaded, rest⟩
  rcases Option.bind_eq_some_iff.mp rest with ⟨node, found, rest⟩
  rcases Option.map_eq_some_iff.mp rest with ⟨row, given, seen⟩
  rcases Prod.mk.inj seen with ⟨meetsNone, anyArray⟩
  replace loaded := Except.eq_ok_of_toOption_eq_some loaded
  replace given := Except.eq_ok_of_toOption_eq_some given
  have member : node ∈ dump.nodes := List.mem_of_find?_eq_some found
  have isSecond : node.id = 2 := by simpa using List.find?_some found
  rcases arrays_readReference loaded node member with ⟨_, reference, rows⟩
  rw [meetsNone, isSecond] at reference rows
  rcases rows none row given (Or.inl anyArray) with ⟨isArray, typeReference⟩
  rw [← isSecond] at reference given
  exact ⟨dump, node, row, loaded, member, isArray, reference isArray, given, anyArray,
    typeReference⟩

end TypeDump
end DirectiveLint
