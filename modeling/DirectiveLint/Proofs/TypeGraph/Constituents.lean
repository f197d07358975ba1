import DirectiveLint.TypeGraph.Classifier
import Mathlib.Logic.Function.Basic

/-!
# Unions as sets of constituents

A union has the flags of its constituents, and it is made up of arrays if each
of them is one.  What is asked about flags is a disjunction over the constituents
and over the flags, and what is asked about arrays is a conjunction that ends at
the first constituent that is none.  The flags do not depend on the order in which
the constituents are listed, or on how often: neither the answers nor whether
there are any.

An accessor may give no answer on a constituent.  Whether the walk gets there
depends on the order, so the order may decide between a negative answer and none,
and between two faults.
-/

namespace DirectiveLint

namespace Flags

variable {Flag : Type} {flags others mask : Flags Flag}

theorem union_assoc : (flags.union others).union mask = flags.union (others.union mask) := by
  unfold union
  rw [Nat.or_assoc]

@[simp] theorem empty_union : (empty : Flags Flag).union mask = mask := by
  unfold union empty
  rw [Nat.zero_or]

@[simp] theorem union_empty : flags.union empty = flags := by
  unfold union empty
  rw [Nat.or_zero]

/-! ## Flags in common -/

theorem meets_comm : flags.meets others = others.meets flags := by
  unfold meets
  rw [Nat.and_comm]

theorem meets_union_left :
    (flags.union others).meets mask = (flags.meets mask || others.meets mask) := by
  apply Bool.eq_iff_iff.mpr
  simp only [meets, union, Nat.and_or_distrib_right, bne_iff_ne, ne_eq, Nat.or_eq_zero_iff,
    Bool.or_eq_true, not_and_or]

theorem meets_union_right :
    mask.meets (flags.union others) = (mask.meets flags || mask.meets others) := by
  rw [meets_comm, meets_union_left, meets_comm, @meets_comm _ others]

theorem empty_meets : (empty : Flags Flag).meets mask = false := by
  simp [meets, empty]

/-! ## Sets that can be made -/

variable [FlagKind Flag]

theorem isNameable_iff : flags.isNameable = true ↔
    flags.bits % capacity Flag = 0 ∨
      capacity Flag * (flags.bits / capacity Flag) < Number.leastTooLong := by
  have others : flags.bits - flags.memberBits = capacity Flag * (flags.bits / capacity Flag) :=
    Nat.sub_eq_of_eq_add (Nat.div_add_mod flags.bits (capacity Flag)).symm
  rw [isNameable, others, Bool.or_eq_true, beq_iff_eq, memberBits, Number.isWritable_iff,
    Int.natAbs_natCast]

/-- What is taken together can be made only if its parts can: they have no more bits. -/
theorem isNameable_of_union (nameable : (flags.union others).isNameable = true) :
    flags.isNameable = true := by
  have size : capacity Flag = 2 ^ (FlagKind.members : List Flag).length := Nat.one_shiftLeft _
  rw [isNameable_iff] at nameable ⊢
  refine nameable.imp (fun none => ?_) (fun short => ?_)
  · rw [union, size, Nat.or_mod_two_pow, Nat.or_eq_zero_iff] at none
    exact size ▸ none.1
  · refine Nat.lt_of_le_of_lt (Nat.mul_le_mul_left _ ?_) short
    rw [union, size, Nat.or_div_two_pow]
    exact Nat.left_le_or

theorem union?_eq_some_iff {both : Flags Flag} :
    flags.union? others = some both ↔
      (flags.union others).isNameable = true ∧ flags.union others = both := by
  unfold union? named?
  split <;> simp [*]

end Flags

namespace Host

variable {Ref : Type} {host other : Host Ref} {type : Ref} {flags : Flags TypeFlag}

/-! ## Flags taken together -/

/-- All flags of some types. -/
def joinedFlags (host : Host Ref) : List Ref → Flags TypeFlag
  | [] => .empty
  | part :: rest => (host part).flags.union (joinedFlags host rest)

/-- Whether the flags of a type can be taken: its own flags and those of its constituents can be
read, and the latter make a set together. -/
structure HasFlags (host : Host Ref) (type : Ref) : Prop where
  readable : (host type).givenFlags.isSome = true
  readableParts : ∀ part ∈ host.unionParts type, (host part).givenFlags.isSome = true
  nameable : (host.joinedFlags (host.unionParts type)).isNameable = true

theorem joinedFlags_meets (parts : List Ref) :
    (host.joinedFlags parts).meets flags = parts.any fun part => (host part).flags.meets flags := by
  induction parts with
  | nil => exact Flags.empty_meets
  | cons part rest inductionHypothesis =>
      rw [joinedFlags, Flags.meets_union_left, inductionHypothesis, List.any_cons]

theorem testBit_joinedFlags (parts : List Ref) (place : Nat) :
    (host.joinedFlags parts).bits.testBit place =
      parts.any fun part => (host part).flags.bits.testBit place := by
  induction parts with
  | nil => exact Nat.zero_testBit place
  | cons part rest inductionHypothesis =>
      rw [joinedFlags, Flags.union, Nat.testBit_or, inductionHypothesis, List.any_cons]

/-- Types have the same flags together in whatever order they are listed, and however often. -/
theorem joinedFlags_congr {parts others : List Ref}
    (sameMembers : ∀ part, part ∈ others ↔ part ∈ parts) :
    host.joinedFlags others = host.joinedFlags parts := by
  have bits : (host.joinedFlags others).bits = (host.joinedFlags parts).bits := by
    apply Nat.eq_of_testBit_eq
    intro place
    apply Bool.eq_iff_iff.mpr
    simp only [testBit_joinedFlags, List.any_eq_true, sameMembers]
  exact congrArg Flags.mk bits

/-- Flags are added as long as they can be read and make a set with those before them; that the last
set can be made says so of all before it. -/
theorem addFlags_eq_ok_iff {parts : List Ref} {own : Flags TypeFlag}
    (nameable : flags.isNameable = true) :
    host.addFlags flags parts = .ok own ↔
      (∀ part ∈ parts, (host part).givenFlags.isSome = true) ∧ own.isNameable = true ∧
        flags.union (host.joinedFlags parts) = own := by
  induction parts generalizing flags with
  | nil =>
      rw [addFlags, joinedFlags, Flags.union_empty, Except.ok.injEq]
      constructor
      · rintro rfl
        exact ⟨List.forall_mem_nil _, nameable, rfl⟩
      · rintro ⟨_, _, same⟩
        exact same
  | cons part rest inductionHypothesis =>
      rw [addFlags, List.forall_mem_cons, joinedFlags, ← Flags.union_assoc, Handle.flags]
      cases (host part).givenFlags with
      | none => simp
      | some partFlags =>
          rw [Option.bind_some, Option.getD_some, Option.isSome_some, and_iff_right rfl]
          cases together : flags.union? partFlags with
          | some both =>
              rcases Flags.union?_eq_some_iff.mp together with ⟨nameableBoth, rfl⟩
              exact inductionHypothesis nameableBoth
          | none =>
              simp only [reduceCtorEq, false_iff, not_and]
              rintro _ nameableOwn rfl
              have missing := together.symm.trans
                (Flags.union?_eq_some_iff.mpr ⟨Flags.isNameable_of_union nameableOwn, rfl⟩)
              cases missing

theorem addFlags_eq_error {parts : List Ref} {fault : HandleFault}
    (failed : host.addFlags flags parts = .error fault) : fault = .unreadableFlags := by
  induction parts generalizing flags with
  | nil => cases failed
  | cons part rest inductionHypothesis =>
      rw [addFlags] at failed
      split at failed
      · exact inductionHypothesis failed
      · cases failed
        rfl

theorem readUnionParts_eq_ok_iff {parts : List Ref} :
    host.readUnionParts type = .ok parts ↔
      (host type).givenFlags.isSome = true ∧ host.unionParts type = parts := by
  unfold readUnionParts
  cases (host type).givenFlags <;> simp

theorem readUnionParts_eq_error_iff {fault : HandleFault} :
    host.readUnionParts type = .error fault ↔
      (host type).givenFlags.isSome = false ∧ fault = .unreadableFlags := by
  unfold readUnionParts
  cases (host type).givenFlags <;> simp [eq_comm]

theorem typeFlags_eq_ok_iff {own : Flags TypeFlag} :
    host.typeFlags type = .ok own ↔
      host.HasFlags type ∧ host.joinedFlags (host.unionParts type) = own := by
  have nothing : (Flags.empty : Flags TypeFlag).isNameable = true := rfl
  unfold typeFlags
  cases read : host.readUnionParts type with
  | error fault =>
      have unreadable := (readUnionParts_eq_error_iff.mp read).1
      simp only [reduceCtorEq, false_iff, not_and]
      intro given
      rw [given.readable] at unreadable
      cases unreadable
  | ok parts =>
      rcases readUnionParts_eq_ok_iff.mp read with ⟨readable, rfl⟩
      simp only [addFlags_eq_ok_iff nothing, Flags.empty_union]
      constructor
      · rintro ⟨readableParts, nameable, rfl⟩
        exact ⟨⟨readable, readableParts, nameable⟩, rfl⟩
      · rintro ⟨given, rfl⟩
        exact ⟨given.readableParts, given.nameable, rfl⟩

theorem typeFlags_eq_error {fault : HandleFault} (failed : host.typeFlags type = .error fault) :
    fault = .unreadableFlags := by
  unfold typeFlags at failed
  split at failed
  · exact addFlags_eq_error failed
  · next read =>
      cases failed
      exact (readUnionParts_eq_error_iff.mp read).2

/-- A type has one of some flags if one of its constituents has. -/
theorem isFlagSet_eq_ok_iff {answer : Bool} :
    host.isFlagSet type flags false = .ok answer ↔
      host.HasFlags type ∧
        (host.unionParts type).any (fun part => (host part).flags.meets flags) = answer := by
  rw [← joinedFlags_meets, isFlagSet]
  cases taken : host.typeFlags type with
  | error fault =>
      simp only [Except.map, reduceCtorEq, false_iff, not_and]
      intro given
      cases taken.symm.trans (typeFlags_eq_ok_iff.mpr ⟨given, rfl⟩)
  | ok own =>
      rcases typeFlags_eq_ok_iff.mp taken with ⟨given, rfl⟩
      simp [given, Except.map]

theorem isFlagSet_union {others both : Flags TypeFlag} (made : flags.union? others = some both) :
    host.isFlagSet type both false = (do
      let first ← host.isFlagSet type flags false
      let second ← host.isFlagSet type others false
      return first || second) := by
  rcases Flags.union?_eq_some_iff.mp made with ⟨_, rfl⟩
  unfold isFlagSet
  cases host.typeFlags type with
  | error fault => rfl
  | ok own =>
      simp only [Except.map, Bool.false_and, Bool.false_or, Flags.meets_union_right]
      rfl

/-- A receiver is asked for the flags of types that accept every value besides. -/
theorem isFlagSet_receiver {both : Flags TypeFlag} (made : flags.union? topFlags = some both) :
    host.isFlagSet type flags true = host.isFlagSet type both false := by
  rcases Flags.union?_eq_some_iff.mp made with ⟨_, rfl⟩
  simp only [isFlagSet, Bool.true_and, Bool.false_and, Bool.false_or, Flags.meets_union_right,
    Bool.or_comm]

theorem isNullable_of_isAny_or_isUnknown
    (top : host.isAny type = .ok true ∨ host.isUnknown type = .ok true) :
    host.isNullable type = .ok true := by
  have accepts {flags : Flags TypeFlag} (nullable : flags.union nullableFlags = nullableFlags)
      (has : host.isFlagSet type flags false = .ok true) : host.isNullable type = .ok true := by
    have made : flags.union? nullableFlags = some nullableFlags :=
      Flags.union?_eq_some_iff.mpr ⟨by rw [nullable]; decide, nullable⟩
    have given := (isFlagSet_eq_ok_iff.mp has).1
    rw [isNullable, isFlagSet_union made, has, isFlagSet_eq_ok_iff.mpr ⟨given, rfl⟩]
    rfl
  rcases top with any | unknown
  · exact accepts (by decide) any
  · exact accepts (by decide) unknown

/-! ## Arrays -/

section

variable {accessor : Accessor Ref} {types : List Ref} {part : Ref}

theorem areArrays_eq_ok_true_iff :
    areArrays accessor types = .ok true ↔ ∀ part ∈ types, accessor.isArray part = .ok true := by
  induction types with
  | nil => simp [areArrays]
  | cons part rest inductionHypothesis =>
      rw [areArrays, List.forall_mem_cons, ← inductionHypothesis]
      cases accessor.isArray part with
      | error fault => simp
      | ok accepted => cases accepted <;> simp

/-- A part that is not accepted decides if it comes first. -/
theorem areArrays_cons_of_ne (rejected : accessor.isArray part ≠ .ok true) :
    areArrays accessor (part :: types) = accessor.isArray part := by
  unfold areArrays
  split
  · next accepted => exact absurd accepted rejected
  · next answer => exact answer.symm
  · next failed => exact failed.symm

/-- Unless all parts are accepted, one that is not decides. -/
theorem exists_areArrays_eq (rejected : areArrays accessor types ≠ .ok true) :
    ∃ part ∈ types, accessor.isArray part ≠ .ok true ∧
      areArrays accessor types = accessor.isArray part := by
  induction types with
  | nil => exact absurd rfl rejected
  | cons part rest inductionHypothesis =>
      by_cases accepted : accessor.isArray part = .ok true
      · have later : areArrays accessor (part :: rest) = areArrays accessor rest := by
          rw [areArrays, accepted]
        rw [later] at rejected ⊢
        rcases inductionHypothesis rejected with ⟨decisive, member, answer⟩
        exact ⟨decisive, List.mem_cons_of_mem _ member, answer⟩
      · exact ⟨part, List.mem_cons_self, accepted, areArrays_cons_of_ne accepted⟩

theorem isArrayOrUnionOfArrays_eq_areArrays (readable : (host type).givenFlags.isSome = true) :
    host.isArrayOrUnionOfArrays accessor type = areArrays accessor (host.unionParts type) := by
  rw [isArrayOrUnionOfArrays, readUnionParts_eq_ok_iff.mpr ⟨readable, rfl⟩]

theorem isArrayOrUnionOfArrays_eq_error (unreadable : (host type).givenFlags.isSome = false) :
    host.isArrayOrUnionOfArrays accessor type = .error .unreadableFlags := by
  rw [isArrayOrUnionOfArrays, readUnionParts_eq_error_iff.mpr ⟨unreadable, rfl⟩]

theorem isArrayOrUnionOfArrays_eq_ok_true_iff :
    host.isArrayOrUnionOfArrays accessor type = .ok true ↔
      (host type).givenFlags.isSome = true ∧
        ∀ part ∈ host.unionParts type, accessor.isArray part = .ok true := by
  cases readable : (host type).givenFlags.isSome with
  | false => simp [isArrayOrUnionOfArrays_eq_error readable]
  | true => simp [isArrayOrUnionOfArrays_eq_areArrays readable, areArrays_eq_ok_true_iff]

end

/-! ## Lists of the same constituents -/

/-- Whether hosts differ at most in how they list the constituents of types: in another order, or
some of them more or less often. -/
def ListsAlike (host other : Host Ref) : Prop :=
  ∀ type, other type = { host type with types := (other type).types } ∧
    ∀ part, part ∈ (other type).types ↔ part ∈ (host type).types

theorem listsAlike_update [DecidableEq Ref] {constituents : List Ref}
    (sameMembers : ∀ part, part ∈ constituents ↔ part ∈ (host type).types) :
    host.ListsAlike (Function.update host type { host type with types := constituents }) := by
  intro subject
  by_cases same : subject = type
  · subst same
    rw [Function.update_self]
    exact ⟨rfl, sameMembers⟩
  · rw [Function.update_of_ne same]
    exact ⟨rfl, fun _ => Iff.rfl⟩

namespace ListsAlike

variable (alike : host.ListsAlike other)

include alike

theorem givenFlags_eq (type : Ref) : (other type).givenFlags = (host type).givenFlags := by
  rw [(alike type).1]

theorem flags_eq (type : Ref) : (other type).flags = (host type).flags := by
  unfold Handle.flags
  rw [alike.givenFlags_eq]

theorem mem_unionParts_iff {part : Ref} :
    part ∈ other.unionParts type ↔ part ∈ host.unionParts type := by
  unfold unionParts
  rw [alike.flags_eq]
  split
  · exact (alike type).2 part
  · exact Iff.rfl

theorem joinedFlags_eq (type : Ref) :
    other.joinedFlags (other.unionParts type) = host.joinedFlags (host.unionParts type) := by
  have sameFlags (parts : List Ref) : other.joinedFlags parts = host.joinedFlags parts := by
    induction parts with
    | nil => rfl
    | cons part rest inductionHypothesis =>
        rw [joinedFlags, joinedFlags, alike.flags_eq, inductionHypothesis]
  rw [sameFlags]
  exact joinedFlags_congr fun part => alike.mem_unionParts_iff

theorem hasFlags_iff : other.HasFlags type ↔ host.HasFlags type := by
  have readableParts :
      (∀ part ∈ other.unionParts type, (other part).givenFlags.isSome = true) ↔
        ∀ part ∈ host.unionParts type, (host part).givenFlags.isSome = true := by
    simp only [alike.mem_unionParts_iff, alike.givenFlags_eq]
  constructor
  · rintro ⟨readable, parts, nameable⟩
    exact ⟨alike.givenFlags_eq type ▸ readable, readableParts.mp parts,
      alike.joinedFlags_eq type ▸ nameable⟩
  · rintro ⟨readable, parts, nameable⟩
    exact ⟨(alike.givenFlags_eq type).symm ▸ readable, readableParts.mpr parts,
      (alike.joinedFlags_eq type).symm ▸ nameable⟩

theorem typeFlags_eq (type : Ref) : other.typeFlags type = host.typeFlags type := by
  cases taken : host.typeFlags type with
  | ok own =>
      rw [typeFlags_eq_ok_iff] at taken ⊢
      rw [alike.hasFlags_iff, alike.joinedFlags_eq]
      exact taken
  | error fault =>
      cases takenOther : other.typeFlags type with
      | error otherFault => rw [typeFlags_eq_error taken, typeFlags_eq_error takenOther]
      | ok own =>
          rw [typeFlags_eq_ok_iff, alike.hasFlags_iff, alike.joinedFlags_eq,
            ← typeFlags_eq_ok_iff, taken] at takenOther
          cases takenOther

theorem isFlagSet_eq (type : Ref) (flags : Flags TypeFlag) (isReceiver : Bool) :
    other.isFlagSet type flags isReceiver = host.isFlagSet type flags isReceiver := by
  unfold isFlagSet
  rw [alike.typeFlags_eq]

/-- The accessor by symbols does not read constituents. -/
theorem isArray_bySymbols_eq (names : List LooseText) :
    (Accessor.bySymbols other names).isArray = (Accessor.bySymbols host names).isArray := by
  funext type
  have sameDeclaration : (((other type).target.map other).getD (other type)).symbol =
      (((host type).target.map host).getD (host type)).symbol := by
    rw [(alike type).1]
    cases found : (host type).target with
    | none => rfl
    | some target =>
        change (other target).symbol = (host target).symbol
        rw [(alike target).1]
  simp only [Accessor.bySymbols, Accessor.refersTo]
  rw [sameDeclaration, (alike type).1]

end ListsAlike

/-- Whether an accessor says the same of all constituents of a type that it does not take for
arrays. -/
def RejectsAlike (host : Host Ref) (accessor : Accessor Ref) (type : Ref) : Prop :=
  ∀ first ∈ host.unionParts type, ∀ second ∈ host.unionParts type,
    accessor.isArray first ≠ .ok true → accessor.isArray second ≠ .ok true →
      accessor.isArray first = accessor.isArray second

section

variable {accessor : Accessor Ref}

theorem ListsAlike.isArrayOrUnionOfArrays_eq (alike : host.ListsAlike other)
    (rejects : host.RejectsAlike accessor type) :
    other.isArrayOrUnionOfArrays accessor type = host.isArrayOrUnionOfArrays accessor type := by
  have sameReadable := congrArg Option.isSome (alike.givenFlags_eq type)
  cases readable : (host type).givenFlags.isSome with
  | false =>
      rw [isArrayOrUnionOfArrays_eq_error readable,
        isArrayOrUnionOfArrays_eq_error (sameReadable.trans readable)]
  | true =>
      rw [isArrayOrUnionOfArrays_eq_areArrays readable,
        isArrayOrUnionOfArrays_eq_areArrays (sameReadable.trans readable)]
      have agree : areArrays accessor (other.unionParts type) = .ok true ↔
          areArrays accessor (host.unionParts type) = .ok true := by
        simp only [areArrays_eq_ok_true_iff, alike.mem_unionParts_iff]
      by_cases accepted : areArrays accessor (host.unionParts type) = .ok true
      · rw [accepted, agree.mpr accepted]
      · rcases exists_areArrays_eq accepted with ⟨first, member, rejected, decides⟩
        rcases exists_areArrays_eq (mt agree.mp accepted) with
          ⟨second, otherMember, otherRejected, otherDecides⟩
        rw [decides, otherDecides]
        exact rejects second (alike.mem_unionParts_iff.mp otherMember) first member otherRejected
          rejected

/-- A constituent that is not accepted decides in a list of the same constituents, the one in which
it comes first. -/
theorem exists_listsAlike_of_rejected {part : Ref} (readable : (host type).givenFlags.isSome = true)
    (member : part ∈ host.unionParts type) (rejected : accessor.isArray part ≠ .ok true) :
    ∃ other, host.ListsAlike other ∧
      other.isArrayOrUnionOfArrays accessor type = accessor.isArray part := by
  classical
  by_cases isUnion : (host type).flags.contains .union = true
  · have parts : host.unionParts type = (host type).types := if_pos isUnion
    have sameMembers : ∀ candidate,
        candidate ∈ part :: (host type).types ↔ candidate ∈ (host type).types := by
      intro candidate
      rw [List.mem_cons, or_iff_right_of_imp]
      rintro rfl
      exact parts ▸ member
    let other : Host Ref :=
      Function.update host type { host type with types := part :: (host type).types }
    have alike : host.ListsAlike other := listsAlike_update sameMembers
    have otherParts : other.unionParts type = part :: (host type).types := by
      unfold unionParts
      rw [alike.flags_eq, if_pos isUnion]
      simp only [other, Function.update_self]
    refine ⟨other, alike, ?_⟩
    rw [isArrayOrUnionOfArrays_eq_areArrays (alike.givenFlags_eq type ▸ readable), otherParts]
    exact areArrays_cons_of_ne rejected
  · have parts : host.unionParts type = [type] := if_neg isUnion
    rw [parts, List.mem_singleton] at member
    refine ⟨host, fun _ => ⟨rfl, fun _ => Iff.rfl⟩, ?_⟩
    rw [isArrayOrUnionOfArrays_eq_areArrays readable, parts, ← member]
    exact areArrays_cons_of_ne rejected

/-- The order of the constituents does not matter exactly if all that are not accepted are rejected
alike. -/
theorem isArrayOrUnionOfArrays_eq_iff (readable : (host type).givenFlags.isSome = true) :
    (∀ other, host.ListsAlike other →
      other.isArrayOrUnionOfArrays accessor type = host.isArrayOrUnionOfArrays accessor type) ↔
      host.RejectsAlike accessor type := by
  constructor
  · intro same first firstMember second secondMember firstRejected secondRejected
    rcases exists_listsAlike_of_rejected readable firstMember firstRejected with
      ⟨one, oneAlike, oneAnswer⟩
    rcases exists_listsAlike_of_rejected readable secondMember secondRejected with
      ⟨another, anotherAlike, anotherAnswer⟩
    rw [← oneAnswer, ← anotherAnswer, same one oneAlike, same another anotherAlike]
  · intro rejects other alike
    exact alike.isArrayOrUnionOfArrays_eq rejects

end

/-- What is asked about a type is decided by its constituents, as a set; for a type that is no
union, the one constituent is the type itself. A question about flags has an answer if the flags of
the type can be taken, and the type has one of some flags if one of its constituents has one of
them. A type is made up of arrays if each constituent is one. Hosts that list the same constituents
differently give the same answers about flags, and they agree on positive answers about arrays. On
the others they all agree exactly if the accessor rejects all constituents alike that it does not
accept. -/
theorem answers_by_unionParts (host : Host Ref) (type : Ref) :
    (∀ flags answer, host.isFlagSet type flags false = .ok answer ↔
      host.HasFlags type ∧
        (host.unionParts type).any (fun part => (host part).flags.meets flags) = answer) ∧
    (∀ flags others both : Flags TypeFlag, flags.union? others = some both →
      host.isFlagSet type both false = (do
        let first ← host.isFlagSet type flags false
        let second ← host.isFlagSet type others false
        return first || second)) ∧
    (∀ flags both : Flags TypeFlag, flags.union? topFlags = some both →
      host.isFlagSet type flags true = host.isFlagSet type both false) ∧
    (host.isAny type = .ok true ∨ host.isUnknown type = .ok true →
      host.isNullable type = .ok true) ∧
    (∀ accessor, host.isArrayOrUnionOfArrays accessor type = .ok true ↔
      (host type).givenFlags.isSome = true ∧
        ∀ part ∈ host.unionParts type, accessor.isArray part = .ok true) ∧
    (∀ other, host.ListsAlike other →
      (∀ flags isReceiver,
        other.isFlagSet type flags isReceiver = host.isFlagSet type flags isReceiver) ∧
      (∀ accessor, other.isArrayOrUnionOfArrays accessor type = .ok true ↔
        host.isArrayOrUnionOfArrays accessor type = .ok true) ∧
      ∀ names, (Accessor.bySymbols other names).isArray =
        (Accessor.bySymbols host names).isArray) ∧
    ∀ accessor, (host type).givenFlags.isSome = true →
      ((∀ other, host.ListsAlike other →
        other.isArrayOrUnionOfArrays accessor type =
          host.isArrayOrUnionOfArrays accessor type) ↔ host.RejectsAlike accessor type) := by
  refine ⟨fun _ _ => isFlagSet_eq_ok_iff, fun _ _ _ made => isFlagSet_union made,
    fun _ _ made => isFlagSet_receiver made, isNullable_of_isAny_or_isUnknown,
    fun _ => isArrayOrUnionOfArrays_eq_ok_true_iff, ?_,
    fun _ readable => isArrayOrUnionOfArrays_eq_iff readable⟩
  intro other alike
  refine ⟨alike.isFlagSet_eq type, fun accessor => ?_, alike.isArray_bySymbols_eq⟩
  simp only [isArrayOrUnionOfArrays_eq_ok_true_iff, alike.givenFlags_eq, alike.mem_unionParts_iff]

/-- A union (type 0) of an array (type 1) and any type (every other one). -/
def arrayOrAny : Host Nat
  | 0 => { Handle.blank with givenFlags := some (.only .union), types := [1, 2] }
  | 1 =>
    { Handle.blank with
      givenFlags := some (.only .object)
      givenObjectFlags := some (.only .reference)
      symbol := some ⟨some (.text "Array")⟩ }
  | _ => { Handle.blank with givenFlags := some (.only .any) }

/-- The same union with its constituents the other way round, one of them twice. -/
def anyOrArray : Host Nat :=
  Function.update arrayOrAny 0 { arrayOrAny 0 with types := [2, 1, 2] }

theorem answers_by_unionParts_anyOrArray :
    arrayOrAny.isNullable 0 = .ok true ∧
      anyOrArray.isFlagSet 0 (.only .object) false = .ok true ∧
      anyOrArray.isArrayOrUnionOfArrays (.bySymbols arrayOrAny Accessor.arrayNames) 0 =
        .ok false := by
  rcases answers_by_unionParts arrayOrAny 0 with ⟨_, _, _, nullable, _, relisted, arrays⟩
  have sameMembers : ∀ part, part ∈ [2, 1, 2] ↔ part ∈ (arrayOrAny 0).types := by
    intro part
    change part ∈ [2, 1, 2] ↔ part ∈ [1, 2]
    simp only [List.mem_cons, List.not_mem_nil, or_false]
    omega
  have alike : arrayOrAny.ListsAlike anyOrArray := listsAlike_update sameMembers
  have onlyAny : ∀ part ∈ arrayOrAny.unionParts 0,
      (Accessor.bySymbols arrayOrAny Accessor.arrayNames).isArray part ≠ .ok true → part = 2 := by
    change ∀ part ∈ [1, 2], _
    simp only [List.forall_mem_cons, List.not_mem_nil, false_imp_iff, implies_true, and_true]
    exact fun rejected => absurd rfl rejected
  have rejects : arrayOrAny.RejectsAlike (.bySymbols arrayOrAny Accessor.arrayNames) 0 := by
    intro first firstMember second secondMember firstRejected secondRejected
    rw [onlyAny first firstMember firstRejected, onlyAny second secondMember secondRejected]
  exact ⟨nullable (Or.inl rfl), ((relisted anyOrArray alike).1 _ _).trans rfl,
    ((arrays _ rfl).mpr rejects anyOrArray alike).trans rfl⟩

/-- A union (type 1) of a type that is no array (type 2) and a reference to a type that is declared
by a list (type 3). -/
def plainOrListed : Host Nat
  | 1 => { Handle.blank with givenFlags := some (.only .union), types := [2, 3] }
  | 3 =>
    { Handle.blank with
      givenFlags := some (.only .object)
      givenObjectFlags := some (.only .reference)
      symbol := some ⟨some (.list [.integer 1])⟩ }
  | _ => { Handle.blank with givenFlags := some (.only .object) }

/-- The same union with its constituents the other way round. -/
def listedOrPlain : Host Nat :=
  Function.update plainOrListed 1 { plainOrListed 1 with types := [3, 2] }

theorem isArrayOrUnionOfArrays_listedOrPlain :
    plainOrListed.ListsAlike listedOrPlain ∧
      plainOrListed.isArrayOrUnionOfArrays (.bySymbols plainOrListed Accessor.arrayNames) 1 =
        .ok false ∧
      listedOrPlain.isArrayOrUnionOfArrays (.bySymbols listedOrPlain Accessor.arrayNames) 1 =
        .error (.unhashableName (.list [.integer 1])) := by
  have sameMembers : ∀ part, part ∈ [3, 2] ↔ part ∈ (plainOrListed 1).types := by
    intro part
    change part ∈ [3, 2] ↔ part ∈ [2, 3]
    simp only [List.mem_cons, List.not_mem_nil, or_false]
    omega
  exact ⟨listsAlike_update sameMembers, rfl, rfl⟩

end Host
end DirectiveLint
