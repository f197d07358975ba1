import DirectiveLint.TypeGraph.FlagNames
import Mathlib.Data.List.Nodup

/-!
# Names and numbers of flags

A kind of flags has a bit and a name for each member, and the members are listed
in the order of their bits.  So a list of names and the number that it stands for
determine each other, except that the number knows neither the order nor the
repetition of names, and that no name stands for a bit above the members.

A negative number stands for the same members as any number with the same lowest
bits.  A number with bits of members makes no set if its other bits are a number
that is too long to be written; up to the limit of digits every number makes one.
-/

namespace DirectiveLint

/-- A kind whose members are all listed, with names of their own, and have the bits from the lowest
on in the order of the list. -/
class LawfulFlagKind (Flag : Type) [FlagKind Flag] : Prop where
  mem_members (flag : Flag) : flag ∈ (FlagKind.members : List Flag)
  nodup_names : ((FlagKind.members : List Flag).map FlagKind.name).Nodup
  positions : (FlagKind.members : List Flag).map FlagKind.position =
    List.range (FlagKind.members : List Flag).length

instance : LawfulFlagKind TypeFlag where
  mem_members flag := by cases flag <;> decide
  nodup_names := by decide
  positions := by decide

instance : LawfulFlagKind ObjectFlag where
  mem_members flag := by cases flag <;> decide
  nodup_names := by decide
  positions := by decide

namespace Flags

/-- The names of all members of a kind, from the lowest bit on. -/
def memberNames (Flag : Type) [FlagKind Flag] : List String :=
  (FlagKind.members : List Flag).map FlagKind.name

/-- Names as values. -/
def nameValues (texts : List String) : List Value :=
  texts.map fun text => .text text

/-- The set of the members with some names. -/
def ofTexts (Flag : Type) [FlagKind Flag] (texts : List String) :
    Except FlagNameFault (Flags Flag) :=
  ofNames (nameValues texts)

variable {Flag : Type} [FlagKind Flag] {texts : List String}

/-- A set without the bits that stand for no member. -/
def known (flags : Flags Flag) : Flags Flag :=
  ⟨flags.bits &&& (ofList (FlagKind.members : List Flag)).bits⟩

/-! ## Members from names -/

theorem nameValues_cons (text : String) (rest : List String) :
    nameValues (text :: rest) = .text text :: nameValues rest :=
  rfl

theorem member?_eq_none_iff {text : String} :
    (member? text : Option Flag) = none ↔ text ∉ memberNames Flag := by
  rw [member?, List.find?_eq_none, memberNames, List.mem_map]
  simp

/-- The first name that no member has is at fault. -/
theorem exists_of_membersOf_eq_error {fault : FlagNameFault}
    (failed : (membersOf (nameValues texts) : Except FlagNameFault (List Flag)) = .error fault) :
    ∃ text ∈ texts, text ∉ memberNames Flag ∧ fault = .unknown (.text text) := by
  induction texts with
  | nil => cases failed
  | cons text rest inductionHypothesis =>
      rw [nameValues_cons, membersOf, memberOf] at failed
      cases found : (member? text : Option Flag) with
      | none =>
          rw [found] at failed
          cases failed
          exact ⟨text, List.mem_cons_self, member?_eq_none_iff.mp found, rfl⟩
      | some first =>
          rw [found] at failed
          cases later : (membersOf (nameValues rest) : Except FlagNameFault (List Flag)) with
          | error other =>
              rw [later] at failed
              cases failed
              rcases inductionHypothesis later with ⟨name, member, unknown⟩
              exact ⟨name, List.mem_cons_of_mem _ member, unknown⟩
          | ok read =>
              rw [later] at failed
              cases failed

theorem exists_of_ofTexts_eq_error {fault : FlagNameFault}
    (failed : ofTexts Flag texts = .error fault) :
    ∃ text ∈ texts, text ∉ memberNames Flag ∧ fault = .unknown (.text text) := by
  unfold ofTexts ofNames at failed
  split at failed
  · cases failed
  · next other read =>
      cases failed
      exact exists_of_membersOf_eq_error read

section

variable [LawfulFlagKind Flag] {flag other : Flag} {list others : List Flag} {flags : Flags Flag}

theorem eq_of_name_eq (same : FlagKind.name flag = FlagKind.name other) : flag = other :=
  List.inj_on_of_nodup_map LawfulFlagKind.nodup_names (LawfulFlagKind.mem_members flag)
    (LawfulFlagKind.mem_members other) same

theorem name_mem_map_iff : FlagKind.name flag ∈ list.map FlagKind.name ↔ flag ∈ list :=
  List.mem_map_of_injective fun _ _ => eq_of_name_eq

theorem member?_eq_some_iff {text : String} :
    member? text = some flag ↔ FlagKind.name flag = text := by
  constructor
  · intro found
    simpa using List.find?_some found
  · rintro rfl
    cases found : (member? (FlagKind.name flag) : Option Flag) with
    | none =>
        have differs := List.find?_eq_none.mp found flag (LawfulFlagKind.mem_members flag)
        simp at differs
    | some other =>
        have named := List.find?_some found
        rw [eq_of_name_eq (LooseText.plain.inj (eq_of_beq named))]

/-- Members are read from their names and from nothing else. -/
theorem membersOf_eq_ok_iff :
    membersOf (nameValues texts) = .ok list ↔ list.map FlagKind.name = texts := by
  induction texts generalizing list with
  | nil => cases list <;> simp [nameValues, membersOf]
  | cons text rest inductionHypothesis =>
      rw [nameValues_cons, membersOf, memberOf]
      cases found : (member? text : Option Flag) with
      | none =>
          have unnamed : ∀ flag : Flag, FlagKind.name flag ≠ text := by
            intro flag named
            rw [member?_eq_some_iff.mpr named] at found
            cases found
          cases list with
          | nil => simp
          | cons flag later => simp [unnamed flag]
      | some first =>
          have named := member?_eq_some_iff.mp found
          cases list with
          | nil =>
              cases (membersOf (nameValues rest) : Except FlagNameFault (List Flag)) <;> simp
          | cons flag later =>
              rw [List.map_cons, List.cons.injEq, ← inductionHypothesis, ← named]
              cases (membersOf (nameValues rest) : Except FlagNameFault (List Flag)) with
              | error fault => simp
              | ok read =>
                  simp only [Except.ok.injEq, List.cons.injEq]
                  apply and_congr_left
                  intro _
                  exact ⟨fun same => same ▸ rfl, fun same => (eq_of_name_eq same).symm⟩

theorem ofTexts_eq_ok_iff :
    ofTexts Flag texts = .ok flags ↔
      ∃ list : List Flag, list.map FlagKind.name = texts ∧ flags = ofList list := by
  unfold ofTexts ofNames
  cases read : (membersOf (nameValues texts) : Except FlagNameFault (List Flag)) with
  | error fault =>
      have unread : ∀ list : List Flag, list.map FlagKind.name ≠ texts := by
        intro list named
        rw [membersOf_eq_ok_iff.mpr named] at read
        cases read
      simp [unread]
  | ok list =>
      have named := membersOf_eq_ok_iff.mp read
      constructor
      · intro same
        cases same
        exact ⟨list, named, rfl⟩
      · rintro ⟨other, otherNamed, rfl⟩
        rw [← membersOf_eq_ok_iff, read, Except.ok.injEq] at otherNamed
        rw [otherNamed]

theorem exists_map_name_iff :
    (∃ list : List Flag, list.map FlagKind.name = texts) ↔
      ∀ text ∈ texts, text ∈ memberNames Flag := by
  constructor
  · rintro ⟨list, rfl⟩ text member
    rcases List.mem_map.mp member with ⟨flag, _, rfl⟩
    exact List.mem_map_of_mem (LawfulFlagKind.mem_members flag)
  · intro named
    cases read : (membersOf (nameValues texts) : Except FlagNameFault (List Flag)) with
    | error fault =>
        rcases exists_of_membersOf_eq_error read with ⟨text, member, unknown, _⟩
        exact absurd (named text member) unknown
    | ok list => exact ⟨list, membersOf_eq_ok_iff.mp read⟩

end

/-! ## Bits of members -/

/-- The bits of a list of members are theirs. -/
theorem testBit_ofList_iff {list : List Flag} {place : Nat} :
    (ofList list).bits.testBit place = true ↔ ∃ flag ∈ list, FlagKind.position flag = place := by
  have fold : ∀ start : Flags Flag,
      (list.foldl (fun flags flag => flags.union (only flag)) start).bits.testBit place = true ↔
        start.bits.testBit place = true ∨ ∃ flag ∈ list, FlagKind.position flag = place := by
    induction list with
    | nil => simp
    | cons first rest inductionHypothesis =>
        intro start
        rw [List.foldl_cons, inductionHypothesis, union, Nat.testBit_or, Bool.or_eq_true, only,
          Nat.one_shiftLeft, Nat.testBit_two_pow, decide_eq_true_eq]
        simp only [List.mem_cons, exists_eq_or_imp, or_assoc]
  rw [ofList, fold]
  simp [empty]

/-- Lists with the same members stand for the same set. -/
theorem ofList_congr {list others : List Flag} (same : ∀ flag, flag ∈ list ↔ flag ∈ others) :
    ofList list = ofList others := by
  have bits : (ofList list).bits = (ofList others).bits := by
    apply Nat.eq_of_testBit_eq
    intro place
    apply Bool.eq_iff_iff.mpr
    simp only [testBit_ofList_iff, same]
  exact congrArg Flags.mk bits

/-- The modulus for a negative number covers its magnitude and is a multiple of the capacity. -/
theorem le_modulus_and_dvd (magnitude : Nat) :
    magnitude ≤ modulus Flag magnitude ∧ capacity Flag ∣ modulus Flag magnitude := by
  unfold modulus
  split
  · next covered => exact ⟨covered, Nat.dvd_refl _⟩
  · next beyond =>
      have below : magnitude < 1 <<< (magnitude.log2 + 1) := by
        rw [Nat.one_shiftLeft]
        exact Nat.lt_log2_self
      refine ⟨Nat.le_of_lt below, ?_⟩
      have wider := Nat.lt_trans (Nat.lt_of_not_le beyond) below
      rw [capacity, Nat.one_shiftLeft, Nat.one_shiftLeft] at wider ⊢
      exact Nat.pow_dvd_pow 2 (Nat.le_of_lt ((Nat.pow_lt_pow_iff_right (by decide)).mp wider))

section

variable [LawfulFlagKind Flag] {flag other : Flag} {list others : List Flag} {flags : Flags Flag}

theorem eq_of_position_eq (same : FlagKind.position flag = FlagKind.position other) :
    flag = other := by
  have distinct : ((FlagKind.members : List Flag).map FlagKind.position).Nodup := by
    rw [LawfulFlagKind.positions]
    exact List.nodup_range
  exact List.inj_on_of_nodup_map distinct (LawfulFlagKind.mem_members flag)
    (LawfulFlagKind.mem_members other) same

theorem contains_ofList_iff : (ofList list).contains flag = true ↔ flag ∈ list := by
  rw [contains, testBit_ofList_iff]
  constructor
  · rintro ⟨other, member, same⟩
    exact eq_of_position_eq same ▸ member
  · intro member
    exact ⟨flag, member, rfl⟩

theorem mem_members_iff : flag ∈ flags.members ↔ flags.contains flag = true := by
  rw [members, List.mem_filter, and_iff_right (LawfulFlagKind.mem_members flag)]

/-- The members of a set stand for the bits of it that members have. -/
theorem ofList_members (flags : Flags Flag) : ofList flags.members = flags.known := by
  have bits : (ofList flags.members).bits = flags.known.bits := by
    apply Nat.eq_of_testBit_eq
    intro place
    apply Bool.eq_iff_iff.mpr
    rw [known, Nat.testBit_and, Bool.and_eq_true, testBit_ofList_iff, testBit_ofList_iff]
    constructor
    · rintro ⟨flag, member, rfl⟩
      exact ⟨mem_members_iff.mp member, flag, LawfulFlagKind.mem_members flag, rfl⟩
    · rintro ⟨set, flag, _, rfl⟩
      exact ⟨flag, mem_members_iff.mpr set, rfl⟩
  exact congrArg Flags.mk bits

theorem names_ofList :
    (ofList list).names = (memberNames Flag).filter (list.map FlagKind.name).contains := by
  rw [names, members, memberNames, List.filter_map]
  congr 1
  apply List.filter_congr
  intro flag _
  apply Bool.eq_iff_iff.mpr
  rw [contains_ofList_iff, Function.comp_apply, List.contains_iff_mem, name_mem_map_iff]

theorem meets_ofList_iff :
    (ofList list).meets (ofList others) = true ↔ ∃ flag ∈ list, flag ∈ others := by
  rw [meets, bne_iff_ne, ne_eq, ← not_iff_not, not_not]
  constructor
  · rintro apart ⟨flag, member, also⟩
    have bit : ((ofList list).bits &&& (ofList others).bits).testBit (FlagKind.position flag) =
        true := by
      rw [Nat.testBit_and, Bool.and_eq_true]
      exact ⟨contains_ofList_iff.mpr member, contains_ofList_iff.mpr also⟩
    rw [apart, Nat.zero_testBit] at bit
    cases bit
  · intro apart
    apply Nat.eq_of_testBit_eq
    intro place
    rw [Nat.zero_testBit, Nat.testBit_and, Bool.eq_false_iff, ne_eq, Bool.and_eq_true,
      testBit_ofList_iff]
    rintro ⟨⟨flag, member, rfl⟩, also⟩
    exact apart ⟨flag, member, contains_ofList_iff.mp also⟩

theorem position_getElem {place : Nat} (within : place < (FlagKind.members : List Flag).length) :
    FlagKind.position (FlagKind.members : List Flag)[place] = place := by
  have placed := congrArg (·[place]?) (LawfulFlagKind.positions : _ = List.range
    (FlagKind.members : List Flag).length)
  simpa [within] using placed

/-- All members together have all bits below the capacity. -/
theorem bits_ofList_members : (ofList (FlagKind.members : List Flag)).bits = capacity Flag - 1 := by
  apply Nat.eq_of_testBit_eq
  intro place
  apply Bool.eq_iff_iff.mpr
  rw [testBit_ofList_iff, capacity, Nat.one_shiftLeft, Nat.testBit_two_pow_sub_one,
    decide_eq_true_eq, ← List.mem_range, ← LawfulFlagKind.positions, List.mem_map]

theorem bits_known (flags : Flags Flag) : flags.known.bits = flags.bits % capacity Flag := by
  rw [known, bits_ofList_members, capacity, Nat.one_shiftLeft, Nat.and_two_pow_sub_one_eq_mod]

/-- The set of a number has the lowest bits of the number, also of a negative one. -/
theorem bits_known_ofInt (number : Int) :
    ((ofInt number : Flags Flag).known.bits : Int) = number % capacity Flag := by
  rw [bits_known, Int.natCast_emod]
  cases number with
  | ofNat bits => rfl
  | negSucc below =>
      rcases @le_modulus_and_dvd Flag _ (below + 1) with ⟨covered, factor, whole⟩
      have difference : (((ofInt (.negSucc below) : Flags Flag).bits : Nat) : Int) =
          Int.negSucc below + capacity Flag * factor := by
        have negative : Int.negSucc below = -((below + 1 : Nat) : Int) := rfl
        rw [ofInt, Int.ofNat_sub covered, whole, negative, Int.natCast_mul]
        omega
      rw [difference, Int.add_mul_emod_self_left]

end

/-! ## Numbers that make no set -/

/-- What a negative number is taken modulo is at most twice its magnitude, unless the bits of
members cover it. -/
theorem modulus_le {magnitude : Nat} (beyond : capacity Flag < magnitude) :
    modulus Flag magnitude ≤ 2 * magnitude := by
  rw [modulus, if_neg (Nat.not_le.mpr beyond), Nat.one_shiftLeft, Nat.pow_succ, Nat.mul_comm]
  exact Nat.mul_le_mul_left 2 (Nat.log2_self_le (Nat.ne_zero_of_lt beyond))

/-- A number that has more than the bits of members has no more than its magnitude. -/
theorem bits_ofInt_le {number : Int} (more : capacity Flag ≤ (ofInt number : Flags Flag).bits) :
    (ofInt number : Flags Flag).bits ≤ number.natAbs := by
  cases number with
  | ofNat bits => exact Nat.le_refl bits
  | negSucc below =>
      change modulus Flag (below + 1) - (below + 1) ≤ below + 1
      change capacity Flag ≤ modulus Flag (below + 1) - (below + 1) at more
      by_cases covered : below + 1 ≤ capacity Flag
      · rw [modulus, if_pos covered] at more ⊢
        omega
      · have double := modulus_le (Nat.lt_of_not_le covered)
        omega

theorem ofInt?_eq_some_iff {number : Int} {flags : Flags Flag} :
    ofInt? number = some flags ↔ (ofInt number : Flags Flag).isNameable = true ∧
      ofInt number = flags := by
  unfold ofInt? named?
  split <;> simp [*]

section

variable [LawfulFlagKind Flag] {number : Int}

theorem isNameable_eq_false_iff {flags : Flags Flag} :
    flags.isNameable = false ↔
      flags.known.bits ≠ 0 ∧ Number.leastTooLong ≤ flags.bits - flags.known.bits := by
  rw [bits_known, ← memberBits, isNameable, Bool.or_eq_false_iff, beq_eq_false_iff_ne,
    Number.isWritable_eq_false_iff, Int.natAbs_natCast]

theorem ofInt?_eq_none_iff :
    (ofInt? number : Option (Flags Flag)) = none ↔ number % capacity Flag ≠ 0 ∧
      Number.leastTooLong ≤
        (ofInt number : Flags Flag).bits - (ofInt number : Flags Flag).known.bits := by
  have unmade : (ofInt? number : Option (Flags Flag)) = none ↔
      (ofInt number : Flags Flag).isNameable = false := by
    unfold ofInt? named?
    cases (ofInt number : Flags Flag).isNameable <;> simp
  rw [unmade, isNameable_eq_false_iff, ← bits_known_ofInt, ne_eq, ne_eq, Int.natCast_eq_zero]

theorem exists_ofInt?_eq_some (short : number.natAbs < Number.leastTooLong) :
    ∃ flags : Flags Flag, ofInt? number = some flags := by
  rw [← Option.ne_none_iff_exists', ne_eq, ofInt?_eq_none_iff]
  rintro ⟨_, long⟩
  have more : capacity Flag ≤ (ofInt number : Flags Flag).bits := by
    by_contra fewer
    rw [bits_known, Nat.mod_eq_of_lt (Nat.lt_of_not_le fewer), Nat.sub_self] at long
    exact absurd (Number.leastLonger_pos _) (Nat.not_lt.mpr long)
  exact absurd (Nat.le_trans long (Nat.sub_le _ _))
    (Nat.not_le.mpr (Nat.lt_of_le_of_lt (bits_ofInt_le more) short))

end

/-- Names and numbers of a kind of flags convert into each other. -/
structure NamesConvert (Flag : Type) [FlagKind Flag] : Prop where
  /-- A number makes no set if and only if it has bits of members and the others are a number with
  too many digits. -/
  ofInt?_eq_none_iff : ∀ number : Int, (ofInt? number : Option (Flags Flag)) = none ↔
    number % capacity Flag ≠ 0 ∧
      Number.leastTooLong ≤
        (ofInt number : Flags Flag).bits - (ofInt number : Flags Flag).known.bits
  /-- Every number that is not too long makes a set. -/
  exists_ofInt?_eq_some : ∀ number : Int, number.natAbs < Number.leastTooLong →
    ∃ flags : Flags Flag, ofInt? number = some flags
  /-- The names of a number give back its lowest bits, those that members have. -/
  ofTexts_names : ∀ (number : Int) (flags : Flags Flag), ofInt? number = some flags →
    ofTexts Flag flags.names = .ok flags.known ∧
      (flags.known.bits : Int) = number % capacity Flag
  /-- Names of members give a set that has these names, each once and in the order of the bits. -/
  names_ofTexts : ∀ texts : List String, (∀ text ∈ texts, text ∈ memberNames Flag) →
    ∃ flags, ofTexts Flag texts = .ok flags ∧ flags.names = (memberNames Flag).filter texts.contains
  /-- No two members have the same name. -/
  nodup_memberNames : (memberNames Flag).Nodup
  /-- A member has the bit of its place. -/
  ofTexts_single : ∀ place text, (memberNames Flag)[place]? = some text →
    ofTexts Flag [text] = .ok ⟨1 <<< place⟩
  /-- Neither the order of names nor their repetition matters. -/
  ofTexts_congr : ∀ texts others : List String, (∀ text ∈ texts, text ∈ memberNames Flag) →
    (∀ text, text ∈ texts ↔ text ∈ others) → ofTexts Flag texts = ofTexts Flag others
  /-- There is no set if and only if some name is that of no member, and such a name is at fault. -/
  ofTexts_eq_error : ∀ texts : List String,
    ((∃ fault, ofTexts Flag texts = .error fault) ↔ ∃ text ∈ texts, text ∉ memberNames Flag) ∧
      ∀ fault, ofTexts Flag texts = .error fault →
        ∃ text ∈ texts, text ∉ memberNames Flag ∧ fault = .unknown (.text text)
  /-- Two sets have a bit in common if and only if a name is in both lists. -/
  meets_iff : ∀ (texts others : List String) (flags otherFlags : Flags Flag),
    ofTexts Flag texts = .ok flags → ofTexts Flag others = .ok otherFlags →
      (flags.meets otherFlags = true ↔ ∃ text ∈ texts, text ∈ others)

section

variable [LawfulFlagKind Flag]

theorem ofTexts_congr {others : List String} (named : ∀ text ∈ texts, text ∈ memberNames Flag)
    (same : ∀ text, text ∈ texts ↔ text ∈ others) : ofTexts Flag texts = ofTexts Flag others := by
  have namedOthers : ∀ text ∈ others, text ∈ memberNames Flag :=
    fun text member => named text ((same text).mpr member)
  rcases exists_map_name_iff.mpr named with ⟨list, rfl⟩
  rcases exists_map_name_iff.mpr namedOthers with ⟨list', rfl⟩
  have members : ∀ flag, flag ∈ list ↔ flag ∈ list' := by
    intro flag
    rw [← name_mem_map_iff, same, name_mem_map_iff]
  rw [ofTexts_eq_ok_iff.mpr ⟨list, rfl, rfl⟩, ofTexts_eq_ok_iff.mpr ⟨list', rfl, rfl⟩,
    ofList_congr members]

theorem exists_ofTexts_eq_error_iff :
    (∃ fault, ofTexts Flag texts = .error fault) ↔ ∃ text ∈ texts, text ∉ memberNames Flag := by
  constructor
  · rintro ⟨fault, failed⟩
    rcases exists_of_ofTexts_eq_error failed with ⟨text, member, unknown, _⟩
    exact ⟨text, member, unknown⟩
  · rintro ⟨text, member, unknown⟩
    cases read : ofTexts Flag texts with
    | error fault => exact ⟨fault, rfl⟩
    | ok flags =>
        rcases ofTexts_eq_ok_iff.mp read with ⟨list, named, _⟩
        exact absurd (exists_map_name_iff.mp ⟨list, named⟩ text member) unknown

theorem namesConvert_of_lawful : NamesConvert Flag where
  ofInt?_eq_none_iff _ := ofInt?_eq_none_iff
  exists_ofInt?_eq_some _ short := exists_ofInt?_eq_some short
  ofTexts_names number flags made := by
    rcases ofInt?_eq_some_iff.mp made with ⟨_, rfl⟩
    refine ⟨ofTexts_eq_ok_iff.mpr ⟨(ofInt number).members, rfl, ?_⟩, bits_known_ofInt number⟩
    exact (ofList_members _).symm
  names_ofTexts texts named := by
    rcases exists_map_name_iff.mpr named with ⟨list, rfl⟩
    exact ⟨ofList list, ofTexts_eq_ok_iff.mpr ⟨list, rfl, rfl⟩, names_ofList⟩
  nodup_memberNames := LawfulFlagKind.nodup_names
  ofTexts_single place text found := by
    rw [memberNames, List.getElem?_map, Option.map_eq_some_iff] at found
    rcases found with ⟨flag, placed, rfl⟩
    rcases List.getElem?_eq_some_iff.mp placed with ⟨within, rfl⟩
    refine ofTexts_eq_ok_iff.mpr ⟨[(FlagKind.members : List Flag)[place]], rfl, ?_⟩
    simp [ofList, union, only, empty, position_getElem within]
  ofTexts_congr _ _ named same := ofTexts_congr named same
  ofTexts_eq_error _ :=
    ⟨exists_ofTexts_eq_error_iff, fun _ failed => exists_of_ofTexts_eq_error failed⟩
  meets_iff texts others flags otherFlags read readOthers := by
    rcases ofTexts_eq_ok_iff.mp read with ⟨list, rfl, rfl⟩
    rcases ofTexts_eq_ok_iff.mp readOthers with ⟨list', rfl, rfl⟩
    rw [meets_ofList_iff]
    constructor
    · rintro ⟨flag, member, also⟩
      exact ⟨_, List.mem_map_of_mem member, List.mem_map_of_mem also⟩
    · rintro ⟨text, member, also⟩
      rcases List.mem_map.mp member with ⟨flag, inFirst, rfl⟩
      exact ⟨flag, inFirst, name_mem_map_iff.mp also⟩

end

/-- Names and numbers of the flags of types, and those of object types, convert into each other. -/
theorem namesConvert : NamesConvert TypeFlag ∧ NamesConvert ObjectFlag :=
  ⟨namesConvert_of_lawful, namesConvert_of_lawful⟩

/-- The lowest bit makes no set with other bits that are a number with too many digits. -/
theorem ofInt?_add_one [LawfulFlagKind Flag] {bits : Nat} (several : 1 < capacity Flag)
    (above : capacity Flag ∣ bits) (long : Number.leastTooLong ≤ bits) :
    (ofInt? ((bits + 1 : Nat) : Int) : Option (Flags Flag)) = none := by
  have lowest : (bits + 1) % capacity Flag = 1 := by
    rcases above with ⟨factor, rfl⟩
    rw [Nat.mul_add_mod, Nat.mod_eq_of_lt several]
  rw [ofInt?_eq_none_iff, ← bits_known_ofInt, bits_known]
  change ((bits + 1) % capacity Flag : Nat) ≠ (0 : Int) ∧
    Number.leastTooLong ≤ bits + 1 - (bits + 1) % capacity Flag
  rw [lowest]
  exact ⟨by decide, long⟩

theorem ofInt?_add_one_leastTooLong :
    (ofInt? ((Number.leastTooLong + 1 : Nat) : Int) : Option (Flags TypeFlag)) = none ∧
      (ofInt? ((Number.leastTooLong + 1 : Nat) : Int) : Option (Flags ObjectFlag)) = none := by
  have twos {places limit : Nat} (few : places ≤ limit) :
      1 <<< places ∣ Number.leastLonger limit := by
    rw [Nat.one_shiftLeft]
    exact Nat.dvd_trans (Nat.pow_dvd_pow 2 few) ⟨5 ^ limit, Nat.mul_pow 2 5 limit⟩
  exact ⟨ofInt?_add_one (by decide) (twos (by decide)) (Nat.le_refl _),
    ofInt?_add_one (by decide) (twos (by decide)) (Nat.le_refl _)⟩

end Flags
end DirectiveLint
