import DirectiveLint.Proofs.Json.Strings
import DirectiveLint.Proofs.Table

/-!
# Reading printed values

What is printed for a value is read as the value, and the reader stops where it
ends.  This is for values of integers, texts without halves, lists and objects;
real numbers are not among them.  The reader has limits for the digits of an
integer and for the nesting, so it is for values within these limits.  Apart from
that the induction over the value is for every place that it can stand at.
-/

namespace DirectiveLint
namespace Json

variable {limit : Nat} {limits : Limits} {rest : List Char}

/-! ## Integers -/

/-- Whether the digits of an integer end in front of a text. -/
def EndsInteger (rest : List Char) : Prop :=
  ∀ next ∈ rest.head?, next.isDigit = false ∧ next ≠ '.' ∧ next ≠ 'e' ∧ next ≠ 'E'

theorem takeDigits_append {digits : List Char} (areDigits : ∀ digit ∈ digits, digit.isDigit = true)
    (ends : EndsInteger rest) : takeDigits (digits ++ rest) = (digits, rest) := by
  rw [takeDigits, List.takeWhile_append_of_pos areDigits, List.dropWhile_append_of_pos areDigits]
  cases rest with
  | nil => simp
  | cons next others =>
      have noDigit : ¬next.isDigit = true := by simp [(ends next rfl).1]
      rw [List.takeWhile_cons_of_neg noDigit, List.dropWhile_cons_of_neg noDigit, List.append_nil]

theorem readFraction_of_ends (ends : EndsInteger rest) : readFraction rest = none := by
  unfold readFraction
  split
  · exact absurd rfl (ends '.' rfl).2.1
  · rfl

theorem readExponent_of_ends (ends : EndsInteger rest) : readExponent rest = none := by
  cases rest with
  | nil => rfl
  | cons next others => simp [readExponent, (ends next rfl).2.2]

/-- The digits of a number other than zero do not start with a zero. -/
theorem head?_toDigits_ne {number : Nat} (positive : 0 < number) :
    (Nat.toDigits 10 number).head? ≠ some '0' := by
  induction number using Nat.strongRecOn with
  | ind number inductionHypothesis =>
      by_cases single : number < 10
      · have noZero : ∀ digit < 10, 0 < digit → digit.digitChar ≠ '0' := by decide
        simpa [Nat.toDigits_of_lt_base single] using noZero number single positive
      · have smaller : number / 10 < number := Nat.div_lt_self positive (by decide)
        have more : 0 < number / 10 := Nat.div_pos (Nat.le_of_not_lt single) (by decide)
        rw [Nat.toDigits_of_base_le (by decide) (Nat.le_of_not_lt single),
          List.head?_append_of_ne_nil _ Nat.toDigits_ne_nil]
        exact inductionHypothesis (number / 10) smaller more

theorem isDigit_toDigits (number : Nat) :
    ∀ digit ∈ Nat.toDigits 10 number, digit.isDigit = true :=
  fun _ member => Nat.isDigit_of_mem_toDigits (by decide) (by decide) member

theorem readWhole_toDigits (number : Nat) (ends : EndsInteger rest) :
    readWhole (Nat.toDigits 10 number ++ rest) = some (Nat.toDigits 10 number, rest) := by
  rcases Nat.eq_zero_or_pos number with rfl | positive
  · rfl
  · have taken := takeDigits_append (isDigit_toDigits number) ends
    have noZero := head?_toDigits_ne positive
    have given := @Nat.toDigits_ne_nil number 10
    unfold readWhole
    split
    · next others zero =>
        refine absurd ?_ noZero
        rw [← List.head?_append_of_ne_nil _ given, zero, List.head?_cons]
    · rw [taken]
      simp [given]

theorem readUnsigned_toDigits {number : Nat} (within : (Nat.toDigits 10 number).length ≤ limit)
    (ends : EndsInteger rest) (negative : Bool) :
    readUnsigned limit negative (Nat.toDigits 10 number ++ rest) =
      some (.ok (.integer (if negative then -number else number)), rest) := by
  have same : digitsNumber (Nat.toDigits 10 number) = number :=
    Nat.ofDigitChars_ten_toDigits
  rw [readUnsigned, readWhole_toDigits number ends]
  simp [readFraction_of_ends ends, readExponent_of_ends ends, Nat.not_lt.mpr within, same]

theorem toList_toString (value : Int) :
    (toString value).toList =
      if value < 0 then '-' :: Nat.toDigits 10 value.natAbs else Nat.toDigits 10 value.natAbs := by
  rw [Int.toString_eq_repr, Int.repr_eq_if]
  split
  · next atLeast =>
      have same : value.toNat = value.natAbs := by omega
      rw [if_neg (Int.not_lt.mpr atLeast), Nat.toList_repr, same]
  · next negative =>
      have same : (-value).toNat = value.natAbs := by omega
      rw [if_pos (Int.not_le.mp negative), String.toList_append, Nat.toList_repr, same]
      rfl

/-- An integer starts with its sign or with a digit. -/
theorem exists_toString_eq (value : Int) :
    ∃ first others, (toString value).toList = first :: others ∧
      (first.isDigit = true ∨
        first = '-' ∧ ∃ digit more, others = digit :: more ∧ digit.isDigit = true) := by
  rcases List.exists_cons_of_ne_nil (@Nat.toDigits_ne_nil value.natAbs 10) with
    ⟨digit, more, written⟩
  have isDigit := isDigit_toDigits value.natAbs digit (written ▸ List.mem_cons_self)
  rw [toList_toString, written]
  split
  · exact ⟨'-', digit :: more, rfl, Or.inr ⟨rfl, digit, more, rfl, isDigit⟩⟩
  · exact ⟨digit, more, rfl, Or.inl isDigit⟩

/-- An integer starts with nothing that starts another value. -/
theorem exists_toString_head_ne (value : Int) :
    ∃ first others, (toString value).toList = first :: others ∧
      ∀ other : Char, other.isDigit = false → other ≠ '-' → first ≠ other := by
  rcases exists_toString_eq value with ⟨first, others, written, starts⟩
  refine ⟨first, others, written, ?_⟩
  rintro other noDigit noSign rfl
  rcases starts with isDigit | ⟨isSign, _⟩
  · rw [noDigit] at isDigit
    cases isDigit
  · exact noSign isSign

/-- No constant starts with a digit, and after a sign only a letter does. -/
theorem readConstant_of_isDigit {digit : Char} (isDigit : digit.isDigit = true)
    (others : List Char) :
    readConstant (digit :: others) = none ∧ readConstant ('-' :: digit :: others) = none := by
  constructor
  · unfold readConstant
    split
    case h_7 => rfl
    all_goals
      rename_i same
      cases same
      exact absurd isDigit (by decide)
  · unfold readConstant
    split
    case h_7 => rfl
    case h_6 =>
      rename_i same
      cases same
      exact absurd isDigit (by decide)
    all_goals
      rename_i same
      cases same

theorem readConstant_toString (value : Int) :
    readConstant ((toString value).toList ++ rest) = none := by
  rcases exists_toString_eq value with ⟨first, others, written, starts⟩
  rw [written]
  rcases starts with isDigit | ⟨rfl, digit, more, rfl, isDigit⟩
  · exact (readConstant_of_isDigit isDigit (others ++ rest)).1
  · exact (readConstant_of_isDigit isDigit (more ++ rest)).2

/-- An integer is read to its last digit. -/
theorem readNumber_toString {value : Int}
    (within : (Nat.toDigits 10 value.natAbs).length ≤ limit) (ends : EndsInteger rest) :
    readNumber limit ((toString value).toList ++ rest) = .ok (.integer value, rest) := by
  have read := readUnsigned_toDigits within ends
  rw [toList_toString]
  split
  · next negative =>
      have same : -(value.natAbs : Int) = value := by omega
      simp only [readNumber, List.cons_append, read, if_true, same, numberStep]
  · next atLeast =>
      have same : (value.natAbs : Int) = value := by omega
      rcases List.exists_cons_of_ne_nil (@Nat.toDigits_ne_nil value.natAbs 10) with
        ⟨digit, more, written⟩
      have isDigit := isDigit_toDigits value.natAbs digit (written ▸ List.mem_cons_self)
      have noSign : digit ≠ '-' := by
        rintro rfl
        exact absurd isDigit (by decide)
      rw [written, List.cons_append] at read ⊢
      simp [readNumber, noSign, read, same, numberStep]

/-! ## Values within the limits -/

/-- The values without real numbers and without halves that are within limits: an integer has at
most `limit` digits, and lists and objects are nested at most `levels` deep. -/
inductive Readable (limit : Nat) : Nat → Value → Prop
  | null (levels : Nat) : Readable limit levels .null
  | boolean (levels : Nat) (value : Bool) : Readable limit levels (.boolean value)
  | integer (levels : Nat) (value : Int)
      (within : (Nat.toDigits 10 value.natAbs).length ≤ limit) :
      Readable limit levels (.integer value)
  | text (levels : Nat) (value : LooseText) (plain : value.isPlain = true) :
      Readable limit levels (.text value)
  | list (levels : Nat) (items : List Value) (each : ∀ item ∈ items, Readable limit levels item) :
      Readable limit (levels + 1) (.list items)
  | object (levels : Nat) (fields : List (LooseText × Value)) (keyed : Table.Keyed fields)
      (plain : ∀ field ∈ fields, field.1.isPlain = true)
      (each : ∀ field ∈ fields, Readable limit levels field.2) :
      Readable limit (levels + 1) (.object fields)

/-- An object with one field is within the limits if its value is, one level below. -/
theorem Readable.single {levels : Nat} {key : LooseText} {value : Value}
    (plain : key.isPlain = true)
    (readable : Readable limit levels value) :
    Readable limit (levels + 1) (.object [(key, value)]) := by
  refine .object levels _ (List.nodup_singleton key) ?_ ?_
  · simpa using plain
  · simpa using readable

/-- Whether a value is read back from what is printed for it, wherever it stands. -/
def ReadsBack (limits : Limits) (levels : Nat) (value : Value) : Prop :=
  ∀ fuel depth rest, (printValue value).length < fuel → depth + levels ≤ limits.nesting →
    EndsInteger rest → readValue limits fuel depth (printValue value ++ rest) = .ok (value, rest)

/-- Whether a text starts with a character that stays when blanks are skipped and that ends no list
and no object. -/
def StartsValue (text : List Char) : Prop :=
  ∃ first others, text = first :: others ∧ isSpace first = false ∧ first ≠ ']' ∧ first ≠ '\x7d'

variable {levels : Nat} {value : Value}

theorem skipSpace_of_starts {text : List Char} (starts : StartsValue text) :
    skipSpace text = text := by
  rcases starts with ⟨first, others, rfl, noSpace, _⟩
  exact List.dropWhile_cons_of_neg (by simp [noSpace])

theorem StartsValue.append {text : List Char} (starts : StartsValue text) (rest : List Char) :
    StartsValue (text ++ rest) := by
  rcases starts with ⟨first, others, rfl, noSpace, noEnd⟩
  exact ⟨first, others ++ rest, rfl, noSpace, noEnd⟩

theorem startsValue_joinParts {first : List Char} (starts : StartsValue first)
    (parts : List (List Char)) : StartsValue (joinParts (first :: parts)) := by
  cases parts with
  | nil => exact starts
  | cons next more => exact starts.append _

theorem Readable.startsValue (readable : Readable limit levels value) :
    StartsValue (printValue value) := by
  cases readable with
  | null levels => exact ⟨'n', _, rfl, by decide, by decide, by decide⟩
  | boolean levels value =>
      cases value
      · exact ⟨'f', _, rfl, by decide, by decide, by decide⟩
      · exact ⟨'t', _, rfl, by decide, by decide, by decide⟩
  | integer levels value within =>
      rcases exists_toString_head_ne value with ⟨first, others, written, different⟩
      refine ⟨first, others, written, ?_, different ']' rfl (by decide),
        different '\x7d' rfl (by decide)⟩
      simp [isSpace, different]
  | text levels value plain => exact ⟨'"', _, rfl, by decide, by decide, by decide⟩
  | list levels items each => exact ⟨'[', _, rfl, by decide, by decide, by decide⟩
  | object levels fields keyed plain each => exact ⟨'\x7b', _, rfl, by decide, by decide, by decide⟩

/-! ## Reading values -/

section

variable {fuel depth : Nat}

theorem readValue_text {text : LooseText} (plain : text.isPlain = true) :
    readValue limits (fuel + 1) depth (printString text ++ rest) = .ok (.text text, rest) := by
  rw [printString, List.cons_append, List.cons_append, List.append_assoc, readValue]
  simp [readString_printString plain]

theorem readValue_integer {value : Int}
    (within : (Nat.toDigits 10 value.natAbs).length ≤ limits.digits) (ends : EndsInteger rest) :
    readValue limits (fuel + 1) depth ((toString value).toList ++ rest) =
      .ok (.integer value, rest) := by
  have constant := @readConstant_toString rest value
  have number := readNumber_toString within ends
  rcases exists_toString_head_ne value with ⟨first, others, written, different⟩
  rw [written, List.cons_append] at constant number ⊢
  unfold readValue
  simp [different, constant, number]

theorem endsInteger_cons {mark : Char}
    (isMark : mark.isDigit = false ∧ mark ≠ '.' ∧ mark ≠ 'e' ∧ mark ≠ 'E') :
    EndsInteger (mark :: rest) := by
  intro next isNext
  cases isNext
  exact isMark

theorem readItems_last {text : List Char} {item : Value}
    (read : readValue limits fuel depth text = .ok (item, ']' :: rest)) :
    readItems limits (fuel + 1) depth text = .ok ([item], rest) := by
  rw [readItems, read]
  rfl

theorem readItems_more {text next : List Char} {item : Value} {items : List Value}
    (read : readValue limits fuel depth text = .ok (item, ',' :: ' ' :: next))
    (starts : StartsValue next) (later : readItems limits fuel depth next = .ok (items, rest)) :
    readItems limits (fuel + 1) depth text = .ok (item :: items, rest) := by
  have blank : skipSpace (' ' :: next) = next := skipSpace_of_starts starts
  have comma : skipSpace (',' :: ' ' :: next) = ',' :: ' ' :: next := rfl
  simp only [readItems, read, comma, blank, later]

/-- The items of a list are read one after the other, if each is read back. -/
theorem readItems_joinParts {items : List Value} (given : items ≠ [])
    (each : ∀ item ∈ items, ReadsBack limits levels item ∧ StartsValue (printValue item))
    (enough : (joinParts (printItems items)).length + 1 < fuel)
    (within : depth + levels ≤ limits.nesting) :
    readItems limits fuel depth (joinParts (printItems items) ++ ']' :: rest) =
      .ok (items, rest) := by
  induction items generalizing fuel with
  | nil => exact absurd rfl given
  | cons item others inductionHypothesis =>
      rw [List.forall_mem_cons] at each
      rcases Nat.exists_eq_add_one_of_ne_zero (Nat.ne_zero_of_lt enough) with ⟨fuel, rfl⟩
      cases others with
      | nil =>
          apply readItems_last
          exact each.1.1 fuel depth _ (Nat.lt_of_succ_lt_succ enough) within
            (endsInteger_cons (by decide))
      | cons next more =>
          have joined : joinParts (printItems (item :: next :: more)) =
              printValue item ++ ',' :: ' ' :: joinParts (printItems (next :: more)) := rfl
          have starts := startsValue_joinParts (each.2 next List.mem_cons_self).2 (printItems more)
          rw [joined, List.length_append, List.length_cons, List.length_cons] at enough
          rw [joined, List.append_assoc]
          apply readItems_more _ (starts.append (']' :: rest))
          · exact inductionHypothesis (List.cons_ne_nil next more) each.2 (by omega)
          · exact each.1.1 fuel depth _ (by omega) within (endsInteger_cons (by decide))

section

variable {text : List Char} {key : LooseText} {value : Value}
    {fields others : List (LooseText × Value)}

theorem readFields_last (plain : key.isPlain = true) (starts : StartsValue text)
    (read : readValue limits fuel depth text = .ok (value, '\x7d' :: rest)) :
    readFields limits (fuel + 1) depth fields (printString key ++ ':' :: ' ' :: text) =
      .ok (Value.putField key value fields, rest) := by
  have blank : skipSpace (' ' :: text) = text := skipSpace_of_starts starts
  have colon : skipSpace (':' :: ' ' :: text) = ':' :: ' ' :: text := rfl
  have brace : skipSpace ('\x7d' :: rest) = '\x7d' :: rest := rfl
  rw [printString, List.cons_append, List.cons_append, List.append_assoc, List.singleton_append]
  simp only [readFields, readString_printString plain, colon, blank, read, brace,
    LooseText.ofLetters_letters]

theorem readFields_more {next : List Char} (plain : key.isPlain = true)
    (starts : StartsValue text)
    (read : readValue limits fuel depth text = .ok (value, ',' :: ' ' :: next))
    (startsNext : StartsValue next)
    (later : readFields limits fuel depth (Value.putField key value fields) next =
      .ok (others, rest)) :
    readFields limits (fuel + 1) depth fields (printString key ++ ':' :: ' ' :: text) =
      .ok (others, rest) := by
  have blank : skipSpace (' ' :: text) = text := skipSpace_of_starts starts
  have colon : skipSpace (':' :: ' ' :: text) = ':' :: ' ' :: text := rfl
  have blankNext : skipSpace (' ' :: next) = next := skipSpace_of_starts startsNext
  have comma : skipSpace (',' :: ' ' :: next) = ',' :: ' ' :: next := rfl
  rw [printString, List.cons_append, List.cons_append, List.append_assoc, List.singleton_append]
  simp only [readFields, readString_printString plain, colon, blank, read, comma, blankNext, later,
    LooseText.ofLetters_letters]

theorem startsValue_printField (field : LooseText × Value) : StartsValue (printField field) := by
  cases field
  exact ⟨'"', _, rfl, by decide, by decide, by decide⟩

/-- A field under a new key is put at the end. -/
theorem putField_append (keyed : Table.Keyed (fields ++ (key, value) :: others)) :
    Value.putField key value fields = fields ++ [(key, value)] := by
  have absent : key ∉ fields.map Prod.fst := by
    intro member
    rw [Table.Keyed, List.map_append, List.nodup_append] at keyed
    exact keyed.2.2 key member key List.mem_cons_self rfl
  rw [Value.putField_eq_add, Table.add_of_lookup_eq_none (Table.lookup_eq_none_of_not_mem absent)]

/-- The fields of an object are read one after the other, if each value is read back. -/
theorem readFields_joinParts (given : others ≠ []) (keyed : Table.Keyed (fields ++ others))
    (plain : ∀ field ∈ others, field.1.isPlain = true)
    (each : ∀ field ∈ others, ReadsBack limits levels field.2 ∧ StartsValue (printValue field.2))
    (enough : (joinParts (printFields others)).length + 1 < fuel)
    (within : depth + levels ≤ limits.nesting) :
    readFields limits fuel depth fields (joinParts (printFields others) ++ '\x7d' :: rest) =
      .ok (fields ++ others, rest) := by
  induction others generalizing fuel fields with
  | nil => exact absurd rfl given
  | cons field others inductionHypothesis =>
      rcases field with ⟨key, value⟩
      simp only [List.forall_mem_cons] at plain each
      rcases Nat.exists_eq_add_one_of_ne_zero (Nat.ne_zero_of_lt enough) with ⟨fuel, rfl⟩
      have put := putField_append keyed
      have written : printField (key, value) = printString key ++ ':' :: ' ' :: printValue value :=
        rfl
      have longer := congrArg List.length written
      rw [List.length_append, List.length_cons, List.length_cons] at longer
      cases others with
      | nil =>
          have last : joinParts (printFields [(key, value)]) = printField (key, value) := rfl
          rw [last] at enough ⊢
          rw [written, List.append_assoc, List.cons_append, List.cons_append, ← put]
          apply readFields_last plain.1 (each.1.2.append _)
          exact each.1.1 fuel depth _ (by omega) within (endsInteger_cons (by decide))
      | cons next more =>
          have joined : joinParts (printFields ((key, value) :: next :: more)) =
              printField (key, value) ++ ',' :: ' ' :: joinParts (printFields (next :: more)) := rfl
          have starts := startsValue_joinParts (startsValue_printField next) (printFields more)
          rw [joined, List.length_append, List.length_cons, List.length_cons] at enough
          rw [joined, written, List.append_assoc, List.append_assoc, List.cons_append,
            List.cons_append, List.append_cons fields, ← put]
          rw [List.append_cons, ← put] at keyed
          apply readFields_more plain.1 (each.1.2.append _) _ (starts.append ('\x7d' :: rest))
          · exact inductionHypothesis (List.cons_ne_nil next more) keyed plain.2 each.2 (by omega)
          · exact each.1.1 fuel depth _ (by omega) within (endsInteger_cons (by decide))

end

theorem readValue_list {text : List Char} {items : List Value} (below : depth < limits.nesting)
    (starts : StartsValue text)
    (read : readItems limits fuel (depth + 1) text = .ok (items, rest)) :
    readValue limits (fuel + 1) depth ('[' :: text) = .ok (.list items, rest) := by
  have stays := skipSpace_of_starts starts
  rcases starts with ⟨first, others, rfl, _, noEnd, _⟩
  rw [readValue]
  simp [stays, Nat.not_le.mpr below, noEnd, read]

theorem readValue_object {text : List Char} {fields : List (LooseText × Value)}
    (below : depth < limits.nesting) (starts : StartsValue text)
    (read : readFields limits fuel (depth + 1) [] text = .ok (fields, rest)) :
    readValue limits (fuel + 1) depth ('\x7b' :: text) = .ok (.object fields, rest) := by
  have stays := skipSpace_of_starts starts
  rcases starts with ⟨first, others, rfl, _, _, noEnd⟩
  rw [readValue]
  simp [stays, Nat.not_le.mpr below, noEnd, read]

end

/-- Every value within the limits is read back. -/
theorem Readable.readsBack (readable : Readable limits.digits levels value) :
    ReadsBack limits levels value := by
  induction readable with
  | null levels =>
      intro fuel depth rest enough _ _
      rcases Nat.exists_eq_add_one_of_ne_zero (Nat.ne_zero_of_lt enough) with ⟨fuel, rfl⟩
      rfl
  | boolean levels value =>
      intro fuel depth rest enough _ _
      rcases Nat.exists_eq_add_one_of_ne_zero (Nat.ne_zero_of_lt enough) with ⟨fuel, rfl⟩
      cases value <;> rfl
  | integer levels value within =>
      intro fuel depth rest enough _ ends
      rcases Nat.exists_eq_add_one_of_ne_zero (Nat.ne_zero_of_lt enough) with ⟨fuel, rfl⟩
      exact readValue_integer within ends
  | text levels value plain =>
      intro fuel depth rest enough _ _
      rcases Nat.exists_eq_add_one_of_ne_zero (Nat.ne_zero_of_lt enough) with ⟨fuel, rfl⟩
      exact readValue_text plain
  | list levels items each inductionHypothesis =>
      intro fuel depth rest enough within _
      rcases Nat.exists_eq_add_one_of_ne_zero (Nat.ne_zero_of_lt enough) with ⟨fuel, rfl⟩
      cases items with
      | nil =>
          have below : ¬limits.nesting ≤ depth := by omega
          simp [printValue, printItems, joinParts, readValue, below, skipSpace, isSpace]
      | cons item others =>
          have written : printValue (.list (item :: others)) ++ rest =
              '[' :: (joinParts (printItems (item :: others)) ++ ']' :: rest) := by
            simp [printValue]
          have longer := congrArg List.length written
          simp only [List.length_append, List.length_cons] at longer
          have starts := startsValue_joinParts (each item List.mem_cons_self).startsValue
            (printItems others)
          have back (other : Value) (member : other ∈ item :: others) :=
            And.intro (inductionHypothesis other member) (each other member).startsValue
          rw [written]
          exact readValue_list (by omega) (starts.append (']' :: rest))
            (readItems_joinParts (List.cons_ne_nil item others) back (by omega) (by omega))
  | object levels fields keyed plain each inductionHypothesis =>
      intro fuel depth rest enough within _
      rcases Nat.exists_eq_add_one_of_ne_zero (Nat.ne_zero_of_lt enough) with ⟨fuel, rfl⟩
      cases fields with
      | nil =>
          have below : ¬limits.nesting ≤ depth := by omega
          simp [printValue, printFields, joinParts, readValue, below, skipSpace, isSpace]
      | cons field others =>
          have written : printValue (.object (field :: others)) ++ rest =
              '\x7b' :: (joinParts (printFields (field :: others)) ++ '\x7d' :: rest) := by
            simp [printValue]
          have longer := congrArg List.length written
          simp only [List.length_append, List.length_cons] at longer
          have starts := startsValue_joinParts (startsValue_printField field) (printFields others)
          have back (other : LooseText × Value) (member : other ∈ field :: others) :=
            And.intro (inductionHypothesis other member) (each other member).startsValue
          rw [written]
          exact readValue_object (by omega) (starts.append ('\x7d' :: rest))
            (readFields_joinParts (List.cons_ne_nil field others) keyed plain back (by omega)
              (by omega))

/-- The text of a printed value has neither a mark nor a blank in front, so a whole text is read as
the value at its start. -/
theorem readWholeText_printValue (starts : StartsValue (printValue value)) {read : Step Value}
    (found : readValue limits (2 * (printValue value).length + 2) 0 (printValue value) = read) :
    (∀ stop, read = .error stop → readWholeText limits (printValue value) = .error stop) ∧
      ∀ result, read = .ok (result, []) → readWholeText limits (printValue value) = .ok result := by
  have stays := skipSpace_of_starts starts
  have printable := arePlain_printValue value
  rcases starts with ⟨first, others, written, _⟩
  have noMark : first ≠ '\ufeff' := by
    rintro rfl
    rw [written, arePlain_cons] at printable
    exact absurd printable.1 (by decide)
  unfold readWholeText
  split
  · next same =>
      rw [written] at same
      exact absurd (List.head_eq_of_cons_eq same) noMark
  · rw [stays, found]
    constructor
    · rintro stop rfl
      rfl
    · rintro result rfl
      rfl

/-- A value is read from a whole text that is what is printed for it. -/
theorem Readable.readWithin_print (readable : Readable limits.digits levels value)
    (shallow : levels ≤ limits.nesting) : readWithin limits (print value) = .ok value := by
  have read := readable.readsBack (2 * (printValue value).length + 2) 0 [] (by omega) (by omega)
    (by simp [EndsInteger])
  rw [List.append_nil] at read
  have whole := (readWholeText_printValue readable.startsValue read).2 value rfl
  simp only [readWithin, print, String.toList_ofList, whole]

end Json
end DirectiveLint
