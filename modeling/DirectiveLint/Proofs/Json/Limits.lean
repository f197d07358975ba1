import DirectiveLint.Proofs.Json.Values

/-!
# Reading within other limits

The limits of the reader decide whether a text is read, but not what it is read as.
A text that is read within some limits is read as the same value within others,
unless the reader stops at one of these.  What is printed for a value that is
nested too deep makes the reader stop.
-/

namespace DirectiveLint
namespace Json

/-- How a step within some limits and the same step within others are related: they come to the
same, unless the first one stops, or the second one stops at a limit. -/
inductive Agree {α : Type} : Except Stop α → Except Stop α → Prop
  | same (step : Except Stop α) : Agree step step
  | stopped (stop : Stop) (other : Except Stop α) : Agree (.error stop) other
  | beyond (step : Except Stop α) (limit : Limit) (remaining : Nat) :
      Agree step (.error ⟨.beyond limit, remaining⟩)

namespace Agree

variable {α β : Type}

/-- What comes after steps that agree agrees if it does for every result, and if nothing comes after
a stop. -/
theorem andThen {first second : Except Stop α} {whole other : Except Stop β}
    (here : Agree first second) (stops : ∀ stop, first = .error stop → whole = .error stop)
    (stopsToo : ∀ stop, second = .error stop → other = .error stop)
    (later : ∀ result, first = .ok result → second = .ok result → Agree whole other) :
    Agree whole other := by
  cases here with
  | stopped stop =>
      rw [stops stop rfl]
      exact .stopped stop other
  | beyond _ limit remaining =>
      rw [stopsToo _ rfl]
      exact .beyond whole limit remaining
  | same =>
      cases first with
      | error stop =>
          rw [stops stop rfl]
          exact .stopped stop other
      | ok result => exact later result rfl rfl

/-- Steps that are refused beyond a limit agree if those that are not refused do. -/
theorem refused {condition other : Bool} {limit : Limit} {remaining : Nat}
    {first second : Except Stop α} (here : Agree first second) :
    Agree (if condition then .error ⟨.beyond limit, remaining⟩ else first)
      (if other then .error ⟨.beyond limit, remaining⟩ else second) := by
  cases condition with
  | true => exact .stopped _ _
  | false =>
      cases other with
      | true => exact .beyond _ _ _
      | false => exact here

end Agree

variable (limits other : Limits)

/-- The limit for digits only decides whether an integer is refused. -/
theorem readUnsigned_cases (negative : Bool) (text : List Char) :
    (∃ read, ∀ limit, readUnsigned limit negative text = read) ∨
      ∃ length value rest, ∀ limit, readUnsigned limit negative text =
        if limit < length then some (.error (.beyond .digits), rest)
        else some (.ok value, rest) := by
  simp only [readUnsigned]
  cases readWhole text with
  | none => exact Or.inl ⟨none, fun _ => rfl⟩
  | some read =>
      rcases read with ⟨whole, rest⟩
      dsimp only
      generalize readFraction rest = fraction
      generalize readExponent ((fraction.map (·.2)).getD rest) = exponent
      cases fraction with
      | some fraction => exact Or.inl ⟨_, fun _ => rfl⟩
      | none =>
          cases exponent with
          | some exponent => exact Or.inl ⟨_, fun _ => rfl⟩
          | none => exact Or.inr ⟨whole.length, _, _, fun _ => rfl⟩

theorem agree_readNumber (text : List Char) :
    Agree (readNumber limits.digits text) (readNumber other.digits text) := by
  have unsigned : ∀ negative rest,
      Agree (numberStep text.length (readUnsigned limits.digits negative rest))
        (numberStep text.length (readUnsigned other.digits negative rest)) := by
    intro negative rest
    rcases readUnsigned_cases negative rest with ⟨read, same⟩ | ⟨length, value, rest, bounded⟩
    · rw [same, same]
      exact .same _
    · rw [bounded, bounded]
      by_cases long : limits.digits < length
      · rw [if_pos long]
        exact .stopped _ _
      · by_cases longToo : other.digits < length
        · rw [if_pos longToo]
          exact .beyond _ _ _
        · rw [if_neg long, if_neg longToo]
          exact .same _
  unfold readNumber
  split
  · exact unsigned true _
  · exact unsigned false text

/-- What is read does not depend on the limits, as long as none is in the way. -/
theorem agree_read (fuel : Nat) :
    (∀ depth text, Agree (readValue limits fuel depth text) (readValue other fuel depth text)) ∧
      (∀ depth text, Agree (readItems limits fuel depth text) (readItems other fuel depth text)) ∧
      ∀ depth fields text,
        Agree (readFields limits fuel depth fields text)
          (readFields other fuel depth fields text) := by
  induction fuel with
  | zero => exact ⟨fun _ _ => .same _, fun _ _ => .same _, fun _ _ _ => .same _⟩
  | succ fuel inductionHypothesis =>
      rcases inductionHypothesis with ⟨value, items, fields⟩
      refine ⟨fun depth text => ?_, fun depth text => ?_, fun depth before text => ?_⟩
      · unfold readValue
        apply Agree.refused
        split
        · exact .same _
        · split
          · exact .same _
          · refine (items (depth + 1) _).andThen (fun _ stop => by rw [stop])
              (fun _ stop => by rw [stop]) fun read here there => ?_
            rw [here, there]
            exact .same _
        · split
          · exact .same _
          · refine (fields (depth + 1) [] _).andThen (fun _ stop => by rw [stop])
              (fun _ stop => by rw [stop]) fun read here there => ?_
            rw [here, there]
            exact .same _
        · split
          · exact .same _
          · exact agree_readNumber limits other text
      · unfold readItems
        refine (value depth text).andThen (fun _ stop => by rw [stop])
          (fun _ stop => by rw [stop]) fun read here there => ?_
        rw [here, there]
        dsimp only
        split
        · exact .same _
        · refine (items depth _).andThen (fun _ stop => by rw [stop])
            (fun _ stop => by rw [stop]) fun read here there => ?_
          rw [here, there]
          exact .same _
        · exact .same _
      · unfold readFields
        split
        · split
          · exact .same _
          · split
            · refine (value depth _).andThen (fun _ stop => by rw [stop])
                (fun _ stop => by rw [stop]) fun read here there => ?_
              rw [here, there]
              dsimp only
              split
              · exact .same _
              · exact fields depth _ _
              · exact .same _
            · exact .same _
        · exact .same _

/-- A text that is read within some limits is read as the same value within others, or goes beyond
one of them. -/
theorem readWithin_eq_or_beyond {text : String} {value : Value}
    (read : readWithin limits text = .ok value) :
    readWithin other text = .ok value ∨
      ∃ fault limit, readWithin other text = .error fault ∧ fault.cause = .beyond limit := by
  have agree : Agree (readWholeText limits text.toList) (readWholeText other text.toList) := by
    unfold readWholeText
    split
    · exact .same _
    · refine ((agree_read limits other _).1 0 _).andThen (fun _ stop => by rw [stop])
        (fun _ stop => by rw [stop]) fun read here there => ?_
      rw [here, there]
      exact .same _
  unfold readWithin at read ⊢
  dsimp only at read ⊢
  generalize readWholeText limits text.toList = first at agree read
  generalize readWholeText other text.toList = second at agree ⊢
  cases agree with
  | same => exact Or.inl read
  | stopped stop => cases read
  | beyond _ limit remaining => exact Or.inr ⟨_, limit, rfl, rfl⟩

/-! ## Values that are nested too deep -/

section

variable {limits : Limits} {fuel depth : Nat} {text : List Char} {stop : Stop}

theorem readValue_list_stop (below : depth < limits.nesting) (starts : StartsValue text)
    (stopped : readItems limits fuel (depth + 1) text = .error stop) :
    readValue limits (fuel + 1) depth ('[' :: text) = .error stop := by
  have stays := skipSpace_of_starts starts
  rcases starts with ⟨first, others, rfl, _, noEnd, _⟩
  rw [readValue]
  simp [stays, Nat.not_le.mpr below, noEnd, stopped]

theorem readValue_object_stop (below : depth < limits.nesting) (starts : StartsValue text)
    (stopped : readFields limits fuel (depth + 1) [] text = .error stop) :
    readValue limits (fuel + 1) depth ('\x7b' :: text) = .error stop := by
  have stays := skipSpace_of_starts starts
  rcases starts with ⟨first, others, rfl, _, _, noEnd⟩
  rw [readValue]
  simp [stays, Nat.not_le.mpr below, noEnd, stopped]

theorem readItems_stop (stopped : readValue limits fuel depth text = .error stop) :
    readItems limits (fuel + 1) depth text = .error stop := by
  rw [readItems, stopped]

theorem readItems_more_stop {next : List Char} {item : Value}
    (read : readValue limits fuel depth text = .ok (item, ',' :: ' ' :: next))
    (starts : StartsValue next) (stopped : readItems limits fuel depth next = .error stop) :
    readItems limits (fuel + 1) depth text = .error stop := by
  have blank : skipSpace (' ' :: next) = next := skipSpace_of_starts starts
  have comma : skipSpace (',' :: ' ' :: next) = ',' :: ' ' :: next := rfl
  simp only [readItems, read, comma, blank, stopped]

theorem readFields_stop {key : LooseText} {fields : List (LooseText × Value)}
    (plain : key.isPlain = true) (starts : StartsValue text)
    (stopped : readValue limits fuel depth text = .error stop) :
    readFields limits (fuel + 1) depth fields (printString key ++ ':' :: ' ' :: text) =
      .error stop := by
  have blank : skipSpace (' ' :: text) = text := skipSpace_of_starts starts
  have colon : skipSpace (':' :: ' ' :: text) = ':' :: ' ' :: text := rfl
  rw [printString, List.cons_append, List.cons_append, List.append_assoc, List.singleton_append]
  simp only [readFields, readString_printString plain, colon, blank, stopped]

end

variable {limits : Limits} {levels : Nat} {value : Value}

/-- Whether the reader stops at what is printed for a value, where some levels are left. -/
structure IsTooDeep (limits : Limits) (levels : Nat) (value : Value) : Prop where
  starts : StartsValue (printValue value)
  stops : ∀ fuel depth rest, (printValue value).length < fuel → depth + levels = limits.nesting →
    EndsInteger rest → ∃ remaining,
      readValue limits fuel depth (printValue value ++ rest) = .error ⟨.beyond .nesting, remaining⟩

namespace IsTooDeep

/-- No list is read where no level is left. -/
theorem list (items : List Value) : IsTooDeep limits 0 (.list items) where
  starts := ⟨'[', _, rfl, by decide, by decide, by decide⟩
  stops := by
    intro fuel depth rest enough within _
    rcases Nat.exists_eq_add_one_of_ne_zero (Nat.ne_zero_of_lt enough) with ⟨fuel, rfl⟩
    have full : limits.nesting ≤ depth := by omega
    rw [printValue, List.cons_append, readValue.eq_def]
    exact ⟨_, if_pos (by simp [full])⟩

/-- A list of one item is nested too deep if this item is. -/
theorem single {item : Value} (deep : IsTooDeep limits levels item) :
    IsTooDeep limits (levels + 1) (.list [item]) where
  starts := ⟨'[', _, rfl, by decide, by decide, by decide⟩
  stops := by
    intro fuel depth rest enough within _
    have written : printValue (.list [item]) = '[' :: (printValue item ++ [']']) := rfl
    rw [written, List.length_cons, List.length_append, List.length_singleton] at enough
    rcases Nat.exists_eq_add_one_of_ne_zero (Nat.ne_zero_of_lt enough) with ⟨fuel, rfl⟩
    rcases Nat.exists_eq_add_one_of_ne_zero (show fuel ≠ 0 by omega) with ⟨fuel, rfl⟩
    rcases deep.stops fuel (depth + 1) (']' :: rest) (by omega) (by omega)
      (endsInteger_cons (by decide)) with ⟨remaining, stopped⟩
    rw [written, List.cons_append, List.append_assoc]
    exact ⟨remaining,
      readValue_list_stop (by omega) (deep.starts.append _) (readItems_stop stopped)⟩

/-- A list of two items is nested too deep if its second item is. -/
theorem second {item next : Value} (read : ReadsBack limits levels item)
    (starts : StartsValue (printValue item)) (deep : IsTooDeep limits levels next) :
    IsTooDeep limits (levels + 1) (.list [item, next]) where
  starts := ⟨'[', _, rfl, by decide, by decide, by decide⟩
  stops := by
    intro fuel depth rest enough within _
    have written : printValue (.list [item, next]) =
        '[' :: (printValue item ++ ',' :: ' ' :: printValue next ++ [']']) := rfl
    simp only [written, List.length_cons, List.length_append] at enough
    rcases Nat.exists_eq_add_one_of_ne_zero (Nat.ne_zero_of_lt enough) with ⟨fuel, rfl⟩
    rcases Nat.exists_eq_add_one_of_ne_zero (show fuel ≠ 0 by omega) with ⟨fuel, rfl⟩
    rcases Nat.exists_eq_add_one_of_ne_zero (show fuel ≠ 0 by omega) with ⟨fuel, rfl⟩
    rcases deep.stops fuel (depth + 1) (']' :: rest) (by omega) (by omega)
      (endsInteger_cons (by decide)) with ⟨remaining, stopped⟩
    have here := read (fuel + 1) (depth + 1) (',' :: ' ' :: (printValue next ++ ']' :: rest))
      (by omega) (by omega) (endsInteger_cons (by decide))
    rw [written, List.cons_append, List.append_assoc, List.append_assoc]
    exact ⟨remaining, readValue_list_stop (by omega) (starts.append _)
      (readItems_more_stop here (deep.starts.append _) (readItems_stop stopped))⟩

/-- An object with one field is nested too deep if the value of this field is. -/
theorem field {key : LooseText} (plain : key.isPlain = true)
    (deep : IsTooDeep limits levels value) :
    IsTooDeep limits (levels + 1) (.object [(key, value)]) where
  starts := ⟨'\x7b', _, rfl, by decide, by decide, by decide⟩
  stops := by
    intro fuel depth rest enough within _
    have written : printValue (.object [(key, value)]) =
        '\x7b' :: (printString key ++ ':' :: ' ' :: printValue value ++ ['\x7d']) := rfl
    simp only [written, List.length_cons, List.length_append] at enough
    rcases Nat.exists_eq_add_one_of_ne_zero (Nat.ne_zero_of_lt enough) with ⟨fuel, rfl⟩
    rcases Nat.exists_eq_add_one_of_ne_zero (show fuel ≠ 0 by omega) with ⟨fuel, rfl⟩
    rcases deep.stops fuel (depth + 1) ('\x7d' :: rest) (by omega) (by omega)
      (endsInteger_cons (by decide)) with ⟨remaining, stopped⟩
    have startsKey : StartsValue (printString key) :=
      ⟨'"', _, rfl, by decide, by decide, by decide⟩
    rw [written, List.cons_append, List.append_assoc, List.append_assoc]
    exact ⟨remaining, readValue_object_stop (by omega) (startsKey.append _)
      (readFields_stop plain (deep.starts.append _) stopped)⟩

/-- A value that is nested too deep is not read from what is printed for it. -/
theorem readWithin_print (deep : IsTooDeep limits limits.nesting value) :
    ∃ fault, readWithin limits (print value) = .error fault ∧ fault.cause = .beyond .nesting := by
  rcases deep.stops (2 * (printValue value).length + 2) 0 [] (by omega) (by omega)
    (by simp [EndsInteger]) with ⟨remaining, stopped⟩
  rw [List.append_nil] at stopped
  have whole := (readWholeText_printValue deep.starts stopped).1 _ rfl
  simp only [readWithin, print, String.toList_ofList, whole]
  exact ⟨_, rfl, rfl⟩

end IsTooDeep

end Json
end DirectiveLint
