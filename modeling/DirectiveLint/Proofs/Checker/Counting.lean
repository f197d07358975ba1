import DirectiveLint.Proofs.Checker.Consistency
import DirectiveLint.Proofs.Checker.Merging

/-!
# Merging results that count

Results merge by five rules: lists are put one after the other, groups and
statistics are added by their keys, and names are added where they are new.  Each
of the rules is associative, and nothing is changed by adding nothing.

Statistics are added as values, and not all values have a sum.  Integers do, so
results whose statistics are integers always merge.  Times are left out: sums of
floating-point numbers depend on the order in which they are made.
-/

namespace DirectiveLint

/-- Whether a value is a time, or stands for one that is left out. -/
def Value.IsTime (value : Value) : Prop :=
  value = .integer 0 ∨ ∃ number, value = .real number

theorem Value.exists_add_of_isTime {first second : Value} (isTime : first.IsTime)
    (otherIsTime : second.IsTime) : ∃ sum, first.add second = .ok sum ∧ sum.IsTime := by
  rcases isTime with rfl | ⟨left, rfl⟩
  · rcases otherIsTime with rfl | ⟨right, rfl⟩
    · exact ⟨.integer 0, rfl, Or.inl rfl⟩
    · exact ⟨_, rfl, Or.inr ⟨_, rfl⟩⟩
  · rcases otherIsTime with rfl | ⟨right, rfl⟩
    · exact ⟨_, rfl, Or.inr ⟨_, rfl⟩⟩
    · exact ⟨_, rfl, Or.inr ⟨_, rfl⟩⟩

namespace Results

/-! ## Statistics that are integers -/

/-- Whether the statistics under some keys are times, and all others are integers. -/
def IntegersBut (timed : LooseText → Bool) (stats : List (LooseText × Value)) : Prop :=
  ∀ stat ∈ stats, if timed stat.1 then stat.2.IsTime else ∃ value, stat.2 = .integer value

/-- Statistics without the times. -/
def withoutTimes (timed : LooseText → Bool) (stats : List (LooseText × Value)) :
    List (LooseText × Value) :=
  stats.filter fun stat => !timed stat.1

/-- Counts as statistics. -/
def ofCounts (counts : List (LooseText × Int)) : List (LooseText × Value) :=
  counts.map fun count => (count.1, .integer count.2)

variable {timed : LooseText → Bool} {stats others : List (LooseText × Value)} {key : LooseText}

theorem exists_withoutTimes_eq (integers : IntegersBut timed stats) :
    ∃ counts, withoutTimes timed stats = ofCounts counts := by
  induction stats with
  | nil => exact ⟨[], rfl⟩
  | cons stat rest inductionHypothesis =>
      rcases inductionHypothesis fun later member =>
        integers later (List.mem_cons_of_mem stat member) with ⟨counts, same⟩
      have here := integers stat List.mem_cons_self
      unfold withoutTimes at same ⊢
      cases time : timed stat.1 with
      | true => exact ⟨counts, by rw [List.filter_cons_of_neg (by simp [time]), same]⟩
      | false =>
          rw [time] at here
          rcases here with ⟨value, isInteger⟩
          refine ⟨(stat.1, value) :: counts, ?_⟩
          rw [List.filter_cons_of_pos (by simp [time]), same, ofCounts, ofCounts, List.map_cons,
            ← isInteger]

theorem keyed_of_withoutTimes {counts : List (LooseText × Int)} (keyed : Table.Keyed stats)
    (counted : withoutTimes timed stats = ofCounts counts) : Table.Keyed counts := by
  have kept : Table.Keyed (withoutTimes timed stats) :=
    keyed.sublist (List.filter_sublist.map Prod.fst)
  rw [counted, Table.Keyed, ofCounts, List.map_map] at kept
  exact kept

theorem IntegersBut.putField (integers : IntegersBut timed stats) {value : Value}
    (new : if timed key then value.IsTime else ∃ number, value = .integer number) :
    IntegersBut timed (Value.putField key value stats) := by
  intro stat member
  rw [Value.putField_eq_add] at member
  rcases Table.mem_replace member with old | rfl
  · exact integers stat old
  · exact new

theorem withoutTimes_putField_of_time (time : timed key = true) (value : Value) :
    withoutTimes timed (Value.putField key value stats) = withoutTimes timed stats := by
  rw [Value.putField_eq_add]
  exact Table.filter_add_of_neg (fun key => !timed key) (by rw [time, Bool.not_true]) stats

theorem withoutTimes_putField {counts : List (LooseText × Int)} (untimed : timed key = false)
    (counted : withoutTimes timed stats = ofCounts counts) (value : Int) :
    withoutTimes timed (Value.putField key (.integer value) stats) =
      ofCounts (Table.add (fun _ new => new) key value counts) := by
  rw [Value.putField_eq_add, ofCounts, Table.add_map (fun _ new => new) _ fun _ _ => rfl,
    ← ofCounts, ← counted]
  exact Table.filter_add_of_pos (fun key => !timed key) (by rw [untimed, Bool.not_false]) stats

/-- A time is added as a time. -/
theorem exists_addStats_of_isTime (integers : IntegersBut timed stats) (time : timed key = true)
    {value : Value} (isTime : value.IsTime) (rest : List (LooseText × Value)) :
    ∃ sum, addStats stats ((key, value) :: rest) = addStats (Value.putField key sum stats) rest ∧
      sum.IsTime := by
  have present : ∀ old, stats.lookup key = some old →
      ∃ sum, old.add value = .ok sum ∧ sum.IsTime := by
    intro old found
    have isOld := integers (key, old) (Table.mem_of_lookup found)
    rw [if_pos time] at isOld
    exact Value.exists_add_of_isTime isOld isTime
  rcases addStats_cons stats key value rest with
    ⟨new, step, ⟨_, rfl⟩ | ⟨old, found, added⟩⟩ | ⟨fault, _, old, found, failed⟩
  · exact ⟨new, step, isTime⟩
  · rcases present old found with ⟨sum, same, stillTime⟩
    rw [added] at same
    cases same
    exact ⟨new, step, stillTime⟩
  · rcases present old found with ⟨sum, same, _⟩
    rw [failed] at same
    cases same

theorem lookup_of_withoutTimes {counts : List (LooseText × Int)} (untimed : timed key = false)
    (counted : withoutTimes timed stats = ofCounts counts) :
    stats.lookup key = (counts.lookup key).map Value.integer := by
  have filtered := Table.lookup_filter (fun key => !timed key) key stats
  rw [untimed, Bool.not_false, if_pos rfl] at filtered
  rw [← filtered]
  exact (congrArg (List.lookup key) counted).trans
    (Table.lookup_map (fun _ => Value.integer) key counts)

/-- An integer is added as a count. -/
theorem addStats_of_integer {counts : List (LooseText × Int)} (untimed : timed key = false)
    (counted : withoutTimes timed stats = ofCounts counts) (value : Int)
    (rest : List (LooseText × Value)) :
    ∃ sum : Int, addStats stats ((key, .integer value) :: rest) =
        addStats (Value.putField key (.integer sum) stats) rest ∧
      withoutTimes timed (Value.putField key (.integer sum) stats) =
        ofCounts (Table.add (· + ·) key value counts) := by
  have found := lookup_of_withoutTimes untimed counted
  have replaced := Table.add_eq_replace (· + ·) key value counts
  rw [addStats, Value.fieldOf?_eq_lookup, found]
  cases old : counts.lookup key with
  | none =>
      rw [old] at found replaced
      refine ⟨value, ?_, (withoutTimes_putField untimed counted value).trans
        (congrArg ofCounts replaced.symm)⟩
      rw [Value.putField_eq_add, Table.add_of_lookup_eq_none found]
      rfl
  | some present =>
      rw [old] at replaced
      exact ⟨present + value, rfl, (withoutTimes_putField untimed counted _).trans
        (congrArg ofCounts replaced.symm)⟩

/-- Adding statistics adds the counts among them, and there is always a sum. -/
theorem addStats_of_integersBut (integers : IntegersBut timed stats)
    (otherIntegers : IntegersBut timed others) {counts otherCounts : List (LooseText × Int)}
    (counted : withoutTimes timed stats = ofCounts counts)
    (otherCounted : withoutTimes timed others = ofCounts otherCounts) :
    (addStats stats others).2 = none ∧ IntegersBut timed (addStats stats others).1 ∧
      withoutTimes timed (addStats stats others).1 =
        ofCounts (Table.addAll (· + ·) counts otherCounts) := by
  induction others generalizing stats counts otherCounts with
  | nil =>
      cases otherCounts with
      | nil => exact ⟨rfl, integers, counted⟩
      | cons count rest => cases otherCounted
  | cons stat rest inductionHypothesis =>
      have later : IntegersBut timed rest := fun other member =>
        otherIntegers other (List.mem_cons_of_mem stat member)
      have here := otherIntegers stat List.mem_cons_self
      unfold withoutTimes at otherCounted
      cases time : timed stat.1 with
      | true =>
          rw [if_pos time] at here
          rw [List.filter_cons_of_neg (by simp [time])] at otherCounted
          rcases exists_addStats_of_isTime integers time here rest with ⟨sum, step, isTime⟩
          rw [step]
          exact inductionHypothesis (integers.putField (by rw [if_pos time]; exact isTime)) later
            ((withoutTimes_putField_of_time time sum).trans counted) otherCounted
      | false =>
          rw [List.filter_cons_of_pos (by simp [time])] at otherCounted
          cases otherCounts with
          | nil => cases otherCounted
          | cons count otherRest =>
              have parts := List.cons.inj otherCounted
              rcases stat with ⟨name, _⟩
              rcases count with ⟨_, number⟩
              cases parts.1
              rcases addStats_of_integer time counted number rest with ⟨sum, step, summed⟩
              rw [step, Table.addAll_cons]
              exact inductionHypothesis
                (integers.putField (by rw [if_neg (by simp [time])]; exact ⟨sum, rfl⟩)) later
                summed parts.2

/-! ## Names -/

theorem addNames_append (names others more : List String) :
    addNames names (others ++ more) = addNames (addNames names others) more :=
  List.foldl_append

/-- Names added to names that are added may as well be added afterwards. -/
theorem addNames_assoc (first second third : List String) :
    addNames (addNames first second) third = addNames first (addNames second third) := by
  induction third generalizing second with
  | nil => rfl
  | cons name rest inductionHypothesis =>
      have step : ∀ names, addNames names (name :: rest) = addNames (addNames names [name]) rest :=
        fun _ => rfl
      rw [step, step second, ← inductionHypothesis]
      congr 1
      by_cases listed : name ∈ second
      · have kept : addNames second [name] = second := if_pos (by simpa using listed)
        rw [kept]
        exact if_pos (by simpa using mem_addNames.mpr (Or.inr listed))
      · have new : addNames second [name] = second ++ [name] := if_neg (by simpa using listed)
        rw [new, addNames_append]

/-! ## Merging -/

/-- Whether results are equal up to times. -/
structure EqualBut (timed : LooseText → Bool) (results others : Results) : Prop where
  diagnostics : results.diagnostics = others.diagnostics
  byChecker : results.byChecker = others.byChecker
  stats : withoutTimes timed results.stats = withoutTimes timed others.stats
  checkers : results.checkers = others.checkers
  files : results.files = others.files

/-- Where there are no times, nothing else can differ. -/
theorem EqualBut.eq {results others : Results} (equal : EqualBut (fun _ => false) results others) :
    results = others := by
  have stats : results.stats = others.stats := by
    simpa only [withoutTimes, Bool.not_false, List.filter_true] using equal.stats
  cases results
  cases others
  cases equal.diagnostics
  cases equal.byChecker
  cases equal.checkers
  cases equal.files
  cases stats
  rfl

theorem fault_merge (results others : Results) :
    (results.merge others).2 = (addStats results.stats others.stats).2 := by
  unfold merge
  split
  · next sum => rw [sum]
  · next sum => rw [sum]

theorem files_merge {results others : Results} (whole : (results.merge others).2 = none) :
    (results.merge others).1.files = results.files ++ others.files := by
  unfold merge at whole ⊢
  split at whole
  · cases whole
  · rfl

/-- Adding no results changes nothing. -/
theorem merge_empty (results : Results) : results.merge empty = (results, none) := by
  unfold merge
  simp only [empty, addStats, addGroups, addNames, List.foldl_nil, List.append_nil]

variable {first second third : Results}

/-- Results with integers as statistics merge into such results. -/
theorem merge_of_integersBut (integers : IntegersBut timed first.stats)
    (otherIntegers : IntegersBut timed second.stats) :
    (first.merge second).2 = none ∧ IntegersBut timed (first.merge second).1.stats := by
  rcases exists_withoutTimes_eq integers with ⟨counts, counted⟩
  rcases exists_withoutTimes_eq otherIntegers with ⟨otherCounts, otherCounted⟩
  have added := addStats_of_integersBut integers otherIntegers counted otherCounted
  rw [fault_merge, stats_merge]
  exact ⟨added.1, added.2.1⟩

theorem merge_assoc (keyed : second.Keyed) (firstIntegers : IntegersBut timed first.stats)
    (secondIntegers : IntegersBut timed second.stats)
    (thirdIntegers : IntegersBut timed third.stats) :
    EqualBut timed ((first.merge second).1.merge third).1
      (first.merge (second.merge third).1).1 := by
  have left := merge_of_integersBut firstIntegers secondIntegers
  have right := merge_of_integersBut secondIntegers thirdIntegers
  have leftWhole := merge_of_integersBut left.2 thirdIntegers
  have rightWhole := merge_of_integersBut firstIntegers right.2
  constructor
  case diagnostics => simp only [diagnostics_merge, List.append_assoc]
  case byChecker =>
    simp only [byChecker_merge]
    exact Table.addAll_assoc first.byChecker keyed.groups third.byChecker
  case stats =>
    -- Without the times all three are tables of counts, and merging adds these.
    rcases exists_withoutTimes_eq firstIntegers with ⟨firstCounts, firstCounted⟩
    rcases exists_withoutTimes_eq secondIntegers with ⟨secondCounts, secondCounted⟩
    rcases exists_withoutTimes_eq thirdIntegers with ⟨thirdCounts, thirdCounted⟩
    have secondKeyed := keyed_of_withoutTimes keyed.stats secondCounted
    have leftSum := addStats_of_integersBut firstIntegers secondIntegers firstCounted secondCounted
    have rightSum := addStats_of_integersBut secondIntegers thirdIntegers secondCounted thirdCounted
    have wholeLeft := addStats_of_integersBut leftSum.2.1 thirdIntegers leftSum.2.2 thirdCounted
    have wholeRight := addStats_of_integersBut firstIntegers rightSum.2.1 firstCounted rightSum.2.2
    simp only [stats_merge]
    rw [wholeLeft.2.2, wholeRight.2.2, Table.addAll_assoc firstCounts secondKeyed thirdCounts]
  case checkers =>
    rw [checkers_merge leftWhole.1, checkers_merge left.1, checkers_merge rightWhole.1,
      checkers_merge right.1, addNames_assoc]
  case files =>
    rw [files_merge leftWhole.1, files_merge left.1, files_merge rightWhole.1,
      files_merge right.1, List.append_assoc]

end Results
end DirectiveLint
