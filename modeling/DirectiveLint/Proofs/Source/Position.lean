import DirectiveLint.Proofs.Source.Lines

/-!
# Positions name offsets

A line index turns an offset into a line and a column.  The line is found among
the starts of lines; as these increase, halving them finds it too.  From line and
column the offset comes back through the start of the line, so no two offsets of a
text share a position, and positions are in the order of their offsets: by line,
and by column on one line.

Offsets beyond the text or before it have positions as well.  Nothing is claimed
about these.
-/

namespace DirectiveLint

/-- Whether a position comes before another one: on an earlier line, or on the same line in an
earlier column. -/
def Location.IsBefore (first second : Location) : Prop :=
  first.line < second.line ∨ first.line = second.line ∧ first.column < second.column

namespace LineIndex

/-- The first place from `low` up to `high` whose start is beyond an offset, found by halving. -/
def bisect (starts : List Nat) (offset low high : Nat) : Nat :=
  if low < high then
    if offset < starts.getD ((low + high) / 2) 0 then
      bisect starts offset low ((low + high) / 2)
    else bisect starts offset ((low + high) / 2 + 1) high
  else low
termination_by high - low

/-- The offset of a position, counted from the start of its line. -/
def offsetOf? (index : LineIndex) (location : Location) : Option Int :=
  (index.starts[location.line.toNat - 1]?).map fun start : Nat =>
    (start : Int) + (location.column - 1)

theorem pairwise_startsAfter (offset : Nat) (text : List Char) :
    (startsAfter offset text).Pairwise (· < ·) := by
  induction text generalizing offset with
  | nil => exact List.Pairwise.nil
  | cons character rest inductionHypothesis =>
      by_cases feed : character = '\n'
      · rw [startsAfter, if_pos feed]
        exact List.pairwise_cons.mpr ⟨fun _ => lt_of_mem_startsAfter, inductionHypothesis _⟩
      · rw [startsAfter, if_neg feed]
        exact inductionHypothesis _

theorem pairwise_starts (file : String) (text : List Char) :
    (ofText file text).starts.Pairwise (· < ·) :=
  List.pairwise_cons.mpr ⟨fun _ => lt_of_mem_startsAfter, pairwise_startsAfter 0 text⟩

/-- Of increasing starts, those up to an offset are the ones in front of the first that is beyond
it. -/
theorem lt_length_takeWhile_reaches_iff {starts : List Nat} (increasing : starts.Pairwise (· < ·))
    (offset : Nat) {place : Nat} (within : place < starts.length) :
    place < (starts.takeWhile (reaches offset)).length ↔ starts[place] ≤ offset := by
  induction starts generalizing place with
  | nil => cases within
  | cons first rest inductionHypothesis =>
      rcases List.pairwise_cons.mp increasing with ⟨smaller, later⟩
      by_cases early : first ≤ offset
      · have reached : reaches offset first = true := decide_eq_true early
        rw [List.takeWhile_cons_of_pos reached, List.length_cons]
        cases place with
        | zero => simpa using early
        | succ place =>
            rw [Nat.succ_lt_succ_iff, List.getElem_cons_succ]
            exact inductionHypothesis later (Nat.lt_of_succ_lt_succ within)
      · have beyond : ¬(first :: rest)[place] ≤ offset := by
          cases place with
          | zero => exact early
          | succ place =>
              have above := smaller _ (List.getElem_mem (Nat.lt_of_succ_lt_succ within))
              rw [List.getElem_cons_succ]
              omega
        rw [List.takeWhile_cons_of_neg (by simpa [reaches] using early)]
        simp [beyond]

/-- Halving keeps the number of the starts up to an offset between its bounds. -/
theorem bisect_eq_length_takeWhile {starts : List Nat} (increasing : starts.Pairwise (· < ·))
    (offset low high : Nat) (below : low ≤ (starts.takeWhile (reaches offset)).length)
    (above : (starts.takeWhile (reaches offset)).length ≤ high) (within : high ≤ starts.length) :
    bisect starts offset low high = (starts.takeWhile (reaches offset)).length := by
  fun_induction bisect starts offset low high with
  | case1 low high apart beyond inductionHypothesis =>
      have inside : (low + high) / 2 < starts.length := by omega
      rw [List.getD_eq_getElem?_getD, List.getElem?_eq_getElem inside, Option.getD_some] at beyond
      have counted := lt_length_takeWhile_reaches_iff increasing offset inside
      exact inductionHypothesis below (by omega) (by omega)
  | case2 low high apart reached inductionHypothesis =>
      have inside : (low + high) / 2 < starts.length := by omega
      rw [List.getD_eq_getElem?_getD, List.getElem?_eq_getElem inside, Option.getD_some] at reached
      have counted := lt_length_takeWhile_reaches_iff increasing offset inside
      exact inductionHypothesis (by omega) above within
  | case3 low high together => omega

/-- Halving the starts of the lines finds the line of an offset. -/
theorem bisect_eq_line (file : String) (text : List Char) (offset : Nat) :
    (bisect (ofText file text).starts offset 0 (ofText file text).starts.length : Int) =
      ((ofText file text).locationAt offset).line := by
  rw [bisect_eq_length_takeWhile (pairwise_starts file text) offset _ _ (Nat.zero_le _)
    (List.takeWhile_prefix _).length_le (Nat.le_refl _), locationAt, startsUpTo_eq_takeWhile]

/-- The start of the line of an offset is where its column is counted from. -/
theorem getElem?_starts (file : String) (text : List Char) (offset : Nat) :
    (ofText file text).starts[((ofText file text).locationAt offset).line.toNat - 1]? =
      some ((ofText file text).baseOf offset) := by
  have upTo := startsUpTo_ofText file text offset
  have isPrefix : (ofText file text).startsUpTo offset <+: (ofText file text).starts := by
    rw [startsUpTo_eq_takeWhile]
    exact List.takeWhile_prefix _
  have last : ((ofText file text).startsUpTo offset)[
      ((ofText file text).startsUpTo offset).length - 1]? =
        some ((ofText file text).baseOf offset) := by
    rw [← List.getLast?_eq_getElem?, baseOf, upTo, List.getLast?_cons]
    rfl
  rcases List.getElem?_eq_some_iff.mp last with ⟨inside, start⟩
  exact start ▸ (List.prefix_iff_getElem?.mp isPrefix) _ inside

theorem offsetOf?_locationAt (file : String) (text : List Char) (offset : Nat) :
    (ofText file text).offsetOf? ((ofText file text).locationAt offset) = some (offset : Int) := by
  have column : ((ofText file text).locationAt offset).column =
      offset - (ofText file text).baseOf offset + 1 := rfl
  rw [offsetOf?, getElem?_starts, Option.map_some, column]
  congr 1
  omega

/-- A later offset has a later position. -/
theorem locationAt_isBefore (file : String) (text : List Char) {offset other : Nat}
    (earlier : offset < other) :
    ((ofText file text).locationAt offset).IsBefore ((ofText file text).locationAt other) := by
  have lines : (text.take offset).count '\n' ≤ (text.take other).count '\n' :=
    (List.take_sublist_take_left (Nat.le_of_lt earlier)).count_le _
  have line := line_locationAt file text offset
  have otherLine := line_locationAt file text other
  by_cases same : ((ofText file text).locationAt offset).line =
      ((ofText file text).locationAt other).line
  · -- On one line both columns are counted from the same start.
    have base := getElem?_starts file text offset
    rw [same, getElem?_starts, Option.some.injEq] at base
    refine Or.inr ⟨same, ?_⟩
    simp only [locationAt, base]
    omega
  · exact Or.inl (by omega)

/-- The line of an offset counts the line feeds before it, and halving the starts of the lines finds
it; the column counts the characters since the last of these line feeds.  Line and column name the
offset, and they increase with it. -/
theorem locationAt_position (file : String) (text : List Char) {offset : Nat}
    (within : offset ≤ text.length) :
    let index := ofText file text
    let location := index.locationAt offset
    location.file = file ∧
      location.line = 1 + (text.take offset).count '\n' ∧
      location.line = bisect index.starts offset 0 index.starts.length ∧
      location.column = 1 + ((text.take offset).rtakeWhile (· ≠ '\n')).length ∧
      index.offsetOf? location = some (offset : Int) ∧
      (∀ other ≤ text.length, (index.locationAt other).line = location.line →
        (index.locationAt other).column = location.column → other = offset) ∧
      ∀ other ≤ text.length, offset < other → location.IsBefore (index.locationAt other) := by
  intro index location
  refine ⟨rfl, ?_, (bisect_eq_line file text offset).symm, ?_,
    offsetOf?_locationAt file text offset, ?_, ?_⟩
  · rw [Int.add_comm]
    exact line_locationAt file text offset
  · rw [Int.add_comm]
    exact column_locationAt file text within
  · intro other _ sameLine sameColumn
    have named := offsetOf?_locationAt file text other
    rw [offsetOf?, sameLine, sameColumn] at named
    have back := named.symm.trans (offsetOf?_locationAt file text offset)
    exact Int.ofNat.inj (Option.some.inj back)
  · intro other _ earlier
    exact locationAt_isBefore file text earlier

/-- The end of a text with an empty line and a line feed at its end. -/
theorem locationAt_position_emptyLine :
    let index := ofText "a.ts" "ab\n\nc\n".toList
    6 ≤ "ab\n\nc\n".toList.length ∧ (index.locationAt 6).line = 4 ∧
      (index.locationAt 6).column = 1 ∧ index.offsetOf? (index.locationAt 6) = some 6 := by
  intro index
  have within : 6 ≤ "ab\n\nc\n".toList.length := by decide
  rcases locationAt_position "a.ts" "ab\n\nc\n".toList within with
    ⟨_, line, _, column, back, _, _⟩
  exact ⟨within, line.trans (by decide), column.trans (by decide), back⟩

end LineIndex
end DirectiveLint
