import DirectiveLint.Source.LineIndex
import Mathlib.Data.List.DropRight
import Mathlib.Data.List.TakeWhile

/-!
# Lines are counted by line feeds

The line of an offset is found among the starts of lines.  It is one more than
the number of line feeds before the offset, so two offsets with no line feed
between them are on the same line.  The column is counted from the last of these
line feeds.
-/

namespace DirectiveLint
namespace LineIndex

/-- Whether a line start is not beyond an offset of the text. -/
def reaches (offset start : Nat) : Bool :=
  decide (start ≤ offset)

theorem startsUpTo_eq_takeWhile (index : LineIndex) (offset : Nat) :
    index.startsUpTo offset = index.starts.takeWhile (reaches offset) := by
  simp only [startsUpTo, Int.ofNat_le]
  rfl

/-- Every line after the first one starts after the offset at which the text begins. -/
theorem lt_of_mem_startsAfter {offset start : Nat} {text : List Char}
    (member : start ∈ startsAfter offset text) : offset < start := by
  induction text generalizing offset with
  | nil => simp [startsAfter] at member
  | cons character rest inductionHypothesis =>
      by_cases feed : character = '\n'
      · rw [startsAfter, if_pos feed] at member
        rcases List.mem_cons.mp member with rfl | later
        · exact Nat.lt_succ_self _
        · exact Nat.lt_of_succ_lt (inductionHypothesis later)
      · rw [startsAfter, if_neg feed] at member
        exact Nat.lt_of_succ_lt (inductionHypothesis member)

/-- The lines that start up to an offset are those of the text up to there. -/
theorem takeWhile_startsAfter (offset count : Nat) (text : List Char) :
    (startsAfter offset text).takeWhile (reaches (offset + count)) =
      startsAfter offset (text.take count) := by
  induction text generalizing offset count with
  | nil => simp [startsAfter]
  | cons character rest inductionHypothesis =>
      cases count with
      | zero =>
          cases starts : startsAfter offset (character :: rest) with
          | nil => rfl
          | cons first others =>
              have after : offset < first := lt_of_mem_startsAfter (by rw [starts]; simp)
              rw [List.takeWhile_cons_of_neg (by simpa [reaches] using after)]
              rfl
      | succ count =>
          have later := inductionHypothesis (offset + 1) count
          rw [show offset + 1 + count = offset + (count + 1) by omega] at later
          by_cases feed : character = '\n'
          · have early : reaches (offset + (count + 1)) (offset + 1) = true :=
              decide_eq_true (by omega)
            rw [List.take_succ_cons, startsAfter, startsAfter, if_pos feed, if_pos feed,
              List.takeWhile_cons_of_pos early, later]
          · rw [List.take_succ_cons, startsAfter, startsAfter, if_neg feed, if_neg feed, later]

theorem startsUpTo_ofText (file : String) (text : List Char) (offset : Nat) :
    (ofText file text).startsUpTo offset = 0 :: startsAfter 0 (text.take offset) := by
  have upTo := takeWhile_startsAfter 0 offset text
  rw [Nat.zero_add] at upTo
  have first : reaches offset 0 = true := decide_eq_true (Nat.zero_le _)
  rw [startsUpTo_eq_takeWhile, ofText, List.takeWhile_cons_of_pos first, upTo]

theorem length_startsAfter (offset : Nat) (text : List Char) :
    (startsAfter offset text).length = text.count '\n' := by
  induction text generalizing offset with
  | nil => rfl
  | cons character rest inductionHypothesis =>
      by_cases feed : character = '\n'
      · rw [startsAfter, if_pos feed, List.length_cons, inductionHypothesis, feed,
          List.count_cons_self]
      · rw [startsAfter, if_neg feed, inductionHypothesis, List.count_cons_of_ne feed]

theorem startsAfter_concat (offset : Nat) (text : List Char) (character : Char) :
    startsAfter offset (text ++ [character]) =
      startsAfter offset text ++ if character = '\n' then [offset + text.length + 1] else [] := by
  induction text generalizing offset with
  | nil => simp [startsAfter]
  | cons first rest inductionHypothesis =>
      have length : offset + 1 + rest.length = offset + (first :: rest).length := by
        rw [List.length_cons]
        omega
      by_cases feed : first = '\n'
      · rw [List.cons_append, startsAfter, startsAfter, if_pos feed, if_pos feed,
          inductionHypothesis, length, List.cons_append]
      · rw [List.cons_append, startsAfter, startsAfter, if_neg feed, if_neg feed,
          inductionHypothesis, length]

/-- The line of an offset is one more than the number of line feeds before it. -/
theorem line_locationAt (file : String) (text : List Char) (offset : Nat) :
    ((ofText file text).locationAt offset).line = (text.take offset).count '\n' + 1 := by
  rw [locationAt, startsUpTo_ofText, List.length_cons, length_startsAfter]
  rfl

/-- The last line of a text starts so many characters before its end as it has. -/
theorem getLastD_startsAfter (text : List Char) :
    (startsAfter 0 text).getLastD 0 + (text.rtakeWhile (· ≠ '\n')).length = text.length := by
  induction text using List.reverseRecOn with
  | nil => rfl
  | append_singleton front character inductionHypothesis =>
      rw [startsAfter_concat, List.length_append]
      by_cases feed : character = '\n'
      · rw [if_pos feed, List.getLastD_concat,
          List.rtakeWhile_concat_neg _ _ _ (by simpa using feed)]
        simp
      · rw [if_neg feed, List.append_nil, List.rtakeWhile_concat_pos _ _ _ (by simpa using feed),
          List.length_append, ← Nat.add_assoc, inductionHypothesis]

/-- The column of an offset is counted from the last line feed before it. -/
theorem column_locationAt (file : String) (text : List Char) {offset : Nat}
    (within : offset ≤ text.length) :
    ((ofText file text).locationAt offset).column =
      ((text.take offset).rtakeWhile (· ≠ '\n')).length + 1 := by
  have base : (ofText file text).baseOf offset = (startsAfter 0 (text.take offset)).getLastD 0 := by
    rw [baseOf, startsUpTo_ofText, List.getLast?_cons, Option.some_or, Option.getD_some,
      List.getLastD_eq_getLast?]
  have counted := getLastD_startsAfter (text.take offset)
  rw [List.length_take_of_le within] at counted
  simp only [locationAt, base]
  omega

/-- A stretch without a line feed begins and ends on the same line. -/
theorem line_locationAt_append (file : String) (before stretch after : List Char)
    (oneLine : '\n' ∉ stretch) :
    ((ofText file (before ++ stretch ++ after)).locationAt before.length).line =
      ((ofText file (before ++ stretch ++ after)).locationAt
        (before.length + stretch.length : Nat)).line := by
  have start : (before ++ stretch ++ after).take before.length = before := by
    rw [List.append_assoc, List.take_left]
  have stop : (before ++ stretch ++ after).take (before.length + stretch.length) =
      before ++ stretch := by
    rw [← List.length_append, List.take_left]
  rw [line_locationAt, line_locationAt, start, stop, List.count_append,
    List.count_eq_zero_of_not_mem oneLine, Nat.add_zero]

end LineIndex
end DirectiveLint
