import DirectiveLint.Proofs.Source.Lines
import DirectiveLint.Proofs.Source.Place

/-!
# The spans of comments

Edits and reports rely on the spans of comments.  For every text, however badly
formed, the spans lie in the text, none is empty, and they follow each other
without overlap.  A span covers exactly the delimiters and the value of its
comment.  Only the last comment of a text can lack its closing delimiter, and
then it reaches to the end of the text.
-/

namespace DirectiveLint

namespace Comment

/-- The stretch of a text that the span of a comment covers. -/
def sourceIn (comment : Comment) (text : String) : List Char :=
  text.toList.extract comment.span.start.toNat comment.span.stop.toNat

/-- What follows the span of a comment in a text. -/
def restIn (comment : Comment) (text : String) : List Char :=
  text.toList.drop comment.span.stop.toNat

/-- A line comment with its value in its place: on one line, up to the end of that line. -/
structure IsLineIn (comment : Comment) (text : String) : Prop where
  source : comment.sourceIn text = ("//" ++ comment.value).toList
  oneLine : '\n' ∉ comment.value.toList
  sameLine : comment.span.startLocation.line = comment.span.stopLocation.line
  ends : Source.EndsLine comment.value.toList (comment.restIn text)

/-- A block comment with its value in its place, up to the first closing delimiter. -/
structure IsBlockIn (comment : Comment) (text : String) : Prop where
  source : comment.sourceIn text = ("/*" ++ comment.value ++ "*/").toList
  noClose : ¬ "*/".toList <:+: comment.value.toList

/-- A block comment that is never closed, up to the end of the text. -/
structure IsCutOffIn (comment : Comment) (text : String) : Prop where
  source : comment.sourceIn text = ("/*" ++ comment.value).toList
  noClose : ¬ "*/".toList <:+: comment.value.toList
  atEnd : comment.span.stop = text.length

end Comment

namespace Source

theorem extract_append (before source after : List Char) :
    (before ++ source ++ after).extract before.length (before.length + source.length) = source := by
  rw [List.extract_eq_take_drop, Nat.add_sub_cancel_left, List.append_assoc, List.drop_left,
    List.take_left]

/-- A comment that reaches the end of the text is the last one. -/
theorem getLast?_of_stop_eq {text : List Char} {lexeme : Lexeme} (member : lexeme ∈ lexemes text)
    (atEnd : lexeme.stop = text.length) : (lexemes text).getLast? = some lexeme := by
  have stands := Scan.standsIn_of_mem_lexemes (Scan.start text)
  have ordered := Scan.pairwise_lexemes (Scan.start text)
  rcases List.append_of_mem member with ⟨front, back, split⟩
  cases back with
  | nil => rw [split, List.getLast?_concat]
  | cons next others =>
      have later : next ∈ (Scan.start text).lexemes := by
        rw [show (Scan.start text).lexemes = _ from split]
        simp
      have after : lexeme.stop ≤ next.start := by
        rw [show (Scan.start text).lexemes = _ from split, List.pairwise_append] at ordered
        exact (List.pairwise_cons.mp ordered.2.1).1 next List.mem_cons_self
      have inside : next.stop ≤ 0 + text.length := (stands next later).stop_le
      have positive := (stands next later).start_lt_stop
      omega

end Source

namespace Comment

open Source

variable {text file : String} {before suffix tail : List Char} {lexeme : Lexeme}

theorem sourceIn_toComment {source : List Char} {index : LineIndex}
    (whole : text.toList = before ++ (source ++ tail)) (start : lexeme.start = before.length)
    (stop : lexeme.stop = before.length + source.length) :
    (lexeme.toComment index).sourceIn text = source := by
  rw [← List.append_assoc] at whole
  simp only [sourceIn, Lexeme.toComment, LineIndex.spanOf, Int.toNat_natCast, start, stop]
  rw [whole, extract_append]

theorem restIn_toComment {source : List Char} {index : LineIndex}
    (whole : text.toList = before ++ (source ++ tail))
    (stop : lexeme.stop = before.length + source.length) :
    (lexeme.toComment index).restIn text = tail := by
  rw [← List.append_assoc] at whole
  simp only [restIn, Lexeme.toComment, LineIndex.spanOf, Int.toNat_natCast, stop, whole]
  rw [← List.length_append, List.drop_left]

/-- A comment that stands in the text has one of the three shapes. -/
theorem shape_of_begins (whole : text.toList = before ++ suffix)
    (begins : Begins before.length lexeme suffix tail) :
    (lexeme.kind = .line ∧
        (lexeme.toComment (LineIndex.ofText file text.toList)).IsLineIn text) ∨
      (lexeme.kind = .block ∧
        ((lexeme.toComment (LineIndex.ofText file text.toList)).IsBlockIn text ∨
          (lexeme.toComment (LineIndex.ofText file text.toList)).IsCutOffIn text)) := by
  cases begins with
  | @line value _ oneLine ends =>
      have stop : before.length + value.length + 2 =
          before.length + ('/' :: '/' :: value).length := rfl
      refine Or.inl ⟨rfl, ?_, ?_, ?_, ?_⟩
      · rw [sourceIn_toComment whole rfl stop]
        simp [Lexeme.toComment]
      · simpa [Lexeme.toComment] using oneLine
      · have line := LineIndex.line_locationAt_append file before ('/' :: '/' :: value) tail
          (by simpa using oneLine)
        rw [List.append_assoc, List.cons_append, List.cons_append, ← whole] at line
        exact line
      · rw [restIn_toComment whole stop]
        simpa [Lexeme.toComment] using ends
  | @block value _ noClose =>
      have stop : before.length + value.length + 4 =
          before.length + ('/' :: '*' :: (value ++ ['*', '/'])).length := by
        simp only [List.length_cons, List.length_append, List.length_nil]
        omega
      have whole' : text.toList =
          before ++ (('/' :: '*' :: (value ++ ['*', '/'])) ++ tail) := by
        rw [whole]
        simp
      refine Or.inr ⟨rfl, Or.inl ⟨?_, ?_⟩⟩
      · rw [sourceIn_toComment whole' rfl stop]
        simp [Lexeme.toComment]
      · simpa [Lexeme.toComment] using noClose
  | @cutOff value noClose =>
      have stop : before.length + value.length + 2 =
          before.length + ('/' :: '*' :: value).length := rfl
      have whole' : text.toList = before ++ (('/' :: '*' :: value) ++ []) := by
        rw [whole, List.append_nil]
      refine Or.inr ⟨rfl, Or.inr ⟨?_, ?_, ?_⟩⟩
      · rw [sourceIn_toComment whole' rfl stop]
        simp [Lexeme.toComment]
      · simpa [Lexeme.toComment] using noClose
      · have length := congrArg List.length whole
        rw [List.length_append, String.length_toList] at length
        simp only [Lexeme.toComment, LineIndex.spanOf, length, stop]

end Comment

/-- The comments of any text lie in it one after the other.  Each covers its delimiters and its
value and nothing else, and only the last one may be cut off by the end of the text. -/
theorem scanComments_spans (text file : String) :
    (∀ comment ∈ scanComments text file,
      0 ≤ comment.span.start ∧ comment.span.start < comment.span.stop ∧
        comment.span.stop ≤ text.length ∧
        ((comment.kind = .line ∧ comment.IsLineIn text) ∨
          (comment.kind = .block ∧
            (comment.IsBlockIn text ∨
              (comment.IsCutOffIn text ∧
                (scanComments text file).getLast? = some comment))))) ∧
      (scanComments text file).Pairwise fun first second =>
        first.span.stop ≤ second.span.start := by
  constructor
  · intro comment member
    rcases List.mem_map.mp member with ⟨lexeme, found, rfl⟩
    have stands := Source.Scan.standsIn_of_mem_lexemes (Source.Scan.start text.toList) lexeme found
    have positive := stands.start_lt_stop
    have inside := stands.stop_le
    rcases stands with ⟨before, suffix, tail, whole, begins⟩
    have position : (Source.Scan.start text.toList).position + before.length = before.length :=
      Nat.zero_add _
    rw [position] at begins
    have length : (0 : Nat) + text.toList.length = text.length := by
      rw [Nat.zero_add, String.length_toList]
    refine ⟨Int.natCast_nonneg _, Int.ofNat_lt.mpr positive, ?_, ?_⟩
    · rw [← length]
      exact Int.ofNat_le.mpr inside
    · rcases Comment.shape_of_begins whole begins with line | ⟨kind, closed | cutOff⟩
      · exact Or.inl line
      · exact Or.inr ⟨kind, Or.inl closed⟩
      · refine Or.inr ⟨kind, Or.inr ⟨cutOff, ?_⟩⟩
        have atEnd : lexeme.stop = text.toList.length := by
          have stop : (lexeme.stop : Int) = text.length := cutOff.atEnd
          rw [String.length_toList]
          exact Int.ofNat_inj.mp stop
        rw [scanComments, List.getLast?_map, Source.getLast?_of_stop_eq found atEnd]
        rfl
  · rw [scanComments, List.pairwise_map]
    exact (Source.Scan.pairwise_lexemes (Source.Scan.start text.toList)).imp Int.ofNat_le.mpr

end DirectiveLint
