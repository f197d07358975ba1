import DirectiveLint.Proofs.Source.LineEnding

/-!
# Scanning texts with carriage returns

Two runs of the scanner are followed side by side: one over a text without
carriage returns and one over the same text with a carriage return in front of
each line feed.  After each step of the first run and one or two of the second,
both have the same braces, the same preceding code and the same text left, apart
from the carriage returns.  So the comments are the same, each at the offsets
that the carriage returns in front of it have moved it to.
-/

namespace DirectiveLint
namespace Source

theorem Follows.eq_nil {text other : List Char} (follows : Follows text other) (empty : text = []) :
    other = [] := by
  subst empty
  rcases follows with rfl | ⟨rest, impossible, _⟩
  · rfl
  · cases impossible

theorem Follows.eq_withReturns {text other : List Char} (follows : Follows text other)
    (noFeed : text.head? ≠ some '\n') : other = withReturns text := by
  rcases follows with same | ⟨rest, rfl, _⟩
  · exact same
  · exact absurd rfl noFeed

namespace Scan

/-! ## Steps -/

/-- The text of the string or of the regular expression that a step passes, without the mark that
opens it. -/
def literal? (scan : Scan) (character : Char) (rest : List Char) : Option (List Char) :=
  match scan.opening character rest with
  | .string => some (rest.take (stringExtent character false rest))
  | .regex => some (rest.take (regexExtent false false rest))
  | _ => none

/-- Whether two states are the same up to the carriage returns in the text that is left. -/
structure Mirrors (scan other : Scan) : Prop where
  follows : Follows scan.rest other.rest
  braces : other.braces = scan.braces
  preceding : other.preceding = scan.preceding

section

variable (position moved : Nat) (character : Char) (rest : List Char) (braces : List Nat)
  (preceding : Preceding)

theorem mirrors_passCode :
    Mirrors ((⟨position, character :: rest, braces, preceding⟩ : Scan).passCode character)
      ((⟨moved, character :: withReturns rest, braces, preceding⟩ : Scan).passCode character) := by
  by_cases word : isWordCharacter character = true
  · have letters := takeWhile_withReturns isWordCharacter (by decide) (by decide) rest
    have later := drop_takeWhile_withReturns isWordCharacter (by decide) (by decide) rest
    simp only [passCode, if_pos word, List.takeWhile_cons_of_pos word, letters, advance, after,
      List.length_cons, List.drop_succ_cons]
    exact ⟨Or.inl later, rfl, rfl⟩
  · by_cases blank : Character.isBlank character = true
    · simp only [passCode, if_neg word, if_pos blank]
      exact ⟨Or.inl rfl, rfl, rfl⟩
    · simp only [passCode, if_neg word, if_neg blank]
      exact ⟨Or.inl rfl, rfl, rfl⟩

theorem mirrors_passTemplate :
    Mirrors ((⟨position, character :: rest, braces, preceding⟩ : Scan).passTemplate rest)
      ((⟨moved, character :: withReturns rest, braces, preceding⟩ : Scan).passTemplate
        (withReturns rest)) := by
  rcases templateExtent_withReturns false rest with ⟨embeds, later⟩
  simp only [passTemplate, embeds]
  split
  · exact ⟨Or.inl later, rfl, rfl⟩
  · exact ⟨Or.inl later, rfl, rfl⟩

theorem opening_withReturns :
    (⟨moved, character :: withReturns rest, braces, preceding⟩ : Scan).opening character
        (withReturns rest) =
      (⟨position, character :: rest, braces, preceding⟩ : Scan).opening character rest := by
  have slash : (withReturns rest).head? = some '/' ↔ rest.head? = some '/' :=
    head?_withReturns_eq_some_iff rest (by decide) (by decide)
  have star : (withReturns rest).head? = some '*' ↔ rest.head? = some '*' :=
    head?_withReturns_eq_some_iff rest (by decide) (by decide)
  simp only [opening, slash, star]

/-- A step that reports no comment has its mirror image, unless it passes a literal with a backslash
in front of a line feed. -/
theorem mirrors_step
    (noComment : ((⟨position, character :: rest, braces, preceding⟩ : Scan).step character
      rest).1 = none)
    (noEscape : ∀ literal ∈ (⟨position, character :: rest, braces, preceding⟩ : Scan).literal?
      character rest, escapesFeed false literal = false) :
    ((⟨moved, character :: withReturns rest, braces, preceding⟩ : Scan).step character
        (withReturns rest)).1 = none ∧
      Mirrors ((⟨position, character :: rest, braces, preceding⟩ : Scan).step character rest).2
        ((⟨moved, character :: withReturns rest, braces, preceding⟩ : Scan).step character
          (withReturns rest)).2 := by
  have same := opening_withReturns position moved character rest braces preceding
  unfold step at noComment ⊢
  unfold literal? at noEscape
  rw [same]
  cases opens :
      (⟨position, character :: rest, braces, preceding⟩ : Scan).opening character rest with
  | lineComment =>
      rw [opens] at noComment
      cases noComment
  | blockComment =>
      rw [opens] at noComment
      cases noComment
  | string =>
      have quote : character ≠ '\r' := by
        rintro rfl
        simp [opening] at opens
      rw [opens] at noEscape
      refine ⟨rfl, Or.inl ?_, rfl, rfl⟩
      exact drop_stringExtent_withReturns quote false rest (noEscape _ rfl)
  | template => exact ⟨rfl, mirrors_passTemplate position moved character rest braces preceding⟩
  | regex =>
      rw [opens] at noEscape
      exact ⟨rfl, follows_drop_regexExtent false false rest (noEscape _ rfl), rfl, rfl⟩
  | braceOpen =>
      rcases opening_eq_braceOpen opens with ⟨rfl, _⟩
      refine ⟨rfl, ?_⟩
      cases braces with
      | nil => exact mirrors_passCode position moved '{' rest [] preceding
      | cons depth outer =>
          exact mirrors_passCode position moved '{' rest ((depth + 1) :: outer) preceding
  | braceClose =>
      rcases opening_eq_braceClose opens with ⟨rfl, _⟩
      refine ⟨rfl, ?_⟩
      cases braces with
      | nil => exact mirrors_passCode position moved '}' rest [] preceding
      | cons depth outer =>
          cases depth with
          | zero => exact mirrors_passTemplate position moved '}' rest outer preceding
          | succ depth =>
              exact mirrors_passCode position moved '}' rest (depth :: outer) preceding
  | code => exact ⟨rfl, mirrors_passCode position moved character rest braces preceding⟩

end

/-! ## Runs -/

/-- The texts of the strings and regular expressions from a state on, in their order. -/
def literals (scan : Scan) : List (List Char) :=
  match _shape : scan.rest with
  | [] => []
  | character :: rest =>
    (scan.literal? character rest).toList ++ literals (scan.step character rest).2
termination_by scan.rest.length
decreasing_by exact step_rest_length_lt scan character rest _shape

theorem literals_of_rest_eq_cons {scan : Scan} {character : Char} {rest : List Char}
    (shape : scan.rest = character :: rest) :
    scan.literals =
      (scan.literal? character rest).toList ++ (scan.step character rest).2.literals := by
  rw [literals]
  split
  · next empty =>
      rw [empty] at shape
      cases shape
  · next first others shape' =>
      cases shape.symm.trans shape'
      rfl

/-- Whether the position of a state fits to what is left of a text. -/
def StaysIn (text : List Char) (scan : Scan) : Prop :=
  scan.rest = text.drop scan.position

theorem StaysIn.step {text : List Char} {scan : Scan} (stays : scan.StaysIn text)
    {character : Char} {rest : List Char} (shape : scan.rest = character :: rest) :
    (scan.step character rest).2.StaysIn text := by
  rcases step_cases scan shape with ⟨lexeme, tail, begins⟩ | ⟨count, braces, preceding, passes⟩
  · rcases begins.exists_source with ⟨source, whole, start, stop, _⟩
    rw [step_of_begins shape begins]
    change tail = text.drop lexeme.stop
    rw [stop, ← List.drop_drop, ← stays, whole, List.drop_left]
  · rw [step_of_passes shape passes]
    change rest.drop count = text.drop (scan.position + (count + 1))
    rw [← List.drop_drop, ← stays, shape, List.drop_succ_cons]

end Scan

/-- Where an offset of a text comes to lie. -/
def movedOffset (text : List Char) (offset : Nat) : Nat :=
  (withReturns (text.take offset)).length

/-- A comment of a text as it is in the text with carriage returns. -/
def Lexeme.withReturnsIn (text : List Char) (lexeme : Lexeme) : Lexeme :=
  ⟨lexeme.kind, withReturns lexeme.value, movedOffset text lexeme.start,
    movedOffset text lexeme.stop⟩

/-- What is left of both texts tells where the second run is. -/
theorem eq_movedOffset {text : List Char} {offset moved : Nat} (left : text.drop offset ≠ [])
    (same : (withReturns text).drop moved = withReturns (text.drop offset)) :
    moved = movedOffset text offset := by
  have whole : withReturns text =
      withReturns (text.take offset) ++ withReturns (text.drop offset) := by
    rw [← withReturns_append, List.take_append_drop]
  have lengths := congrArg List.length whole
  have lengthsLeft := congrArg List.length same
  have positive : 0 < (withReturns (text.drop offset)).length :=
    List.length_pos_iff.mpr fun empty => left (withReturns_eq_nil_iff.mp empty)
  rw [List.length_append] at lengths
  rw [List.length_drop] at lengthsLeft
  unfold movedOffset
  omega

theorem movedOffset_append {text : List Char} {offset : Nat} {source tail : List Char}
    (whole : text.drop offset = source ++ tail) :
    movedOffset text (offset + source.length) =
      movedOffset text offset + (withReturns source).length := by
  have stretch : text.take (offset + source.length) = text.take offset ++ source := by
    rw [List.take_add, whole, List.take_left]
  rw [movedOffset, stretch, withReturns_append, List.length_append, movedOffset]

/-- The line of a comment is over in both texts.  A value of the first one has no carriage return to
drop, and in the second one the carriage return is not part of it. -/
theorem AtLineEnd.endsLine_withReturns {tail : List Char} (atEnd : AtLineEnd tail)
    {value : List Char} (noReturn : value.getLast? ≠ some '\r') :
    EndsLine value (withReturns tail) := by
  rcases atEnd with rfl | feed
  · exact Or.inl ⟨Or.inl rfl, noReturn⟩
  · rcases List.head?_eq_some_iff.mp feed with ⟨after, rfl⟩
    exact Or.inr ⟨_, withReturns_feed after, Or.inr rfl⟩

/-- A comment begins in both texts, with carriage returns in the value in the second one. -/
theorem Begins.mirrored {position : Nat} {lexeme : Lexeme} {source tail : List Char}
    (begins : Begins position lexeme (source ++ tail) tail) (noReturn : '\r' ∉ source ++ tail)
    (start : Nat) :
    Begins start
      ⟨lexeme.kind, withReturns lexeme.value, start,
        start + (withReturns source).length⟩
      (withReturns source ++ withReturns tail) (withReturns tail) := by
  rcases begins.source_cases with ⟨value, rfl, rfl, oneLine, ends⟩ | ⟨value, rfl, rfl, noClose⟩ |
    ⟨value, rfl, rfl, rfl, noClose⟩
  · have noFeed : '\n' ∉ '/' :: '/' :: value := by simpa using oneLine
    have noReturn' : value.getLast? ≠ some '\r' := fun last =>
      noReturn (by simp [List.mem_of_getLast? last])
    rw [withReturns_of_oneLine oneLine, withReturns_of_oneLine noFeed]
    refine Begins.line oneLine ?_
    rcases ends with ⟨atEnd, _⟩ | ⟨after, rfl, _⟩
    · exact atEnd.endsLine_withReturns noReturn'
    · exact absurd (by simp) noReturn
  · have closed : withReturns ('/' :: '*' :: (value ++ ['*', '/'])) =
        '/' :: '*' :: (withReturns value ++ ['*', '/']) := by
      rw [withReturns_cons (by decide), withReturns_cons (by decide), withReturns_append]
      rfl
    have mirrored : Begins start _ _ (withReturns tail) :=
      Begins.block (withReturns tail) ((close_infix_withReturns_iff value).not.mpr noClose)
    rw [closed]
    simpa [Nat.add_assoc] using mirrored
  · have cutOff : withReturns ('/' :: '*' :: value) = '/' :: '*' :: withReturns value := by
      rw [withReturns_cons (by decide), withReturns_cons (by decide)]
    rw [cutOff, withReturns, List.append_nil]
    exact Begins.cutOff ((close_infix_withReturns_iff value).not.mpr noClose)

namespace Scan

/-- A line feed of the first text is passed in one step, and in the second text in one or two. -/
theorem lexemes_of_follows_feed {rest other : List Char} (follows : Follows ('\n' :: rest) other)
    (position : Nat) (braces : List Nat) (preceding : Preceding) :
    ∃ count, other.drop count = withReturns rest ∧
      (⟨position, other, braces, preceding⟩ : Scan).lexemes =
        (⟨position + count, withReturns rest, braces, preceding⟩ : Scan).lexemes := by
  have feed := fun position => lexemes_of_blank '\n' (by decide) (by decide) position
    (withReturns rest) braces preceding
  rcases follows with rfl | ⟨after, same, rfl⟩
  · refine ⟨2, by rw [withReturns_feed]; rfl, ?_⟩
    rw [withReturns_feed, lexemes_of_blank '\r' (by decide) (by decide), feed]
  · cases same
    exact ⟨1, rfl, feed position⟩

/-- What holds between two runs, one over a text and one over the text with carriage returns. -/
structure RunsAlong (text : List Char) (scan other : Scan) : Prop where
  mirrors : Mirrors scan other
  stays : scan.StaysIn text
  staysToo : other.StaysIn (withReturns text)
  noEscape : ∀ literal ∈ scan.literals, escapesFeed false literal = false

namespace RunsAlong

variable {text : List Char} {scan other : Scan} {character : Char} {rest : List Char}

/-- No literal of a later state has a backslash in front of a line feed. -/
theorem noEscape_step (runs : RunsAlong text scan other) (shape : scan.rest = character :: rest) :
    ∀ literal ∈ (scan.step character rest).2.literals, escapesFeed false literal = false := by
  intro literal member
  apply runs.noEscape literal
  rw [literals_of_rest_eq_cons shape]
  exact List.mem_append_right _ member

/-- A comment that begins in the first run begins in the second one. -/
theorem begins (runs : RunsAlong text scan other) (noReturn : '\r' ∉ text) {lexeme : Lexeme}
    {tail : List Char} (begins : Begins scan.position lexeme scan.rest tail) :
    Begins other.position (lexeme.withReturnsIn text) other.rest (withReturns tail) := by
  rcases begins.exists_source with ⟨source, whole, start, stop, _⟩
  rcases begins.exists_cons with ⟨rest, shape⟩
  have left : other.rest = withReturns scan.rest :=
    runs.mirrors.follows.eq_withReturns (by simp [shape])
  have place : other.position = movedOffset text scan.position := by
    apply eq_movedOffset
    · rw [← runs.stays, shape]
      exact List.cons_ne_nil _ _
    · rw [← runs.stays, ← runs.staysToo, left]
  have moved : movedOffset text lexeme.stop = other.position + (withReturns source).length := by
    rw [stop, place]
    exact movedOffset_append (runs.stays.symm.trans whole)
  have noReturn' : '\r' ∉ source ++ tail := by
    rw [← whole, runs.stays]
    exact fun member => noReturn (List.mem_of_mem_drop member)
  rw [whole] at begins
  have mirrored := begins.mirrored noReturn' other.position
  rw [← withReturns_append, ← whole, ← left] at mirrored
  rw [Lexeme.withReturnsIn, start, ← place, moved]
  exact mirrored

/-- After a comment both runs go on side by side. -/
theorem afterComment (runs : RunsAlong text scan other) (noReturn : '\r' ∉ text) {lexeme : Lexeme}
    {tail : List Char} (begins : Begins scan.position lexeme scan.rest tail) :
    RunsAlong text (scan.afterComment lexeme tail)
      (other.afterComment (lexeme.withReturnsIn text) (withReturns tail)) := by
  have there := runs.begins noReturn begins
  rcases begins.exists_cons with ⟨rest, shape⟩
  rcases there.exists_cons with ⟨others, shapeToo⟩
  have stays := runs.stays.step shape
  have staysToo := runs.staysToo.step shapeToo
  have noEscape := runs.noEscape_step shape
  rw [step_of_begins shape begins] at stays noEscape
  rw [step_of_begins shapeToo there] at staysToo
  exact ⟨⟨Or.inl rfl, runs.mirrors.braces, runs.mirrors.preceding⟩, stays, staysToo, noEscape⟩

/-- After a passed stretch both runs go on side by side, the second one perhaps after one more
step. -/
theorem exists_afterPass (runs : RunsAlong text scan other) {count : Nat} {braces : List Nat}
    {preceding : Preceding} (shape : scan.rest = character :: rest)
    (passes : scan.Passes character rest count braces preceding) :
    ∃ next : Scan, other.lexemes = next.lexemes ∧
      RunsAlong text (scan.afterPass rest count braces preceding) next := by
  have passed : scan.step character rest = (none, scan.afterPass rest count braces preceding) :=
    step_of_passes shape passes
  have stays := runs.stays.step shape
  have noEscape := runs.noEscape_step shape
  have noEscapeHere : ∀ literal ∈ scan.literal? character rest,
      escapesFeed false literal = false := by
    intro literal member
    apply runs.noEscape literal
    rw [literals_of_rest_eq_cons shape]
    exact List.mem_append_left _ (Option.mem_toList.mpr member)
  rw [passed] at stays noEscape
  rcases runs with ⟨⟨follows, sameBraces, samePreceding⟩, _, staysToo, _⟩
  rcases scan with ⟨position, whole, outerBraces, outerPreceding⟩
  rcases other with ⟨moved, left, _, _⟩
  cases sameBraces
  cases samePreceding
  cases shape
  by_cases feed : character = '\n'
  · subst feed
    rcases lexemes_of_follows_feed follows moved outerBraces outerPreceding with
      ⟨steps, dropped, found⟩
    have blank := step_of_blank '\n' (by decide) (by decide) position rest outerBraces
      outerPreceding
    have same := (Prod.mk.inj (passed.symm.trans blank)).2
    refine ⟨_, found, ?_, stays, ?_, noEscape⟩
    · rw [same]
      exact ⟨Or.inl rfl, rfl, rfl⟩
    · change withReturns rest = (withReturns text).drop (moved + steps)
      rw [← List.drop_drop, ← staysToo, dropped]
  · have shape : left = character :: withReturns rest := by
      rw [← withReturns_cons feed]
      exact follows.eq_withReturns (by simpa using feed)
    subst shape
    rcases mirrors_step position moved character rest outerBraces outerPreceding
      (by rw [passed]) noEscapeHere with ⟨none, mirrors⟩
    rw [passed] at mirrors
    refine ⟨_, ?_, mirrors, stays, staysToo.step rfl, noEscape⟩
    rw [lexemes_of_rest_eq_cons rfl, none]
    rfl

/-- The comments that the second run finds are those of the first one with carriage returns. -/
theorem lexemes_eq (noReturn : '\r' ∉ text) (runs : RunsAlong text scan other) :
    other.lexemes = scan.lexemes.map (·.withReturnsIn text) := by
  induction scan using run_induction generalizing other with
  | finished scan empty =>
      rw [lexemes_of_rest_eq_nil empty, lexemes_of_rest_eq_nil (runs.mirrors.follows.eq_nil empty)]
      rfl
  | comment scan lexeme tail begins inductionHypothesis =>
      rw [lexemes_of_begins begins, lexemes_of_begins (runs.begins noReturn begins), List.map_cons,
        inductionHypothesis (runs.afterComment noReturn begins)]
  | pass scan character rest count braces preceding shape passes inductionHypothesis =>
      rcases runs.exists_afterPass shape passes with ⟨next, same, runsOn⟩
      rw [lexemes_of_passes shape passes, same, inductionHypothesis runsOn]

end RunsAlong

end Scan

/-- A text with carriage returns has the same comments, with carriage returns in their values. -/
theorem lexemes_withReturns {text : List Char} (noReturn : '\r' ∉ text)
    (noEscape : ∀ literal ∈ (Scan.start text).literals, escapesFeed false literal = false) :
    lexemes (withReturns text) = (lexemes text).map (·.withReturnsIn text) := by
  have runs : Scan.RunsAlong text (Scan.start text) (Scan.start (withReturns text)) :=
    ⟨⟨Or.inl rfl, rfl, rfl⟩, rfl, rfl, noEscape⟩
  exact runs.lexemes_eq noReturn

/-! ## Places -/

/-- An offset that has been moved is still on its line, at its column. -/
theorem locationAt_movedOffset (file : String) {text : List Char} {offset : Nat}
    (within : offset ≤ text.length) :
    (LineIndex.ofText file (withReturns text)).locationAt (movedOffset text offset) =
      (LineIndex.ofText file text).locationAt offset := by
  have whole : withReturns text =
      withReturns (text.take offset) ++ withReturns (text.drop offset) := by
    rw [← withReturns_append, List.take_append_drop]
  have front : (withReturns text).take (movedOffset text offset) =
      withReturns (text.take offset) := by
    rw [whole, movedOffset, List.take_left]
  have inside : movedOffset text offset ≤ (withReturns text).length := by
    rw [whole, List.length_append]
    exact Nat.le_add_right _ _
  have line := LineIndex.line_locationAt file (withReturns text) (movedOffset text offset)
  have column := LineIndex.column_locationAt file (withReturns text) inside
  rw [front, count_withReturns, ← LineIndex.line_locationAt file text offset] at line
  rw [front, rtakeWhile_withReturns, ← LineIndex.column_locationAt file text within] at column
  simp only [LineIndex.locationAt, Location.mk.injEq]
  exact ⟨rfl, line, column⟩

end Source
end DirectiveLint
