import DirectiveLint.Proofs.Source.Respelling

/-!
# Blanking out comments

Some comments of a text are blanked out: each character that their spans cover
is replaced by a blank.  The scanner then finds the other comments, with their
values at their offsets, and nothing else.

A blank leaves as little trace in the state of the scanner as a comment does, so
what follows a blanked comment is scanned as before.  In front of it, a stretch
of code or a literal can only see that its next character has become a blank,
and none of them would have gone on with the slash that was there.  A comment
that is kept ends where it ended, because no line ends with another comment.
-/

namespace DirectiveLint

namespace Comment

/-- Whether the span of a comment covers an offset. -/
def covers (comment : Comment) (offset : Nat) : Bool :=
  decide (comment.span.start ≤ offset) && decide ((offset : Int) < comment.span.stop)

/-- Kind, value and offsets of a comment; lines and columns are left out. -/
def atOffsets (comment : Comment) : CommentKind × String × Int × Int :=
  (comment.kind, comment.value, comment.span.start, comment.span.stop)

end Comment

/-- A text with a blank for every character that one of some comments covers. -/
def blankedOut (comments : List Comment) (text : String) : String :=
  String.ofList (text.toList.mapIdx fun offset character =>
    if comments.any (·.covers offset) then ' ' else character)

namespace Source

def Lexeme.covers (lexeme : Lexeme) (offset : Nat) : Bool :=
  decide (lexeme.start ≤ offset) && decide (offset < lexeme.stop)

/-- Kind, value and offsets of a comment as the scanner meets it. -/
def Lexeme.atOffsets (lexeme : Lexeme) : CommentKind × String × Int × Int :=
  (lexeme.kind, String.ofList lexeme.value, lexeme.start, lexeme.stop)

/-- A text that begins at an offset, with a blank for every character that a comment covers. -/
def blankedFrom (offset : Nat) (lexemes : List Lexeme) (text : List Char) : List Char :=
  text.mapIdx fun index character =>
    if lexemes.any (·.covers (offset + index)) then ' ' else character

section

variable {offset : Nat} {lexemes : List Lexeme} {lexeme : Lexeme} {text : List Char}

theorem blankedFrom_append (offset : Nat) (lexemes : List Lexeme) (front back : List Char) :
    blankedFrom offset lexemes (front ++ back) =
      blankedFrom offset lexemes front ++ blankedFrom (offset + front.length) lexemes back := by
  simp only [blankedFrom, List.mapIdx_append, Nat.add_assoc, Nat.add_comm front.length]

theorem blankedFrom_congr {others : List Lexeme}
    (same : ∀ index < text.length, lexemes.any (·.covers (offset + index)) =
      others.any (·.covers (offset + index))) :
    blankedFrom offset lexemes text = blankedFrom offset others text := by
  apply List.ext_getElem
  · simp [blankedFrom]
  · intro index inFirst inSecond
    have inside : index < text.length := by simpa [blankedFrom] using inFirst
    simp only [blankedFrom, List.getElem_mapIdx, same index inside]

theorem blankedFrom_nil (offset : Nat) (text : List Char) : blankedFrom offset [] text = text := by
  apply List.ext_getElem <;> simp [blankedFrom]

/-- Comments that start behind a text leave it as it is. -/
theorem blankedFrom_of_beyond
    (beyond : ∀ lexeme ∈ lexemes, offset + text.length ≤ lexeme.start) :
    blankedFrom offset lexemes text = text := by
  refine Eq.trans (blankedFrom_congr fun index inside => ?_) (blankedFrom_nil offset text)
  rw [List.any_nil, List.any_eq_false]
  intro lexeme member
  have start := beyond lexeme member
  simp only [Lexeme.covers, Bool.and_eq_true, decide_eq_true_eq, not_and]
  omega

/-- A comment that stops in front of a text leaves it as it is. -/
theorem blankedFrom_cons_of_stop_le (before : lexeme.stop ≤ offset) :
    blankedFrom offset (lexeme :: lexemes) text = blankedFrom offset lexemes text := by
  refine blankedFrom_congr fun index inside => ?_
  have outside : lexeme.covers (offset + index) = false := by
    simp only [Lexeme.covers, Bool.and_eq_false_iff, decide_eq_false_iff_not]
    omega
  rw [List.any_cons, outside, Bool.false_or]

/-- A comment that covers a text leaves blanks of it. -/
theorem blankedFrom_cons_of_covers (start : lexeme.start ≤ offset)
    (stop : offset + text.length ≤ lexeme.stop) :
    blankedFrom offset (lexeme :: lexemes) text = List.replicate text.length ' ' := by
  apply List.ext_getElem
  · simp [blankedFrom]
  · intro index inFirst inSecond
    have inside : index < text.length := by simpa using inSecond
    have covered : lexeme.covers (offset + index) = true := by
      simp only [Lexeme.covers, Bool.and_eq_true, decide_eq_true_eq]
      omega
    simp [blankedFrom, covered]

end

/-! ## Scanning -/

namespace Scan

variable (chosen : Lexeme → Bool)

/-- The text that a scan has left with the chosen comments in it blanked out. -/
def blanked (scan : Scan) : List Char :=
  blankedFrom scan.position (scan.lexemes.filter chosen) scan.rest

theorem blanked_of_rest_eq_nil {scan : Scan} (empty : scan.rest = []) :
    scan.blanked chosen = [] := by
  rw [blanked, empty]
  rfl

/-- A comment at the front is blanked out or kept. -/
theorem blanked_of_begins {scan : Scan} {lexeme : Lexeme} {source tail : List Char}
    (whole : scan.rest = source ++ tail) (begins : Begins scan.position lexeme scan.rest tail) :
    scan.blanked chosen =
      (if chosen lexeme then List.replicate source.length ' ' else source) ++
        (scan.afterComment lexeme tail).blanked chosen := by
  rcases begins.exists_source with ⟨source', whole', start, stop, _⟩
  have same : source = source' := List.append_cancel_right (whole.symm.trans whole')
  rw [← same] at stop
  have later := lexemes_of_begins begins
  have beyond : ∀ other ∈ (scan.afterComment lexeme tail).lexemes.filter chosen,
      scan.position + source.length ≤ other.start := by
    intro other member
    rw [← stop]
    exact (standsIn_of_mem_lexemes _ other (List.mem_filter.mp member).1).offset_le_start
  rw [blanked, whole, later, blankedFrom_append, ← stop, List.filter_cons]
  by_cases isChosen : chosen lexeme = true
  · rw [if_pos isChosen, if_pos isChosen, blankedFrom_cons_of_covers (Nat.le_of_eq start)
      (Nat.le_of_eq stop.symm), blankedFrom_cons_of_stop_le (Nat.le_refl _)]
    rfl
  · rw [if_neg isChosen, if_neg isChosen, blankedFrom_of_beyond beyond]
    rfl

/-- A passed stretch is kept. -/
theorem blanked_of_passes {scan : Scan} {character : Char} {rest : List Char} {count : Nat}
    {braces : List Nat} {preceding : Preceding} (shape : scan.rest = character :: rest)
    (passes : scan.Passes character rest count braces preceding) :
    scan.blanked chosen = character :: (rest.take count ++
      (scan.afterPass rest count braces preceding).blanked chosen) := by
  have later := lexemes_of_passes shape passes
  have whole : scan.rest = (character :: rest.take count) ++ rest.drop count := by
    rw [shape, List.cons_append, List.take_append_drop]
  by_cases within : count ≤ rest.length
  · have length : (character :: rest.take count).length = count + 1 := by
      rw [List.length_cons, List.length_take_of_le within]
    have beyond : ∀ other ∈ (scan.afterPass rest count braces preceding).lexemes.filter chosen,
        scan.position + (character :: rest.take count).length ≤ other.start := by
      intro other member
      rw [length]
      exact (standsIn_of_mem_lexemes _ other (List.mem_filter.mp member).1).offset_le_start
    rw [blanked, whole, later, blankedFrom_append, blankedFrom_of_beyond beyond, length]
    rfl
  · have beyond : rest.drop count = [] := List.drop_eq_nil_of_le (Nat.le_of_not_le within)
    have empty : (scan.afterPass rest count braces preceding).rest = [] := beyond
    rw [blanked_of_rest_eq_nil chosen empty, blanked, later, lexemes_of_rest_eq_nil empty, whole,
      beyond]
    exact blankedFrom_nil _ _

/-- A blanked text begins as before, or with a blank where a comment was. -/
theorem replaces_blanked (scan : Scan) : Replaces scan.rest (scan.blanked chosen) := by
  cases shape : scan.rest with
  | nil =>
      rw [blanked_of_rest_eq_nil chosen shape]
      exact Replaces.refl []
  | cons character rest =>
      rcases step_cases scan shape with ⟨lexeme, tail, begins⟩ | ⟨count, braces, preceding, passes⟩
      · rcases begins.exists_source with ⟨source, whole, _, _, long⟩
        rcases begins.exists_cons with ⟨others, opens⟩
        rw [← shape, blanked_of_begins chosen whole begins]
        cases source with
        | nil => cases long
        | cons first more =>
            by_cases isChosen : chosen lexeme = true
            · rw [if_pos isChosen]
              exact Or.inr ⟨by rw [opens]; rfl, rfl⟩
            · rw [if_neg isChosen, whole]
              exact Or.inl rfl
      · rw [blanked_of_passes chosen shape passes]
        exact Or.inl rfl

theorem returnsAtLineEnd_blanked (scan : Scan) (returns : ReturnsAtLineEnd scan.rest) :
    ReturnsAtLineEnd (scan.blanked chosen) := by
  rcases returns with ⟨after, shape, atEnd⟩
  rcases step_cases scan shape with ⟨lexeme, tail, begins⟩ | ⟨count, braces, preceding, passes⟩
  · rcases begins.exists_cons with ⟨others, opens⟩
    rw [shape] at opens
    exact absurd (List.cons.inj opens).1 (by decide)
  · rw [blanked_of_passes chosen shape passes]
    exact ⟨_, rfl, atEnd.take_append (replaces_blanked chosen _)⟩

/-- Blanks leave no trace in the state. -/
theorem lexemes_of_replicate_blank (count position : Nat) (tail : List Char) (braces : List Nat)
    (preceding : Preceding) :
    (⟨position, List.replicate count ' ' ++ tail, braces, preceding⟩ : Scan).lexemes =
      (⟨position + count, tail, braces, preceding⟩ : Scan).lexemes := by
  induction count generalizing position with
  | zero => rfl
  | succ count inductionHypothesis =>
      rw [List.replicate_succ, List.cons_append, lexemes_of_blank ' ' (by decide) (by decide),
        inductionHypothesis, Nat.add_right_comm, Nat.add_assoc]

/-- The scanner finds the comments that are not blanked out, where they were. -/
theorem lexemes_blanked (scan : Scan) :
    (⟨scan.position, scan.blanked chosen, scan.braces, scan.preceding⟩ : Scan).lexemes =
      scan.lexemes.filter fun lexeme => !chosen lexeme := by
  induction scan using run_induction with
  | finished scan empty =>
      rw [lexemes_of_rest_eq_nil empty, blanked_of_rest_eq_nil chosen empty,
        lexemes_of_rest_eq_nil rfl]
      rfl
  | comment scan lexeme tail begins inductionHypothesis =>
      rcases begins.exists_source with ⟨source, whole, start, stop, _⟩
      rw [lexemes_of_begins begins, blanked_of_begins chosen whole begins, List.filter_cons,
        ← inductionHypothesis]
      by_cases isChosen : chosen lexeme = true
      · rw [if_pos isChosen, lexemes_of_replicate_blank, ← stop, isChosen]
        rfl
      · have replaces : Replaces tail ((scan.afterComment lexeme tail).blanked chosen) :=
          replaces_blanked chosen (scan.afterComment lexeme tail)
        have returns := returnsAtLineEnd_blanked chosen (scan.afterComment lexeme tail)
        rw [whole] at begins
        have kept := begins.moved replaces returns scan.position
        rw [← stop] at kept
        have same : (⟨lexeme.kind, lexeme.value, scan.position, lexeme.stop⟩ : Lexeme) =
            lexeme := by
          rw [← start]
        rw [same] at kept
        have found : (⟨scan.position, source ++ (scan.afterComment lexeme tail).blanked chosen,
          scan.braces, scan.preceding⟩ : Scan).lexemes = _ := lexemes_of_begins kept
        rw [if_neg isChosen, found]
        simp only [isChosen, Bool.not_false, if_true]
        rfl
  | pass scan character rest count braces preceding shape passes inductionHypothesis =>
      have replaces : Replaces (rest.drop count)
          ((scan.afterPass rest count braces preceding).blanked chosen) :=
        replaces_blanked chosen (scan.afterPass rest count braces preceding)
      rw [lexemes_of_passes shape passes, blanked_of_passes chosen shape passes,
        ← inductionHypothesis, lexemes_of_rest_eq_cons rfl, passes scan.position _ replaces]
      rfl

end Scan
end Source

/-! ## Comments -/

open Source

theorem covers_toComment (lexeme : Lexeme) (index : LineIndex) (offset : Nat) :
    (lexeme.toComment index).covers offset = lexeme.covers offset := by
  simp only [Comment.covers, Lexeme.covers, Lexeme.toComment, LineIndex.spanOf, Int.ofNat_le,
    Int.ofNat_lt]

theorem toList_blankedOut (text file : String) (chosen : Comment → Bool) :
    (blankedOut ((scanComments text file).filter chosen) text).toList =
      (Scan.start text.toList).blanked fun lexeme =>
        chosen (lexeme.toComment (LineIndex.ofText file text.toList)) := by
  simp only [blankedOut, scanComments, List.filter_map, List.any_map, String.toList_ofList,
    Function.comp_def, covers_toComment, Scan.blanked, blankedFrom, Scan.start, Nat.zero_add]
  rfl

/-- When any of the comments of a text are blanked out, the others are found with the same kinds and
values at the same offsets, and no new ones.  A text with all of its comments blanked out has none
left. -/
theorem scanComments_blankedOut (text file : String) (chosen : Comment → Bool) :
    (scanComments (blankedOut ((scanComments text file).filter chosen) text) file).map
        Comment.atOffsets =
      ((scanComments text file).filter fun comment => !chosen comment).map Comment.atOffsets ∧
    scanComments (blankedOut (scanComments text file) text) file = [] := by
  have found : ∀ chosen : Comment → Bool,
      (scanComments (blankedOut ((scanComments text file).filter chosen) text) file).map
          Comment.atOffsets =
        ((scanComments text file).filter fun comment => !chosen comment).map
          Comment.atOffsets := by
    intro chosen
    have kept := Scan.lexemes_blanked (fun lexeme =>
      chosen (lexeme.toComment (LineIndex.ofText file text.toList))) (Scan.start text.toList)
    rw [scanComments, toList_blankedOut, scanComments, List.filter_map, List.map_map, List.map_map]
    exact congrArg (List.map Lexeme.atOffsets) kept
  refine ⟨found chosen, ?_⟩
  have all := found fun _ => true
  rw [List.filter_eq_self.mpr fun _ _ => rfl, List.filter_eq_nil_iff.mpr (by simp)] at all
  exact List.map_eq_nil_iff.mp all

end DirectiveLint
