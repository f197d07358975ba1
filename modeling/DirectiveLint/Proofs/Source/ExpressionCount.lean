import DirectiveLint.Proofs.Source.Reaching

/-!
# What the scanner keeps count of

The scanner keeps one count for each open expression of a template: how many
braces are open in it.  Read off the text, these counts are whole numbers.  Every
opening of an expression adds a count of zero, the brace that closes it takes
the count away again, and the braces in between add one to the innermost count
or take one from it.

On no text does a count fall below zero, and there are as many counts as there
are openings of expressions that were not closed.  The scanner goes on with
every turn, and it comes to the end of the text, or one character beyond it if
the text ends within an escape.  So it takes at most as many turns as the text
has characters.
-/

namespace DirectiveLint
namespace Source

/-! ## How far literals reach -/

theorem stringExtent_le (quote : Char) (escaped : Bool) (text : List Char) :
    stringExtent quote escaped text ≤ text.length + 1 := by
  induction text generalizing escaped with
  | nil =>
      rw [stringExtent]
      split <;> simp
  | cons character rest inductionHypothesis =>
      rw [stringExtent, List.length_cons]
      split_ifs
      · exact Nat.succ_le_succ (inductionHypothesis _)
      · exact Nat.succ_le_succ (inductionHypothesis _)
      · omega
      · exact Nat.succ_le_succ (inductionHypothesis _)

theorem templateExtent_length_le (escaped : Bool) (text : List Char) :
    (templateExtent escaped text).length ≤ text.length + 1 := by
  induction text generalizing escaped with
  | nil =>
      rw [templateExtent]
      split <;> simp
  | cons character rest inductionHypothesis =>
      rw [templateExtent, List.length_cons]
      split_ifs with _ _ _ opening
      · exact Nat.succ_le_succ (inductionHypothesis _)
      · exact Nat.succ_le_succ (inductionHypothesis _)
      · simp
      · simp
      · exact Nat.succ_le_succ (inductionHypothesis _)

theorem regexExtent_le (inClass escaped : Bool) (text : List Char) :
    regexExtent inClass escaped text ≤ text.length + 1 := by
  induction text generalizing inClass escaped with
  | nil =>
      rw [regexExtent]
      split <;> simp
  | cons character rest inductionHypothesis =>
      rw [regexExtent, List.length_cons]
      split_ifs
      · exact Nat.succ_le_succ (inductionHypothesis _ _)
      · exact Nat.succ_le_succ (inductionHypothesis _ _)
      · omega
      · exact Nat.succ_le_succ (inductionHypothesis _ _)
      · exact Nat.succ_le_succ (inductionHypothesis _ _)
      · have letters := (List.takeWhile_prefix (p := Character.isAlphabetic) (l := rest)).length_le
        omega
      · exact Nat.succ_le_succ (inductionHypothesis _ _)

theorem codeLength_le (character : Char) (rest : List Char) :
    Scan.codeLength character rest ≤ rest.length := by
  unfold Scan.codeLength
  split
  · exact (List.takeWhile_prefix _).length_le
  · exact Nat.zero_le _

/-- Template text that leads to an expression ends with the opening of it. -/
theorem exists_of_templateExtent_embeds {escaped : Bool} {text : List Char}
    (embeds : (templateExtent escaped text).embeds = true) :
    ∃ front tail, text = front ++ '$' :: '{' :: tail ∧
      (templateExtent escaped text).length = front.length + 2 := by
  induction text generalizing escaped with
  | nil => cases embeds
  | cons character rest inductionHypothesis =>
      have longer : ∀ {other : Bool}, (templateExtent other rest).embeds = true →
          ∃ front tail, character :: rest = front ++ '$' :: '{' :: tail ∧
            (templateExtent other rest).succ.length = front.length + 2 := by
        intro other further
        rcases inductionHypothesis further with ⟨front, tail, rfl, length⟩
        exact ⟨character :: front, tail, rfl, by rw [TemplateExtent.succ, length]; rfl⟩
      rw [templateExtent] at embeds ⊢
      split_ifs at embeds ⊢ with _ _ _ opening
      · exact longer embeds
      · exact longer embeds
      · rcases opening with ⟨rfl, brace⟩
        rcases List.head?_eq_some_iff.mp brace with ⟨tail, rfl⟩
        exact ⟨[], tail, rfl, rfl⟩
      · exact longer embeds

/-! ## What changes the counts -/

/-- What changes the counts of open braces. -/
inductive MarkKind
  | expressionOpen
  | expressionClose
  | braceOpen
  | braceClose
  deriving DecidableEq, Repr

namespace MarkKind

/-- How a mark is written. -/
def spelling : MarkKind → List Char
  | expressionOpen => ['$', '{']
  | expressionClose => ['}']
  | braceOpen => ['{']
  | braceClose => ['}']

/-- The counts after a mark, the innermost first. -/
def act : List Int → MarkKind → List Int
  | depths, expressionOpen => 0 :: depths
  | depths, expressionClose => depths.tail
  | depth :: outer, braceOpen => (depth + 1) :: outer
  | depth :: outer, braceClose => (depth - 1) :: outer
  | [], braceOpen => []
  | [], braceClose => []

end MarkKind

/-- A mark at its place in a text. -/
structure Mark where
  kind : MarkKind
  place : Nat
  deriving DecidableEq, Repr

namespace Mark

/-- The counts that marks lead to, the innermost first. -/
def depthsAfter (depths : List Int) (marks : List Mark) : List Int :=
  (marks.map Mark.kind).foldl MarkKind.act depths

/-- How many of some marks are of a kind. -/
def number (kind : MarkKind) (marks : List Mark) : Nat :=
  (marks.map Mark.kind).count kind

/-- Whether a mark stands at its place in a text. -/
def StandsIn (text : List Char) (mark : Mark) : Prop :=
  mark.kind.spelling <+: text.drop mark.place

theorem depthsAfter_append (depths : List Int) (front back : List Mark) :
    depthsAfter depths (front ++ back) = depthsAfter (depthsAfter depths front) back := by
  rw [depthsAfter, List.map_append, List.foldl_append]
  rfl

theorem number_append (kind : MarkKind) (front back : List Mark) :
    number kind (front ++ back) = number kind front + number kind back := by
  rw [number, List.map_append, List.count_append]
  rfl

end Mark

namespace Scan

/-- The opening of an expression at the end of template text, if it has one. -/
def expressionMarks (scan : Scan) (rest : List Char) : List Mark :=
  if (templateExtent false rest).embeds then
    [⟨.expressionOpen, scan.position + (templateExtent false rest).length - 1⟩]
  else []

/-- The marks of what a character opens, given the text behind it.  A closing brace closes the
expression if no other brace is open in it. -/
def marksOf (scan : Scan) (rest : List Char) : Opening → List Mark
  | .template => scan.expressionMarks rest
  | .braceOpen => [⟨.braceOpen, scan.position⟩]
  | .braceClose =>
    if scan.braces.head? = some 0 then
      ⟨.expressionClose, scan.position⟩ :: scan.expressionMarks rest
    else [⟨.braceClose, scan.position⟩]
  | _ => []

/-- The marks that the turn from a state passes. -/
def marks (scan : Scan) : List Mark :=
  match scan.rest with
  | [] => []
  | character :: rest => scan.marksOf rest (scan.opening character rest)

/-- The counts of a state as whole numbers. -/
def depths (scan : Scan) : List Int :=
  scan.braces.map Int.ofNat

/-- What marks say of a stretch: they stand in it, one behind the other, and they lead from the
counts before it to those behind it. -/
structure Marked (scan : Scan) (marks : List Mark) (count : Nat) (braces : List Nat) : Prop where
  depths : braces.map Int.ofNat = Mark.depthsAfter scan.depths marks
  entries : braces.length + Mark.number .expressionClose marks =
    scan.braces.length + Mark.number .expressionOpen marks
  inOrder : marks.Pairwise fun first second => first.place < second.place
  spelled : ∀ mark ∈ marks, ∃ ahead ≤ count, mark.place = scan.position + ahead ∧
    mark.kind.spelling <+: scan.rest.drop ahead

/-- What a turn does: it passes one character and `count` more, of which one may be missing at the
end of the text, with their marks. -/
structure Advances (scan next : Scan) (count : Nat) : Prop where
  position : next.position = scan.position + (count + 1)
  rest : next.rest = scan.rest.drop (count + 1)
  -- An escape that ends the text counts the character that is missing.
  within : count ≤ scan.rest.length
  marked : scan.Marked scan.marks count next.braces

section

variable {scan : Scan} {character : Char} {rest : List Char} {count depth : Nat}
  {braces outer : List Nat} {preceding : Preceding} {marks : List Mark}

/-! ## Marks of a stretch -/

theorem marked_nil : scan.Marked [] count scan.braces :=
  ⟨rfl, rfl, List.Pairwise.nil, by simp⟩

theorem marked_singleton {kind : MarkKind}
    (depths : braces.map Int.ofNat = kind.act scan.depths)
    (entries : braces.length + [kind].count .expressionClose =
      scan.braces.length + [kind].count .expressionOpen)
    (spelled : kind.spelling <+: scan.rest) :
    scan.Marked [⟨kind, scan.position⟩] count braces := by
  refine ⟨depths, entries, List.pairwise_singleton _ _, ?_⟩
  rw [List.forall_mem_singleton]
  exact ⟨0, Nat.zero_le _, rfl, spelled⟩

theorem marked_braceOpen (shape : scan.rest = '{' :: rest) (braces : scan.braces = depth :: outer) :
    scan.Marked [⟨.braceOpen, scan.position⟩] count ((depth + 1) :: outer) := by
  apply marked_singleton
  · rw [depths, braces]
    simp [MarkKind.act]
  · rw [braces]
    rfl
  · rw [shape]
    exact ⟨rest, rfl⟩

theorem marked_braceClose (shape : scan.rest = '}' :: rest)
    (braces : scan.braces = (depth + 1) :: outer) :
    scan.Marked [⟨.braceClose, scan.position⟩] count (depth :: outer) := by
  apply marked_singleton
  · rw [depths, braces]
    simp [MarkKind.act]
  · rw [braces]
    rfl
  · rw [shape]
    exact ⟨rest, rfl⟩

theorem marked_expressionClose (shape : scan.rest = '}' :: rest)
    (braces : scan.braces = 0 :: outer) :
    scan.Marked [⟨.expressionClose, scan.position⟩] count outer := by
  apply marked_singleton
  · rw [depths, braces]
    rfl
  · rw [braces]
    rfl
  · rw [shape]
    exact ⟨rest, rfl⟩

/-- Template text behind the first character adds the opening of an expression, or nothing. -/
theorem Marked.template (marked : scan.Marked marks 0 braces)
    (shape : scan.rest = character :: rest) :
    scan.Marked (marks ++ scan.expressionMarks rest) (templateExtent false rest).length
      (templateBraces braces (templateExtent false rest).embeds) := by
  cases embeds : (templateExtent false rest).embeds with
  | false =>
      have none : scan.expressionMarks rest = [] := by simp [expressionMarks, embeds]
      rw [none, List.append_nil]
      refine ⟨marked.depths, marked.entries, marked.inOrder, fun mark member => ?_⟩
      rcases marked.spelled mark member with ⟨ahead, here, place, spelled⟩
      exact ⟨ahead, by omega, place, spelled⟩
  | true =>
      -- What stands in front of the opening is template text, where a brace is no mark.
      rcases exists_of_templateExtent_embeds embeds with ⟨front, tail, whole, length⟩
      have one : scan.expressionMarks rest =
          [⟨.expressionOpen, scan.position + (front.length + 1)⟩] := by
        simp [expressionMarks, embeds, length]
      rw [one, length]
      refine ⟨?_, ?_, ?_, ?_⟩
      · rw [Mark.depthsAfter_append, ← marked.depths]
        rfl
      · have entries := marked.entries
        have closes : Mark.number .expressionClose
            [⟨.expressionOpen, scan.position + (front.length + 1)⟩] = 0 := rfl
        have opens : Mark.number .expressionOpen
            [⟨.expressionOpen, scan.position + (front.length + 1)⟩] = 1 := rfl
        have longer : (templateBraces braces true).length = braces.length + 1 := rfl
        rw [Mark.number_append, Mark.number_append]
        omega
      · rw [List.pairwise_append]
        refine ⟨marked.inOrder, List.pairwise_singleton _ _, fun mark member => ?_⟩
        rw [List.forall_mem_singleton]
        rcases marked.spelled mark member with ⟨ahead, here, place, _⟩
        change mark.place < scan.position + (front.length + 1)
        omega
      · rw [List.forall_mem_append, List.forall_mem_singleton]
        constructor
        · intro mark member
          rcases marked.spelled mark member with ⟨ahead, here, place, spelled⟩
          exact ⟨ahead, by omega, place, spelled⟩
        · refine ⟨front.length + 1, by omega, rfl, tail, ?_⟩
          rw [shape, List.drop_succ_cons, whole, List.drop_left]
          rfl

/-! ## Turns -/

theorem marks_eq {opening : Opening} (shape : scan.rest = character :: rest)
    (opens : scan.opening character rest = opening) : scan.marks = scan.marksOf rest opening := by
  rw [Scan.marks, shape, ← opens]

theorem advances_of_begins {lexeme : Lexeme} {tail : List Char}
    (shape : scan.rest = character :: rest) (unmarked : scan.marks = [])
    (begins : Begins scan.position lexeme scan.rest tail) :
    ∃ count, scan.Advances (scan.step character rest).2 count := by
  rcases begins.exists_source with ⟨source, whole, _, stop, long⟩
  rw [step_of_begins shape begins]
  refine ⟨source.length - 1, ?_, ?_, ?_, ?_⟩
  · change lexeme.stop = _
    omega
  · rw [Nat.sub_add_cancel (by omega), whole, List.drop_left]
    rfl
  · rw [whole, List.length_append]
    omega
  · rw [unmarked]
    exact marked_nil

theorem Passes.advances (shape : scan.rest = character :: rest)
    (passes : scan.Passes character rest count braces preceding)
    (within : count ≤ rest.length + 1) (marked : scan.Marked scan.marks count braces) :
    ∃ count, scan.Advances (scan.step character rest).2 count := by
  rw [step_of_passes shape passes]
  refine ⟨count, rfl, ?_, ?_, marked⟩
  · rw [shape]
    rfl
  · rw [shape]
    exact within

/-- Every turn advances. -/
theorem Turns.advances {next : Scan} (turns : scan.Turns next) :
    ∃ count, scan.Advances next count := by
  rcases turns with ⟨character, rest, shape, rfl⟩
  cases opens : scan.opening character rest with
  | lineComment =>
      rcases opening_eq_lineComment opens with ⟨rfl, slash⟩
      rcases List.head?_eq_some_iff.mp slash with ⟨body, rfl⟩
      rcases exists_begins_line scan.position body with ⟨lexeme, tail, begins⟩
      rw [← shape] at begins
      exact advances_of_begins shape (marks_eq shape opens) begins
  | blockComment =>
      rcases opening_eq_blockComment opens with ⟨rfl, star⟩
      rcases List.head?_eq_some_iff.mp star with ⟨body, rfl⟩
      rcases exists_begins_block scan.position body with ⟨lexeme, tail, begins⟩
      rw [← shape] at begins
      exact advances_of_begins shape (marks_eq shape opens) begins
  | string =>
      apply (passes_string opens).advances shape (stringExtent_le _ _ _)
      rw [marks_eq shape opens]
      exact marked_nil
  | template =>
      apply (passes_template opens).advances shape (templateExtent_length_le _ _)
      rw [marks_eq shape opens]
      exact marked_nil.template shape
  | regex =>
      apply (passes_regex opens).advances shape (regexExtent_le _ _ _)
      rw [marks_eq shape opens]
      exact marked_nil
  | braceOpen =>
      rcases opening_eq_braceOpen opens with ⟨rfl, inside⟩
      rcases List.exists_cons_of_ne_nil inside with ⟨depth, outer, braces⟩
      apply (passes_braceOpen braces opens).advances shape (Nat.le_succ_of_le (codeLength_le _ _))
      rw [marks_eq shape opens]
      exact marked_braceOpen shape braces
  | braceClose =>
      rcases opening_eq_braceClose opens with ⟨rfl, inside⟩
      rcases List.exists_cons_of_ne_nil inside with ⟨depth, outer, braces⟩
      -- At count zero the template text goes on, which may open the next expression at once.
      cases depth with
      | zero =>
          apply (passes_expressionClose braces opens).advances shape
            (templateExtent_length_le _ _)
          rw [marks_eq shape opens, marksOf, if_pos (by rw [braces]; rfl)]
          exact (marked_expressionClose shape braces).template shape
      | succ depth =>
          apply (passes_braceClose braces opens).advances shape
            (Nat.le_succ_of_le (codeLength_le _ _))
          rw [marks_eq shape opens, marksOf, if_neg (by simp [braces])]
          exact marked_braceClose shape braces
  | code =>
      apply (passes_code opens).advances shape (Nat.le_succ_of_le (codeLength_le _ _))
      rw [marks_eq shape opens]
      exact marked_nil

end

/-! ## Runs -/

/-- The comment that the turn from a state finds. -/
def lexeme? (scan : Scan) : Option Lexeme :=
  match scan.rest with
  | [] => none
  | character :: rest => (scan.step character rest).1

/-- A run on a text, with the states before the one that it has come to. -/
inductive Run (text : List Char) : List Scan → Scan → Prop
  | start : Run text [] (Scan.start text)
  | turn {earlier : List Scan} {scan next : Scan} (run : Run text earlier scan)
      (turns : scan.Turns next) : Run text (earlier ++ [scan]) next

/-- What holds of a state and those before it in a run. -/
structure Accounted (text : List Char) (earlier : List Scan) (scan : Scan) : Prop where
  rest : scan.rest = text.drop scan.position
  within : scan.position ≤ text.length + 1
  length_le_position : earlier.length ≤ scan.position
  length_le : earlier.length ≤ text.length
  depths : scan.depths = Mark.depthsAfter [] (earlier.flatMap marks)
  entries : scan.braces.length + Mark.number .expressionClose (earlier.flatMap marks) =
    Mark.number .expressionOpen (earlier.flatMap marks)
  inOrder : (earlier.flatMap marks).Pairwise fun first second => first.place < second.place
  standing : ∀ mark ∈ earlier.flatMap marks, mark.place < scan.position ∧ mark.StandsIn text

theorem accounted_start (text : List Char) : Accounted text [] (Scan.start text) where
  rest := rfl
  within := Nat.zero_le _
  length_le_position := Nat.zero_le _
  length_le := Nat.zero_le _
  depths := rfl
  entries := rfl
  inOrder := List.Pairwise.nil
  standing := by simp

section

variable {text : List Char} {earlier : List Scan} {scan next : Scan}

/-- A turn is taken exactly while there is some text left. -/
theorem Accounted.exists_turns_iff (accounted : Accounted text earlier scan) :
    (∃ next, scan.Turns next) ↔ scan.position < text.length := by
  constructor
  · rintro ⟨next, character, rest, shape, _⟩
    rw [accounted.rest] at shape
    have length := congrArg List.length shape
    rw [List.length_drop, List.length_cons] at length
    omega
  · intro inside
    have more : scan.rest ≠ [] := by
      rw [accounted.rest, ne_eq, List.drop_eq_nil_iff, Nat.not_le]
      exact inside
    rcases List.exists_cons_of_ne_nil more with ⟨character, rest, shape⟩
    exact ⟨_, character, rest, shape, rfl⟩

/-- A turn keeps the accounts. -/
theorem Accounted.turn (accounted : Accounted text earlier scan) (turns : scan.Turns next) :
    Accounted text (earlier ++ [scan]) next := by
  rcases turns.advances with ⟨count, advances⟩
  have inside := accounted.exists_turns_iff.mp ⟨next, turns⟩
  have left : scan.rest.length = text.length - scan.position := by
    rw [accounted.rest, List.length_drop]
  have within := advances.within
  have position := advances.position
  have before := accounted.length_le_position
  have marks : (earlier ++ [scan]).flatMap Scan.marks =
      earlier.flatMap Scan.marks ++ scan.marks := by
    rw [List.flatMap_append, List.flatMap_singleton]
  refine ⟨?_, ?_, ?_, ?_, ?_, ?_, ?_, ?_⟩
  · rw [advances.rest, accounted.rest, List.drop_drop, position]
  · omega
  · rw [List.length_append, List.length_singleton]
    omega
  · rw [List.length_append, List.length_singleton]
    omega
  · rw [marks, Mark.depthsAfter_append, ← accounted.depths]
    exact advances.marked.depths
  · have entries := advances.marked.entries
    have earlierEntries := accounted.entries
    rw [marks, Mark.number_append, Mark.number_append]
    omega
  · rw [marks, List.pairwise_append]
    refine ⟨accounted.inOrder, advances.marked.inOrder, fun mark member later isLater => ?_⟩
    rcases advances.marked.spelled later isLater with ⟨ahead, _, place, _⟩
    have behind := (accounted.standing mark member).1
    omega
  · rw [marks, List.forall_mem_append]
    constructor
    · intro mark member
      have standing := accounted.standing mark member
      exact ⟨by omega, standing.2⟩
    · intro mark member
      rcases advances.marked.spelled mark member with ⟨ahead, near, place, spelled⟩
      rw [accounted.rest, List.drop_drop, ← place] at spelled
      exact ⟨by omega, spelled⟩

theorem Run.accounted (run : Run text earlier scan) : Accounted text earlier scan := by
  induction run with
  | start => exact accounted_start text
  | turn _ turns inductionHypothesis => exact inductionHypothesis.turn turns

/-- Every run can be continued to the end of the text and finds what there is to find on the way. -/
theorem exists_run_to_end (text : List Char) (scan : Scan) :
    ∀ earlier, Run text earlier scan → ∃ later last, Run text (earlier ++ later) last ∧
      last.rest = [] ∧ scan.lexemes = later.filterMap lexeme? := by
  induction scan using lexemes.induct with
  | case1 scan empty =>
      intro earlier run
      refine ⟨[], scan, ?_, empty, lexemes_of_rest_eq_nil empty⟩
      rw [List.append_nil]
      exact run
  | case2 scan character rest shape result inductionHypothesis =>
      intro earlier run
      have turns : scan.Turns result.2 := ⟨character, rest, shape, rfl⟩
      rcases inductionHypothesis (earlier ++ [scan]) (run.turn turns) with
        ⟨later, last, further, empty, found⟩
      refine ⟨scan :: later, last, ?_, empty, ?_⟩
      · rw [← List.singleton_append, ← List.append_assoc]
        exact further
      · have here : scan.lexeme? = (scan.step character rest).1 := by
          rw [lexeme?, shape]
        rw [lexemes_of_rest_eq_cons shape, found, List.filterMap_cons, here]
        cases (scan.step character rest).1 with
        | none => rfl
        | some lexeme => rfl

end

/-- At every state of a run on a text, the counts of open braces are those that the marks passed so
far lead to, and none is below zero; there are as many as expressions were opened and not closed.
The position is at most one beyond the end of the text.  A turn is taken while it is in the text
and leads to a later one, so there are no more turns than characters; and the run does come to the
end, with the comments of the text. -/
theorem run_accounted (text : List Char) :
    (∀ earlier scan, Run text earlier scan →
      scan.braces.map Int.ofNat = Mark.depthsAfter [] (earlier.flatMap marks) ∧
      (∀ depth ∈ Mark.depthsAfter [] (earlier.flatMap marks), 0 ≤ depth) ∧
      scan.rest = text.drop scan.position ∧
      scan.position ≤ text.length + 1 ∧
      ((∃ next, scan.Turns next) ↔ scan.position < text.length) ∧
      (∀ next, scan.Turns next → scan.position < next.position) ∧
      earlier.length ≤ text.length ∧
      (scan.braces.length : Int) =
        Mark.number .expressionOpen (earlier.flatMap marks) -
          Mark.number .expressionClose (earlier.flatMap marks) ∧
      (earlier.flatMap marks).Pairwise (fun first second => first.place < second.place) ∧
      ∀ mark ∈ earlier.flatMap marks, mark.place < scan.position ∧ mark.StandsIn text) ∧
    ∃ earlier last, Run text earlier last ∧ text.length ≤ last.position ∧
      earlier.length ≤ text.length ∧ Source.lexemes text = earlier.filterMap lexeme? := by
  constructor
  · intro earlier scan run
    have accounted := run.accounted
    refine ⟨accounted.depths, ?_, accounted.rest, accounted.within, accounted.exists_turns_iff,
      ?_, accounted.length_le, ?_, accounted.inOrder, accounted.standing⟩
    · rw [← accounted.depths, Scan.depths, List.forall_mem_map]
      exact fun depth _ => Int.natCast_nonneg depth
    · intro next turns
      rcases turns.advances with ⟨count, advances⟩
      have position := advances.position
      omega
    · have entries := accounted.entries
      omega
  · rcases exists_run_to_end text (Scan.start text) [] .start with
      ⟨earlier, last, run, empty, found⟩
    rw [List.nil_append] at run
    have accounted := run.accounted
    refine ⟨earlier, last, run, ?_, accounted.length_le, found⟩
    rw [accounted.rest] at empty
    exact List.drop_eq_nil_iff.mp empty

/-- Template text with two expressions, of which a string that is cut off ends the second. -/
def cutOffExpression : List Char :=
  ['\x60', '$', '{', '{', '}', '}', '$', '{', '\'', '\\']

/-- The states of the run on it before its end. -/
def cutOffStates : List Scan :=
  [Scan.start cutOffExpression, ⟨3, cutOffExpression.drop 3, [0], .mark '{'⟩,
    ⟨4, cutOffExpression.drop 4, [1], .mark '{'⟩, ⟨5, cutOffExpression.drop 5, [0], .mark '}'⟩,
    ⟨8, cutOffExpression.drop 8, [0], .mark '{'⟩]

/-- The run ends one character beyond the end of the text, with one expression open. -/
theorem run_accounted_cutOff :
    Run cutOffExpression cutOffStates ⟨11, [], [0], .mark '\''⟩ ∧
      cutOffExpression.length = 10 ∧
      cutOffStates.flatMap marks =
        [⟨.expressionOpen, 1⟩, ⟨.braceOpen, 3⟩, ⟨.braceClose, 4⟩, ⟨.expressionClose, 5⟩,
          ⟨.expressionOpen, 6⟩] ∧
      Mark.depthsAfter [] (cutOffStates.flatMap marks) = [0] ∧
      cutOffStates.length ≤ cutOffExpression.length ∧
      ¬∃ next, Turns ⟨11, [], [0], .mark '\''⟩ next := by
  have second : Run cutOffExpression _ ⟨3, cutOffExpression.drop 3, [0], .mark '{'⟩ :=
    Run.start.turn ⟨_, _, rfl, by decide +kernel⟩
  have third : Run cutOffExpression _ ⟨4, cutOffExpression.drop 4, [1], .mark '{'⟩ :=
    second.turn ⟨_, _, rfl, by decide +kernel⟩
  have fourth : Run cutOffExpression _ ⟨5, cutOffExpression.drop 5, [0], .mark '}'⟩ :=
    third.turn ⟨_, _, rfl, by decide +kernel⟩
  have fifth : Run cutOffExpression _ ⟨8, cutOffExpression.drop 8, [0], .mark '{'⟩ :=
    fourth.turn ⟨_, _, rfl, by decide +kernel⟩
  have run : Run cutOffExpression cutOffStates ⟨11, [], [0], .mark '\''⟩ :=
    fifth.turn ⟨_, _, rfl, by decide +kernel⟩
  rcases (run_accounted cutOffExpression).1 _ _ run with
    ⟨depths, _, _, _, turns, _, length, _, _, _⟩
  refine ⟨run, rfl, by decide +kernel, depths.symm, length, fun next => ?_⟩
  exact absurd (turns.mp next) (by decide)

end Scan
end Source
end DirectiveLint
