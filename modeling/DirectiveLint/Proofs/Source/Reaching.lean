import DirectiveLint.Proofs.Source.Respelling
import Mathlib.Logic.Relation

/-!
# The states of a run

The scanner goes from state to state, one turn at a time.  What it has found
when it reaches a state depends on the text in front of that state only, up to
what the last turn sees of the text behind it: its first character, and whether
a carriage return there ends the line.  So a run may be played again in front of
another text, and it reaches the same state.

Nothing depends on where the text begins.  A scan at a later position finds the
same comments, all of them later by the same distance.
-/

namespace DirectiveLint
namespace Source
namespace Scan

/-- One turn of the scanner. -/
def Turns (scan next : Scan) : Prop :=
  ∃ character rest, scan.rest = character :: rest ∧ next = (scan.step character rest).2

/-- Whether a run that begins with one state comes to another. -/
def Reaches : Scan → Scan → Prop :=
  Relation.ReflTransGen Turns

/-- A turn ends behind the comment that the text begins with, or behind a passed stretch. -/
theorem Turns.cases {scan next : Scan} (turns : scan.Turns next) :
    (∃ lexeme tail, Begins scan.position lexeme scan.rest tail ∧
        next = scan.afterComment lexeme tail) ∨
      ∃ character rest count braces preceding, scan.rest = character :: rest ∧
        scan.Passes character rest count braces preceding ∧
        next = scan.afterPass rest count braces preceding := by
  rcases turns with ⟨character, rest, shape, rfl⟩
  rcases step_cases scan shape with ⟨lexeme, tail, begins⟩ | ⟨count, braces, preceding, passes⟩
  · refine Or.inl ⟨lexeme, tail, begins, ?_⟩
    rw [step_of_begins shape begins]
  · refine Or.inr ⟨character, rest, count, braces, preceding, shape, passes, ?_⟩
    rw [step_of_passes shape passes]
    rfl

/-- Position and text stay in step; a position beyond the end leaves no text. -/
theorem Turns.exists_advance {scan next : Scan} (turns : scan.Turns next) :
    ∃ count, 0 < count ∧ next.position = scan.position + count ∧
      next.rest = scan.rest.drop count := by
  rcases turns.cases with ⟨lexeme, tail, begins, rfl⟩ |
    ⟨character, rest, count, braces, preceding, shape, _, rfl⟩
  · rcases begins.exists_source with ⟨source, whole, _, stop, long⟩
    exact ⟨source.length, by omega, stop, by rw [whole, List.drop_left]; rfl⟩
  · exact ⟨count + 1, Nat.succ_pos count, rfl, by rw [shape]; rfl⟩

theorem Reaches.exists_advance {scan last : Scan} (reaches : scan.Reaches last) :
    ∃ count, last.position = scan.position + count ∧ last.rest = scan.rest.drop count := by
  induction reaches with
  | refl => exact ⟨0, rfl, rfl⟩
  | tail _ turns inductionHypothesis =>
      rcases inductionHypothesis with ⟨count, position, rest⟩
      rcases turns.exists_advance with ⟨more, _, position', rest'⟩
      exact ⟨count + more, by omega, by rw [rest', rest, List.drop_drop]⟩

/-! ## Playing a run again -/

/-- Whether a text can stand behind a run in the place of another. -/
structure SameHead (text other : List Char) : Prop where
  first : other.head? = text.head?
  returns : ReturnsAtLineEnd text → ReturnsAtLineEnd other

namespace SameHead

variable {text other : List Char}

theorem refl (text : List Char) : SameHead text text :=
  ⟨rfl, id⟩

/-- A first character is all there is to it unless it is a carriage return. -/
theorem of_head? (first : other.head? = text.head?) (noReturn : text.head? ≠ some '\r') :
    SameHead text other := by
  refine ⟨first, ?_⟩
  rintro ⟨after, shape, _⟩
  exact absurd (congrArg List.head? shape) noReturn

theorem atLineEnd (same : SameHead text other) (atEnd : AtLineEnd text) : AtLineEnd other := by
  rcases atEnd with empty | feed
  · rw [empty] at same
    exact Or.inl (List.head?_eq_none_iff.mp same.first)
  · exact Or.inr (same.first.trans feed)

/-- The same text in front makes no difference. -/
theorem append (same : SameHead text other) (front : List Char) :
    SameHead (front ++ text) (front ++ other) := by
  cases front with
  | nil => exact same
  | cons character front =>
      refine ⟨rfl, ?_⟩
      rintro ⟨after, shape, atEnd⟩
      rcases List.cons.inj shape with ⟨rfl, rfl⟩
      refine ⟨front ++ other, rfl, ?_⟩
      cases front with
      | nil => exact same.atLineEnd atEnd
      | cons next front => exact atEnd.imp nofun id

theorem replaces (same : SameHead text other) : Replaces text other :=
  Or.inl same.first

end SameHead

/-- The text in front of a state that is reached, and the comments found in it.  In front of another
text that begins the same, the run finds these comments and goes on from the same state. -/
structure Replays (scan last : Scan) (front : List Char) (found : List Lexeme) : Prop where
  rest : scan.rest = front ++ last.rest
  position : last.position = scan.position + front.length
  stop_le : ∀ lexeme ∈ found, lexeme.stop ≤ last.position
  lexemes_eq : ∀ other, SameHead last.rest other →
    (⟨scan.position, front ++ other, scan.braces, scan.preceding⟩ : Scan).lexemes =
      found ++ (⟨last.position, other, last.braces, last.preceding⟩ : Scan).lexemes

namespace Replays

variable {scan last : Scan} {front : List Char} {found : List Lexeme}

theorem refl (scan : Scan) : Replays scan scan [] [] where
  rest := rfl
  position := rfl
  stop_le := by simp
  lexemes_eq _ _ := rfl

theorem position_le (replays : Replays scan last front found) : scan.position ≤ last.position := by
  rw [replays.position]
  exact Nat.le_add_right _ _

/-- A scan finds what its run up to a state finds, and then what that state finds. -/
theorem lexemes_eq_append (replays : Replays scan last front found) :
    scan.lexemes = found ++ last.lexemes := by
  have here := replays.lexemes_eq last.rest (SameHead.refl last.rest)
  rw [← replays.rest] at here
  exact here

theorem start_lt_stop (replays : Replays scan last front found) {lexeme : Lexeme}
    (member : lexeme ∈ found) : lexeme.start < lexeme.stop := by
  have inside : lexeme ∈ scan.lexemes := by
    rw [replays.lexemes_eq_append]
    exact List.mem_append_left _ member
  exact (standsIn_of_mem_lexemes scan lexeme inside).start_lt_stop

/-- A comment in front of a run is found first. -/
theorem comment {lexeme : Lexeme} {tail : List Char}
    (begins : Begins scan.position lexeme scan.rest tail)
    (replays : Replays (scan.afterComment lexeme tail) last front found) :
    ∃ source, Replays scan last (source ++ front) (lexeme :: found) := by
  rcases begins.exists_source with ⟨source, whole, start, stop, _⟩
  have tail_eq : tail = front ++ last.rest := replays.rest
  refine ⟨source, ⟨?_, ?_, ?_, ?_⟩⟩
  · rw [whole, tail_eq, List.append_assoc]
  · have position : last.position = lexeme.stop + front.length := replays.position
    rw [position, stop, List.length_append, Nat.add_assoc]
  · intro other member
    rcases List.mem_cons.mp member with rfl | later
    · exact replays.position_le
    · exact replays.stop_le other later
  · intro other same
    have behind : SameHead tail (front ++ other) := tail_eq ▸ same.append front
    rw [whole] at begins
    have moved := begins.moved behind.replaces behind.returns scan.position
    have unmoved : (⟨lexeme.kind, lexeme.value, scan.position, scan.position + source.length⟩ :
        Lexeme) = lexeme := by
      rw [← stop, ← start]
    rw [unmoved] at moved
    have here : (⟨scan.position, source ++ (front ++ other), scan.braces, scan.preceding⟩ :
        Scan).lexemes = _ := lexemes_of_begins moved
    rw [List.append_assoc, here, List.cons_append, ← replays.lexemes_eq other same]
    rfl

/-- A stretch that is passed in front of a run adds nothing to what is found. -/
theorem pass {character : Char} {rest : List Char} {count : Nat} {braces : List Nat}
    {preceding : Preceding} (shape : scan.rest = character :: rest)
    (passes : scan.Passes character rest count braces preceding) (more : last.rest ≠ [])
    (replays : Replays (scan.afterPass rest count braces preceding) last front found) :
    Replays scan last (character :: (rest.take count ++ front)) found := by
  have tail_eq : rest.drop count = front ++ last.rest := replays.rest
  -- An escape that leads beyond the end of the text leaves nothing for the run to end with.
  have within : count ≤ rest.length := by
    refine Nat.le_of_not_le fun beyond => more ?_
    rw [List.drop_eq_nil_of_le beyond] at tail_eq
    exact (List.append_eq_nil_iff.mp tail_eq.symm).2
  refine ⟨?_, ?_, replays.stop_le, ?_⟩
  · rw [shape, List.cons_append, List.append_assoc, ← tail_eq, List.take_append_drop]
  · have position : last.position = scan.position + (count + 1) + front.length := replays.position
    rw [position, List.length_cons, List.length_append, List.length_take_of_le within]
    omega
  · intro other same
    have behind : SameHead (rest.drop count) (front ++ other) := tail_eq ▸ same.append front
    rw [List.cons_append, List.append_assoc, lexemes_of_rest_eq_cons rfl,
      passes scan.position _ behind.replaces, ← replays.lexemes_eq other same]
    rfl

end Replays

/-- Every run that reaches a state with some text left can be played again. -/
theorem Reaches.replays {scan last : Scan} (reaches : scan.Reaches last) (more : last.rest ≠ []) :
    ∃ front found, Replays scan last front found := by
  induction reaches using Relation.ReflTransGen.head_induction_on with
  | refl => exact ⟨[], [], Replays.refl last⟩
  | head turns _ inductionHypothesis =>
      rcases inductionHypothesis with ⟨front, found, replays⟩
      rcases turns.cases with ⟨lexeme, tail, begins, rfl⟩ |
        ⟨character, rest, count, braces, preceding, shape, passes, rfl⟩
      · rcases replays.comment begins with ⟨source, longer⟩
        exact ⟨_, _, longer⟩
      · exact ⟨_, _, replays.pass shape passes more⟩

end Scan

/-! ## Other positions -/

/-- A comment that stands later in a text. -/
def Lexeme.later (distance : Nat) (lexeme : Lexeme) : Lexeme :=
  ⟨lexeme.kind, lexeme.value, lexeme.start + distance, lexeme.stop + distance⟩

theorem Begins.later {position : Nat} {lexeme : Lexeme} {text tail : List Char}
    (begins : Begins position lexeme text tail) (distance : Nat) :
    Begins (position + distance) (lexeme.later distance) text tail := by
  cases begins with
  | @line value _ oneLine ends =>
      have moved : Begins (position + distance) _ _ tail := Begins.line oneLine ends
      simpa only [Lexeme.later, Nat.add_assoc, Nat.add_comm distance] using moved
  | @block value _ noClose =>
      have moved : Begins (position + distance) _ _ tail := Begins.block tail noClose
      simpa only [Lexeme.later, Nat.add_assoc, Nat.add_comm distance] using moved
  | @cutOff value noClose =>
      have moved : Begins (position + distance) _ _ [] := Begins.cutOff noClose
      simpa only [Lexeme.later, Nat.add_assoc, Nat.add_comm distance] using moved

/-- A scan at a later position finds the same comments at later places. -/
theorem Scan.lexemes_later (scan : Scan) (distance : Nat) :
    (⟨scan.position + distance, scan.rest, scan.braces, scan.preceding⟩ : Scan).lexemes =
      scan.lexemes.map (Lexeme.later distance) := by
  induction scan using run_induction with
  | finished scan empty =>
      have none : (⟨scan.position + distance, scan.rest, scan.braces, scan.preceding⟩ :
          Scan).lexemes = [] := lexemes_of_rest_eq_nil empty
      rw [lexemes_of_rest_eq_nil empty, none]
      rfl
  | comment scan lexeme tail begins inductionHypothesis =>
      have moved : (⟨scan.position + distance, scan.rest, scan.braces, scan.preceding⟩ :
          Scan).lexemes = _ := lexemes_of_begins (begins.later distance)
      rw [lexemes_of_begins begins, moved, List.map_cons, ← inductionHypothesis]
      rfl
  | pass scan character rest count braces preceding shape passes inductionHypothesis =>
      have step := passes (scan.position + distance) (rest.drop count) (Replaces.refl _)
      rw [List.take_append_drop] at step
      rw [lexemes_of_passes shape passes, ← inductionHypothesis, shape,
        lexemes_of_rest_eq_cons rfl, step, Nat.add_right_comm]
      rfl

end Source
end DirectiveLint
