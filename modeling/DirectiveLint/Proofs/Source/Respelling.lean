import DirectiveLint.Proofs.Diagnostic.Splice
import DirectiveLint.Proofs.Source.Place

/-!
# Giving comments other values

Some comments of a text are given other values, each by an edit that covers the
comment with its delimiters.  If no new value holds an end of its comment that
the old one did not hold, the scanner finds the same comments in the new text,
with the new values.

Two things make this true at any distance from the comments.  A comment leaves
no trace in the state of the scanner.  And a text with edited comments begins
with the same character as before, which is all that the code in front of it
looks at.  A comment that the end of the text cuts off is closed by its edit, so
it still ends where the text ends.
-/

namespace DirectiveLint
namespace Source

open TextEdit

/-- A value between the delimiters of a comment. -/
def delimited : CommentKind → List Char → List Char
  | .line, value => '/' :: '/' :: value
  | .block, value => '/' :: '*' :: (value ++ ['*', '/'])

theorem exists_delimited_eq_cons (kind : CommentKind) (value : List Char) :
    ∃ rest, delimited kind value = '/' :: rest := by
  cases kind <;> exact ⟨_, rfl⟩

/-- Whether a line is over once a carriage return is taken off. -/
def ReturnsAtLineEnd (tail : List Char) : Prop :=
  ∃ after, tail = '\r' :: after ∧ AtLineEnd after

namespace Lexeme

/-- Whether a comment can have another value: one without an end of the comment, unless the old
value has it, too. -/
def Admits (lexeme : Lexeme) (value : List Char) : Prop :=
  match lexeme.kind with
  | .line =>
    ('\n' ∈ value → '\n' ∈ lexeme.value) ∧
      (value.getLast? = some '\r' → lexeme.value.getLast? = some '\r')
  | .block => ['*', '/'] <:+: value → ['*', '/'] <:+: lexeme.value

/-- The edit that gives a comment another value. -/
def respelling (lexeme : Lexeme) (value : List Char) : TextEdit :=
  ⟨lexeme.start, lexeme.stop, String.ofList (delimited lexeme.kind value)⟩

end Lexeme

/-- The edits for those comments that are given another value. -/
def respellings (change : Lexeme → Option (List Char)) (lexemes : List Lexeme) : List TextEdit :=
  lexemes.filterMap fun lexeme => (change lexeme).map lexeme.respelling

section

variable {position : Nat} {lexeme : Lexeme} {value text tail other : List Char}

/-- A comment with another value, in front of a text that ends its line if the old one did. -/
theorem Begins.exists_respelled (begins : Begins position lexeme text tail)
    (admits : lexeme.Admits value) (first : other.head? = tail.head?)
    (returns : ReturnsAtLineEnd tail → ReturnsAtLineEnd other) (start : Nat) :
    ∃ stop, Begins start ⟨lexeme.kind, value, start, stop⟩
      (delimited lexeme.kind value ++ other) other := by
  cases begins with
  | @line old _ oneLine ends =>
      refine ⟨_, Begins.line (fun feed => oneLine (admits.1 feed)) ?_⟩
      rcases ends with ⟨atEnd, noReturn⟩ | returned
      · refine Or.inl ⟨?_, fun last => noReturn (admits.2 last)⟩
        rcases atEnd with rfl | feed
        · exact Or.inl (List.head?_eq_none_iff.mp first)
        · exact Or.inr (first.trans feed)
      · exact Or.inr (returns returned)
  | @block old _ noClose =>
      have shape : delimited .block value ++ other =
          '/' :: '*' :: (value ++ '*' :: '/' :: other) := by
        simp [delimited]
      rw [shape]
      exact ⟨_, Begins.block other fun close => noClose (admits close)⟩
  | @cutOff old noClose =>
      have atEnd : other = [] := List.head?_eq_none_iff.mp first
      have shape : delimited .block value ++ other =
          '/' :: '*' :: (value ++ '*' :: '/' :: other) := by
        simp [delimited]
      rw [shape, atEnd]
      exact ⟨_, Begins.block [] fun close => noClose (admits close)⟩

/-- A comment as it is at another place, in front of a text that can stand for the old one and ends
the line if that did. -/
theorem Begins.moved {source : List Char} (begins : Begins position lexeme (source ++ tail) tail)
    (replaces : Replaces tail other) (returns : ReturnsAtLineEnd tail → ReturnsAtLineEnd other)
    (start : Nat) :
    Begins start ⟨lexeme.kind, lexeme.value, start, start + source.length⟩ (source ++ other)
      other := by
  rcases begins.source_cases with ⟨value, rfl, rfl, oneLine, ends⟩ | ⟨value, rfl, rfl, noClose⟩ |
    ⟨value, rfl, rfl, rfl, noClose⟩
  · refine Begins.line oneLine ?_
    rcases ends with ⟨atEnd, noReturn⟩ | returned
    · exact Or.inl ⟨@AtLineEnd.take_append tail other 0 atEnd replaces, noReturn⟩
    · exact Or.inr (returns returned)
  · have moved : Begins start _ _ other := Begins.block other noClose
    simpa [Nat.add_assoc] using moved
  · rw [replaces.eq_nil rfl, List.append_nil]
    exact Begins.cutOff noClose

end

/-! ## The text around the comments -/

namespace Scan

variable (change : Lexeme → Option (List Char))

/-- The text that a scan has left with new values for the comments in it. -/
def respelled (scan : Scan) : List Char :=
  spliced scan.position scan.rest (respellings change scan.lexemes)

theorem inOrder_respellings (scan : Scan) :
    InOrder scan.position (scan.position + scan.rest.length)
      (respellings change scan.lexemes) := by
  apply InOrder.of_pairwise
  · intro edit member
    rcases List.mem_filterMap.mp member with ⟨lexeme, found, changed⟩
    rcases Option.map_eq_some_iff.mp changed with ⟨value, _, rfl⟩
    have stands := standsIn_of_mem_lexemes scan lexeme found
    exact ⟨Int.ofNat_le.mpr stands.offset_le_start, Int.ofNat_lt.mpr stands.start_lt_stop,
      Int.ofNat_le.mpr stands.stop_le⟩
  · refine List.Pairwise.filterMap _ ?_ (pairwise_lexemes scan)
    intro first second apart edit changed other changedToo
    rcases Option.map_eq_some_iff.mp changed with ⟨value, _, rfl⟩
    rcases Option.map_eq_some_iff.mp changedToo with ⟨value, _, rfl⟩
    exact Int.ofNat_le.mpr apart

/-- A stretch at the front is kept if all comments with other values are behind it. -/
theorem respelled_advance {scan : Scan} {front : List Char} (next : Scan)
    (whole : scan.rest = front ++ next.rest)
    (position : next.position = scan.position + front.length)
    (same : respellings change scan.lexemes = respellings change next.lexemes) :
    scan.respelled change = front ++ next.respelled change := by
  have inOrder := inOrder_respellings change next
  rw [respelled, respelled, whole, same, position]
  apply spliced_append
  · intro edit member
    exact (inOrder.of_mem edit member).2.1
  · intro edit member
    rw [← position]
    exact (inOrder.of_mem edit member).1

theorem respelled_of_rest_eq_nil {scan : Scan} (empty : scan.rest = []) :
    scan.respelled change = [] := by
  rw [respelled, lexemes_of_rest_eq_nil empty, empty]
  rfl

/-- A comment at the front is given its other value, if there is one. -/
theorem respelled_of_begins {scan : Scan} {lexeme : Lexeme} {source tail : List Char}
    (whole : scan.rest = source ++ tail) (begins : Begins scan.position lexeme scan.rest tail) :
    scan.respelled change =
      ((change lexeme).map (delimited lexeme.kind)).getD source ++
        (scan.afterComment lexeme tail).respelled change := by
  rcases begins.exists_source with ⟨source', whole', start, stop, _⟩
  have same : source = source' := List.append_cancel_right (whole.symm.trans whole')
  rw [← same] at stop
  have later := lexemes_of_begins begins
  cases changed : change lexeme with
  | none =>
      refine respelled_advance change (scan.afterComment lexeme tail) whole stop ?_
      rw [later, respellings, List.filterMap_cons, changed]
      rfl
  | some value =>
      simp only [respelled, later, respellings, List.filterMap_cons, changed, Option.map_some,
        spliced, Lexeme.respelling, Option.getD_some, String.toList_ofList, Int.toNat_natCast]
      rw [start, stop, Nat.sub_self, List.take_zero, List.nil_append, Nat.add_sub_cancel_left,
          whole,
        List.drop_left]
      rw [← stop]
      rfl

/-- A passed stretch is kept. -/
theorem respelled_of_passes {scan : Scan} {character : Char} {rest : List Char} {count : Nat}
    {braces : List Nat} {preceding : Preceding} (shape : scan.rest = character :: rest)
    (passes : scan.Passes character rest count braces preceding) :
    scan.respelled change = character :: (rest.take count ++
      (scan.afterPass rest count braces preceding).respelled change) := by
  have later := lexemes_of_passes shape passes
  have whole : scan.rest = (character :: rest.take count) ++ rest.drop count := by
    rw [shape, List.cons_append, List.take_append_drop]
  by_cases within : count ≤ rest.length
  · refine respelled_advance change (scan.afterPass rest count braces preceding) whole ?_
      (by rw [later])
    rw [List.length_cons, List.length_take_of_le within]
    rfl
  · have beyond : rest.drop count = [] := List.drop_eq_nil_of_le (Nat.le_of_not_le within)
    have empty : (scan.afterPass rest count braces preceding).rest = [] := beyond
    rw [respelled_of_rest_eq_nil change empty, respelled, later, lexemes_of_rest_eq_nil empty]
    rw [whole, beyond]
    rfl

theorem head?_respelled (scan : Scan) : (scan.respelled change).head? = scan.rest.head? := by
  cases shape : scan.rest with
  | nil => rw [respelled_of_rest_eq_nil change shape]
  | cons character rest =>
      rcases step_cases scan shape with ⟨lexeme, tail, begins⟩ | ⟨count, braces, preceding, passes⟩
      · rcases begins.exists_source with ⟨source, whole, _, _, long⟩
        rcases begins.exists_cons with ⟨others, opens⟩
        have slash : source.head? = some '/' := by
          rw [whole] at opens
          cases source with
          | nil => cases long
          | cons first more => rw [List.head?_cons, (List.cons.inj opens).1]
        have opensToo : (((change lexeme).map (delimited lexeme.kind)).getD source).head? =
            some '/' := by
          cases change lexeme with
          | none => exact slash
          | some value =>
              rcases exists_delimited_eq_cons lexeme.kind value with ⟨more, shape⟩
              rw [Option.map_some, Option.getD_some, shape]
              rfl
        rw [respelled_of_begins change whole begins, List.head?_append, opensToo, ← shape, whole,
          List.head?_append, slash]
        rfl
      · rw [respelled_of_passes change shape passes]
        rfl

theorem returnsAtLineEnd_respelled (scan : Scan) (returns : ReturnsAtLineEnd scan.rest) :
    ReturnsAtLineEnd (scan.respelled change) := by
  rcases returns with ⟨after, shape, atEnd⟩
  rcases step_cases scan shape with ⟨lexeme, tail, begins⟩ | ⟨count, braces, preceding, passes⟩
  · rcases begins.exists_cons with ⟨others, opens⟩
    rw [shape] at opens
    exact absurd (List.cons.inj opens).1 (by decide)
  · rw [respelled_of_passes change shape passes]
    have first := head?_respelled change (scan.afterPass after count braces preceding)
    exact ⟨_, rfl, atEnd.take_append (Or.inl first)⟩

/-- The scanner finds the same comments with their new values. -/
theorem lexemes_respelled
    (admits : ∀ lexeme value, change lexeme = some value → lexeme.Admits value) (scan : Scan)
    (position : Nat) :
    (⟨position, scan.respelled change, scan.braces, scan.preceding⟩ : Scan).lexemes.map
        (fun lexeme => (lexeme.kind, lexeme.value)) =
      scan.lexemes.map fun lexeme => (lexeme.kind, (change lexeme).getD lexeme.value) := by
  induction scan using run_induction generalizing position with
  | finished scan empty =>
      rw [lexemes_of_rest_eq_nil empty, respelled_of_rest_eq_nil change empty,
        lexemes_of_rest_eq_nil rfl]
      rfl
  | comment scan lexeme tail begins inductionHypothesis =>
      have first := head?_respelled change (scan.afterComment lexeme tail)
      have returns : ReturnsAtLineEnd tail →
          ReturnsAtLineEnd ((scan.afterComment lexeme tail).respelled change) :=
        returnsAtLineEnd_respelled change (scan.afterComment lexeme tail)
      rcases begins.exists_source with ⟨source, whole, _, _, _⟩
      have there : ∃ stop, Begins position
          ⟨lexeme.kind, (change lexeme).getD lexeme.value, position, stop⟩
          (scan.respelled change) ((scan.afterComment lexeme tail).respelled change) := by
        rw [respelled_of_begins change whole begins]
        cases changed : change lexeme with
        | none =>
            rw [whole] at begins
            exact ⟨_, begins.moved (Or.inl first) returns position⟩
        | some value =>
            exact begins.exists_respelled (admits lexeme value changed) first returns position
      rcases there with ⟨stop, there⟩
      have found : (⟨position, scan.respelled change, scan.braces, scan.preceding⟩ : Scan).lexemes =
          _ := lexemes_of_begins there
      rw [lexemes_of_begins begins, found, List.map_cons, List.map_cons, ← inductionHypothesis stop]
      rfl
  | pass scan character rest count braces preceding shape passes inductionHypothesis =>
      have first := head?_respelled change (scan.afterPass rest count braces preceding)
      rw [lexemes_of_passes shape passes, respelled_of_passes change shape passes,
        ← inductionHypothesis (position + (count + 1)),
        lexemes_of_rest_eq_cons rfl, passes position _ (Or.inl first)]
      rfl

end Scan

end Source
end DirectiveLint
