import DirectiveLint.Proofs.Directive.Lead

/-!
# The grammar of directive comments

A comment value with a directive is read as a lead, the mark `@ts-`, a keyword,
the description and a rest.  The description is all that is left of the line, so
the rest is empty or begins with the end of that line.  What makes a lead depends
on the kind of the comment.

A value has at most one reading.  It has a directive exactly if it has a reading,
and the directive is then the one that was read.  Nothing in the rest plays any
part in this, so the lines after the directive can be exchanged for others.
-/

namespace DirectiveLint

open Source

namespace DirectiveMatch

/-- Whether a text consists of blanks. -/
def Blank (text : List Char) : Prop :=
  ∀ character ∈ text, Character.isBlank character = true

/-- Whether a text can stand before a directive in a comment of some kind. -/
inductive IsLeadOf : CommentKind → List Char → Prop
  | line {slashes blanks : List Char} (slash : ∀ character ∈ slashes, character = '/')
      (blank : Blank blanks) : IsLeadOf .line (slashes ++ blanks)
  | block {before marks after : List Char} (blank : Blank before)
      (mark : ∀ character ∈ marks, character = '/' ∨ character = '*') (blankAfter : Blank after) :
      IsLeadOf .block (before ++ (marks ++ after))

/-- Whether the line of a description is over. -/
def AtDescriptionEnd (rest : String) : Prop :=
  ∀ character, rest.toList.head? = some character → endsLine character = true

/-- A way to read a comment value as a directive with what stands around it. -/
structure Reading (kind : CommentKind) (value : String) where
  lead : String
  found : DirectiveMatch
  rest : String
  isLead : IsLeadOf kind lead.toList
  oneLine : ∀ character ∈ found.description.toList, endsLine character = false
  atEnd : AtDescriptionEnd rest
  whole : value = lead ++ "@ts-" ++ found.directive.keyword ++ found.description ++ rest

/-! ## Leads -/

theorem dropWhile_append_of_stop {accepts : Char → Bool} {front back : List Char}
    (inside : ∀ character ∈ front, accepts character = true)
    (stops : ∀ character, back.head? = some character → accepts character = false) :
    (front ++ back).dropWhile accepts = back := by
  rw [List.dropWhile_append_of_pos inside]
  cases back with
  | nil => rfl
  | cons first after =>
      exact List.dropWhile_cons_of_neg (by simp [stops first rfl])

/-- The text after some blanks begins with one of them or as it would without them. -/
theorem head?_blank_append {blanks back : List Char} (blank : Blank blanks) {character : Char}
    (first : (blanks ++ back).head? = some character) :
    Character.isBlank character = true ∨ back.head? = some character := by
  cases blanks with
  | nil => exact Or.inr first
  | cons next others =>
      have same : next = character := Option.some.inj first
      exact Or.inl (same ▸ blank next List.mem_cons_self)

/-- A lead is dropped in front of an at sign. -/
theorem afterLead_append {kind : CommentKind} {lead : List Char} (isLead : IsLeadOf kind lead)
    (behind : List Char) : afterLead kind (lead ++ '@' :: behind) = '@' :: behind := by
  have atSign : ∀ character, ('@' :: behind).head? = some character → character = '@' :=
    fun _ first => (Option.some.inj first).symm
  have blanksDropped : ∀ {blanks : List Char}, Blank blanks →
      (blanks ++ '@' :: behind).dropWhile Character.isBlank = '@' :: behind := by
    intro blanks blank
    refine dropWhile_append_of_stop blank fun character first => ?_
    rw [atSign character first]
    decide
  cases isLead with
  | @line slashes blanks slash blank =>
      have slashesDropped : (slashes ++ (blanks ++ '@' :: behind)).dropWhile (· = '/') =
          blanks ++ '@' :: behind := by
        apply dropWhile_append_of_stop
        · intro character member
          exact decide_eq_true (slash character member)
        · intro character first
          apply decide_eq_false
          rcases head?_blank_append blank first with isBlank | first
          · exact Character.ne_of_isBlank isBlank (by decide)
          · rw [atSign character first]
            decide
      rw [afterLead, List.append_assoc, slashesDropped, blanksDropped blank]
  | @block before marks after blank mark blankAfter =>
      have marksDropped : (marks ++ (after ++ '@' :: behind)).dropWhile
          (fun character => character = '/' || character = '*') = after ++ '@' :: behind := by
        apply dropWhile_append_of_stop
        · intro character member
          simpa using mark character member
        · intro character first
          rcases head?_blank_append blankAfter first with isBlank | first
          · have noSlash : character ≠ '/' := Character.ne_of_isBlank isBlank (by decide)
            have noStar : character ≠ '*' := Character.ne_of_isBlank isBlank (by decide)
            simp [noSlash, noStar]
          · rw [atSign character first]
            decide
      rw [afterLead, List.append_assoc, List.append_assoc]
      cases marks with
      | nil =>
          -- Without marks the first blanks and those after them are dropped together.
          have together : Blank (before ++ after) := by
            intro character member
            exact (List.mem_append.mp member).elim (blank character) (blankAfter character)
          rw [List.nil_append, ← List.append_assoc, blanksDropped together]
          simp [show Character.isBlank '@' = false by decide]
      | cons first others =>
          have stop : (before ++ (first :: others ++ (after ++ '@' :: behind))).dropWhile
              Character.isBlank = first :: others ++ (after ++ '@' :: behind) := by
            refine dropWhile_append_of_stop blank fun character isFirst => ?_
            have same : first = character := Option.some.inj isFirst
            rcases mark first List.mem_cons_self with slash | asterisk
            · rw [← same, slash]
              decide
            · rw [← same, asterisk]
              decide
          rw [stop, marksDropped, blanksDropped blankAfter]

/-- Every value begins with a lead, which goes up to the character that may start a directive. -/
theorem exists_isLeadOf (kind : CommentKind) (value : List Char) :
    ∃ lead, IsLeadOf kind lead ∧ value = lead ++ afterLead kind value := by
  have blank : ∀ text : List Char, Blank (text.takeWhile Character.isBlank) :=
    fun _ _ member => List.mem_takeWhile_imp member
  cases kind with
  | line =>
      have slashes : ∀ character ∈ value.takeWhile (· = '/'), character = '/' := by
        intro character member
        simpa using List.mem_takeWhile_imp member
      refine ⟨_, .line slashes (blank (value.dropWhile (· = '/'))), ?_⟩
      rw [afterLead, List.append_assoc, List.takeWhile_append_dropWhile,
        List.takeWhile_append_dropWhile]
  | block =>
      have marks : ∀ character ∈ (value.dropWhile Character.isBlank).takeWhile
          (fun character => character = '/' || character = '*'),
          character = '/' ∨ character = '*' := by
        intro character member
        simpa using List.mem_takeWhile_imp member
      refine ⟨_, .block (blank value) marks (blank ((value.dropWhile Character.isBlank).dropWhile
        fun character => character = '/' || character = '*')), ?_⟩
      rw [afterLead, List.append_assoc, List.append_assoc, List.takeWhile_append_dropWhile,
        List.takeWhile_append_dropWhile, List.takeWhile_append_dropWhile]

/-! ## Readings -/

variable {kind : CommentKind} {value : String}

/-- The description is the first line of what follows the keyword. -/
theorem lineOf_append {description rest : String}
    (oneLine : ∀ character ∈ description.toList, endsLine character = false)
    (atEnd : AtDescriptionEnd rest) :
    lineOf (description.toList ++ rest.toList) = description.toList := by
  apply takeWhile_append_of_stop
  · intro character member
    simp [oneLine character member]
  · intro character first
    simp [atEnd character first]

namespace Reading

theorem toList_value (reading : Reading kind value) :
    value.toList = reading.lead.toList ++ ("@ts-".toList ++
      (reading.found.directive.keyword.toList ++
        (reading.found.description.toList ++ reading.rest.toList))) := by
  have whole := congrArg String.toList reading.whole
  simp only [String.toList_append, List.append_assoc] at whole
  exact whole

theorem afterLead_value (reading : Reading kind value) :
    afterLead kind value.toList = "@ts-".toList ++
      (reading.found.directive.keyword.toList ++
        (reading.found.description.toList ++ reading.rest.toList)) := by
  rw [reading.toList_value]
  exact afterLead_append reading.isLead _

/-- What was read is the match. -/
theorem matchDirectiveText_eq (reading : Reading kind value) :
    matchDirectiveText kind value = some reading.found := by
  rw [matchDirectiveText, ofCharacters?_eq_some_iff]
  refine ⟨_, reading.afterLead_value, ?_⟩
  rw [lineOf_append reading.oneLine reading.atEnd, String.ofList_toList]

/-- Every match comes from a reading. -/
theorem exists_of_matchDirectiveText {found : DirectiveMatch}
    (matched : matchDirectiveText kind value = some found) :
    ∃ reading : Reading kind value, reading.found = found := by
  rcases ofCharacters?_eq_some_iff.mp matched with ⟨behind, after, described⟩
  rcases exists_isLeadOf kind value.toList with ⟨lead, isLead, split⟩
  have line : found.description.toList = lineOf behind := by
    rw [described, String.toList_ofList]
  refine ⟨⟨String.ofList lead, found,
    String.ofList (behind.dropWhile fun character => !endsLine character), ?_, ?_, ?_, ?_⟩, rfl⟩
  · rwa [String.toList_ofList]
  · intro character member
    rw [line] at member
    simpa using List.mem_takeWhile_imp member
  · intro character first
    rw [String.toList_ofList] at first
    have stopped := List.head?_dropWhile_not (fun character => !endsLine character) behind
    rw [first] at stopped
    simpa using stopped
  · apply String.toList_inj.mp
    simp only [String.toList_append, String.toList_ofList, line, List.append_assoc]
    rw [lineOf, List.takeWhile_append_dropWhile, ← after]
    exact split

/-- A value has at most one reading. -/
theorem eq_of_reading (first second : Reading kind value) : first = second := by
  have found : first.found = second.found :=
    Option.some.inj (first.matchDirectiveText_eq.symm.trans second.matchDirectiveText_eq)
  have lead : first.lead = second.lead := by
    have whole := first.toList_value.symm.trans second.toList_value
    rw [← first.afterLead_value, ← second.afterLead_value] at whole
    exact String.toList_inj.mp (List.append_cancel_right whole)
  have rest : first.rest = second.rest := by
    have after := first.afterLead_value.symm.trans second.afterLead_value
    rw [found] at after
    exact String.toList_inj.mp (List.append_cancel_left (List.append_cancel_left
      (List.append_cancel_left after)))
  cases first
  cases second
  cases found
  cases lead
  cases rest
  rfl

/-- The same directive in front of another rest. -/
def withRest (reading : Reading kind value) {rest : String} (atEnd : AtDescriptionEnd rest) :
    Reading kind (reading.lead ++ "@ts-" ++ reading.found.directive.keyword ++
      reading.found.description ++ rest) :=
  { reading with rest, atEnd, whole := rfl }

end Reading
end DirectiveMatch

open DirectiveMatch

/-- The match of a comment value is what its only reading finds, and there is none without a
reading.  Other text after the line of the directive leaves the match as it is. -/
theorem matchDirectiveText_grammar (kind : CommentKind) (value : String) :
    (∀ found, matchDirectiveText kind value = some found ↔
      ∃ reading : Reading kind value, reading.found = found) ∧
    (∀ first second : Reading kind value, first = second) ∧
    (matchDirectiveText kind value = none ↔ IsEmpty (Reading kind value)) ∧
    ∀ (reading : Reading kind value) (rest : String), AtDescriptionEnd rest →
      matchDirectiveText kind (reading.lead ++ "@ts-" ++ reading.found.directive.keyword ++
        reading.found.description ++ rest) = matchDirectiveText kind value := by
  have sound : ∀ found, (∃ reading : Reading kind value, reading.found = found) →
      matchDirectiveText kind value = some found := by
    rintro found ⟨reading, rfl⟩
    exact reading.matchDirectiveText_eq
  refine ⟨fun found => ⟨Reading.exists_of_matchDirectiveText, sound found⟩,
    Reading.eq_of_reading, ?_, ?_⟩
  · constructor
    · intro none
      refine ⟨fun reading => ?_⟩
      rw [reading.matchDirectiveText_eq] at none
      cases none
    · intro empty
      cases matched : matchDirectiveText kind value with
      | none => rfl
      | some found =>
          rcases Reading.exists_of_matchDirectiveText matched with ⟨reading, _⟩
          exact empty.elim reading
  · intro reading rest atEnd
    rw [(reading.withRest atEnd).matchDirectiveText_eq, reading.matchDirectiveText_eq]
    rfl

/-- A directive on the second line of a block comment, with another one on the third. -/
def secondLine : Reading .block "*\n @ts-check: a\r\n@ts-ignore" where
  lead := "*\n "
  found := ⟨.check, ": a"⟩
  rest := "\r\n@ts-ignore"
  isLead := by
    have lead : "*\n ".toList = [] ++ (['*'] ++ ['\n', ' ']) := by decide
    rw [lead]
    exact .block (by simp [Blank]) (by simp) (by simp [Blank]; decide)
  oneLine := by
    have plain : ": a".toList.all (fun character => !endsLine character) = true := by decide
    intro character member
    simpa using List.all_eq_true.mp plain character member
  atEnd := by
    intro character first
    rw [← Option.some.inj (show some '\r' = some character from first)]
    decide
  whole := by decide

/-- The directive on the third line has no part in the match. -/
theorem matchDirectiveText_grammar_secondLine :
    (∀ reading : Reading .block "*\n @ts-check: a\r\n@ts-ignore", reading = secondLine) ∧
      AtDescriptionEnd "\u2028@ts-nocheck" ∧
      matchDirectiveText .block "*\n @ts-check: a\u2028@ts-nocheck" =
        matchDirectiveText .block "*\n @ts-check: a\r\n@ts-ignore" ∧
      matchDirectiveText .block "*\n @ts-check: a\r\n@ts-ignore" = some ⟨.check, ": a"⟩ := by
  rcases matchDirectiveText_grammar .block "*\n @ts-check: a\r\n@ts-ignore" with
    ⟨matched, unique, _, unaffected⟩
  have atEnd : AtDescriptionEnd "\u2028@ts-nocheck" := by
    simp [AtDescriptionEnd, endsLine]
  exact ⟨fun reading => unique reading secondLine, atEnd,
    unaffected secondLine "\u2028@ts-nocheck" atEnd, (matched _).mpr ⟨secondLine, rfl⟩⟩

end DirectiveLint
