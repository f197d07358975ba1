import DirectiveLint.Proofs.Source.Literal
import DirectiveLint.Source.Scanner

/-!
# What a step of the scanner can do

A step either reports the comment that the rest of the text begins with, or it
passes a stretch of code or a literal.  Both are described here without the
definition of the step.

A reported comment is determined by the text: it is one of three shapes, and the
scanner goes on right after it with the same braces and the same preceding code.
No comment leaves a trace in the state.

A passed stretch does the same in front of any other text and at any other
position.  The text after it may be exchanged for one with the same first
character; that a comment began there matters no more than a blank would.
-/

namespace DirectiveLint
namespace Source

/-- Whether another text can stand in the place of the one after a passed stretch. -/
def Replaces (text other : List Char) : Prop :=
  other.head? = text.head? ∨ (text.head? = some '/' ∧ other.head? = some ' ')

namespace Replaces

variable {text other : List Char}

theorem refl (text : List Char) : Replaces text text :=
  Or.inl rfl

theorem eq_nil (replaces : Replaces text other) (empty : text = []) : other = [] := by
  rcases replaces with same | ⟨slash, _⟩
  · rw [empty] at same
    exact List.head?_eq_none_iff.mp same
  · rw [empty] at slash
    cases slash

theorem head?_eq (replaces : Replaces text other) (noSlash : text.head? ≠ some '/') :
    other.head? = text.head? :=
  replaces.resolve_right fun comment => noSlash comment.1

/-- A test that no blank passes stops at the other text if it stopped at the first one. -/
theorem stops {accepts : Char → Bool} (replaces : Replaces text other)
    (blank : accepts ' ' = false)
    (stopped : ∀ character, text.head? = some character → accepts character = false) :
    ∀ character, other.head? = some character → accepts character = false := by
  intro character first
  rcases replaces with same | ⟨_, space⟩
  · exact stopped character (same ▸ first)
  · have equal : character = ' ' := Option.some.inj (first.symm.trans space)
    rw [equal]
    exact blank

theorem drop_append {count : Nat} (replaces : Replaces (text.drop count) other) :
    (text.take count ++ other).drop count = other := by
  by_cases within : count ≤ text.length
  · exact List.drop_left' (List.length_take_of_le within)
  · have beyond : text.length ≤ count := Nat.le_of_not_le within
    rw [replaces.eq_nil (List.drop_eq_nil_of_le beyond), List.append_nil]
    exact List.drop_eq_nil_of_le ((List.length_take_le' count text).trans beyond)

theorem head?_append {count : Nat} (replaces : Replaces (text.drop count) other)
    (noSlash : text.head? ≠ some '/') : (text.take count ++ other).head? = text.head? := by
  cases text with
  | nil =>
      rw [replaces.eq_nil List.drop_nil]
      simp
  | cons first after =>
      cases count with
      | zero => exact replaces.head?_eq noSlash
      | succ count => rfl

end Replaces

/-- A line that is over stays over when the text further on is exchanged. -/
theorem AtLineEnd.take_append {text other : List Char} {count : Nat} (atEnd : AtLineEnd text)
    (replaces : Replaces (text.drop count) other) : AtLineEnd (text.take count ++ other) := by
  have noSlash : text.head? ≠ some '/' := by
    rcases atEnd with rfl | feed
    · simp
    · rw [feed]
      decide
  have same := replaces.head?_append noSlash
  rcases atEnd with rfl | feed
  · exact Or.inl (List.head?_eq_none_iff.mp same)
  · exact Or.inr (same.trans feed)

/-- The comment that a text begins with at a position, and the text after it. -/
inductive Begins (position : Nat) : Lexeme → List Char → List Char → Prop
  | line {value tail : List Char} (oneLine : '\n' ∉ value) (ends : EndsLine value tail) :
      Begins position ⟨.line, value, position, position + value.length + 2⟩
        ('/' :: '/' :: (value ++ tail)) tail
  | block {value : List Char} (tail : List Char) (noClose : ¬ ['*', '/'] <:+: value) :
      Begins position ⟨.block, value, position, position + value.length + 4⟩
        ('/' :: '*' :: (value ++ '*' :: '/' :: tail)) tail
  | cutOff {value : List Char} (noClose : ¬ ['*', '/'] <:+: value) :
      Begins position ⟨.block, value, position, position + value.length + 2⟩
        ('/' :: '*' :: value) []

/-- A comment starts at the position and takes a stretch of the text that holds its delimiters. -/
theorem Begins.exists_source {position : Nat} {lexeme : Lexeme} {text tail : List Char}
    (begins : Begins position lexeme text tail) :
    ∃ source, text = source ++ tail ∧ lexeme.start = position ∧
      lexeme.stop = position + source.length ∧ 2 ≤ source.length := by
  cases begins with
  | @line value _ oneLine ends =>
      exact ⟨'/' :: '/' :: value, rfl, rfl, rfl, by simp⟩
  | @block value _ noClose =>
      refine ⟨'/' :: '*' :: (value ++ ['*', '/']), by simp, rfl, ?_, by simp⟩
      simp only [List.length_cons, List.length_append, List.length_nil]
      omega
  | @cutOff value noClose =>
      exact ⟨'/' :: '*' :: value, by simp, rfl, rfl, by simp⟩

/-- The three shapes of a comment, told by the stretch that it takes. -/
theorem Begins.source_cases {position : Nat} {lexeme : Lexeme} {source tail : List Char}
    (begins : Begins position lexeme (source ++ tail) tail) :
    (∃ value, lexeme = ⟨.line, value, position, position + value.length + 2⟩ ∧
        source = '/' :: '/' :: value ∧ '\n' ∉ value ∧ EndsLine value tail) ∨
      (∃ value, lexeme = ⟨.block, value, position, position + value.length + 4⟩ ∧
        source = '/' :: '*' :: (value ++ ['*', '/']) ∧ ¬ ['*', '/'] <:+: value) ∨
      ∃ value, lexeme = ⟨.block, value, position, position + value.length + 2⟩ ∧
        source = '/' :: '*' :: value ∧ tail = [] ∧ ¬ ['*', '/'] <:+: value := by
  generalize whole : source ++ tail = text at begins
  cases begins with
  | @line value _ oneLine ends =>
      exact Or.inl ⟨value, rfl, List.append_cancel_right whole, oneLine, ends⟩
  | @block value _ noClose =>
      have closed : source ++ tail = '/' :: '*' :: (value ++ ['*', '/']) ++ tail := by
        rw [whole]
        simp
      exact Or.inr (Or.inl ⟨value, rfl, List.append_cancel_right closed, noClose⟩)
  | @cutOff value noClose =>
      rw [List.append_nil] at whole
      exact Or.inr (Or.inr ⟨value, rfl, whole, rfl, noClose⟩)

theorem Begins.exists_cons {position : Nat} {lexeme : Lexeme} {text tail : List Char}
    (begins : Begins position lexeme text tail) : ∃ rest, text = '/' :: rest := by
  cases begins <;> exact ⟨_, rfl⟩

namespace Scan

/-- The state at which the scanner arrives after a comment. -/
def afterComment (scan : Scan) (lexeme : Lexeme) (tail : List Char) : Scan :=
  ⟨lexeme.stop, tail, scan.braces, scan.preceding⟩

/-- Whether a step passes a character and `count` more, with what it leaves as braces and preceding
code. -/
def Passes (scan : Scan) (character : Char) (rest : List Char) (count : Nat) (braces : List Nat)
    (preceding : Preceding) : Prop :=
  ∀ (position : Nat) (other : List Char), Replaces (rest.drop count) other →
    (⟨position, character :: (rest.take count ++ other), scan.braces, scan.preceding⟩ : Scan).step
        character (rest.take count ++ other) =
      (none, ⟨position + (count + 1), other, braces, preceding⟩)

/-! ## Comments -/

theorem passComment_of_begins {scan : Scan} {lexeme : Lexeme} {tail : List Char}
    (begins : Begins scan.position lexeme scan.rest tail) :
    scan.passComment lexeme = scan.afterComment lexeme tail := by
  rcases begins.exists_source with ⟨source, text, start, stop, _⟩
  have length : lexeme.stop - lexeme.start = source.length := by omega
  simp only [passComment, advance, afterComment, length]
  rw [text, List.drop_left, stop]

/-- A comment that the rest of the text begins with is reported and passed. -/
theorem step_of_begins {scan : Scan} {character : Char} {rest tail : List Char} {lexeme : Lexeme}
    (shape : scan.rest = character :: rest)
    (begins : Begins scan.position lexeme scan.rest tail) :
    scan.step character rest = (some lexeme, scan.afterComment lexeme tail) := by
  have passed := passComment_of_begins begins
  generalize text : scan.rest = source at begins
  rw [text] at shape
  cases begins with
  | @line value _ oneLine ends =>
      cases shape
      have opens : scan.opening '/' ('/' :: (value ++ tail)) = .lineComment := by simp [opening]
      have found : scan.lineComment =
          ⟨.line, value, scan.position, scan.position + value.length + 2⟩ := by
        simp only [lineComment, text, List.drop_succ_cons, List.drop_zero,
          lineValue_append oneLine ends]
      simp only [step, opens, found, passed]
  | @block value _ noClose =>
      cases shape
      have opens : scan.opening '/' ('*' :: (value ++ '*' :: '/' :: tail)) = .blockComment := by
        simp [opening]
      have found : scan.blockComment =
          ⟨.block, value, scan.position, scan.position + value.length + 4⟩ := by
        simp only [blockComment, text, List.drop_succ_cons, List.drop_zero,
          blockBody_append_close tail noClose, if_true]
      simp only [step, opens, found, passed]
  | @cutOff value noClose =>
      cases shape
      have opens : scan.opening '/' ('*' :: value) = .blockComment := by simp [opening]
      have found : scan.blockComment =
          ⟨.block, value, scan.position, scan.position + value.length + 2⟩ := by
        simp only [blockComment, text, List.drop_succ_cons, List.drop_zero,
          blockBody_of_unclosed noClose, Bool.false_eq_true, if_false]
      simp only [step, opens, found, passed]

/-- Two slashes always begin a line comment. -/
theorem exists_begins_line (position : Nat) (body : List Char) :
    ∃ lexeme tail, Begins position lexeme ('/' :: '/' :: body) tail := by
  rcases exists_eq_lineValue_append body with ⟨tail, split, oneLine, ends⟩
  have begins : Begins position _ _ tail := Begins.line oneLine ends
  rw [← split] at begins
  exact ⟨_, tail, begins⟩

/-- A slash and an asterisk always begin a block comment. -/
theorem exists_begins_block (position : Nat) (body : List Char) :
    ∃ lexeme tail, Begins position lexeme ('/' :: '*' :: body) tail := by
  rcases exists_blockBody_eq body with ⟨value, noClose, ⟨_, rfl⟩ | ⟨tail, _, rfl⟩⟩
  · exact ⟨_, [], Begins.cutOff noClose⟩
  · exact ⟨_, tail, Begins.block tail noClose⟩

/-! ## Code -/

/-- What a step opens depends on the next character only behind a slash. -/
theorem opening_congr {scan other : Scan} {character : Char} {rest after : List Char}
    (braces : other.braces = scan.braces) (preceding : other.preceding = scan.preceding)
    (next : character = '/' → after.head? = rest.head?) :
    other.opening character after = scan.opening character rest := by
  by_cases slash : character = '/'
  · simp only [opening, braces, preceding, next slash]
  · simp only [opening, braces, preceding, slash, false_and, if_false]

theorem opening_eq_lineComment {scan : Scan} {character : Char} {rest : List Char}
    (opens : scan.opening character rest = .lineComment) :
    character = '/' ∧ rest.head? = some '/' := by
  unfold opening at opens
  split_ifs at opens with line
  exact line

theorem opening_eq_blockComment {scan : Scan} {character : Char} {rest : List Char}
    (opens : scan.opening character rest = .blockComment) :
    character = '/' ∧ rest.head? = some '*' := by
  unfold opening at opens
  split_ifs at opens with _ block
  exact block

theorem opening_eq_braceOpen {scan : Scan} {character : Char} {rest : List Char}
    (opens : scan.opening character rest = .braceOpen) :
    character = '{' ∧ scan.braces ≠ [] := by
  unfold opening at opens
  split_ifs at opens with _ _ _ _ _ brace
  exact brace

theorem opening_eq_braceClose {scan : Scan} {character : Char} {rest : List Char}
    (opens : scan.opening character rest = .braceClose) :
    character = '}' ∧ scan.braces ≠ [] := by
  unfold opening at opens
  split_ifs at opens with _ _ _ _ _ _ brace
  exact brace

/-- How many more characters belong to the word, the blank or the mark that a character begins. -/
def codeLength (character : Char) (rest : List Char) : Nat :=
  if isWordCharacter character then (rest.takeWhile isWordCharacter).length else 0

/-- What a word, a blank or a mark leaves as preceding code. -/
def codePreceding (preceding : Preceding) (character : Char) (rest : List Char) : Preceding :=
  if isWordCharacter character then .word (character :: rest.takeWhile isWordCharacter)
  else if Character.isBlank character then preceding
  else .mark character

theorem passCode_take_append (character : Char) (rest other : List Char) (braces : List Nat)
    (preceding : Preceding) (position : Nat)
    (replaces : Replaces (rest.drop (codeLength character rest)) other) :
    (⟨position, character :: (rest.take (codeLength character rest) ++ other), braces,
        preceding⟩ : Scan).passCode character =
      ⟨position + (codeLength character rest + 1), other, braces,
        codePreceding preceding character rest⟩ := by
  by_cases word : isWordCharacter character = true
  · simp only [codeLength, if_pos word] at replaces
    have taken := takeWhile_take_append isWordCharacter (replaces.stops (by decide))
    simp only [passCode, codeLength, codePreceding, if_pos word, List.takeWhile_cons_of_pos word,
      taken, advance, after, List.length_cons, List.drop_succ_cons, replaces.drop_append]
  · by_cases blank : Character.isBlank character = true
    · simp only [passCode, codeLength, codePreceding, if_neg word, if_pos blank, advance,
        List.take_zero, List.nil_append, List.drop_succ_cons, List.drop_zero]
    · simp only [passCode, codeLength, codePreceding, if_neg word, if_neg blank, advance, after,
        List.take_zero, List.nil_append, List.drop_succ_cons, List.drop_zero]

/-! ## Templates -/

/-- The braces after a stretch of template text: an expression that it opens has none yet. -/
def templateBraces (braces : List Nat) (embeds : Bool) : List Nat :=
  if embeds then 0 :: braces else braces

/-- The preceding code after a stretch of template text. -/
def templatePreceding (embeds : Bool) : Preceding :=
  .mark (if embeds then '{' else '\x60')

theorem passTemplate_take_append (character : Char) (rest other : List Char) (braces : List Nat)
    (preceding : Preceding) (position : Nat)
    (replaces : Replaces (rest.drop (templateExtent false rest).length) other) :
    (⟨position, character :: (rest.take (templateExtent false rest).length ++ other), braces,
        preceding⟩ : Scan).passTemplate (rest.take (templateExtent false rest).length ++ other) =
      ⟨position + ((templateExtent false rest).length + 1), other,
        templateBraces braces (templateExtent false rest).embeds,
        templatePreceding (templateExtent false rest).embeds⟩ := by
  have extent := templateExtent_take_append false rest other replaces.eq_nil
  simp only [passTemplate, extent, templateBraces, templatePreceding]
  cases (templateExtent false rest).embeds with
  | true =>
      simp only [if_true, advance, List.drop_succ_cons, replaces.drop_append]
  | false =>
      simp only [Bool.false_eq_true, if_false, advance, after, List.drop_succ_cons,
        replaces.drop_append]

/-! ## Steps -/

section

variable {scan : Scan} {character : Char} {rest : List Char}

/-- Behind a slash the other text begins like the first one, so a step opens the same thing. -/
theorem opening_take_append (position : Nat) {count : Nat} {other : List Char}
    (noLine : scan.opening character rest ≠ .lineComment)
    (replaces : Replaces (rest.drop count) other) :
    (⟨position, character :: (rest.take count ++ other), scan.braces, scan.preceding⟩ :
        Scan).opening character (rest.take count ++ other) = scan.opening character rest := by
  refine opening_congr rfl rfl fun slash => replaces.head?_append fun next => noLine ?_
  simp only [opening, slash, next, and_self, if_true]

theorem passes_string (opens : scan.opening character rest = .string) :
    scan.Passes character rest (stringExtent character false rest) scan.braces
      (.mark character) := by
  intro position other replaces
  have same := opening_take_append position (by rw [opens]; decide) replaces
  have extent := stringExtent_take_append character false rest other replaces.eq_nil
  simp only [step, same, opens, extent, advance, after, List.drop_succ_cons,
    replaces.drop_append]

theorem passes_template (opens : scan.opening character rest = .template) :
    scan.Passes character rest (templateExtent false rest).length
      (templateBraces scan.braces (templateExtent false rest).embeds)
      (templatePreceding (templateExtent false rest).embeds) := by
  intro position other replaces
  have same := opening_take_append position (by rw [opens]; decide) replaces
  simp only [step, same, opens]
  rw [passTemplate_take_append character rest other scan.braces scan.preceding position replaces]

theorem passes_regex (opens : scan.opening character rest = .regex) :
    scan.Passes character rest (regexExtent false false rest) scan.braces (.mark '/') := by
  intro position other replaces
  have same := opening_take_append position (by rw [opens]; decide) replaces
  have feed : (rest.drop (regexExtent false false rest)).head? = some '\n' →
      other.head? = some '\n' := by
    intro lineFeed
    rw [replaces.head?_eq (by rw [lineFeed]; decide), lineFeed]
  have extent := regexExtent_take_append false false rest other replaces.eq_nil feed
    (replaces.stops (by decide))
  simp only [step, same, opens, extent, advance, after, List.drop_succ_cons,
    replaces.drop_append]

theorem passes_braceOpen {depth : Nat} {outer : List Nat} (braces : scan.braces = depth :: outer)
    (opens : scan.opening character rest = .braceOpen) :
    scan.Passes character rest (codeLength character rest) ((depth + 1) :: outer)
      (codePreceding scan.preceding character rest) := by
  intro position other replaces
  have same := opening_take_append position (by rw [opens]; decide) replaces
  simp only [step, same, opens]
  simp only [passBraceOpen, braces]
  rw [← (opening_eq_braceOpen opens).1,
    passCode_take_append character rest other _ scan.preceding position replaces]

theorem passes_braceClose {depth : Nat} {outer : List Nat}
    (braces : scan.braces = (depth + 1) :: outer)
    (opens : scan.opening character rest = .braceClose) :
    scan.Passes character rest (codeLength character rest) (depth :: outer)
      (codePreceding scan.preceding character rest) := by
  intro position other replaces
  have same := opening_take_append position (by rw [opens]; decide) replaces
  simp only [step, same, opens]
  simp only [passBraceClose, braces]
  rw [← (opening_eq_braceClose opens).1,
    passCode_take_append character rest other _ scan.preceding position replaces]

/-- The brace that closes an expression leads back into the template text. -/
theorem passes_expressionClose {outer : List Nat} (braces : scan.braces = 0 :: outer)
    (opens : scan.opening character rest = .braceClose) :
    scan.Passes character rest (templateExtent false rest).length
      (templateBraces outer (templateExtent false rest).embeds)
      (templatePreceding (templateExtent false rest).embeds) := by
  intro position other replaces
  have same := opening_take_append position (by rw [opens]; decide) replaces
  simp only [step, same, opens]
  simp only [passBraceClose, braces]
  rw [passTemplate_take_append character rest other outer scan.preceding position replaces]

theorem passes_code (opens : scan.opening character rest = .code) :
    scan.Passes character rest (codeLength character rest) scan.braces
      (codePreceding scan.preceding character rest) := by
  intro position other replaces
  have same := opening_take_append position (by rw [opens]; decide) replaces
  simp only [step, same, opens]
  rw [passCode_take_append character rest other scan.braces scan.preceding position replaces]

/-- A step that opens no comment passes a stretch of the text. -/
theorem exists_passes (noLine : scan.opening character rest ≠ .lineComment)
    (noBlock : scan.opening character rest ≠ .blockComment) :
    ∃ count braces preceding, scan.Passes character rest count braces preceding := by
  cases opens : scan.opening character rest with
  | lineComment => exact absurd opens noLine
  | blockComment => exact absurd opens noBlock
  | string => exact ⟨_, _, _, passes_string opens⟩
  | template => exact ⟨_, _, _, passes_template opens⟩
  | regex => exact ⟨_, _, _, passes_regex opens⟩
  | braceOpen =>
      rcases List.exists_cons_of_ne_nil (opening_eq_braceOpen opens).2 with ⟨depth, outer, braces⟩
      exact ⟨_, _, _, passes_braceOpen braces opens⟩
  | braceClose =>
      rcases List.exists_cons_of_ne_nil (opening_eq_braceClose opens).2 with ⟨depth, outer, braces⟩
      cases depth with
      | zero => exact ⟨_, _, _, passes_expressionClose braces opens⟩
      | succ depth => exact ⟨_, _, _, passes_braceClose braces opens⟩
  | code => exact ⟨_, _, _, passes_code opens⟩

end

/-- A stretch is passed in front of the text that follows it. -/
theorem step_of_passes {scan : Scan} {character : Char} {rest : List Char} {count : Nat}
    {braces : List Nat} {preceding : Preceding} (shape : scan.rest = character :: rest)
    (passes : scan.Passes character rest count braces preceding) :
    scan.step character rest =
      (none, ⟨scan.position + (count + 1), rest.drop count, braces, preceding⟩) := by
  have here := passes scan.position (rest.drop count) (Replaces.refl _)
  rw [List.take_append_drop, ← shape] at here
  exact here

/-- A step reports the comment that the rest of the text begins with, or it passes a stretch. -/
theorem step_cases (scan : Scan) {character : Char} {rest : List Char}
    (shape : scan.rest = character :: rest) :
    (∃ lexeme tail, Begins scan.position lexeme scan.rest tail) ∨
      ∃ count braces preceding, scan.Passes character rest count braces preceding := by
  by_cases line : scan.opening character rest = .lineComment
  · rcases opening_eq_lineComment line with ⟨rfl, slash⟩
    rcases List.head?_eq_some_iff.mp slash with ⟨body, rfl⟩
    rw [shape]
    exact Or.inl (exists_begins_line scan.position body)
  · by_cases block : scan.opening character rest = .blockComment
    · rcases opening_eq_blockComment block with ⟨rfl, star⟩
      rcases List.head?_eq_some_iff.mp star with ⟨body, rfl⟩
      rw [shape]
      exact Or.inl (exists_begins_block scan.position body)
    · exact Or.inr (exists_passes line block)

end Scan
end Source
end DirectiveLint
