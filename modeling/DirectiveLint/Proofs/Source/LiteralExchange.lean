import DirectiveLint.Proofs.Source.Blanking
import DirectiveLint.Proofs.Source.DocumentScan
import DirectiveLint.Proofs.Source.Reaching

/-!
# Exchanging literals

A literal that the scanner comes to hides its content.  In the place of a string
any other string with the same quotes may stand, and in the place of a regular
expression any other: the comments in front of it and the comments behind it are
the same, and it takes part in none of them.

The text around the literal is any text at all.  The literal may stand in an
expression of a template, or behind a quote that was never closed, as long as the
scanner reaches its first character.  Then all that counts of the literal is
that character, which says what is opened, and the closing mark, which alone is
left in the state.  Letters behind a regular expression go with it, whatever it
is.
-/

namespace DirectiveLint
namespace Source

/-! ## Literals -/

/-- Whether a part can stand in a character class. -/
def StringPart.FitsInClass : StringPart → Prop
  | plain character => character ≠ ']' ∧ character ≠ '\\' ∧ character ≠ '\n'
  | escape _ => True

/-- A part of a regular expression: a character that stands for itself, one that a backslash
protects, or a character class. -/
inductive RegexPart
  | plain (character : Char)
  | escape (character : Char)
  | oneOf (members : List StringPart)

namespace RegexPart

def text : RegexPart → List Char
  | plain character => [character]
  | escape character => ['\\', character]
  | oneOf members => '[' :: (members.flatMap StringPart.text ++ [']'])

def WellFormed : RegexPart → Prop
  | plain character => character ≠ '/' ∧ character ≠ '[' ∧ character ≠ '\\' ∧ character ≠ '\n'
  | escape _ => True
  | oneOf members => ∀ member ∈ members, member.FitsInClass

end RegexPart

/-- A string or a regular expression. -/
inductive Literal
  | string (quote : Quote) (body : List StringPart)
  | regex (body : List RegexPart)

namespace Literal

/-- The character with which a literal begins and ends. -/
def mark : Literal → Char
  | string quote _ => quote.mark
  | regex _ => '/'

def text : Literal → List Char
  | string quote body => quote.mark :: (body.flatMap StringPart.text ++ [quote.mark])
  | regex body => '/' :: (body.flatMap RegexPart.text ++ ['/'])

/-- Whether a literal is one by its own text.  Two slashes, or a slash and an asterisk, would begin
a comment. -/
def WellFormed : Literal → Prop
  | string quote body => ∀ part ∈ body, part.FitsIn quote
  | regex body => (∀ part ∈ body, part.WellFormed) ∧ body ≠ [] ∧ body.head? ≠ some (.plain '*')

theorem head?_text_append (literal : Literal) (tail : List Char) :
    (literal.text ++ tail).head? = some literal.mark := by
  cases literal <;> rfl

theorem mark_ne_return (literal : Literal) : literal.mark ≠ '\r' := by
  cases literal with
  | string quote _ => cases quote <;> simp [mark, Quote.mark]
  | regex _ => simp [mark]

end Literal

/-- How many characters behind a literal go with it: the letters behind a regular expression. -/
def flagsLength (mark : Char) (tail : List Char) : Nat :=
  if mark = '/' then (tail.takeWhile Character.isAlphabetic).length else 0

/-! ## Passing a literal -/

section

variable {tail : List Char}

theorem regexExtent_members {members : List StringPart}
    (fits : ∀ member ∈ members, member.FitsInClass) (tail : List Char) :
    regexExtent true false (members.flatMap StringPart.text ++ ']' :: tail) =
      (members.flatMap StringPart.text).length + 1 + regexExtent false false tail := by
  induction members with
  | nil => simp [regexExtent, Nat.add_comm]
  | cons member rest inductionHypothesis =>
      have later := inductionHypothesis fun other inside =>
        fits other (List.mem_cons_of_mem _ inside)
      have first := fits member List.mem_cons_self
      rw [List.flatMap_cons, List.append_assoc, List.length_append]
      cases member with
      | plain character =>
          rcases first with ⟨noEnd, noEscape, noFeed⟩
          simp only [StringPart.text, List.singleton_append, regexExtent, noEnd, noEscape, noFeed,
            later, Bool.false_eq_true, Bool.true_eq_false, and_false, if_false, ite_self,
            List.length_singleton]
          omega
      | escape character =>
          simp only [StringPart.text, List.cons_append, List.nil_append, regexExtent, later,
            Bool.false_eq_true, if_false, if_true, List.length_cons, List.length_nil]
          omega

/-- A regular expression reaches up to its closing slash and the letters behind it. -/
theorem regexExtent_parts {body : List RegexPart} (wellFormed : ∀ part ∈ body, part.WellFormed) :
    regexExtent false false (body.flatMap RegexPart.text ++ '/' :: tail) =
      (body.flatMap RegexPart.text).length + 1 + flagsLength '/' tail := by
  induction body with
  | nil => simp [regexExtent, flagsLength, Nat.add_comm]
  | cons part rest inductionHypothesis =>
      have later := inductionHypothesis fun other inside =>
        wellFormed other (List.mem_cons_of_mem _ inside)
      have first := wellFormed part List.mem_cons_self
      rw [List.flatMap_cons, List.append_assoc, List.length_append]
      cases part with
      | plain character =>
          rcases first with ⟨noSlash, noClass, noEscape, noFeed⟩
          simp only [RegexPart.text, List.singleton_append, regexExtent, noSlash, noClass, noEscape,
            noFeed, later, Bool.false_eq_true, false_and, if_false, ite_self,
            List.length_singleton]
          omega
      | escape character =>
          simp only [RegexPart.text, List.cons_append, List.nil_append, regexExtent, later,
            Bool.false_eq_true, if_false, if_true, List.length_cons, List.length_nil]
          omega
      | oneOf members =>
          have inside := regexExtent_members first (rest.flatMap RegexPart.text ++ '/' :: tail)
          have opens : regexExtent false false ('[' :: (members.flatMap StringPart.text ++
              ']' :: (rest.flatMap RegexPart.text ++ '/' :: tail))) =
              regexExtent true false (members.flatMap StringPart.text ++
                ']' :: (rest.flatMap RegexPart.text ++ '/' :: tail)) + 1 := rfl
          simp only [RegexPart.text, List.cons_append, List.append_assoc, List.nil_append, opens,
            inside, later, List.length_cons, List.length_append, List.length_nil]
          omega

/-- The body of a regular expression does not turn its opening slash into that of a comment. -/
theorem head?_parts {body : List RegexPart} (wellFormed : (Literal.regex body).WellFormed)
    (tail : List Char) :
    (body.flatMap RegexPart.text ++ tail).head? ≠ some '/' ∧
      (body.flatMap RegexPart.text ++ tail).head? ≠ some '*' := by
  rcases wellFormed with ⟨parts, nonempty, noStar⟩
  cases body with
  | nil => exact absurd rfl nonempty
  | cons part rest =>
      have first := parts part List.mem_cons_self
      rw [List.flatMap_cons, List.append_assoc]
      cases part with
      | plain character =>
          have star : character ≠ '*' := fun equal => noStar (by rw [equal]; rfl)
          exact ⟨fun slash => first.1 (Option.some.inj slash), fun equal =>
            star (Option.some.inj equal)⟩
      | escape character => exact ⟨by simp [RegexPart.text], by simp [RegexPart.text]⟩
      | oneOf members => exact ⟨by simp [RegexPart.text], by simp [RegexPart.text]⟩

end

namespace Scan

variable {position : Nat} {tail : List Char} {braces : List Nat} {preceding : Preceding}

/-- What is behind a passed front, with some characters of it passed as well. -/
theorem lexemes_of_passes_append {character : Char} {front : List Char} {count : Nat}
    {others : List Nat} {after : Preceding}
    (passes : (⟨position, character :: (front ++ tail), braces, preceding⟩ : Scan).Passes character
      (front ++ tail) (front.length + count) others after) :
    (⟨position, character :: (front ++ tail), braces, preceding⟩ : Scan).lexemes =
      (⟨position + (front.length + 1) + count, tail.drop count, others, after⟩ : Scan).lexemes := by
  rw [lexemes_of_passes rfl passes, afterPass, List.drop_append, List.drop_eq_nil_of_le (by omega),
    List.nil_append, Nat.add_sub_cancel_left]
  simp only [Nat.add_assoc, Nat.add_comm 1]

theorem lexemes_of_string {quote : Quote} {body : List StringPart}
    (fits : ∀ part ∈ body, part.FitsIn quote) :
    (⟨position, (Literal.string quote body).text ++ tail, braces, preceding⟩ : Scan).lexemes =
      (⟨position + (Literal.string quote body).text.length, tail, braces, .mark quote.mark⟩ :
        Scan).lexemes := by
  have opens : (⟨position, quote.mark :: ((body.flatMap StringPart.text ++ [quote.mark]) ++ tail),
      braces, preceding⟩ : Scan).opening quote.mark
        ((body.flatMap StringPart.text ++ [quote.mark]) ++ tail) = .string := by
    cases quote <;> simp [opening, Quote.mark]
  have passes := passes_string opens
  have extent : stringExtent quote.mark false
      ((body.flatMap StringPart.text ++ [quote.mark]) ++ tail) =
        (body.flatMap StringPart.text ++ [quote.mark]).length + 0 := by
    rw [List.append_assoc, List.singleton_append, stringExtent_parts fits]
    simp
  rw [extent] at passes
  exact lexemes_of_passes_append passes

theorem lexemes_of_regex {body : List RegexPart} (wellFormed : (Literal.regex body).WellFormed)
    (allowed : preceding.allowsRegex = true) :
    (⟨position, (Literal.regex body).text ++ tail, braces, preceding⟩ : Scan).lexemes =
      (⟨position + (Literal.regex body).text.length + flagsLength '/' tail,
        tail.drop (flagsLength '/' tail), braces, .mark '/'⟩ : Scan).lexemes := by
  have noComment := head?_parts wellFormed (['/'] ++ tail)
  rw [← List.append_assoc] at noComment
  have opens : (⟨position, '/' :: ((body.flatMap RegexPart.text ++ ['/']) ++ tail), braces,
      preceding⟩ : Scan).opening '/' ((body.flatMap RegexPart.text ++ ['/']) ++ tail) = .regex := by
    simp only [opening, noComment.1, noComment.2, allowed, and_false, and_self, if_false, if_true]
    simp
  have passes := passes_regex opens
  have extent : regexExtent false false ((body.flatMap RegexPart.text ++ ['/']) ++ tail) =
      (body.flatMap RegexPart.text ++ ['/']).length + flagsLength '/' tail := by
    rw [List.append_assoc, List.singleton_append, regexExtent_parts wellFormed.1]
    simp
  rw [extent] at passes
  exact lexemes_of_passes_append passes

/-- A literal leaves its mark as preceding code, and nothing else. -/
theorem lexemes_of_literal {literal : Literal} (wellFormed : literal.WellFormed)
    (allowed : literal.mark = '/' → preceding.allowsRegex = true) :
    (⟨position, literal.text ++ tail, braces, preceding⟩ : Scan).lexemes =
      (⟨position + literal.text.length + flagsLength literal.mark tail,
        tail.drop (flagsLength literal.mark tail), braces, .mark literal.mark⟩ : Scan).lexemes := by
  cases literal with
  | string quote body =>
      have noFlags : flagsLength quote.mark tail = 0 := by cases quote <;> rfl
      rw [lexemes_of_string wellFormed, Literal.mark, noFlags]
      rfl
  | regex body => exact lexemes_of_regex wellFormed (allowed rfl)

end Scan

/-! ## Exchanging a literal -/

/-- The comments in front of a literal that is reached, and those behind it as they are counted from
its end, are the same for every literal with its mark. -/
theorem exists_lexemes_around {before after : List Char} {literal : Literal} {state : Scan}
    (reached : (Scan.start (before ++ (literal.text ++ after))).Reaches state)
    (entered : state.position = before.length)
    (allowed : literal.mark = '/' → state.preceding.allowsRegex = true) :
    ∃ found behind : List Lexeme,
      (∀ lexeme ∈ found, lexeme.start < lexeme.stop ∧ lexeme.stop ≤ before.length) ∧
      ∀ other : Literal, other.WellFormed → other.mark = literal.mark →
        lexemes (before ++ (other.text ++ after)) =
          found ++ behind.map (Lexeme.later (before.length + other.text.length)) := by
  have opens := literal.head?_text_append after
  have here : state.rest = literal.text ++ after := by
    rcases reached.exists_advance with ⟨count, position, rest⟩
    have length : count = before.length := by
      rw [← entered, position]
      exact (Nat.zero_add count).symm
    rw [rest, length]
    exact List.drop_left
  have more : state.rest ≠ [] := by
    rw [here]
    intro empty
    rw [empty] at opens
    cases opens
  rcases reached.replays more with ⟨front, found, replays⟩
  have whole : before ++ (literal.text ++ after) = front ++ state.rest := replays.rest
  rw [here] at whole
  have same := List.append_cancel_right whole
  subst same
  let behind : Scan := ⟨flagsLength literal.mark after,
    after.drop (flagsLength literal.mark after), state.braces, .mark literal.mark⟩
  refine ⟨found, behind.lexemes, ?_, ?_⟩
  · intro lexeme member
    exact ⟨replays.start_lt_stop member, entered ▸ replays.stop_le lexeme member⟩
  · intro other wellFormed marked
    have sameHead : Scan.SameHead state.rest (other.text ++ after) := by
      apply Scan.SameHead.of_head?
      · rw [here, opens, other.head?_text_append, marked]
      · rw [here, opens]
        exact fun equal => literal.mark_ne_return (Option.some.inj equal)
    have passed : (⟨state.position, other.text ++ after, state.braces, state.preceding⟩ :
        Scan).lexemes = _ :=
      Scan.lexemes_of_literal wellFormed fun slash => allowed (marked.symm.trans slash)
    have replayed : lexemes (before ++ (other.text ++ after)) = _ :=
      replays.lexemes_eq (other.text ++ after) sameHead
    rw [replayed, passed, marked, ← Scan.lexemes_later, entered]
    simp only [behind, Nat.add_comm (flagsLength literal.mark after)]

end Source

/-- Kind, value and offsets of a comment that has moved by a distance, unless it starts in front of
an offset. -/
def Comment.atOffsetsMoved (bound : Nat) (distance : Int) (comment : Comment) :
    CommentKind × String × Int × Int :=
  if comment.span.start < bound then comment.atOffsets
  else (comment.kind, comment.value, comment.span.start + distance, comment.span.stop + distance)

open Source

section

variable (lexeme : Lexeme) (index : LineIndex)

theorem atOffsetsMoved_of_start_lt {bound : Nat} (front : lexeme.start < bound) (distance : Int) :
    (lexeme.toComment index).atOffsetsMoved bound distance = lexeme.atOffsets :=
  if_pos (Int.ofNat_lt.mpr front)

/-- A comment behind one stretch of text moves to where it is behind another stretch. -/
theorem atOffsetsMoved_later (bound length other : Nat) :
    ((lexeme.later (bound + length)).toComment index).atOffsetsMoved bound
        ((other : Int) - length) =
      (lexeme.later (bound + other)).atOffsets := by
  have behind : ¬ ((lexeme.later (bound + length)).toComment index).span.start < (bound : Int) := by
    simp only [Lexeme.toComment, LineIndex.spanOf, Lexeme.later]
    omega
  rw [Comment.atOffsetsMoved, if_neg behind]
  simp only [Lexeme.toComment, LineIndex.spanOf, Lexeme.later, Lexeme.atOffsets, Prod.mk.injEq,
    true_and]
  omega

end

/-- A literal that the scanner reaches, where it would take a slash for a regular expression if the
literal is one.  No comment meets the literal.  With another literal of the same kind in its place,
the comments in front of it are where they were, and those behind it have moved by the difference in
length. -/
theorem scanComments_exchanged (before after file : String) (literal other : Literal)
    (wellFormed : literal.WellFormed) (otherWellFormed : other.WellFormed)
    (same : other.mark = literal.mark) (state : Scan)
    (reached : (Scan.start (before ++ String.ofList literal.text ++ after).toList).Reaches state)
    (entered : state.position = before.length)
    (allowed : literal.mark = '/' → state.preceding.allowsRegex = true) :
    (∀ comment ∈ scanComments (before ++ String.ofList literal.text ++ after) file,
      comment.span.stop ≤ before.length ∨
        (before.length + literal.text.length : Int) ≤ comment.span.start) ∧
    (scanComments (before ++ String.ofList other.text ++ after) file).map Comment.atOffsets =
      (scanComments (before ++ String.ofList literal.text ++ after) file).map
        (Comment.atOffsetsMoved before.length
          ((other.text.length : Int) - literal.text.length)) := by
  have toList : ∀ inside : List Char, (before ++ String.ofList inside ++ after).toList =
      before.toList ++ (inside ++ after.toList) := by
    intro inside
    rw [String.toList_append, String.toList_append, String.toList_ofList, List.append_assoc]
  rw [← String.length_toList] at entered ⊢
  rw [toList] at reached
  rcases exists_lexemes_around reached entered allowed with ⟨found, behind, inFront, around⟩
  have here := around literal wellFormed rfl
  have there := around other otherWellFormed same
  constructor
  · intro comment member
    simp only [scanComments, toList, here, List.mem_map, List.mem_append] at member
    rcases member with ⟨lexeme, member | ⟨original, _, rfl⟩, rfl⟩
    · exact Or.inl (Int.ofNat_le.mpr (inFront lexeme member).2)
    · exact Or.inr (Int.ofNat_le.mpr (Nat.le_add_left _ original.start))
  · simp only [scanComments, toList, here, there, List.map_append, List.map_map]
    congr 1
    · apply List.map_congr_left
      intro lexeme member
      rcases inFront lexeme member with ⟨proper, bounded⟩
      exact (atOffsetsMoved_of_start_lt lexeme _ (Nat.lt_of_lt_of_le proper bounded) _).symm
    · apply List.map_congr_left
      intro lexeme _
      exact (atOffsetsMoved_later lexeme _ _ _ _).symm

/-- Regular expressions with slashes, quotes and a backtick, in an expression of a template behind a
comment. -/
theorem scanComments_exchanged_in_template :
    (∀ comment ∈ scanComments "/*a*/`$\x7b/[/\"]\\//g\x7d`//b" "a.ts",
      comment.span.stop ≤ 8 ∨ 16 ≤ comment.span.start) ∧
    (scanComments "/*a*/`$\x7b/'`+/g\x7d`//b" "a.ts").map Comment.atOffsets =
      (scanComments "/*a*/`$\x7b/[/\"]\\//g\x7d`//b" "a.ts").map
        (Comment.atOffsetsMoved 8 (-3)) := by
  have reached : (Scan.start "/*a*/`$\x7b/[/\"]\\//g\x7d`//b".toList).Reaches
      ⟨8, "/[/\"]\\//g\x7d`//b".toList, [0], .mark '{'⟩ :=
    Relation.ReflTransGen.head ⟨_, _, rfl, rfl⟩ (.head ⟨_, _, rfl, rfl⟩ .refl)
  exact scanComments_exchanged "/*a*/`$\x7b" "g\x7d`//b" "a.ts"
    (.regex [.oneOf [.plain '/', .plain '"'], .escape '/'])
    (.regex [.plain '\'', .plain '\x60', .plain '+'])
    (by simp [Literal.WellFormed, RegexPart.WellFormed, StringPart.FitsInClass])
    (by simp [Literal.WellFormed, RegexPart.WellFormed])
    rfl _ reached rfl fun _ => rfl

end DirectiveLint
