import DirectiveLint.Source.Literal
import Mathlib.Data.List.TakeWhile

/-!
# What the extents of literals and comments depend on

A literal or a comment ends where its own text says so.  The first half of this
module states that for comments: the value of a line comment and the body of a
block comment are read off any text that is put together from a value without a
terminator and a terminator.  Every text is put together in this way.

The second half is about literals.  What follows a literal does not change its
extent: the same stretch has the same extent in front of any other text.  Two
exceptions are visible in the assumptions.  A literal that the end of the text
cuts off has to stay at the end, and a regular expression looks at the first
character that follows it, which may be a line feed or one more letter.
-/

namespace DirectiveLint
namespace Source

theorem takeWhile_append_of_stop {accepts : Char → Bool} {front back : List Char}
    (inside : ∀ character ∈ front, accepts character = true)
    (stops : ∀ character, back.head? = some character → accepts character = false) :
    (front ++ back).takeWhile accepts = front := by
  rw [List.takeWhile_append_of_pos inside]
  cases back with
  | nil => simp
  | cons first after => simp [stops first rfl]

theorem take_length_takeWhile (accepts : Char → Bool) (text : List Char) :
    text.take (text.takeWhile accepts).length = text.takeWhile accepts :=
  (List.prefix_iff_eq_take.mp (List.takeWhile_prefix accepts)).symm

theorem drop_length_takeWhile (accepts : Char → Bool) (text : List Char) :
    text.drop (text.takeWhile accepts).length = text.dropWhile accepts := by
  have together := List.take_append_drop (text.takeWhile accepts).length text
  rw [take_length_takeWhile] at together
  exact List.append_cancel_left (together.trans List.takeWhile_append_dropWhile.symm)

/-- What is taken while a test holds is taken again in front of another text at which the test
fails. -/
theorem takeWhile_take_append (accepts : Char → Bool) {text other : List Char}
    (stops : (∀ character, (text.drop (text.takeWhile accepts).length).head? = some character →
        accepts character = false) →
      ∀ character, other.head? = some character → accepts character = false) :
    (text.take (text.takeWhile accepts).length ++ other).takeWhile accepts =
      text.takeWhile accepts := by
  rw [take_length_takeWhile]
  refine takeWhile_append_of_stop (fun _ member => List.mem_takeWhile_imp member) (stops ?_)
  intro character first
  have stopped := List.head?_dropWhile_not accepts text
  rw [← drop_length_takeWhile, first] at stopped
  exact stopped

/-! ## Comments -/

/-- Whether the line is over. -/
def AtLineEnd (tail : List Char) : Prop :=
  tail = [] ∨ tail.head? = some '\n'

/-- What may follow the value of a line comment.  A carriage return before the end of the line does
not belong to the value, so the value keeps one only in front of another. -/
def EndsLine (value tail : List Char) : Prop :=
  (AtLineEnd tail ∧ value.getLast? ≠ some '\r') ∨
    ∃ after, tail = '\r' :: after ∧ AtLineEnd after

theorem takeWhile_append_atLineEnd {line tail : List Char} (oneLine : '\n' ∉ line)
    (atEnd : AtLineEnd tail) : (line ++ tail).takeWhile (· ≠ '\n') = line := by
  apply takeWhile_append_of_stop
  · intro character member
    exact decide_eq_true fun equal => oneLine (equal ▸ member)
  · intro character first
    rcases atEnd with rfl | feed
    · cases first
    · have equal : character = '\n' := Option.some.inj (first.symm.trans feed)
      simp [equal]

/-- A value is read back in front of every end of its line. -/
theorem lineValue_append {value tail : List Char} (oneLine : '\n' ∉ value)
    (ends : EndsLine value tail) : lineValue (value ++ tail) = value := by
  rcases ends with ⟨atEnd, noReturn⟩ | ⟨after, rfl, atEnd⟩
  · simp only [lineValue, takeWhile_append_atLineEnd oneLine atEnd, if_neg noReturn]
  · have line : (value ++ '\r' :: after).takeWhile (· ≠ '\n') = value ++ ['\r'] := by
      have longer : '\n' ∉ value ++ ['\r'] := by simpa using oneLine
      have together := takeWhile_append_atLineEnd longer atEnd
      rwa [List.append_assoc, List.singleton_append] at together
    simp only [lineValue, line, List.getLast?_concat, if_true, List.dropLast_concat]

/-- Every text begins with the value of a line comment and goes on with the end of the line. -/
theorem exists_eq_lineValue_append (body : List Char) :
    ∃ tail, body = lineValue body ++ tail ∧ '\n' ∉ lineValue body ∧
      EndsLine (lineValue body) tail := by
  have split : body = body.takeWhile (· ≠ '\n') ++ body.dropWhile (· ≠ '\n') :=
    (List.takeWhile_append_dropWhile).symm
  have oneLine : '\n' ∉ body.takeWhile (· ≠ '\n') := by
    intro member
    simpa using List.mem_takeWhile_imp member
  have atEnd : AtLineEnd (body.dropWhile (· ≠ '\n')) := by
    cases rest : body.dropWhile (· ≠ '\n') with
    | nil => exact Or.inl rfl
    | cons first after =>
        have stopped := List.head?_dropWhile_not (fun character : Char => character ≠ '\n') body
        rw [rest] at stopped
        exact Or.inr (by simpa using stopped)
  by_cases last : (body.takeWhile (· ≠ '\n')).getLast? = some '\r'
  · have value : lineValue body = (body.takeWhile (· ≠ '\n')).dropLast := by
      simp only [lineValue, if_pos last]
    rcases List.getLast?_eq_some_iff.mp last with ⟨front, line⟩
    have front_eq : (body.takeWhile (· ≠ '\n')).dropLast = front := by
      rw [line, List.dropLast_concat]
    refine ⟨'\r' :: body.dropWhile (· ≠ '\n'), ?_, ?_, Or.inr ⟨_, rfl, atEnd⟩⟩
    · calc
        body = body.takeWhile (· ≠ '\n') ++ body.dropWhile (· ≠ '\n') := split
        _ = (front ++ ['\r']) ++ body.dropWhile (· ≠ '\n') := by rw [line]
        _ = lineValue body ++ '\r' :: body.dropWhile (· ≠ '\n') := by
          rw [value, front_eq, List.append_assoc, List.singleton_append]
    · rw [value]
      exact fun member => oneLine (List.dropLast_subset _ member)
  · have value : lineValue body = body.takeWhile (· ≠ '\n') := by
      simp only [lineValue, if_neg last]
    rw [value]
    exact ⟨_, split, oneLine, Or.inl ⟨atEnd, last⟩⟩

/-- The end of a block comment occurs in a text with one more character in front only if it occurs
in the text, or right at the front. -/
theorem close_infix_cons_iff {character : Char} {rest : List Char} :
    ['*', '/'] <:+: character :: rest ↔
      (character = '*' ∧ rest.head? = some '/') ∨ ['*', '/'] <:+: rest := by
  rw [List.infix_cons_iff]
  constructor
  · rintro (front | inside)
    · rw [List.cons_prefix_cons] at front
      rcases front with ⟨star, slash⟩
      rcases slash with ⟨after, equal⟩
      exact Or.inl ⟨star.symm, by rw [← equal]; rfl⟩
    · exact Or.inr inside
  · rintro (⟨rfl, slash⟩ | inside)
    · cases rest with
      | nil => cases slash
      | cons first after =>
          have equal : first = '/' := by simpa using slash
          exact Or.inl ⟨after, by rw [equal]; rfl⟩
    · exact Or.inr inside

theorem blockBody_append_close {value : List Char} (tail : List Char)
    (noClose : ¬ ['*', '/'] <:+: value) :
    blockBody (value ++ '*' :: '/' :: tail) = ⟨value, true⟩ := by
  induction value with
  | nil => simp [blockBody]
  | cons character rest inductionHypothesis =>
      rw [close_infix_cons_iff, not_or] at noClose
      -- A star at the end of the value stands before another star, not before the slash.
      have open' : ¬ (character = '*' ∧ (rest ++ '*' :: '/' :: tail).head? = some '/') := by
        rintro ⟨star, slash⟩
        cases rest with
        | nil => simp at slash
        | cons first after => exact noClose.1 ⟨star, slash⟩
      rw [List.cons_append, blockBody, if_neg open']
      simp only [inductionHypothesis noClose.2]

theorem blockBody_of_unclosed {value : List Char} (noClose : ¬ ['*', '/'] <:+: value) :
    blockBody value = ⟨value, false⟩ := by
  induction value with
  | nil => rfl
  | cons character rest inductionHypothesis =>
      rw [close_infix_cons_iff, not_or] at noClose
      rw [blockBody, if_neg noClose.1]
      simp only [inductionHypothesis noClose.2]

/-- Every text is the value of a block comment, alone or in front of the first end of one. -/
theorem exists_blockBody_eq (body : List Char) :
    ∃ value, ¬ ['*', '/'] <:+: value ∧
      ((blockBody body = ⟨value, false⟩ ∧ body = value) ∨
        ∃ tail, blockBody body = ⟨value, true⟩ ∧ body = value ++ '*' :: '/' :: tail) := by
  by_cases closes : ['*', '/'] <:+: body
  · induction body with
    | nil => simp at closes
    | cons character rest inductionHypothesis =>
        by_cases front : character = '*' ∧ rest.head? = some '/'
        · rcases front with ⟨rfl, slash⟩
          cases rest with
          | nil => cases slash
          | cons first after =>
              have equal : first = '/' := by simpa using slash
              subst equal
              have none : ¬ ['*', '/'] <:+: ([] : List Char) := by simp
              exact ⟨[], none, Or.inr ⟨after, blockBody_append_close after none, rfl⟩⟩
        · have inside := (close_infix_cons_iff.mp closes).resolve_left front
          rcases inductionHypothesis inside with ⟨value, noClose, ⟨_, rfl⟩ | ⟨tail, _, rfl⟩⟩
          · exact absurd inside noClose
          · have longer : ¬ ['*', '/'] <:+: character :: value := by
              rw [close_infix_cons_iff, not_or]
              refine ⟨?_, noClose⟩
              rintro ⟨star, slash⟩
              cases value with
              | nil => simp at slash
              | cons first after => exact front ⟨star, slash⟩
            exact ⟨character :: value, longer,
              Or.inr ⟨tail, blockBody_append_close tail longer, rfl⟩⟩
  · exact ⟨body, closes, Or.inl ⟨blockBody_of_unclosed closes, rfl⟩⟩

/-! ## Literals -/

/-- A string has the same extent in front of any other text, at the end only in front of nothing. -/
theorem stringExtent_take_append (quote : Char) (escaped : Bool) (text other : List Char)
    (cutOff : text.drop (stringExtent quote escaped text) = [] → other = []) :
    stringExtent quote escaped (text.take (stringExtent quote escaped text) ++ other) =
      stringExtent quote escaped text := by
  induction text generalizing escaped with
  | nil =>
      rw [cutOff (by simp)]
      simp
  | cons character rest inductionHypothesis =>
      cases escaped with
      | true =>
          simp only [stringExtent, if_true, List.take_succ_cons, List.drop_succ_cons,
            List.cons_append] at cutOff ⊢
          rw [inductionHypothesis false cutOff]
      | false =>
          by_cases backslash : character = '\\'
          · simp only [stringExtent, Bool.false_eq_true, if_false, if_pos backslash,
              List.take_succ_cons, List.drop_succ_cons, List.cons_append] at cutOff ⊢
            rw [inductionHypothesis true cutOff]
          · by_cases closing : character = quote ∨ character = '\n'
            · simp only [stringExtent, Bool.false_eq_true, if_false, if_neg backslash,
                if_pos closing, List.take_succ_cons, List.cons_append]
            · simp only [stringExtent, Bool.false_eq_true, if_false, if_neg backslash,
                if_neg closing, List.take_succ_cons, List.drop_succ_cons,
                List.cons_append] at cutOff ⊢
              rw [inductionHypothesis false cutOff]

theorem templateExtent_length_pos (character : Char) (rest : List Char) (escaped : Bool) :
    0 < (templateExtent escaped (character :: rest)).length := by
  simp only [templateExtent]
  split_ifs <;> simp [TemplateExtent.succ]

/-- A stretch of template text has the same extent in front of any other text, at the end only in
front of nothing. -/
theorem templateExtent_take_append (escaped : Bool) (text other : List Char)
    (cutOff : text.drop (templateExtent escaped text).length = [] → other = []) :
    templateExtent escaped (text.take (templateExtent escaped text).length ++ other) =
      templateExtent escaped text := by
  induction text generalizing escaped with
  | nil =>
      rw [cutOff (by simp)]
      simp
  | cons character rest inductionHypothesis =>
      cases escaped with
      | true =>
          simp only [templateExtent, if_true, TemplateExtent.succ, List.take_succ_cons,
            List.drop_succ_cons, List.cons_append] at cutOff ⊢
          rw [inductionHypothesis false cutOff]
      | false =>
          by_cases backslash : character = '\\'
          · simp only [templateExtent, Bool.false_eq_true, if_false, if_pos backslash,
              TemplateExtent.succ, List.take_succ_cons, List.drop_succ_cons,
              List.cons_append] at cutOff ⊢
            rw [inductionHypothesis true cutOff]
          · by_cases closing : character = '\x60'
            · simp only [templateExtent, Bool.false_eq_true, if_false, if_neg backslash,
                if_pos closing, List.take_succ_cons, List.cons_append]
            · by_cases embeds : character = '$' ∧ rest.head? = some '{'
              · rcases embeds with ⟨rfl, brace⟩
                cases rest with
                | nil => cases brace
                | cons first after =>
                    have equal : first = '{' := by simpa using brace
                    subst equal
                    simp [templateExtent]
              · have embeds' : ¬ (character = '$' ∧
                    (rest.take (templateExtent false rest).length ++ other).head? = some '{') := by
                  rintro ⟨dollar, brace⟩
                  cases rest with
                  | nil =>
                      rw [cutOff (by simp [dollar, templateExtent, TemplateExtent.succ])] at brace
                      simp at brace
                  | cons first after =>
                      rcases Nat.exists_eq_succ_of_ne_zero
                        (templateExtent_length_pos first after false).ne' with ⟨count, length⟩
                      rw [length] at brace
                      exact embeds ⟨dollar, brace⟩
                simp only [templateExtent, Bool.false_eq_true, if_false, if_neg backslash,
                  if_neg closing, if_neg embeds, TemplateExtent.succ, List.take_succ_cons,
                  List.drop_succ_cons, List.cons_append] at cutOff ⊢
                rw [if_neg embeds', inductionHypothesis false cutOff]

/-- A regular expression has the same extent in front of any other text, at the end only in front of
nothing.  Its line may not go on where it ended before, and no letter may follow where none did. -/
theorem regexExtent_take_append (inClass escaped : Bool) (text other : List Char)
    (cutOff : text.drop (regexExtent inClass escaped text) = [] → other = [])
    (feed : (text.drop (regexExtent inClass escaped text)).head? = some '\n' →
      other.head? = some '\n')
    (letter : (∀ character, (text.drop (regexExtent inClass escaped text)).head? = some character →
        Character.isAlphabetic character = false) →
      ∀ character, other.head? = some character → Character.isAlphabetic character = false) :
    regexExtent inClass escaped (text.take (regexExtent inClass escaped text) ++ other) =
      regexExtent inClass escaped text := by
  induction text generalizing inClass escaped with
  | nil =>
      rw [cutOff (by simp)]
      simp
  | cons character rest inductionHypothesis =>
      cases escaped with
      | true =>
          simp only [regexExtent, if_true, List.take_succ_cons, List.drop_succ_cons,
            List.cons_append] at cutOff feed letter ⊢
          rw [inductionHypothesis inClass false cutOff feed letter]
      | false =>
          by_cases backslash : character = '\\'
          · simp only [regexExtent, Bool.false_eq_true, if_false, if_pos backslash,
              List.take_succ_cons, List.drop_succ_cons, List.cons_append] at cutOff feed letter ⊢
            rw [inductionHypothesis inClass true cutOff feed letter]
          · by_cases lineFeed : character = '\n'
            · simp only [regexExtent, Bool.false_eq_true, if_false, if_neg backslash,
                if_pos lineFeed, List.take_zero, List.nil_append, List.drop_zero] at feed ⊢
              cases other with
              | nil => exact absurd (feed (by rw [lineFeed]; rfl)) (by simp)
              | cons first after =>
                  have equal : first = '\n' := by simpa [lineFeed] using feed
                  simp [regexExtent, equal]
            · by_cases opening : character = '['
              · simp only [regexExtent, Bool.false_eq_true, if_false, if_neg backslash,
                  if_neg lineFeed, if_pos opening, List.take_succ_cons, List.drop_succ_cons,
                  List.cons_append] at cutOff feed letter ⊢
                rw [inductionHypothesis true false cutOff feed letter]
              · by_cases closing : character = ']'
                · simp only [regexExtent, Bool.false_eq_true, if_false, if_neg backslash,
                    if_neg lineFeed, if_neg opening, if_pos closing, List.take_succ_cons,
                    List.drop_succ_cons, List.cons_append] at cutOff feed letter ⊢
                  rw [inductionHypothesis false false cutOff feed letter]
                · by_cases slash : character = '/' ∧ inClass = false
                  · simp only [regexExtent, Bool.false_eq_true, if_false, if_neg backslash,
                      if_neg lineFeed, if_neg opening, if_neg closing, if_pos slash,
                      List.take_succ_cons, List.drop_succ_cons, List.cons_append] at letter ⊢
                    rw [takeWhile_take_append _ letter]
                  · simp only [regexExtent, Bool.false_eq_true, if_false, if_neg backslash,
                      if_neg lineFeed, if_neg opening, if_neg closing, if_neg slash,
                      List.take_succ_cons, List.drop_succ_cons,
                      List.cons_append] at cutOff feed letter ⊢
                    rw [inductionHypothesis inClass false cutOff feed letter]

end Source
end DirectiveLint
