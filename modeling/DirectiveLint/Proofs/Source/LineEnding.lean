import DirectiveLint.Proofs.Source.Lines
import DirectiveLint.Proofs.Source.Place
import DirectiveLint.Text.Occurrence

/-!
# Texts with carriage returns

A text without carriage returns is given one in front of each line feed.  The
scanner then finds the same comments on the same lines and columns: a carriage
return is a blank in code and an ordinary character in a template, a line
comment drops it, and a line feed comes right after it wherever a literal stops
at the line end.

A backslash in a string or a regular expression is the exception.  It protects
one character only, which is the carriage return, and the line feed behind it
ends the literal that it did not end before.  So the comments stay where they
are for texts in which no literal, as the scanner passes it, holds a backslash
in front of a line feed.
-/

namespace DirectiveLint
namespace Source

/-- A text with a carriage return in front of each line feed. -/
def withReturns : List Char → List Char
  | [] => []
  | character :: rest =>
    if character = '\n' then '\r' :: '\n' :: withReturns rest else character :: withReturns rest

theorem withReturns_feed (rest : List Char) :
    withReturns ('\n' :: rest) = '\r' :: '\n' :: withReturns rest := by
  rw [withReturns, if_pos rfl]

theorem withReturns_cons {character : Char} (noFeed : character ≠ '\n') (rest : List Char) :
    withReturns (character :: rest) = character :: withReturns rest := by
  rw [withReturns, if_neg noFeed]

theorem withReturns_eq_nil_iff {text : List Char} : withReturns text = [] ↔ text = [] := by
  cases text with
  | nil => exact Iff.rfl
  | cons character rest =>
      by_cases feed : character = '\n' <;> simp [withReturns, feed]

theorem withReturns_append (front back : List Char) :
    withReturns (front ++ back) = withReturns front ++ withReturns back := by
  induction front with
  | nil => rfl
  | cons character rest inductionHypothesis =>
      by_cases feed : character = '\n'
      · rw [feed, List.cons_append, withReturns_feed, withReturns_feed, inductionHypothesis]
        rfl
      · rw [List.cons_append, withReturns_cons feed, withReturns_cons feed, inductionHypothesis]
        rfl

theorem withReturns_of_oneLine {text : List Char} (oneLine : '\n' ∉ text) :
    withReturns text = text := by
  induction text with
  | nil => rfl
  | cons character rest inductionHypothesis =>
      have noFeed : character ≠ '\n' := fun feed => oneLine (feed ▸ List.mem_cons_self)
      rw [withReturns_cons noFeed,
        inductionHypothesis fun member => oneLine (List.mem_cons_of_mem character member)]

/-- A text still begins with a character that does not end a line. -/
theorem head?_withReturns_eq_some_iff (text : List Char) {mark : Char} (noReturn : mark ≠ '\r')
    (noFeed : mark ≠ '\n') : (withReturns text).head? = some mark ↔ text.head? = some mark := by
  cases text with
  | nil => rfl
  | cons character rest =>
      by_cases feed : character = '\n'
      · rw [feed, withReturns_feed]
        simp [noReturn.symm, noFeed.symm]
      · rw [withReturns_cons feed]
        rfl

theorem count_withReturns (text : List Char) :
    (withReturns text).count '\n' = text.count '\n' := by
  induction text with
  | nil => rfl
  | cons character rest inductionHypothesis =>
      by_cases feed : character = '\n'
      · rw [feed, withReturns_feed, List.count_cons_of_ne (by decide), List.count_cons_self,
          List.count_cons_self, inductionHypothesis]
      · rw [withReturns_cons feed, List.count_cons_of_ne feed, List.count_cons_of_ne feed,
          inductionHypothesis]

/-- The last line has no line feed, so it stays as it is. -/
theorem rtakeWhile_withReturns (text : List Char) :
    (withReturns text).rtakeWhile (· ≠ '\n') = text.rtakeWhile (· ≠ '\n') := by
  induction text using List.reverseRecOn with
  | nil => rfl
  | append_singleton front character inductionHypothesis =>
      rw [withReturns_append]
      by_cases feed : character = '\n'
      · have two : withReturns [character] = ['\r'] ++ ['\n'] := by rw [feed]; rfl
        rw [two, ← List.append_assoc, List.rtakeWhile_concat_neg _ _ _ (by decide),
          List.rtakeWhile_concat_neg _ _ _ (by simpa using feed)]
      · have one : withReturns [character] = [character] := withReturns_cons feed []
        rw [one, List.rtakeWhile_concat_pos _ _ _ (by simpa using feed),
          List.rtakeWhile_concat_pos _ _ _ (by simpa using feed), inductionHypothesis]

theorem takeWhile_withReturns (accepts : Char → Bool) (noReturn : accepts '\r' = false)
    (noFeed : accepts '\n' = false) (text : List Char) :
    (withReturns text).takeWhile accepts = text.takeWhile accepts := by
  induction text with
  | nil => rfl
  | cons character rest inductionHypothesis =>
      by_cases feed : character = '\n'
      · rw [feed, withReturns_feed, List.takeWhile_cons_of_neg (by rw [noReturn]; decide),
          List.takeWhile_cons_of_neg (by rw [noFeed]; decide)]
      · rw [withReturns_cons feed, List.takeWhile_cons, List.takeWhile_cons, inductionHypothesis]

/-- A test that does not tell the two line ends apart stops at the same place. -/
theorem dropWhile_withReturns (accepts : Char → Bool) (alike : accepts '\r' = accepts '\n')
    (text : List Char) : (withReturns text).dropWhile accepts =
      withReturns (text.dropWhile accepts) := by
  induction text with
  | nil => rfl
  | cons character rest inductionHypothesis =>
      by_cases feed : character = '\n'
      · subst feed
        rw [withReturns_feed, List.dropWhile_cons, List.dropWhile_cons, List.dropWhile_cons, alike]
        split
        · exact inductionHypothesis
        · exact (withReturns_feed rest).symm
      · rw [withReturns_cons feed, List.dropWhile_cons, List.dropWhile_cons]
        split
        · exact inductionHypothesis
        · exact (withReturns_cons feed rest).symm

theorem drop_takeWhile_withReturns (accepts : Char → Bool) (noReturn : accepts '\r' = false)
    (noFeed : accepts '\n' = false) (text : List Char) :
    (withReturns text).drop (text.takeWhile accepts).length =
      withReturns (text.drop (text.takeWhile accepts).length) := by
  rw [← takeWhile_withReturns accepts noReturn noFeed, drop_length_takeWhile,
    dropWhile_withReturns accepts (noReturn.trans noFeed.symm),
    takeWhile_withReturns accepts noReturn noFeed, drop_length_takeWhile]

/-- What a text begins with is taken off in front of the carriage returns. -/
theorem dropStart?_withReturns {start : List Char} (noReturn : '\r' ∉ start) (noFeed : '\n' ∉ start)
    (text : List Char) :
    Text.dropStart? start (withReturns text) = (Text.dropStart? start text).map withReturns := by
  induction start generalizing text with
  | nil => simp [Text.dropStart?]
  | cons first start inductionHypothesis =>
      rw [List.mem_cons, not_or] at noReturn noFeed
      cases text with
      | nil => rfl
      | cons character rest =>
          by_cases feed : character = '\n'
          · rw [feed, withReturns_feed, Text.dropStart?, Text.dropStart?,
              if_neg (Ne.symm noReturn.1),
              if_neg (Ne.symm noFeed.1)]
            rfl
          · rw [withReturns_cons feed, Text.dropStart?, Text.dropStart?]
            split
            · exact inductionHypothesis noReturn.2 noFeed.2 rest
            · rfl

/-- Carriage returns do not come between the characters that end a block comment. -/
theorem close_infix_withReturns_iff (value : List Char) :
    ['*', '/'] <:+: withReturns value ↔ ['*', '/'] <:+: value := by
  induction value with
  | nil => rfl
  | cons character rest inductionHypothesis =>
      by_cases feed : character = '\n'
      · rw [feed, withReturns_feed, close_infix_cons_iff, close_infix_cons_iff,
          close_infix_cons_iff, inductionHypothesis]
        simp
      · rw [withReturns_cons feed, close_infix_cons_iff, close_infix_cons_iff,
          inductionHypothesis, head?_withReturns_eq_some_iff rest (by decide) (by decide)]

/-! ## Literals -/

/-- Whether a backslash protects a line feed. -/
def escapesFeed (escaped : Bool) : List Char → Bool
  | [] => false
  | character :: rest =>
    if escaped then character = '\n' || escapesFeed false rest
    else escapesFeed (character = '\\') rest

theorem drop_stringExtent_withReturns {quote : Char} (noReturn : quote ≠ '\r') (escaped : Bool)
    (text : List Char)
    (noEscape : escapesFeed escaped (text.take (stringExtent quote escaped text)) = false) :
    (withReturns text).drop (stringExtent quote escaped (withReturns text)) =
      withReturns (text.drop (stringExtent quote escaped text)) := by
  induction text generalizing escaped with
  | nil => simp [withReturns]
  | cons character rest inductionHypothesis =>
      by_cases feed : character = '\n'
      · subst feed
        cases escaped with
        | true => simp [stringExtent, escapesFeed] at noEscape
        | false => simp [withReturns, stringExtent, noReturn.symm]
      · rw [withReturns_cons feed]
        cases escaped with
        | true =>
            simp only [stringExtent, if_true, List.take_succ_cons, List.drop_succ_cons, escapesFeed,
              Bool.or_eq_false_iff] at noEscape ⊢
            exact inductionHypothesis false noEscape.2
        | false =>
            by_cases backslash : character = '\\'
            · subst backslash
              simp only [stringExtent, Bool.false_eq_true, if_false, if_true, List.take_succ_cons,
                List.drop_succ_cons, escapesFeed, decide_true] at noEscape ⊢
              exact inductionHypothesis true noEscape
            · by_cases closing : character = quote
              · simp [stringExtent, closing ▸ backslash, closing]
              · simp only [stringExtent, Bool.false_eq_true, if_false, backslash, closing, feed,
                  or_self, List.take_succ_cons, List.drop_succ_cons, escapesFeed,
                  decide_false] at noEscape ⊢
                exact inductionHypothesis false noEscape

theorem templateExtent_return_feed (escaped : Bool) (rest : List Char) :
    templateExtent escaped ('\r' :: '\n' :: rest) = (templateExtent false rest).succ.succ := by
  cases escaped <;> simp [templateExtent]

theorem templateExtent_feed (escaped : Bool) (rest : List Char) :
    templateExtent escaped ('\n' :: rest) = (templateExtent false rest).succ := by
  cases escaped <;> simp [templateExtent]

theorem templateExtent_withReturns (escaped : Bool) (text : List Char) :
    (templateExtent escaped (withReturns text)).embeds = (templateExtent escaped text).embeds ∧
      (withReturns text).drop (templateExtent escaped (withReturns text)).length =
        withReturns (text.drop (templateExtent escaped text).length) := by
  induction text generalizing escaped with
  | nil => simp [withReturns]
  | cons character rest inductionHypothesis =>
      by_cases feed : character = '\n'
      · subst feed
        rw [withReturns_feed, templateExtent_return_feed, templateExtent_feed]
        exact inductionHypothesis false
      · rw [withReturns_cons feed]
        by_cases protected' : escaped = true
        · simp only [templateExtent, protected', if_true]
          exact inductionHypothesis false
        · by_cases backslash : character = '\\'
          · simp only [templateExtent, if_neg protected', if_pos backslash]
            exact inductionHypothesis true
          · by_cases closing : character = '\x60'
            · simp [templateExtent, protected', closing]
            · have next : (withReturns rest).head? = some '{' ↔ rest.head? = some '{' :=
                head?_withReturns_eq_some_iff rest (by decide) (by decide)
              by_cases opens : character = '$' ∧ rest.head? = some '{'
              · simp only [templateExtent, if_neg protected', if_neg backslash, if_neg closing,
                  next,
                  if_pos opens, List.drop_succ_cons, true_and]
                rcases List.head?_eq_some_iff.mp opens.2 with ⟨after, rfl⟩
                rw [withReturns_cons (by decide)]
                rfl
              · simp only [templateExtent, if_neg protected', if_neg backslash, if_neg closing,
                  next,
                  if_neg opens]
                exact inductionHypothesis false

/-- What is left of a text and of the one with carriage returns.  Where a regular expression breaks
off at a line feed, the carriage return in front of it has been passed. -/
def Follows (text other : List Char) : Prop :=
  other = withReturns text ∨ ∃ rest, text = '\n' :: rest ∧ other = '\n' :: withReturns rest

theorem follows_drop_regexExtent (inClass escaped : Bool) (text : List Char)
    (noEscape : escapesFeed escaped (text.take (regexExtent inClass escaped text)) = false) :
    Follows (text.drop (regexExtent inClass escaped text))
      ((withReturns text).drop (regexExtent inClass escaped (withReturns text))) := by
  induction text generalizing inClass escaped with
  | nil => exact Or.inl (by simp [withReturns])
  | cons character rest inductionHypothesis =>
      by_cases feed : character = '\n'
      · subst feed
        cases escaped with
        | true => simp [regexExtent, escapesFeed] at noEscape
        | false => exact Or.inr ⟨rest, by simp [regexExtent], by simp [withReturns, regexExtent]⟩
      · rw [withReturns_cons feed]
        cases escaped with
        | true =>
            simp only [regexExtent, if_true, List.take_succ_cons, List.drop_succ_cons, escapesFeed,
              Bool.or_eq_false_iff] at noEscape ⊢
            exact inductionHypothesis inClass false noEscape.2
        | false =>
            by_cases backslash : character = '\\'
            · subst backslash
              simp only [regexExtent, Bool.false_eq_true, if_false, if_true, List.take_succ_cons,
                List.drop_succ_cons, escapesFeed, decide_true] at noEscape ⊢
              exact inductionHypothesis inClass true noEscape
            · by_cases closing : character = '/' ∧ inClass = false
              · have letters := takeWhile_withReturns Character.isAlphabetic (by decide)
                  (by decide) rest
                have later := drop_takeWhile_withReturns Character.isAlphabetic (by decide)
                  (by decide) rest
                simp only [regexExtent, closing, Bool.false_eq_true, if_false, and_self, if_true,
                  show ('/' : Char) ≠ '\\' by decide, show ('/' : Char) ≠ '\n' by decide,
                  show ('/' : Char) ≠ '[' by decide, show ('/' : Char) ≠ ']' by decide, letters,
                  List.drop_succ_cons]
                exact Or.inl later
              · have step : ∃ inner, ∀ after,
                    regexExtent inClass false (character :: after) =
                      regexExtent inner false after + 1 := by
                  by_cases opens : character = '['
                  · exact ⟨true, fun after => by simp [regexExtent, opens]⟩
                  · by_cases closes : character = ']'
                    · exact ⟨false, fun after => by simp [regexExtent, closes]⟩
                    · refine ⟨inClass, fun after => ?_⟩
                      simp only [regexExtent, Bool.false_eq_true, if_false, if_neg backslash,
                        if_neg feed, if_neg opens, if_neg closes, if_neg closing]
                rcases step with ⟨inner, step⟩
                simp only [step, List.take_succ_cons, List.drop_succ_cons, escapesFeed,
                  Bool.false_eq_true, if_false, backslash, decide_false] at noEscape ⊢
                exact inductionHypothesis inner false noEscape

end Source
end DirectiveLint
