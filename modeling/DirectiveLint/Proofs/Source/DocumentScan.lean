import DirectiveLint.Proofs.Source.Document
import DirectiveLint.Proofs.Source.Place

/-!
# Scanning documents

Scanning a printed document gives the comments that are counted along its
structure.  The statement that goes through by induction is about a document in
front of any text: whatever is found in that text is found after the comments of
the document, and the open expressions of templates are as they were.

The scanner takes a word in one step, while a document lists its characters one
by one.  A text is therefore read from the end of the word that it begins with,
where it makes no difference how the word began.
-/

namespace DirectiveLint
namespace Source

open Scan

/-- Whether the scanner finds certain comments in a text, whatever the preceding code and wherever
the text begins.  A word at the front has been passed. -/
def ReadsAs (braces : List Nat) (text : List Char) (found : Nat → List Lexeme) : Prop :=
  ∀ (position : Nat) (preceding : Preceding),
    (⟨position + (text.takeWhile isWordCharacter).length, text.dropWhile isWordCharacter, braces,
      preceding⟩ : Scan).lexemes = found position

section

variable {braces : List Nat} {text tail : List Char} {found : Nat → List Lexeme}

theorem opening_of_not_mem_reserved {scan : Scan} {character : Char} {rest : List Char}
    (plain : character ∉ reserved) : scan.opening character rest = .code := by
  simp only [reserved, List.mem_cons, List.not_mem_nil, or_false, not_or] at plain
  rcases plain with ⟨slash, single, double, backtick, braceOpen, braceClose⟩
  simp only [opening, slash, single, double, backtick, braceOpen, braceClose, false_and, or_self,
    if_false]

theorem not_isWordCharacter_of_mem_reserved {character : Char} (member : character ∈ reserved) :
    isWordCharacter character = false := by
  simp only [reserved, List.mem_cons, List.not_mem_nil, or_false] at member
  rcases member with rfl | rfl | rfl | rfl | rfl | rfl <;> decide

/-- Code is passed up to the end of the word that it begins. -/
theorem lexemes_of_code {position : Nat} {preceding : Preceding} {character : Char}
    (plain : character ∉ reserved) :
    (⟨position, character :: tail, braces, preceding⟩ : Scan).lexemes =
      (⟨position + (codeLength character tail + 1), tail.drop (codeLength character tail), braces,
        codePreceding preceding character tail⟩ : Scan).lexemes :=
  lexemes_of_passes rfl (passes_code (opening_of_not_mem_reserved plain))

/-- A text that does not begin with a word is read from its first character. -/
theorem readsAs_of_mark {character : Char} (mark : isWordCharacter character = false)
    (read : ∀ (position : Nat) (preceding : Preceding),
      (⟨position, character :: tail, braces, preceding⟩ : Scan).lexemes = found position) :
    ReadsAs braces (character :: tail) found := by
  intro position preceding
  have stop : ¬ isWordCharacter character = true := by simp [mark]
  rw [List.takeWhile_cons_of_neg stop, List.dropWhile_cons_of_neg stop]
  exact read position preceding

/-- The comments of a text are found from its first character, too. -/
theorem ReadsAs.lexemes_eq (reads : ReadsAs braces text found) (position : Nat)
    (preceding : Preceding) :
    (⟨position, text, braces, preceding⟩ : Scan).lexemes = found position := by
  cases text with
  | nil => exact reads position preceding
  | cons character rest =>
      by_cases word : isWordCharacter character = true
      · have plain : character ∉ reserved := by
          intro member
          rw [not_isWordCharacter_of_mem_reserved member] at word
          cases word
        have here := reads position (codePreceding preceding character rest)
        rw [List.takeWhile_cons_of_pos word, List.dropWhile_cons_of_pos word,
          List.length_cons] at here
        rw [lexemes_of_code plain, codeLength, if_pos word, drop_length_takeWhile]
        exact here
      · have here := reads position preceding
        rw [List.takeWhile_cons_of_neg word, List.dropWhile_cons_of_neg word] at here
        exact here

/-! ## Items -/

theorem readsAs_code {character : Char} (plain : character ∉ reserved)
    (reads : ReadsAs braces tail found) :
    ReadsAs braces (character :: tail) fun position => found (position + 1) := by
  by_cases word : isWordCharacter character = true
  · intro position preceding
    have here := reads (position + 1) preceding
    rw [Nat.add_right_comm] at here
    rw [List.takeWhile_cons_of_pos word, List.dropWhile_cons_of_pos word]
    exact here
  · apply readsAs_of_mark (Bool.eq_false_iff.mpr word)
    intro position preceding
    rw [lexemes_of_code plain, codeLength, if_neg word]
    exact reads.lexemes_eq (position + 1) _

theorem readsAs_block {value : List Char} (noClose : ¬ ['*', '/'] <:+: value)
    (reads : ReadsAs braces tail found) :
    ReadsAs braces ('/' :: '*' :: (value ++ '*' :: '/' :: tail)) fun position =>
      ⟨.block, value, position, position + (value.length + 4)⟩ ::
        found (position + (value.length + 4)) := by
  apply readsAs_of_mark (by decide)
  intro position preceding
  rw [lexemes_of_begins (Begins.block tail noClose)]
  exact congrArg _ (reads.lexemes_eq (position + (value.length + 4)) preceding)

theorem readsAs_line {value : List Char} (oneLine : '\n' ∉ value)
    (noReturn : value.getLast? ≠ some '\r') (reads : ReadsAs braces tail found) :
    ReadsAs braces ('/' :: '/' :: (value ++ '\n' :: tail)) fun position =>
      ⟨.line, value, position, position + (value.length + 2)⟩ ::
        found (position + (value.length + 3)) := by
  apply readsAs_of_mark (by decide)
  intro position preceding
  have feed : (⟨position + (value.length + 2), '\n' :: tail, braces, preceding⟩ : Scan).lexemes =
      found (position + (value.length + 2) + 1) :=
    (readsAs_code (by decide) reads).lexemes_eq _ preceding
  rw [lexemes_of_begins (Begins.line oneLine (Or.inl ⟨Or.inr rfl, noReturn⟩))]
  exact congrArg _ feed

theorem stringExtent_parts {quote : Quote} {body : List StringPart}
    (fits : ∀ part ∈ body, part.FitsIn quote) :
    stringExtent quote.mark false (body.flatMap StringPart.text ++ quote.mark :: tail) =
      (body.flatMap StringPart.text).length + 1 := by
  induction body with
  | nil =>
      have noEscape : quote.mark ≠ '\\' := by cases quote <;> decide
      simp [stringExtent, noEscape]
  | cons part rest inductionHypothesis =>
      have later := inductionHypothesis
        fun other member => fits other (List.mem_cons_of_mem _ member)
      have first := fits part List.mem_cons_self
      rw [List.flatMap_cons, List.append_assoc]
      cases part with
      | plain character =>
          rcases first with ⟨noQuote, noEscape, noFeed⟩
          simp [StringPart.text, stringExtent, noQuote, noEscape, noFeed, later]
      | escape character =>
          simp [StringPart.text, stringExtent, later]

theorem readsAs_string {quote : Quote} {body : List StringPart}
    (fits : ∀ part ∈ body, part.FitsIn quote) (reads : ReadsAs braces tail found) :
    ReadsAs braces (quote.mark :: (body.flatMap StringPart.text ++ quote.mark :: tail))
      fun position => found (position + ((body.flatMap StringPart.text).length + 2)) := by
  apply readsAs_of_mark (not_isWordCharacter_of_mem_reserved (by cases quote <;> decide))
  intro position preceding
  have opens : ∀ rest, (⟨position, quote.mark :: rest, braces, preceding⟩ : Scan).opening quote.mark
      rest = .string := by
    intro rest
    cases quote <;> simp [opening, Quote.mark]
  have whole : (body.flatMap StringPart.text ++ quote.mark :: tail).drop
      ((body.flatMap StringPart.text).length + 1) = tail := by
    rw [← List.drop_drop, List.drop_left]
    rfl
  rw [lexemes_of_passes rfl (passes_string (opens _)), stringExtent_parts fits, afterPass, whole]
  exact reads.lexemes_eq _ _

/-- The braces within one more pair of braces. -/
def deepened : List Nat → List Nat
  | [] => []
  | depth :: outer => (depth + 1) :: outer

theorem lexemes_of_braceOpen (position : Nat) (preceding : Preceding) :
    ∃ inner, (⟨position, '{' :: tail, braces, preceding⟩ : Scan).lexemes =
      (⟨position + 1, tail, deepened braces, inner⟩ : Scan).lexemes := by
  cases braces with
  | nil => exact ⟨_, lexemes_of_passes rfl (passes_code (by simp [opening]))⟩
  | cons depth outer =>
      exact ⟨_, lexemes_of_passes rfl (passes_braceOpen rfl (by simp [opening]))⟩

theorem lexemes_of_braceClose (position : Nat) (preceding : Preceding) :
    ∃ after, (⟨position, '}' :: tail, deepened braces, preceding⟩ : Scan).lexemes =
      (⟨position + 1, tail, braces, after⟩ : Scan).lexemes := by
  cases braces with
  | nil => exact ⟨_, lexemes_of_passes rfl (passes_code (by simp [opening, deepened]))⟩
  | cons depth outer =>
      exact ⟨_, lexemes_of_passes rfl (passes_braceClose rfl (by simp [opening, deepened]))⟩

/-! ## Templates -/

/-- Whether the scanner finds certain comments in a text that it enters within a template, after one
more character. -/
def TemplateReadsAs (braces : List Nat) (text : List Char) (found : Nat → List Lexeme) : Prop :=
  ∀ (position : Nat) (preceding : Preceding) (character : Char),
    ((⟨position, character :: text, braces, preceding⟩ : Scan).passTemplate text).lexemes =
      found (position + 1)

theorem TemplateReadsAs.congr {other : Nat → List Lexeme}
    (reads : TemplateReadsAs braces text found)
    (same : ∀ position, found position = other position) : TemplateReadsAs braces text other := by
  intro position preceding character
  rw [reads position preceding character, same]

theorem templateReadsAs_end (reads : ReadsAs braces tail found) :
    TemplateReadsAs braces ('\x60' :: tail) fun position => found (position + 1) := by
  intro position preceding character
  exact reads.lexemes_eq (position + 2) (.mark '\x60')

/-- What follows a text matters to no character in front of it, unless it begins with a brace. -/
theorem isTemplateText_append {character : Char} (plain : IsTemplateText character text)
    (next : List Char) (noBrace : next.head? ≠ some '{') :
    IsTemplateText character (text ++ next) := by
  rcases plain with ⟨noEnd, noEscape, noExpression⟩
  refine ⟨noEnd, noEscape, ?_⟩
  cases text with
  | nil => exact fun opens => noBrace opens.2
  | cons first rest => exact noExpression

theorem templateReadsAs_plain {character : Char} (plain : IsTemplateText character text)
    (reads : TemplateReadsAs braces text found) :
    TemplateReadsAs braces (character :: text) fun position => found (position + 1) := by
  intro position preceding before
  rcases plain with ⟨noEnd, noEscape, noExpression⟩
  have extent : templateExtent false (character :: text) = (templateExtent false text).succ := by
    simp only [templateExtent, noEnd, noEscape, noExpression, Bool.false_eq_true, if_false]
  have moved : position + ((templateExtent false text).length + 1 + 1) =
      position + 1 + ((templateExtent false text).length + 1) := by omega
  change _ = found (position + 1 + 1)
  rw [← reads (position + 1) preceding character]
  simp only [passTemplate, extent, TemplateExtent.succ, advance, List.drop_succ_cons, moved]

theorem templateReadsAs_escape (character : Char) (reads : TemplateReadsAs braces text found) :
    TemplateReadsAs braces ('\\' :: character :: text) fun position => found (position + 2) := by
  intro position preceding before
  have extent : templateExtent false ('\\' :: character :: text) =
      (templateExtent false text).succ.succ := by
    simp [templateExtent]
  have moved : position + ((templateExtent false text).length + 1 + 1 + 1) =
      position + 2 + ((templateExtent false text).length + 1) := by omega
  change _ = found (position + 1 + 2)
  rw [show position + 1 + 2 = position + 2 + 1 by omega,
    ← reads (position + 2) preceding character]
  simp only [passTemplate, extent, TemplateExtent.succ, advance, List.drop_succ_cons, moved]

/-- An expression is entered without open braces, and its closing brace leads back. -/
theorem templateReadsAs_expression {body : List Char} {inside : Nat → List Lexeme}
    (within : ∀ {later : Nat → List Lexeme}, ReadsAs (0 :: braces) ('}' :: text) later →
      ReadsAs (0 :: braces) (body ++ '}' :: text) fun position =>
        inside position ++ later (position + body.length))
    (reads : TemplateReadsAs braces text found) :
    TemplateReadsAs braces ('$' :: '{' :: (body ++ '}' :: text)) fun position =>
      inside (position + 2) ++ found (position + (body.length + 3)) := by
  intro position preceding before
  have closes : ReadsAs (0 :: braces) ('}' :: text) fun start => found (start + 1) := by
    apply readsAs_of_mark (by decide)
    intro start inner
    rw [lexemes_of_rest_eq_cons rfl]
    exact reads start inner '}'
  have opened := (within closes).lexemes_eq (position + 3) (.mark '{')
  change _ = inside (position + 3) ++ found (position + 1 + (body.length + 3))
  rw [show position + 1 + (body.length + 3) = position + 3 + body.length + 1 by omega]
  exact opened

/-! ## Documents -/

mutual

theorem Item.readsAs (item : Item) (wellFormed : item.WellFormed) {braces : List Nat}
    {tail : List Char} {found : Nat → List Lexeme} (reads : ReadsAs braces tail found) :
    ReadsAs braces (item.text ++ tail) fun position =>
      item.commentsAt position ++ found (position + item.text.length) := by
  match item with
  | .code character => exact readsAs_code wellFormed reads
  | .group body =>
      have closes : ReadsAs (deepened braces) ('}' :: tail) fun start => found (start + 1) := by
        apply readsAs_of_mark (by decide)
        intro start inner
        rcases lexemes_of_braceClose start inner with ⟨after, closed⟩
        rw [closed]
        exact reads.lexemes_eq (start + 1) after
      have within := Document.readsAs body wellFormed closes
      have text : Item.text (.group body) ++ tail =
          '{' :: (Document.text body ++ '}' :: tail) := by
        simp [Item.text]
      rw [text]
      apply readsAs_of_mark (by decide)
      intro position preceding
      rcases lexemes_of_braceOpen position preceding with ⟨inner, opened⟩
      rw [opened, within.lexemes_eq (position + 1) inner]
      simp only [Item.commentsAt, Item.text, List.length_cons, List.length_append, List.length_nil]
      rw [show position + ((Document.text body).length + (0 + 1) + 1) =
        position + 1 + (Document.text body).length + 1 by omega]
  | .string quote body =>
      have read := readsAs_string wellFormed reads
      simpa [Item.text, Item.commentsAt] using read
  | .block value =>
      have read := readsAs_block wellFormed reads
      simpa [Item.text, Item.commentsAt] using read
  | .line value =>
      have read := readsAs_line wellFormed.1 wellFormed.2 reads
      simpa [Item.text, Item.commentsAt] using read
  | .template body =>
      have within := TemplatePart.allReadAs body wellFormed reads
      have text : Item.text (.template body) ++ tail =
          '\x60' :: (TemplatePart.textOfAll body ++ '\x60' :: tail) := by
        simp [Item.text]
      rw [text]
      apply readsAs_of_mark (by decide)
      intro position preceding
      rw [lexemes_of_rest_eq_cons rfl]
      have read := within position preceding '\x60'
      change Scan.lexemes (passTemplate _ _) = _
      rw [read, Item.commentsAt, Item.text, List.length_cons, List.length_append]
      rw [show position + ((TemplatePart.textOfAll body).length + ['\x60'].length + 1) =
        position + 1 + (TemplatePart.textOfAll body).length + 1 by simp; omega]

theorem Document.readsAs (document : List Item) (wellFormed : Document.WellFormed document)
    {braces : List Nat} {tail : List Char} {found : Nat → List Lexeme}
    (reads : ReadsAs braces tail found) :
    ReadsAs braces (Document.text document ++ tail) fun position =>
      Document.commentsAt position document ++
        found (position + (Document.text document).length) := by
  match document with
  | [] => exact reads
  | item :: rest =>
      have later := Document.readsAs rest wellFormed.2 reads
      have here := Item.readsAs item wellFormed.1 later
      simpa [Document.text, Document.commentsAt, Nat.add_assoc] using here

theorem TemplatePart.allReadAs (parts : List TemplatePart)
    (wellFormed : TemplatePart.AllWellFormed parts) {braces : List Nat} {tail : List Char}
    {found : Nat → List Lexeme} (reads : ReadsAs braces tail found) :
    TemplateReadsAs braces (TemplatePart.textOfAll parts ++ '\x60' :: tail) fun position =>
      TemplatePart.commentsOfAllAt position parts ++
        found (position + (TemplatePart.textOfAll parts).length + 1) := by
  match parts with
  | [] => exact templateReadsAs_end reads
  | .plain character :: rest =>
      have later := TemplatePart.allReadAs rest wellFormed.2 reads
      have length : (TemplatePart.text (.plain character)).length = 1 := rfl
      have plain := isTemplateText_append wellFormed.1 ('\x60' :: tail) (by simp)
      refine (templateReadsAs_plain plain later).congr fun position => ?_
      rw [TemplatePart.commentsOfAllAt, TemplatePart.textOfAll, List.length_append, length]
      simp only [TemplatePart.commentsAt, List.nil_append, Nat.add_assoc]
  | .escape character :: rest =>
      have later := TemplatePart.allReadAs rest wellFormed.2 reads
      have length : (TemplatePart.text (.escape character)).length = 2 := rfl
      refine (templateReadsAs_escape character later).congr fun position => ?_
      rw [TemplatePart.commentsOfAllAt, TemplatePart.textOfAll, List.length_append, length]
      simp only [TemplatePart.commentsAt, List.nil_append, Nat.add_assoc]
  | .expression body :: rest =>
      have later := TemplatePart.allReadAs rest wellFormed.2 reads
      have length : (TemplatePart.text (.expression body)).length =
          (Document.text body).length + 3 := by
        simp [TemplatePart.text]
      have text : TemplatePart.textOfAll (.expression body :: rest) ++ '\x60' :: tail =
          '$' :: '{' :: (Document.text body ++
            '}' :: (TemplatePart.textOfAll rest ++ '\x60' :: tail)) := by
        simp [TemplatePart.textOfAll, TemplatePart.text]
      rw [text]
      refine (templateReadsAs_expression (fun inner => Document.readsAs body wellFormed.1 inner)
        later).congr fun position => ?_
      rw [TemplatePart.commentsOfAllAt, TemplatePart.textOfAll, List.length_append, length]
      simp only [TemplatePart.commentsAt, List.append_assoc, Nat.add_assoc]

end

end

/-- Scanning the text of a document gives its comments, with their values and places. -/
theorem scanComments_text (document : Document) (wellFormed : Document.WellFormed document)
    (file : String) :
    scanComments (String.ofList (Document.text document)) file =
      (Document.commentsAt 0 document).map
        (·.toComment (LineIndex.ofText file (Document.text document))) := by
  have finished : ReadsAs [] [] fun _ => [] := fun position preceding =>
    lexemes_of_rest_eq_nil rfl
  have read := (Document.readsAs document wellFormed finished).lexemes_eq 0
    (Scan.start []).preceding
  rw [List.append_nil] at read
  have found : lexemes (Document.text document) = Document.commentsAt 0 document := by
    rw [← List.append_nil (Document.commentsAt 0 document)]
    exact read
  simp only [scanComments, String.toList_ofList, found]

/-- A comment in braces, a string with slashes and an escaped backtick within a template. -/
theorem scanComments_text_template :
    (scanComments "`a$\x7b\x7b/* */'//'\x7d\x7d\\`//`//x\n" "a.ts").map
        (fun comment => (comment.kind, comment.value, comment.span.start, comment.span.stop)) =
      [(.block, " ", 5, 10), (.line, "x", 21, 24)] := by
  have wellFormed : Document.WellFormed
      [.template [.plain 'a', .expression [.group [.block [' '],
        .string .single [.plain '/', .plain '/']]], .escape '\x60', .plain '/', .plain '/'],
        .line ['x']] := by
    simp [Document.WellFormed, Item.WellFormed, TemplatePart.AllWellFormed, TemplatePart.WellFormed,
      IsTemplateText, StringPart.FitsIn, Quote.mark]
    decide
  exact congrArg _ (scanComments_text _ wellFormed "a.ts")

end Source
end DirectiveLint
