/-!
# Loose texts

Text that is written with escapes can hold half of a surrogate pair alone, which
is no character.  A loose text may hold such halves among its characters.  Most
texts do not: those are the plain ones, and only they have bytes.
-/

namespace DirectiveLint

/-- A letter of a loose text: a character, or half of a surrogate pair that stands alone. -/
inductive Letter
  | whole (character : Char)
  | half (index : Fin 2048)
  deriving DecidableEq, Repr

instance : Coe Char Letter := ⟨.whole⟩

namespace Letter

/-- The first code of a surrogate. -/
def firstSurrogate : Nat := 0xd800

/-- The code of a letter. -/
def code : Letter → Nat
  | .whole character => character.toNat
  | .half index => firstSurrogate + index

/-- The letter that a code unit stands for by itself. -/
def ofCodeUnit (unit : Nat) : Letter :=
  if isHalf : firstSurrogate ≤ unit ∧ unit < firstSurrogate + 2048 then
    .half ⟨unit - firstSurrogate, by omega⟩
  else .whole (Char.ofNat unit)

/-- The character that a letter is. -/
def character? : Letter → Option Char
  | .whole character => some character
  | .half _ => none

/-- The characters that letters are, if none of them is a half. -/
def characters? (letters : List Letter) : Option (List Char) :=
  letters.mapM character?

/-- Whether a letter is a character that passes a test. -/
def satisfies (test : Char → Bool) : Letter → Bool
  | .whole character => test character
  | .half _ => false

end Letter

/-- A text without halves, or what there is before its first half, that half, and the text behind
it. -/
inductive LooseText
  | plain (text : String)
  | broken (before : String) (half : Fin 2048) (after : LooseText)
  deriving DecidableEq, Repr, Inhabited

instance : Coe String LooseText := ⟨.plain⟩

namespace LooseText

/-- The letters of a text. -/
def letters : LooseText → List Letter
  | .plain text => text.toList.map .whole
  | .broken before half after =>
    before.toList.map .whole ++ .half half :: after.letters

/-- The text of letters behind some characters, which are given from the last to the first. -/
def ofLettersAfter (before : List Char) : List Letter → LooseText
  | [] => .plain (String.ofList before.reverse)
  | .whole character :: rest => ofLettersAfter (character :: before) rest
  | .half half :: rest => .broken (String.ofList before.reverse) half (ofLettersAfter [] rest)

/-- The text of letters. -/
def ofLetters (letters : List Letter) : LooseText :=
  ofLettersAfter [] letters

theorem ofLettersAfter_map_whole_append (before characters : List Char) (rest : List Letter) :
    ofLettersAfter before (characters.map .whole ++ rest) =
      ofLettersAfter (characters.reverse ++ before) rest := by
  induction characters generalizing before with
  | nil => rfl
  | cons character others inductionHypothesis =>
      rw [List.map_cons, List.cons_append, ofLettersAfter, inductionHypothesis]
      simp

/-- A text is made up of its letters. -/
@[simp] theorem ofLetters_letters (text : LooseText) : ofLetters text.letters = text := by
  induction text with
  | plain text =>
      have whole := ofLettersAfter_map_whole_append [] text.toList []
      simpa [ofLetters, letters, ofLettersAfter] using whole
  | broken before half after inductionHypothesis =>
      rw [ofLetters, letters, ofLettersAfter_map_whole_append, ofLettersAfter, ← ofLetters,
        inductionHypothesis]
      simp

/-- One text behind another. -/
def append : LooseText → LooseText → LooseText
  | .plain text, .plain more => .plain (text ++ more)
  | .plain text, .broken before half after => .broken (text ++ before) half after
  | .broken before half after, more => .broken before half (after.append more)

instance : Append LooseText := ⟨append⟩

def isEmpty : LooseText → Bool
  | .plain text => text.isEmpty
  | .broken _ _ _ => false

@[simp] theorem isEmpty_iff {text : LooseText} : text.isEmpty = true ↔ text = .plain "" := by
  cases text <;> simp [isEmpty]

/-- The text as a text of characters, if it has no halves. -/
def plain? : LooseText → Option String
  | .plain text => some text
  | .broken _ _ _ => none

/-- Whether a text has no halves. -/
def isPlain (text : LooseText) : Bool :=
  text.plain?.isSome

@[simp] theorem isPlain_plain (text : String) : isPlain (.plain text) = true := rfl

theorem isPlain_iff {text : LooseText} : text.isPlain = true ↔ ∃ whole, text = .plain whole := by
  cases text <;> simp [isPlain, plain?]

@[simp] theorem isPlain_append (text more : LooseText) :
    (text ++ more).isPlain = (text.isPlain && more.isPlain) := by
  cases text <;> cases more <;> rfl

/-- Texts one after the other with a separator between them. -/
def intercalate (separator : LooseText) : List LooseText → LooseText
  | [] => .plain ""
  | [text] => text
  | text :: rest => text ++ separator ++ intercalate separator rest

/-- Whether a text comes no later than another one by the codes of their letters. -/
def areInOrder (first second : LooseText) : Bool :=
  !List.lex (second.letters.map Letter.code) (first.letters.map Letter.code)
    fun code other => decide (code < other)

end LooseText
end DirectiveLint
