import DirectiveLint.Proofs.Json.Printing

/-!
# Reading printed strings

What is printed for a text without halves is read as the same text.  The reader
keeps the first half of a surrogate pair back until it has seen what follows.  A
character beyond the first plane is printed as a whole pair, so nothing is kept
back where the next character begins.
-/

namespace DirectiveLint
namespace Json

variable {opening unit : Nat} {half : Option Nat} {character : Char} {rest : List Char}

/-! ## Code units -/

theorem hexValue?_digitChar {digit : Nat} (isDigit : digit < 16) :
    hexValue? digit.digitChar = some digit := by
  revert digit
  decide

theorem codeUnit?_digits (small : unit < 0x10000) :
    codeUnit? (unit / 16 / 16 / 16).digitChar (unit / 16 / 16 % 16).digitChar
      (unit / 16 % 16).digitChar (unit % 16).digitChar = some unit := by
  have first : unit / 16 / 16 / 16 < 16 := by omega
  have total : ((unit / 16 / 16 / 16 * 16 + unit / 16 / 16 % 16) * 16 + unit / 16 % 16) * 16 +
      unit % 16 = unit := by
    omega
  have digit (number : Nat) : hexValue? (number % 16).digitChar = some (number % 16) :=
    hexValue?_digitChar (Nat.mod_lt number (by decide))
  simp only [codeUnit?, hexValue?_digitChar first, digit, total]

/-! ## Strings -/

/-- An escape is joined to the half before it, or it ends that half. -/
theorem readString_unitEscape (small : unit < 0x10000) (more : rest ≠ []) :
    readString opening half (unitEscape unit ++ rest) =
      match half with
      | some high =>
        if isLowSurrogate unit then
          prepend (pairCharacter high unit) (readString opening none rest)
        else if isHighSurrogate unit then
          prepend (Letter.ofCodeUnit high) (readString opening (some unit) rest)
        else
          prepend (Letter.ofCodeUnit high)
            (prepend (Letter.ofCodeUnit unit) (readString opening none rest))
      | none =>
        if isHighSurrogate unit then readString opening (some unit) rest
        else prepend (Letter.ofCodeUnit unit) (readString opening none rest) := by
  rw [unitEscape, hexDigits_four small]
  simp only [List.cons_append, List.nil_append]
  rw [readString.eq_def]
  cases half with
  | none => simp [more, codeUnit?_digits small]
  | some high => simp [more, codeUnit?_digits small]

/-- A character is the letter of its own code. -/
theorem ofCodeUnit_toNat (character : Char) : Letter.ofCodeUnit character.toNat = character := by
  have outside := toNat_cases character
  have noHalf : ¬(Letter.firstSurrogate ≤ character.toNat ∧
      character.toNat < Letter.firstSurrogate + 2048) := by
    rw [Letter.firstSurrogate]
    omega
  rw [Letter.ofCodeUnit, dif_neg noHalf, Char.ofNat_toNat]

/-- What is printed for a character is read as the character. -/
theorem PrintedAs.readString_append {printed : List Char} (printedAs : PrintedAs character printed)
    (more : rest ≠ []) :
    readString opening none (printed ++ rest) =
      prepend character (readString opening none rest) := by
  cases printedAs with
  | letter letter escaped =>
      rw [readString.eq_def]
      simp [(escaped?_eq_some escaped).2, escaped, prependHalf]
  | itself plain noQuote noEscape =>
      have noControl : ¬character.toNat ≤ 0x1f := by
        have least := plain.1
        omega
      rw [readString.eq_def]
      simp [noEscape, noControl, prependHalf]
  | unit small =>
      rw [readString_unitEscape small more, ofCodeUnit_toNat]
      exact if_neg (not_isHighSurrogate_toNat character)
  | halves high low isHigh isLow pair =>
      have unescaped : unitEscape low ++ rest ≠ [] := List.cons_ne_nil _ _
      rw [List.append_assoc, readString_unitEscape (isHighSurrogate_lt isHigh) unescaped]
      dsimp only
      rw [if_pos isHigh, readString_unitEscape (isLowSurrogate_lt isLow) more]
      dsimp only
      rw [if_pos isLow, pair]

/-- A printed text is read as the text. -/
theorem readString_flatMap (characters : List Char) :
    readString opening none (characters.flatMap printCharacter ++ '"' :: rest) =
      .ok (characters.map .whole, rest) := by
  induction characters with
  | nil => simp [readString, prependHalf]
  | cons character others inductionHypothesis =>
      have more : others.flatMap printCharacter ++ '"' :: rest ≠ [] := by simp
      rw [List.flatMap_cons, List.append_assoc, (printedAs character).readString_append more,
        inductionHypothesis]
      rfl

/-- What is printed for a text without halves is read as the letters of the text. -/
theorem readString_printString {text : LooseText} (plain : text.isPlain = true) :
    readString opening none (text.letters.flatMap printLetter ++ '"' :: rest) =
      .ok (text.letters, rest) := by
  cases text with
  | plain text =>
      rw [LooseText.letters, List.flatMap_map]
      exact readString_flatMap text.toList
  | broken before half after => cases plain

end Json
end DirectiveLint
