import DirectiveLint.Json.Printer
import DirectiveLint.Json.Reader

/-!
# Printed values are plain

Whatever a value is, it is printed with printable seven-bit characters only.  So a
printed value has no line ending, and it is the same bytes in every encoding that
has those characters.

How a character is printed is said once, with what a reader has to know to take it
back: a single letter after a backslash, the character itself, one escape, or the
escapes of the two halves of a surrogate pair.
-/

namespace DirectiveLint
namespace Json

/-- Whether a character is a printable one of the seven-bit characters. -/
def IsPlain (character : Char) : Prop :=
  32 ≤ character.toNat ∧ character.toNat ≤ 126

instance : DecidablePred IsPlain := fun character =>
  inferInstanceAs (Decidable (32 ≤ character.toNat ∧ character.toNat ≤ 126))

/-- Whether all characters of a text are plain. -/
def ArePlain (text : List Char) : Prop :=
  ∀ character ∈ text, IsPlain character

instance : DecidablePred ArePlain := fun text =>
  List.decidableBAll IsPlain text

variable {unit : Nat} {character : Char} {first second text : List Char}

@[simp] theorem arePlain_append :
    ArePlain (first ++ second) ↔ ArePlain first ∧ ArePlain second :=
  List.forall_mem_append

@[simp] theorem arePlain_cons :
    ArePlain (character :: text) ↔ IsPlain character ∧ ArePlain text :=
  List.forall_mem_cons

theorem isPlain_of_isDigit (isDigit : character.isDigit = true) : IsPlain character := by
  rw [Char.isDigit, Bool.and_eq_true, decide_eq_true_eq, decide_eq_true_eq] at isDigit
  have least : 48 ≤ character.toNat := isDigit.1
  have greatest : character.toNat ≤ 57 := isDigit.2
  exact ⟨by omega, by omega⟩

/-! ## Surrogates -/

theorem isHighSurrogate_iff : isHighSurrogate unit = true ↔ 0xd800 ≤ unit ∧ unit ≤ 0xdbff := by
  simp [isHighSurrogate]

theorem isLowSurrogate_iff : isLowSurrogate unit = true ↔ 0xdc00 ≤ unit ∧ unit ≤ 0xdfff := by
  simp [isLowSurrogate]

theorem isHighSurrogate_lt (isHigh : isHighSurrogate unit = true) : unit < 0x10000 := by
  rw [isHighSurrogate_iff] at isHigh
  omega

theorem isLowSurrogate_lt (isLow : isLowSurrogate unit = true) : unit < 0x10000 := by
  rw [isLowSurrogate_iff] at isLow
  omega

/-- No character has the number of a surrogate. -/
theorem toNat_cases (character : Char) :
    character.toNat < 0xd800 ∨ 0xdfff < character.toNat ∧ character.toNat < 0x110000 :=
  character.valid

theorem not_isHighSurrogate_toNat (character : Char) :
    ¬isHighSurrogate character.toNat = true := by
  have outside := toNat_cases character
  rw [isHighSurrogate_iff]
  omega

/-! ## Hex digits -/

theorem isPlain_digitChar {digit : Nat} (isDigit : digit < 16) : IsPlain digit.digitChar := by
  revert digit
  decide

theorem hexDigits_one (isDigit : unit < 16) : Text.hexDigits 1 unit = [unit.digitChar] := by
  rw [Text.hexDigits, Nat.toDigits_of_lt_base isDigit]
  rfl

theorem hexDigits_add_two (width code : Nat) :
    Text.hexDigits (width + 2) code =
      Text.hexDigits (width + 1) (code / 16) ++ [(code % 16).digitChar] := by
  unfold Text.hexDigits
  by_cases single : code < 16
  · have quotient : code / 16 = 0 := Nat.div_eq_of_lt single
    rw [Nat.toDigits_of_lt_base single, quotient, Nat.toDigits_zero, Nat.mod_eq_of_lt single]
    simp [List.replicate_succ']
  · rw [Nat.toDigits_of_base_le (by decide) (Nat.le_of_not_lt single)]
    simp

/-- A code unit is written with four digits. -/
theorem hexDigits_four (small : unit < 0x10000) :
    Text.hexDigits 4 unit = [(unit / 16 / 16 / 16).digitChar, (unit / 16 / 16 % 16).digitChar,
      (unit / 16 % 16).digitChar, (unit % 16).digitChar] := by
  rw [hexDigits_add_two, hexDigits_add_two, hexDigits_add_two, hexDigits_one (by omega)]
  rfl

theorem arePlain_unitEscape (small : unit < 0x10000) : ArePlain (unitEscape unit) := by
  have starts : ArePlain ['\\', 'u'] := by decide
  have digit (number : Nat) : IsPlain (number % 16).digitChar :=
    isPlain_digitChar (Nat.mod_lt number (by decide))
  rw [unitEscape, hexDigits_four small]
  simp only [arePlain_cons] at starts ⊢
  exact ⟨starts.1, starts.2.1, isPlain_digitChar (by omega), digit _, digit _, digit _,
    List.forall_mem_nil _⟩

/-! ## Printed characters -/

/-- A letter that stands for a character is plain and does not announce digits. -/
theorem escaped?_eq_some {letter : Char} (escaped : escaped? letter = some character) :
    IsPlain letter ∧ letter ≠ 'u' := by
  unfold escaped? at escaped
  split at escaped
  case h_9 => cases escaped
  all_goals
    cases escaped
    decide

/-- The ways a character is printed: as a letter after a backslash, as itself, as one escape or as
the escapes of two halves. -/
inductive PrintedAs (character : Char) : List Char → Prop
  | letter (letter : Char) (escaped : escaped? letter = some character) :
      PrintedAs character ['\\', letter]
  | itself (plain : IsPlain character) (noQuote : character ≠ '"') (noEscape : character ≠ '\\') :
      PrintedAs character [character]
  | unit (small : character.toNat < 0x10000) :
      PrintedAs character (unitEscape (character.toNat))
  | halves (high low : Nat) (isHigh : isHighSurrogate high = true)
      (isLow : isLowSurrogate low = true) (pair : pairCharacter high low = character) :
      PrintedAs character (unitEscape high ++ unitEscape low)

/-- The halves of a character beyond the first plane make up the character. -/
theorem printedAs_halves (large : 0x10000 ≤ character.toNat) :
    PrintedAs character
      (unitEscape (0xd800 + (character.toNat - 0x10000) / 0x400) ++
        unitEscape (0xdc00 + (character.toNat - 0x10000) % 0x400)) := by
  have greatest := toNat_cases character
  have whole : 0x10000 + (0xd800 + (character.toNat - 0x10000) / 0x400 - 0xd800) * 0x400 +
      (0xdc00 + (character.toNat - 0x10000) % 0x400 - 0xdc00) = character.toNat := by
    omega
  refine PrintedAs.halves _ _ ?_ ?_ ?_
  · rw [isHighSurrogate_iff]
    omega
  · rw [isLowSurrogate_iff]
    omega
  · rw [pairCharacter, whole, Char.ofNat_toNat]

theorem printedAs (character : Char) : PrintedAs character (printCharacter character) := by
  unfold printCharacter
  by_cases marked : (character == '"' || character == '\\') = true
  · rw [if_pos marked]
    rw [Bool.or_eq_true, beq_iff_eq, beq_iff_eq] at marked
    rcases marked with rfl | rfl
    · exact PrintedAs.letter '"' rfl
    · exact PrintedAs.letter '\\' rfl
  rw [if_neg marked]
  rw [Bool.or_eq_true, beq_iff_eq, beq_iff_eq, not_or] at marked
  split
  · next isFeed =>
      cases eq_of_beq isFeed
      exact PrintedAs.letter 'n' rfl
  split
  · next isReturn =>
      cases eq_of_beq isReturn
      exact PrintedAs.letter 'r' rfl
  split
  · next isTab =>
      cases eq_of_beq isTab
      exact PrintedAs.letter 't' rfl
  split
  · next isPage =>
      cases eq_of_beq isPage
      exact PrintedAs.letter 'f' rfl
  split
  · next isBack =>
      cases eq_of_beq isBack
      exact PrintedAs.letter 'b' rfl
  dsimp only
  split
  · next plain =>
      rw [Bool.and_eq_true, decide_eq_true_eq, decide_eq_true_eq] at plain
      exact PrintedAs.itself plain marked.1 marked.2
  split
  · next small => exact PrintedAs.unit small
  · next large => exact printedAs_halves (Nat.le_of_not_lt large)

theorem PrintedAs.arePlain (printedAs : PrintedAs character text) : ArePlain text := by
  cases printedAs with
  | letter letter escaped =>
      have backslash : IsPlain '\\' := by decide
      simp only [arePlain_cons]
      exact ⟨backslash, (escaped?_eq_some escaped).1, List.forall_mem_nil _⟩
  | itself plain _ _ => exact List.forall_mem_singleton.mpr plain
  | unit small => exact arePlain_unitEscape small
  | halves high low isHigh isLow _ =>
      rw [arePlain_append]
      exact ⟨arePlain_unitEscape (isHighSurrogate_lt isHigh),
        arePlain_unitEscape (isLowSurrogate_lt isLow)⟩

theorem arePlain_printLetter (letter : Letter) : ArePlain (printLetter letter) := by
  cases letter with
  | whole character => exact (printedAs character).arePlain
  | half index =>
      apply arePlain_unitEscape
      have least := index.isLt
      rw [Letter.code, Letter.firstSurrogate]
      omega

theorem arePlain_printString (text : LooseText) : ArePlain (printString text) := by
  have quote : IsPlain '"' := by decide
  rw [printString, List.cons_append, arePlain_cons, arePlain_append]
  refine ⟨quote, ?_, List.forall_mem_singleton.mpr quote⟩
  intro part member
  rcases List.mem_flatMap.mp member with ⟨letter, _, printed⟩
  exact arePlain_printLetter letter part printed

/-! ## Numbers -/

theorem arePlain_toString (number : Nat) : ArePlain (toString number).toList := by
  intro digit member
  change digit ∈ number.repr.toList at member
  rw [Nat.toList_repr] at member
  exact isPlain_of_isDigit (Nat.isDigit_of_mem_toDigits (by decide) (by decide) member)

theorem arePlain_zeros (count : Nat) : ArePlain (Number.zeros count).toList := by
  intro digit member
  rw [Number.zeros, String.toList_ofList] at member
  rw [List.eq_of_mem_replicate member]
  decide

theorem arePlain_sign (negative : Bool) : ArePlain (Number.Binary64.sign negative).toList := by
  cases negative <;> decide

section

variable {digits : String} (plain : ArePlain digits.toList)

include plain

theorem arePlain_positional (places : Int) :
    ArePlain (Number.positional digits places).toList := by
  have point : ArePlain ".".toList := by decide
  have zeroPoint : ArePlain "0.".toList := by decide
  have pointZero : ArePlain ".0".toList := by decide
  unfold Number.positional
  dsimp only
  split
  · simp only [String.toList_append, arePlain_append]
    exact ⟨⟨zeroPoint, arePlain_zeros _⟩, plain⟩
  split
  · simp only [String.toList_append, arePlain_append]
    exact ⟨⟨plain, arePlain_zeros _⟩, pointZero⟩
  · simp only [String.toList_append, arePlain_append, String.toList_ofList]
    exact ⟨⟨fun part member => plain part (List.mem_of_mem_take member), point⟩,
      fun part member => plain part (List.mem_of_mem_drop member)⟩

omit plain in
theorem arePlain_exponentText (power : Int) : ArePlain (Number.exponentText power).toList := by
  have minus : ArePlain "-".toList := by decide
  have plus : ArePlain "+".toList := by decide
  have zero : ArePlain "0".toList := by decide
  have digits := arePlain_toString power.natAbs
  rw [Number.exponentText, String.toList_append, arePlain_append]
  constructor
  · split
    · exact minus
    · exact plus
  · split
    · rw [String.toList_append, arePlain_append]
      exact ⟨zero, digits⟩
    · exact digits

theorem arePlain_scientific (power : Int) :
    ArePlain (Number.scientific digits power).toList := by
  have point : ArePlain ".".toList := by decide
  have mark : ArePlain "e".toList := by decide
  have exponent := arePlain_exponentText power
  unfold Number.scientific
  split
  · decide
  · next first same =>
      rw [same] at plain
      simp only [String.toList_append, arePlain_append, String.toList_ofList]
      exact ⟨⟨plain, mark⟩, exponent⟩
  · next first rest _ same =>
      rw [same, arePlain_cons] at plain
      simp only [String.toList_append, arePlain_append, String.toList_ofList]
      exact ⟨⟨⟨⟨List.forall_mem_singleton.mpr plain.1, point⟩, plain.2⟩, mark⟩, exponent⟩

end

theorem arePlain_decimal (point : Number.DecimalPoint) : ArePlain point.text.toList := by
  unfold Number.DecimalPoint.text
  dsimp only
  split
  · exact arePlain_positional (arePlain_toString _) _
  · exact arePlain_scientific (arePlain_toString _) _

theorem arePlain_printReal (number : Number.Binary64) : ArePlain (printReal number).toList := by
  cases number with
  | notANumber payload => exact (by decide : ArePlain "NaN".toList)
  | infinite negative =>
      have infinity : ArePlain "Infinity".toList := by decide
      rw [printReal, String.toList_append, arePlain_append]
      exact ⟨arePlain_sign negative, infinity⟩
  | finite negative significand exponent =>
      cases significand with
      | zero =>
          have zero : ArePlain "0.0".toList := by decide
          change ArePlain (Number.Binary64.sign negative ++ "0.0").toList
          rw [String.toList_append, arePlain_append]
          exact ⟨arePlain_sign negative, zero⟩
      | succ less =>
          change ArePlain
            (Number.Binary64.sign negative ++ (Number.shortest (less + 1) exponent).text).toList
          rw [String.toList_append, arePlain_append]
          exact ⟨arePlain_sign negative, arePlain_decimal _⟩

theorem arePlain_integer (value : Int) : ArePlain (toString value).toList := by
  have minus : ArePlain "-".toList := by decide
  rw [Int.toString_eq_repr, Int.repr_eq_if]
  split
  · exact arePlain_toString value.toNat
  · rw [String.toList_append, arePlain_append]
    exact ⟨minus, arePlain_toString (-value).toNat⟩

/-! ## Values -/

theorem arePlain_joinParts {parts : List (List Char)} (plain : ∀ part ∈ parts, ArePlain part) :
    ArePlain (joinParts parts) := by
  have comma : ArePlain [',', ' '] := by decide
  induction parts using joinParts.induct with
  | case1 => exact List.forall_mem_nil _
  | case2 part => exact plain part List.mem_cons_self
  | case3 part rest more inductionHypothesis =>
      rw [List.forall_mem_cons] at plain
      simp only [arePlain_cons] at comma
      rw [joinParts.eq_3 _ _ more, arePlain_append, arePlain_cons, arePlain_cons]
      exact ⟨plain.1, comma.1, comma.2.1, inductionHypothesis plain.2⟩

mutual

/-- Every value is printed with plain characters. -/
theorem arePlain_printValue (value : Value) : ArePlain (printValue value) := by
  cases value with
  | null => decide
  | boolean value => cases value <;> decide
  | integer value => exact arePlain_integer value
  | real value => exact arePlain_printReal value
  | text value => exact arePlain_printString value
  | list items =>
      have opening : IsPlain '[' := by decide
      have closing : ArePlain [']'] := by decide
      rw [printValue, List.cons_append, arePlain_cons, arePlain_append]
      exact ⟨opening, arePlain_joinParts (arePlain_printItems items), closing⟩
  | object fields =>
      have opening : IsPlain '\x7b' := by decide
      have closing : ArePlain ['\x7d'] := by decide
      rw [printValue, List.cons_append, arePlain_cons, arePlain_append]
      exact ⟨opening, arePlain_joinParts (arePlain_printFields fields), closing⟩

theorem arePlain_printItems (items : List Value) :
    ∀ part ∈ printItems items, ArePlain part := by
  cases items with
  | nil => exact List.forall_mem_nil _
  | cons item rest =>
      rw [printItems, List.forall_mem_cons]
      exact ⟨arePlain_printValue item, arePlain_printItems rest⟩

theorem arePlain_printFields (fields : List (LooseText × Value)) :
    ∀ part ∈ printFields fields, ArePlain part := by
  cases fields with
  | nil => exact List.forall_mem_nil _
  | cons field rest =>
      rw [printFields, List.forall_mem_cons]
      exact ⟨arePlain_printField field, arePlain_printFields rest⟩

theorem arePlain_printField (field : LooseText × Value) : ArePlain (printField field) := by
  cases field with
  | mk key value =>
      have colon : ArePlain [':', ' '] := by decide
      simp only [arePlain_cons] at colon
      rw [printField, arePlain_append, arePlain_cons, arePlain_cons]
      exact ⟨arePlain_printString key, colon.1, colon.2.1, arePlain_printValue value⟩

end

end Json
end DirectiveLint
