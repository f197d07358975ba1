import DirectiveLint.Character.Name.Alphabets
import DirectiveLint.Character.Name.EastAsian
import DirectiveLint.Character.Name.Further
import DirectiveLint.Character.Name.Hieroglyphs
import DirectiveLint.Character.Name.Historic
import DirectiveLint.Character.Name.Notation
import DirectiveLint.Character.Name.Pictographs
import DirectiveLint.Character.Name.Symbols
import DirectiveLint.Character.Interval
import DirectiveLint.Text.Occurrence

/-!
# Characters by name

Most names are listed.  The names of Korean syllables spell the syllable, and the
names of ideographs end with the code of the character; these names have to be
written in capitals, all others may be written in either case.
-/

namespace DirectiveLint
namespace Character

/-- The spellings of the first consonants of Korean syllables. -/
def leadingConsonants : List String :=
  ["G", "GG", "N", "D", "DD", "R", "M", "B", "BB", "S", "SS", "", "J", "JJ", "C", "K", "T", "P",
   "H"]

/-- The spellings of the vowels of Korean syllables. -/
def syllableVowels : List String :=
  ["A", "AE", "YA", "YAE", "EO", "E", "YEO", "YE", "O", "WA", "WAE", "OE", "YO", "U", "WEO", "WE",
    "WI", "YU", "EU", "YI", "I"]

/-- The spellings of the last consonants of Korean syllables. -/
def trailingConsonants : List String :=
  ["", "G", "GG", "GS", "N", "NJ", "NH", "D", "L", "LG", "LM", "LB", "LS", "LT", "LP", "LH", "M",
    "B", "BS", "S", "SS", "NG", "J", "C", "K", "T", "P", "H"]

/-- The longest of the spellings with which a text starts, by its place from `index` on, with the
rest of the text. -/
def longestSpelling? (text : List Char) : List String → Nat → Option (Nat × List Char)
  | [], _ => none
  | spelling :: others, index =>
    let later := longestSpelling? text others (index + 1)
    match Text.dropStart? spelling.toList text, later with
    | none, _ => later
    | some rest, none => some (index, rest)
    | some rest, some (place, other) =>
      if other.length < rest.length then some (place, other) else some (index, rest)

/-- The code of a Korean syllable from its spelling. -/
def syllableCode? (spelling : List Char) : Option Nat := do
  let (leading, rest) ← longestSpelling? spelling leadingConsonants 0
  let (vowel, rest) ← longestSpelling? rest syllableVowels 0
  let (trailing, rest) ← longestSpelling? rest trailingConsonants 0
  guard rest.isEmpty
  return 0xac00 + (leading * syllableVowels.length + vowel) * trailingConsonants.length + trailing

/-- The value of a hex digit that is not a small letter. -/
def capitalHexValue? (digit : Char) : Option Nat :=
  if digit.isDigit then some (digit.toNat - '0'.toNat)
  else if 'A' ≤ digit && digit ≤ 'F' then some (digit.toNat - 'A'.toNat + 10)
  else none

/-- The code that four or five hex digits write. -/
def hexCode? (digits : List Char) : Option Nat := do
  guard (digits.length == 4 || digits.length == 5)
  let values ← digits.mapM capitalHexValue?
  return values.foldl (fun code value => 16 * code + value) 0

/-- The ideographs that are named by their code alone. -/
def unifiedIdeographs : Array (Nat × Nat) := #[
  (0x3400, 0x4dbf), (0x4e00, 0x9fff), (0x20000, 0x2a6df), (0x2a700, 0x2b738), (0x2b740, 0x2b81d),
  (0x2b820, 0x2cea1), (0x2ceb0, 0x2ebe0), (0x30000, 0x3134a)]

/-- The code of an ideograph from the digits in its name. -/
def ideographCode? (digits : List Char) : Option Nat := do
  let code ← hexCode? digits
  guard (within unifiedIdeographs code)
  return code

/-- Other names that end with the code of the character: how they start, and the codes. -/
def numberedNames : List (String × Array (Nat × Nat)) := [
  ("CJK COMPATIBILITY IDEOGRAPH-", #[(0xf900, 0xfa6d), (0xfa70, 0xfad9), (0x2f800, 0x2fa1d)]),
  ("KHITAN SMALL SCRIPT CHARACTER-", #[(0x18b00, 0x18cd5)]),
  ("NUSHU CHARACTER-", #[(0x1b170, 0x1b2fb)])]

/-- The code that a name of one of these kinds ends with, written without a zero in front. -/
def numberedCode? (name : List Char) : Option Nat :=
  numberedNames.findSome? fun (start, codes) => do
    let digits ← Text.dropStart? start.toList name
    guard (digits.head? != some '0')
    let code ← hexCode? digits
    guard (within codes code)
    return code

/-- The code of a variation selector from its abbreviation. -/
def variationCode? (name : List Char) : Option Nat := do
  let digits ← Text.dropStart? "VS".toList name
  let number ← (List.range' 1 256).find? fun number => (toString number).toList == digits
  return if number ≤ 16 then 0xfe00 + number - 1 else 0xe0100 + number - 17

/-- The tables of names; the characters of a row follow each other. -/
def nameTables : List (Array NameRow) :=
  [alphabetNames, symbolNames, eastAsianNames, historicNames, hieroglyphNames, notationNames,
    pictographNames]

/-- The code of a listed name in capitals. -/
def listedCode? (name : List Char) : Option Nat :=
  match nameTables.findSome? fun table => NameRow.find? name table.toList [] with
  | some (row, index) => some (row.code + index)
  | none => (NameRow.find? name furtherNames.toList []).map fun found => found.1.code

/-- The code of the character with a name. -/
def codeOfName? (name : List Char) : Option Nat :=
  match Text.dropStart? "HANGUL SYLLABLE ".toList name,
    Text.dropStart? "CJK UNIFIED IDEOGRAPH-".toList name with
  | some spelling, _ => syllableCode? spelling
  | none, some digits => ideographCode? digits
  | none, none =>
    let capitals := name.map Char.toUpper
    match numberedCode? capitals, variationCode? capitals with
    | some code, _ => some code
    | none, some code => some code
    | none, none => listedCode? capitals

end Character
end DirectiveLint
