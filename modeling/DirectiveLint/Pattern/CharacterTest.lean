import DirectiveLint.Character.Alphabetic
import DirectiveLint.Character.Blank
import DirectiveLint.Character.LetterCase
import DirectiveLint.Character.Numeric
import DirectiveLint.Pattern.Syntax

/-!
# Testing one character

A unit of a pattern accepts or refuses a character under flags.  When case is
ignored and a code of the unit has case, the unit is tested by folding: the
lower-case form of the character is compared with the lower-case forms of the
codes of the unit and with the other lower-case letters that share an upper-case
form with them.  A unit without case compares the character as it is.
-/

namespace DirectiveLint
namespace Pattern

/-- Whether a character belongs to a category. -/
def Category.holds (flags : Flags) (kind : Category) (character : Char) : Bool :=
  match kind with
  | .digit =>
    if flags.sevenBit then character.isDigit else Character.isDecimalDigit character
  | .space =>
    if flags.sevenBit then Character.isLayout character else Character.isBlank character
  | .word =>
    character == '_' ||
      (if flags.sevenBit then character.isAlphanum
        else Character.isAlphabetic character || Character.isNumeral character)

/-- The lower-case code under flags. -/
def lowered (flags : Flags) (code : Nat) : Nat :=
  if flags.sevenBit then Character.lowerSevenBit code else Character.lowerCode code

/-- Whether a code has another case under flags. -/
def hasCase (flags : Flags) (code : Nat) : Bool :=
  if flags.sevenBit then Character.isCasedSevenBit code else Character.isCased code

/-- Whether a code between two bounds has another case under flags. -/
def hasCaseBetween (flags : Flags) (low high : Nat) : Bool :=
  if flags.sevenBit then Character.isCasedSevenBitBetween low high
  else Character.isCasedBetween low high

/-- The other codes that a lower-case code stands for when case is ignored. -/
def caseRelatives (flags : Flags) (code : Nat) : List Nat :=
  if flags.sevenBit then [] else Character.caseSiblings code

/-- The codes that a lower-case code stands for when case is ignored. -/
def caseFamily (flags : Flags) (code : Nat) : List Nat :=
  code :: caseRelatives flags code

/-- Codes with a given lower-case code under flags. -/
def codesLoweredTo (flags : Flags) (code : Nat) : List Nat :=
  if flags.sevenBit then
    (if Character.lowerSevenBit code == code then [code] else []) ++
      (if 97 ≤ code && code ≤ 122 then [code - 32] else [])
  else Character.codesWithLower code

/-- The last code of the first plane. -/
def planeEnd : Nat := 0xffff

/-- Whether a range holds a code of the first plane that is the given lower-case code but for case.
-/
def rangeHoldsFolded (flags : Flags) (low high code : Nat) : Bool :=
  (caseFamily flags code).any fun relative =>
    (codesLoweredTo flags relative).any fun source =>
      low ≤ source && source ≤ high && source ≤ planeEnd

/-- Whether a member makes its set depend on case. What lies beyond the first plane counts as having
case. -/
def Member.dependsOnCase (flags : Flags) : Member → Bool
  | .category _ _ => false
  | .code single => planeEnd < single || hasCase flags single
  | .range low high => planeEnd < high || hasCaseBetween flags low high

/-- Whether a member of a set accepts a code. -/
def Member.holds (flags : Flags) (code : Nat) : Member → Bool
  | .category kind negated => kind.holds flags (Char.ofNat code) != negated
  | .code expected => code == expected
  | .range low high => low ≤ code && code ≤ high

/-- Whether a member of a set that depends on case accepts a code in lower case.  Codes beyond the
first plane stay as they are, and ranges that reach there accept also the upper-case form. -/
def Member.holdsFolded (flags : Flags) (code : Nat) : Member → Bool
  | .category kind negated => kind.holds flags (Char.ofNat code) != negated
  | .code expected =>
    if planeEnd < expected then code == expected
    else (caseFamily flags (lowered flags expected)).contains code
  | .range low high =>
    let upper := Character.upperCode code
    rangeHoldsFolded flags low high code ||
      (planeEnd < high && ((low ≤ code && code ≤ high) || (low ≤ upper && upper ≤ high)))

/-- Whether a code of a unit is compared in lower case. -/
def comparesFolded (flags : Flags) (code : Nat) : Bool :=
  flags.ignoreCase && hasCase flags code

/-- Whether one code accepts another. -/
def acceptsCode (flags : Flags) (expected code : Nat) : Bool :=
  if comparesFolded flags expected then
    (caseFamily flags (lowered flags expected)).contains (lowered flags code)
  else code == expected

/-- Whether a set depends on case under flags. -/
def setDependsOnCase (flags : Flags) (members : List Member) : Bool :=
  flags.ignoreCase && members.any (Member.dependsOnCase flags)

/-- Whether some member of a set accepts a code. -/
def acceptsMember (flags : Flags) (members : List Member) (code : Nat) : Bool :=
  if setDependsOnCase flags members then
    members.any (Member.holdsFolded flags (lowered flags code))
  else members.any (Member.holds flags code)

/-- Whether a unit accepts a character. -/
def CharacterUnit.accepts (flags : Flags) (unit : CharacterUnit) (character : Char) : Bool :=
  match unit with
  | .any => flags.dotAll || character != '\n'
  | .code expected => acceptsCode flags expected character.toNat
  | .set negated [.code expected] => acceptsCode flags expected character.toNat != negated
  | .set negated members => acceptsMember flags members character.toNat != negated

/-- Whether a unit is tested as a set of folded codes: a set that depends on case, or a code that
stands for more than its own two cases. -/
def CharacterUnit.isFoldedSet (flags : Flags) : CharacterUnit → Bool
  | .any => false
  | .code single => codeIsFoldedSet single
  | .set _ [.code single] => codeIsFoldedSet single
  | .set _ members => setDependsOnCase flags members
where
  codeIsFoldedSet (code : Nat) : Bool :=
    comparesFolded flags code && !(caseRelatives flags (lowered flags code)).isEmpty

/-- Whether a unit is a code or a set of codes that are all compared as they are. -/
def CharacterUnit.isExact (flags : Flags) : CharacterUnit → Bool
  | .any => false
  | .code single => !comparesFolded flags single
  | .set _ [.code _] => false
  | .set _ members => !setDependsOnCase flags members

end Pattern

/-- Whether a repeated unit, perhaps under other flags, is tested as a set of folded codes. -/
def Pattern.isFoldedSet : Pattern → Pattern.Flags → Bool
  | .unit test, flags => test.isFoldedSet flags
  | .scope added removed body, flags => body.isFoldedSet (flags.within added removed)
  | _, _ => false

/-- Whether a unit, perhaps under other flags, accepts a character. -/
def Pattern.unitAccepts : Pattern → Pattern.Flags → Char → Bool
  | .unit test, flags, character => test.accepts flags character
  | .scope added removed body, flags, character =>
    body.unitAccepts (flags.within added removed) character
  | _, _, _ => false

namespace Pattern

/-- Whether a character is part of a word, for the boundaries of words. -/
def isWordAt (flags : Flags) (character : Option Char) : Bool :=
  match character with
  | some character => Category.holds flags .word character
  | none => false

end Pattern
end DirectiveLint
