import DirectiveLint.Character.Blank
import DirectiveLint.Character.Numeric
import DirectiveLint.Number.DigitLimit

/-!
# Reading integers

An integer in text may stand between blanks, may have a sign directly before its
digits, may have leading zeros and may have a single low line between two
digits.  Digits of every script count.  Of the seven-bit blanks only the layout
characters may surround it.  More than `digitLimit` digits are refused.
-/

namespace DirectiveLint
namespace Number

namespace IntegerText

/-- The blanks that may surround an integer. -/
def surrounds (character : Char) : Bool :=
  if character.toNat < 128 then Character.isLayout character
  else Character.isBlank character

/-- Digits with single low lines between them.  `separable` says that a low line may follow, and
the answer lists the values of the digits. -/
def digits? (separable : Bool) : List Char → Option (List Nat)
  | [] => if separable then some [] else none
  | '_' :: rest => if separable then digits? false rest else none
  | character :: rest =>
    match Character.digitValue? character with
    | some value => (digits? true rest).map (value :: ·)
    | none => none

/-- The number that a list of decimal digits writes. -/
def number (digits : List Nat) : Nat :=
  digits.foldl (fun total digit => 10 * total + digit) 0

/-- The integer that digits without a sign write. -/
def magnitude? (characters : List Char) : Option Nat :=
  match digits? false characters with
  | some digits => if digitLimit < digits.length then none else some (number digits)
  | none => none

/-- The text without the blanks around it. -/
def bare (characters : List Char) : List Char :=
  ((characters.dropWhile surrounds).reverse.dropWhile surrounds).reverse

end IntegerText

/-- The integer that a text writes, if it writes one. -/
def integer? (text : List Char) : Option Int :=
  match IntegerText.bare text with
  | '-' :: rest => (IntegerText.magnitude? rest).map fun value => -(value : Int)
  | '+' :: rest => (IntegerText.magnitude? rest).map Int.ofNat
  | characters => (IntegerText.magnitude? characters).map Int.ofNat

end Number
end DirectiveLint
