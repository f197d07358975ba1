import DirectiveLint.Number.Shortest

/-!
# Writing numbers

A number is written with its shortest digits.  The point stands among the digits
when the first digit's power of ten lies between `-4` and `15`, and a number
without a fraction is then written with `.0`; outside that range there is one
digit before the point and an exponent of at least two digits.  A second form
has one place after the point, a tie going to the even neighbour.
-/

namespace DirectiveLint
namespace Number

/-- A run of the same character. -/
def zeros (count : Nat) : String :=
  String.ofList (List.replicate count '0')

/-- Digits with a point among or beside them; `places` is the number of digits before it. -/
def positional (digits : String) (places : Int) : String :=
  let characters := digits.toList
  if places ≤ 0 then "0." ++ zeros (-places).toNat ++ digits
  else if (characters.length : Int) ≤ places then
    digits ++ zeros (places.toNat - characters.length) ++ ".0"
  else
    String.ofList (characters.take places.toNat) ++ "." ++
      String.ofList (characters.drop places.toNat)

/-- The sign and the digits of a power of ten, two digits at least. -/
def exponentText (power : Int) : String :=
  let digits := toString power.natAbs
  (if power < 0 then "-" else "+") ++ (if digits.length < 2 then "0" ++ digits else digits)

/-- Digits with the point after the first one and a power of ten. -/
def scientific (digits : String) (power : Int) : String :=
  match digits.toList with
  | [] => ""
  | [first] => String.ofList [first] ++ "e" ++ exponentText power
  | first :: rest =>
    String.ofList [first] ++ "." ++ String.ofList rest ++ "e" ++ exponentText power

/-- The unsigned text of a decimal number. -/
def DecimalPoint.text (point : DecimalPoint) : String :=
  let digits := toString point.digits
  let power : Int := point.exponent + digits.length - 1
  if -4 ≤ power && power < 16 then positional digits (power + 1)
  else scientific digits power

namespace Binary64

def sign (negative : Bool) : String :=
  if negative then "-" else ""

/-- The text of a number: its shortest digits, or the name of what is not finite. -/
def text : Binary64 → String
  | .notANumber _ => "nan"
  | .infinite negative => sign negative ++ "inf"
  | .finite negative 0 _ => sign negative ++ "0.0"
  | .finite negative significand exponent =>
    sign negative ++ (shortest significand exponent).text

/-- The text of a number with one place after the point. -/
def textOnePlace : Binary64 → String
  | .notANumber _ => "nan"
  | .infinite negative => sign negative ++ "inf"
  | .finite negative significand exponent =>
    let tenths := roundHalfEven ((significand * 10) <<< exponent.toNat) (1 <<< (-exponent).toNat)
    sign negative ++ toString (tenths / 10) ++ "." ++ toString (tenths % 10)

end Binary64
end Number
end DirectiveLint
