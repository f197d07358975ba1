/-!
# Rounding a quotient of natural numbers

One rounding rule serves every place where a number is written or stored with
fewer digits than it has: to the nearest natural number, a tie to the even one.
-/

namespace DirectiveLint
namespace Number

/-- The natural number nearest to a quotient; halfway between two, the even one. -/
def roundHalfEven (numerator denominator : Nat) : Nat :=
  let quotient := numerator / denominator
  let twice := 2 * (numerator % denominator)
  if twice < denominator then quotient
  else if denominator < twice then quotient + 1
  else if quotient % 2 == 0 then quotient else quotient + 1

end Number
end DirectiveLint
