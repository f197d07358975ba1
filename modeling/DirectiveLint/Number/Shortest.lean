import DirectiveLint.Number.Binary64

/-!
# The shortest decimal that reads back

A positive finite number is written with the fewest significant digits that
still round to it, and among those with the digits nearest to it.  The numbers
that round to `significand * 2 ^ exponent` form an interval, whose ends belong
to it when the significand is even.  If any point of a decimal grid lies in the
interval, then so does one of the two grid points next to the number itself, so
it is enough to try those two on ever finer grids.
-/

namespace DirectiveLint
namespace Number

/-- A decimal number `digits * 10 ^ exponent`. -/
structure DecimalPoint where
  digits : Nat
  exponent : Int
  deriving DecidableEq, Repr

/-- The interval of a positive number in quarter units of its exponent: the number itself, the
lower end and the upper end, all times a common factor, against a grid unit times that factor. -/
structure RoundingInterval where
  value : Nat
  low : Nat
  high : Nat
  unit : Nat
  closed : Bool

namespace RoundingInterval

/-- The interval of `significand * 2 ^ exponent` against the grid of multiples of `10 ^ grid`. -/
def against (significand : Nat) (exponent grid : Int) : RoundingInterval :=
  let factor := Nat.pow 10 (-grid).toNat <<< (exponent - 2).toNat
  let nearBelow := significand == Binary64.leastNormal && decide (Binary64.leastExponent < exponent)
  { value := 4 * significand * factor
    low := (if nearBelow then 4 * significand - 1 else 4 * significand - 2) * factor
    high := (4 * significand + 2) * factor
    unit := Nat.pow 10 grid.toNat <<< (2 - exponent).toNat
    closed := significand % 2 == 0 }

/-- Whether a multiple of the grid unit rounds to the number. -/
def holds (interval : RoundingInterval) (count : Nat) : Bool :=
  let point := count * interval.unit
  if interval.closed then interval.low ≤ point && point ≤ interval.high
  else interval.low < point && point < interval.high

/-- The grid point nearest to the number among the two beside it that round to it. -/
def nearest? (interval : RoundingInterval) : Option Nat :=
  let below := interval.value / interval.unit
  let remainder := interval.value % interval.unit
  match interval.holds below, interval.holds (below + 1) with
  | false, false => none
  | true, false => some below
  | false, true => some (below + 1)
  | true, true =>
    if 2 * remainder < interval.unit then some below
    else if interval.unit < 2 * remainder then some (below + 1)
    else if below % 2 == 0 then some below else some (below + 1)

end RoundingInterval

/-- Tries finer and finer grids, at most `tries` of them, starting with `10 ^ grid`. -/
def shortestFrom (significand : Nat) (exponent : Int) : Nat → Int → DecimalPoint
  | 0, grid => ⟨0, grid⟩
  | tries + 1, grid =>
    match (RoundingInterval.against significand exponent grid).nearest? with
    | some count => if count == 0 then shortestFrom significand exponent tries (grid - 1)
        else ⟨count, grid⟩
    | none => shortestFrom significand exponent tries (grid - 1)

/-- The shortest decimal that reads back as a positive number.  The first grid is coarser than the
number, and the number has at most seventeen digits. -/
def shortest (significand : Nat) (exponent : Int) : DecimalPoint :=
  let magnitude := ((significand.log2 : Int) + exponent + 1) * 30103 / 100000 + 2
  shortestFrom significand exponent 24 magnitude

end Number
end DirectiveLint
