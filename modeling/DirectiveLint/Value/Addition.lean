import DirectiveLint.Value.Mapping

/-!
# Adding values

Numbers are added as numbers, with truth values as zero and one; texts and lists
are put one after the other, and a list takes the elements of whatever yields
elements.
-/

namespace DirectiveLint

/-- Why two values have no sum. -/
inductive AdditionFault
  | notAddable (first second : Value)
  | tooLarge (value : Int)
  deriving Repr

namespace Value

/-- An integer as a floating-point number. -/
def realOf (value : Int) : Except AdditionFault Number.Binary64 :=
  match Number.Binary64.ofInt? value with
  | some number => .ok number
  | none => .error (.tooLarge value)

/-- The sum of two floating-point numbers of which one is still an integer. -/
def addReal (first : Except AdditionFault Number.Binary64) (second : Number.Binary64) :
    Except AdditionFault Value :=
  match first with
  | .ok number => .ok (.real (number.add second))
  | .error fault => .error fault

/-- The sum of two values. -/
def add (first second : Value) : Except AdditionFault Value :=
  match first, second with
  | .text start, .text more => .ok (.text (start ++ more))
  | .list items, more =>
    match more.elements with
    | .ok others => .ok (.list (items ++ others))
    | .error _ => .error (.notAddable first second)
  | .real left, .real right => .ok (.real (left.add right))
  | .real left, right =>
    match right.toInteger? with
    | some value => addReal (realOf value) left
    | none => .error (.notAddable first second)
  | left, .real right =>
    match left.toInteger? with
    | some value => addReal (realOf value) right
    | none => .error (.notAddable first second)
  | left, right =>
    match left.toInteger?, right.toInteger? with
    | some left, some right => .ok (.integer (left + right))
    | _, _ => .error (.notAddable first second)

end Value
end DirectiveLint
