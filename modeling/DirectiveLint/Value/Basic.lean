import DirectiveLint.Number.Binary64
import DirectiveLint.Number.DigitLimit
import DirectiveLint.Text.Loose

/-!
# Data values

Configurations and type dumps arrive as data values: nothing, truth values,
integers of any size, floating-point numbers, texts, lists and objects.  An
object keeps its fields in the order of their first appearance, and every key
occurs once.

Two values are the same datum as numbers where both are numbers, with truth
values as zero and one.  Lists are the same item by item, and objects when they
have the same keys with the same values, whatever the order.  Equality is
narrower in one place only: what is not a number does not equal itself, though
a list that holds it does.
-/

namespace DirectiveLint

inductive Value
  | null
  | boolean (value : Bool)
  | integer (value : Int)
  | real (value : Number.Binary64)
  | text (value : LooseText)
  | list (items : List Value)
  | object (fields : List (LooseText × Value))
  deriving Repr, Inhabited

namespace Value

/-- The kinds of values, as messages name them. -/
def kindName : Value → String
  | .null => "NoneType"
  | .boolean _ => "bool"
  | .integer _ => "int"
  | .real _ => "float"
  | .text _ => "str"
  | .list _ => "list"
  | .object _ => "dict"

/-- Whether a value counts as given: nothing, false, the zeros and what is empty do not. -/
def isGiven : Value → Bool
  | .null => false
  | .boolean value => value
  | .integer value => value != 0
  | .real value => !value.isZero
  | .text value => !value.isEmpty
  | .list items => !items.isEmpty
  | .object fields => !fields.isEmpty

/-- The integer that a truth value or an integer counts as. -/
def toInteger? : Value → Option Int
  | .boolean value => some (if value then 1 else 0)
  | .integer value => some value
  | _ => none

/-- Whether a value is a list. -/
def isList : Value → Bool
  | .list _ => true
  | _ => false

/-- Numeric equality of an integer and a floating-point number. -/
def equalsReal (value : Int) (number : Number.Binary64) : Bool :=
  match number.toRat? with
  | some exact => exact == (value : Rat)
  | none => false

/-- Sameness of two values that are not both lists or both objects. -/
def alikeScalar : Value → Value → Bool
  | .null, .null => true
  | .text first, .text second => first == second
  | .real first, .real second => first.isSameDatum second
  | .real first, second =>
    match second.toInteger? with
    | some value => equalsReal value first
    | none => false
  | first, .real second =>
    match first.toInteger? with
    | some value => equalsReal value second
    | none => false
  | first, second =>
    match first.toInteger?, second.toInteger? with
    | some first, some second => first == second
    | _, _ => false

/-- The value of a field of a list of fields. -/
def fieldOf? (key : LooseText) (fields : List (LooseText × Value)) : Option Value :=
  (fields.find? (·.1 == key)).map (·.2)

mutual

/-- Whether two values are the same datum. -/
def alike : Value → Value → Bool
  | .list items, .list others => alikeItems items others
  | .object fields, .object others =>
    fields.length == others.length && alikeFields fields others
  | .null, second => alikeScalar .null second
  | .boolean value, second => alikeScalar (.boolean value) second
  | .integer value, second => alikeScalar (.integer value) second
  | .real value, second => alikeScalar (.real value) second
  | .text value, second => alikeScalar (.text value) second
  | .list _, _ => false
  | .object _, _ => false
termination_by structural first => first

def alikeItems : List Value → List Value → Bool
  | [], [] => true
  | item :: rest, other :: others => alike item other && alikeItems rest others
  | _, _ => false
termination_by structural first => first

def alikeFields : List (LooseText × Value) → List (LooseText × Value) → Bool
  | [], _ => true
  | field :: rest, others => alikeField field others && alikeFields rest others
termination_by structural first => first

def alikeField : LooseText × Value → List (LooseText × Value) → Bool
  | (key, value), others =>
    match fieldOf? key others with
    | some other => alike value other
    | none => false
termination_by structural first => first

end

/-- Whether a value is a floating-point datum that is not a number. -/
def isNotANumber : Value → Bool
  | .real (.notANumber _) => true
  | _ => false

/-- Equality of values: being the same datum, which nothing is to what is not a number. -/
def same (first second : Value) : Bool :=
  !first.isNotANumber && first.alike second

/-- The value of a field of an object. -/
def field? (key : LooseText) : Value → Option Value
  | .object fields => fieldOf? key fields
  | _ => none

/-- Puts a field into a list of fields: a key that is there keeps its place and takes the value. -/
def putField (key : LooseText) (value : Value) : List (LooseText × Value) → List (LooseText × Value)
  | [] => [(key, value)]
  | field :: rest =>
    if field.1 == key then (key, value) :: rest else field :: putField key value rest

end Value
end DirectiveLint
