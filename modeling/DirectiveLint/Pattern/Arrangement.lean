import DirectiveLint.Pattern.Syntax

/-!
# Arranging patterns

The parts of a pattern are put together in one way only, so that patterns that
are written differently but say the same in the same order are matched alike.
Groups that neither keep what they match nor change flags leave no trace.  Parts
with which all alternatives start are taken out of the choice, and a choice among
units of one character is a set of characters.
-/

namespace DirectiveLint
namespace Pattern

/-- Whether two parts are the same unit, anchor or reference.  Parts with a pattern inside count as
different. -/
def isSamePart : Pattern → Pattern → Bool
  | unit first, unit second => first == second
  | anchor first, anchor second => first == second
  | reference first _, reference second _ => first == second
  | _, _ => false

/-- The parts of a pattern, one after the other. -/
def parts : Pattern → List Pattern
  | empty => []
  | sequence first second => first.parts ++ second.parts
  | pattern => [pattern]

/-- What is inside a group without flags of its own; any other pattern is left as it is. -/
def unwrapped : Pattern → Pattern
  | scope added removed body =>
    if added == Flags.none && removed == Flags.none then body else scope added removed body
  | pattern => pattern

/-- Items one after the other, without groups that leave no trace. -/
def sequenceOf (items : List Pattern) : Pattern :=
  ofList (items.flatMap fun item => item.unwrapped.parts)

/-- The members of a unit as part of a set: a code, or the members of a set that is not negated. -/
def CharacterUnit.members? : CharacterUnit → Option (List Member)
  | .code single => some [.code single]
  | .set false members => some members
  | _ => none

/-- The members of alternatives that are one unit each. -/
def membersOf? : List (List Pattern) → Option (List Member)
  | [] => some []
  | [unit first] :: rest => do
    return (← first.members?) ++ (← membersOf? rest)
  | _ => none

/-- The part with which all alternatives start. -/
def commonStart? : List (List Pattern) → Option Pattern
  | (first :: _) :: rest =>
    if rest.all fun other => (other.head?.map (isSamePart first)).getD false then some first
    else none
  | _ => none

/-- Takes the parts with which all alternatives start out of them. -/
def takeCommon : Nat → List (List Pattern) → List Pattern × List (List Pattern)
  | 0, alternatives => ([], alternatives)
  | fuel + 1, alternatives =>
    match commonStart? alternatives with
    | none => ([], alternatives)
    | some first =>
      let (common, rest) := takeCommon fuel (alternatives.map List.tail)
      (first :: common, rest)

/-- Alternatives in their order.  One that comes last and is a choice of its own stays apart. -/
def chain : List Pattern → Pattern
  | [] => empty
  | [last] => if last.isChoice then scope Flags.none Flags.none last else last
  | first :: rest => either first (chain rest)

/-- A choice among two or more alternatives. -/
def choice (alternatives : List (List Pattern)) : Pattern :=
  match membersOf? alternatives with
  | some members => unit (.set false members.eraseDups)
  | none => chain (alternatives.map ofList)

/-- A choice among alternatives. -/
def oneOf : List Pattern → Pattern
  | [only] => only
  | alternatives =>
    let (common, rest) :=
      takeCommon (alternatives.headD empty).parts.length (alternatives.map parts)
    ofList (common ++ [choice rest])

end Pattern
end DirectiveLint
