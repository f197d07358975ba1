import DirectiveLint.Pattern.Matcher

/-!
# Searching for patterns

A pattern is checked once and then searched for in texts: at each place that
leaves room for its least width, the first place first.
-/

namespace DirectiveLint
namespace Pattern

/-- The width of a look-behind that is too wide to go back. -/
def lookBehindLimit : Nat := 2147483648

/-- Refuses what can be read but not matched, the first part first. -/
def check : Pattern → Flags → Except Fault Unit
  | sequence first second, flags => do check first flags; check second flags
  | either first second, flags => do check first flags; check second flags
  | group _ body, flags => check body flags
  | scope added removed body, flags => check body (flags.within added removed)
  | atomic body, flags => check body flags
  | look behind _ body, flags => do
    if behind && body.width.least != body.width.greatest then
      throw (.unusable .lookBehindNotFixed)
    check body flags
  | conditional _ present absent, flags => do check present flags; check absent flags
  | repetition mode _ _ body, flags => do
    if flags.template then
      let name := match mode with
        | .greedy => "MAX_REPEAT"
        | .lazy => "MIN_REPEAT"
        | .possessive => "POSSESSIVE_REPEAT"
      throw (.unusable (.repetitionInTemplate name))
    check body flags
  | _, _ => return ()

/-- Whether some look-behind goes back too far. -/
def looksTooFarBehind : Pattern → Bool
  | sequence first second => first.looksTooFarBehind || second.looksTooFarBehind
  | either first second => first.looksTooFarBehind || second.looksTooFarBehind
  | group _ body => body.looksTooFarBehind
  | scope _ _ body => body.looksTooFarBehind
  | atomic body => body.looksTooFarBehind
  | look behind _ body =>
    (behind && lookBehindLimit ≤ body.width.least) || body.looksTooFarBehind
  | conditional _ present absent => present.looksTooFarBehind || absent.looksTooFarBehind
  | repetition _ _ _ body => body.looksTooFarBehind
  | _ => false

/-- Reads a pattern and checks that it can be matched. -/
def compile (text : List Letter) : Except Fault Parsed := do
  let parsed ← parse text
  parsed.pattern.check parsed.flags
  if parsed.pattern.looksTooFarBehind then throw .lookBehindTooFar
  return parsed

/-- What a search comes to: whether the pattern was found, unless a group was left whose start is
after its end. -/
inductive SearchResult
  | found
  | notFound
  | disordered
  deriving DecidableEq, Repr

/-- Searches for a pattern in a text. -/
def Parsed.search (parsed : Parsed) (text : String) : SearchResult :=
  let characters := text.toList.toArray
  let least := parsed.pattern.width.least
  let run := matcher characters parsed.pattern ⟨parsed.flags, false, none⟩
  let attempt (position : Nat) : Option Trail :=
    if position + least ≤ characters.size then
      match run position (.start parsed.groups position) finish with
      | .matched trail => some trail
      | .failed _ => none
    else none
  match (List.range (characters.size + 1)).findSome? attempt with
  | none => .notFound
  | some trail =>
    if (List.range' 1 parsed.groups).any trail.isDisordered then .disordered else .found

end Pattern
end DirectiveLint
