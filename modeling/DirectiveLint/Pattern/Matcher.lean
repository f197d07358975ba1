import DirectiveLint.Pattern.Reader
import DirectiveLint.Pattern.Trail

/-!
# Matching patterns

A matcher takes a place, a trail and what has to follow, and tries the ways to
match in order of preference, each with the whole of what follows before the
next.  When all of them fail, the trail says where the search was last.

A possessive repetition settles each round before the next.  It ends with the
first round that fails, and what follows it is matched from the place that this
round noted last.  A repeated unit is settled within the round, so nothing is
noted there by a round that fails.

Rounds are bounded: a repetition without a limit stops when its body matched
nothing.
-/

namespace DirectiveLint
namespace Pattern

/-- Whether an anchor holds at a position. -/
def Anchor.holds (flags : Flags) (text : Array Char) (anchor : Anchor) (position : Nat) : Bool :=
  let before := if position == 0 then none else text[position - 1]?
  let after := text[position]?
  match anchor with
  | .textStart => position == 0
  | .textEnd => position == text.size
  | .lineStart => position == 0 || (flags.multiline && before == some '\n')
  | .lineEnd =>
    position == text.size ||
      (after == some '\n' && (flags.multiline || position + 1 == text.size))
  | .boundary => text.size != 0 && isWordAt flags before != isWordAt flags after
  | .notBoundary => text.size != 0 && isWordAt flags before == isWordAt flags after

/-- Whether the text at a position repeats an earlier stretch. -/
def repeats (flags : Flags) (text : Array Char) (start stop position : Nat) : Bool :=
  position + (stop - start) ≤ text.size &&
    (List.range (stop - start)).all fun offset =>
      match text[start + offset]?, text[position + offset]? with
      | some first, some second =>
        if flags.ignoreCase then lowered flags first.toNat == lowered flags second.toNat
        else first == second
      | _, _ => false

/-- The units with which a pattern starts, if they are exact, with the flags for them. -/
structure Lead where
  unit : CharacterUnit
  flags : Flags
  deriving Repr

namespace Lead

/-- The code that has to come next. -/
def code? (lead : Lead) : Option Nat :=
  match lead.unit with
  | .code single => some single
  | _ => none

/-- Whether the character at a place is accepted. -/
def accepts (lead : Lead) (text : Array Char) (position : Nat) : Bool :=
  match text[position]? with
  | some character => lead.unit.accepts lead.flags character
  | none => false

end Lead

/-- How a pattern starts, given how what follows it starts. -/
def lead? : Pattern → Flags → Option Lead → Option Lead
  | empty, _, following => following
  | unit test, flags, _ => if test.isExact flags then some ⟨test, flags⟩ else none
  | sequence first second, flags, following => first.lead? flags (second.lead? flags following)
  | scope added removed body, flags, following => body.lead? (flags.within added removed) following
  | _, _, _ => none

/-- Whether another round may follow after `count` rounds. -/
def mayRepeat (greatest : Option Nat) (count : Nat) : Bool :=
  match greatest with
  | some limit => count < limit
  | none => true

/-- A unit as a test of the character at a place. -/
structure Repeated where
  accepts : Nat → Bool
  isFoldedSet : Bool

namespace Repeated

/-- The number of characters that are accepted one after the other, up to a limit. -/
def count (body : Repeated) : Nat → Nat → Nat
  | 0, _ => 0
  | limit + 1, position =>
    if body.accepts position then body.count limit (position + 1) + 1 else 0

/-- The place that is noted when `count` characters from a place on were accepted. -/
def noted (body : Repeated) (position count : Nat) : Nat :=
  if body.isFoldedSet then position + count else position

/-- Tries what follows after `count` characters, then after fewer, down to `least`. Where a code has
to come next, only places before that code are tried. -/
def fewer (follows : Nat → Bool) (saved : Bool) (least start : Nat) (earlier : Trail)
    (next : Continuation) : Nat → Trail → Outcome
  | count, trail =>
    let step (trail : Trail) : Outcome :=
      match count with
      | 0 => .failed trail
      | fewerCount + 1 =>
        if least ≤ fewerCount then
          fewer follows saved least start earlier next fewerCount trail
        else .failed trail
    if follows (start + count) then
      match next (start + count) (trail.noting (start + count)) with
      | .matched found => .matched found
      | .failed trail => step (trail.backTo earlier saved)
    else step trail

/-- Tries what follows after `count` characters, then after more, as long as they are accepted. -/
def more (body : Repeated) (saved : Bool) (greatest : Option Nat) (start : Nat) (earlier : Trail)
    (next : Continuation) : Nat → Nat → Trail → Outcome
  | 0, _, trail => .failed trail
  | fuel + 1, count, trail =>
    let position := start + count
    match next position (trail.noting position) with
    | .matched found => .matched found
    | .failed trail =>
      let trail := (trail.backTo earlier saved).noting position
      if body.accepts position then
        let trail := trail.noting (body.noted position 1)
        if mayRepeat greatest count then
          body.more saved greatest start earlier next fuel (count + 1) trail
        else .failed trail
      else .failed trail

end Repeated

/-- Rounds of a unit. -/
def repeatUnit (text : Array Char) (body : Repeated) (mode : RepeatMode) (least : Nat)
    (greatest : Option Nat) (saved : Bool) (following : Option Lead) : Matcher :=
  fun position trail next =>
    let room := text.size - position
    if room < least then .failed trail
    else
      let most := min room (greatest.getD room)
      match mode with
      | .greedy =>
        let count := body.count most position
        let trail := trail.noting (body.noted position count)
        if count < least then .failed trail
        else
          let follows := fun place =>
            match following.bind Lead.code? with
            | some code => text[place]?.map Char.toNat == some code
            | none => true
          Repeated.fewer follows saved least position trail next count trail
      | .lazy =>
        let count := body.count least position
        let trail := trail.noting (body.noted position count)
        if count < least then .failed trail
        else body.more saved greatest position trail next (room + 1) count trail
      | .possessive =>
        let count := body.count most position
        let trail := trail.noting (body.noted position count)
        if count < least then .failed trail else next (position + count) trail

/-- Rounds of a body, as many as possible first.  `last` is where the previous optional round
started; a round that would start there again is not tried. -/
def repeatGreedy (body : Matcher) (least : Nat) (greatest : Option Nat) (next : Continuation) :
    Nat → Nat → Option Nat → Continuation
  | 0, _, _, _, trail => .failed trail
  | fuel + 1, count, last, position, trail =>
    let trail := trail.noting position
    if count < least then
      match body position trail (repeatGreedy body least greatest next fuel (count + 1) last) with
      | .matched found => .matched found
      | .failed trail => .failed (trail.noting position)
    else
      let rest (trail : Trail) : Outcome :=
        match next position trail with
        | .matched found => .matched found
        | .failed trail => .failed (trail.noting position)
      if mayRepeat greatest count && last != some position then
        match body position trail
            (repeatGreedy body least greatest next fuel (count + 1) (some position)) with
        | .matched found => .matched found
        | .failed after => rest ((after.backTo trail true).noting position)
      else rest trail

/-- Rounds of a body, as few as possible first.  `saved` says whether what follows is inside another
repetition. -/
def repeatLazy (body : Matcher) (least : Nat) (greatest : Option Nat) (saved : Bool)
    (next : Continuation) : Nat → Nat → Option Nat → Continuation
  | 0, _, _, _, trail => .failed trail
  | fuel + 1, count, last, position, trail =>
    let trail := trail.noting position
    let round (last : Option Nat) (trail : Trail) : Outcome :=
      match body position trail
          (repeatLazy body least greatest saved next fuel (count + 1) last) with
      | .matched found => .matched found
      | .failed trail => .failed (trail.noting position)
    if count < least then round last trail
    else
      match next position trail with
      | .matched found => .matched found
      | .failed after =>
        let trail := (after.backTo trail saved).noting position
        if mayRepeat greatest count && last != some position then round (some position) trail
        else .failed trail

/-- Rounds of a body, each settled before the next.  The rounds end where the last one noted its
place. -/
def repeatPossessive (body : Matcher) (least : Nat) (greatest : Option Nat) :
    Nat → Nat → Option Nat → Trail → Outcome
  | 0, _, _, trail => .failed trail
  | fuel + 1, count, last, trail =>
    let position := trail.noted
    if count < least then
      match body position trail finish with
      | .matched after => repeatPossessive body least greatest fuel (count + 1) last after
      | .failed after => .failed after
    else if mayRepeat greatest count && last != some position then
      match body position trail finish with
      | .matched after =>
        repeatPossessive body least greatest fuel (count + 1) (some position) after
      | .failed after => .matched (after.backTo trail true)
    else .matched trail

/-- An alternative, which is passed over where its exact start is not accepted. -/
def alternative (text : Array Char) (start : Option Lead) (body : Matcher) (saved : Bool) :
    Matcher :=
  fun position trail next =>
    let isExcluded :=
      match start with
      | some lead => !lead.accepts text position
      | none => false
    if isExcluded then .failed trail
    else
      match body position (trail.noting position) next with
      | .matched found => .matched found
      | .failed after => .failed (after.backTo trail saved)

/-- What a matcher depends on besides its pattern: the flags, whether it is inside a repetition that
saves marks, and how what follows starts. -/
structure Setting where
  flags : Flags
  saved : Bool
  following : Option Lead

/-- The matcher of a pattern. -/
def matcher (text : Array Char) : Pattern → Setting → Matcher
  | empty, _ => fun position trail next => next position trail
  | unit test, setting => fun position trail next =>
    match text[position]? with
    | some character =>
      if test.accepts setting.flags character then next (position + 1) trail else .failed trail
    | none => .failed trail
  | anchor place, setting => fun position trail next =>
    if place.holds setting.flags text position then next position trail else .failed trail
  | sequence first second, setting =>
    let start := matcher text first
      { setting with following := second.lead? setting.flags setting.following }
    let rest := matcher text second setting
    fun position trail next => start position trail fun position trail => rest position trail next
  | either first second, setting =>
    let apart := { setting with following := none }
    let left :=
      alternative text (first.lead? setting.flags none) (matcher text first apart) setting.saved
    let others := matcher text second apart
    let right :=
      if second.isChoice then others
      else alternative text (second.lead? setting.flags none) others setting.saved
    fun position trail next =>
      match left position trail next with
      | .matched found => .matched found
      | .failed trail => right position trail next
  | group index body, setting =>
    let inner := matcher text body { setting with following := none }
    fun position trail next =>
      inner position (trail.marking (2 * index - 2) position) fun position trail =>
        next position (trail.marking (2 * index - 1) position)
  | scope added removed body, setting =>
    matcher text body { setting with flags := setting.flags.within added removed }
  | atomic body, setting =>
    let inner := matcher text body { setting with following := none }
    fun position trail next =>
      match inner position (trail.noting position) finish with
      | .matched after => next after.noted after
      | .failed after => .failed (after.noting position)
  | look behind negated body, setting =>
    let inner := matcher text body { setting with following := none }
    let back := if behind then body.width.least else 0
    fun position trail next =>
      if position < back then
        if negated then next position trail else .failed trail
      else
        match inner (position - back) (trail.noting (position - back)) finish, negated with
        | .matched after, false => next position after
        | .failed after, false => .failed after
        | .matched after, true => .failed after
        | .failed after, true => next position (after.backTo trail setting.saved)
  | reference index _, setting => fun position trail next =>
    match trail.group? index with
    | some (start, stop) =>
      if repeats setting.flags text start stop position then
        next (position + (stop - start)) trail
      else .failed trail
    | none => .failed trail
  | conditional index present absent, setting =>
    let yes := matcher text present
      (if absent.parts.isEmpty then setting else { setting with following := none })
    let no := matcher text absent setting
    fun position trail next =>
      if (trail.group? index).isSome then yes position trail next else no position trail next
  | repetition mode least greatest body, setting =>
    if body.isUnit then
      let accepts := fun position => (text[position]?).any (body.unitAccepts setting.flags)
      repeatUnit text ⟨accepts, body.isFoldedSet setting.flags⟩ mode least greatest setting.saved
        setting.following
    else
      let rounds (position : Nat) : Nat :=
        least + (text.size - position + 2) * (text.size - position + 2)
      match mode with
      | .greedy =>
        let inner := matcher text body { setting with saved := true, following := none }
        fun position trail next =>
          repeatGreedy inner least greatest next (rounds position) 0 none position trail
      | .lazy =>
        let inner := matcher text body { setting with saved := true, following := none }
        fun position trail next =>
          repeatLazy inner least greatest setting.saved next (rounds position) 0 none position trail
      | .possessive =>
        let inner := matcher text body { setting with following := none }
        fun position trail next =>
          match repeatPossessive inner least greatest (rounds position) 0 none
              (trail.noting position) with
          | .matched after => next after.noted after
          | .failed after => .failed (after.noting position)

end Pattern
end DirectiveLint
