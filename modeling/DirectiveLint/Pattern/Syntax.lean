/-!
# Patterns

A pattern describes texts.  Its units describe one character each; anchors
describe a place; the other forms combine patterns.  Flags that a pattern sets
for a part of itself are kept at that part as a change of scope, because they are
resolved only when the pattern is matched.
-/

namespace DirectiveLint
namespace Pattern

/-- The switches under which a pattern is matched. -/
structure Flags where
  ignoreCase : Bool
  multiline : Bool
  dotAll : Bool
  verbose : Bool
  sevenBit : Bool
  allScripts : Bool
  template : Bool
  deriving DecidableEq, Repr, Inhabited

namespace Flags

def none : Flags := ⟨false, false, false, false, false, false, false⟩

def union (first second : Flags) : Flags :=
  { ignoreCase := first.ignoreCase || second.ignoreCase
    multiline := first.multiline || second.multiline
    dotAll := first.dotAll || second.dotAll
    verbose := first.verbose || second.verbose
    sevenBit := first.sevenBit || second.sevenBit
    allScripts := first.allScripts || second.allScripts
    template := first.template || second.template }

def inter (first second : Flags) : Flags :=
  { ignoreCase := first.ignoreCase && second.ignoreCase
    multiline := first.multiline && second.multiline
    dotAll := first.dotAll && second.dotAll
    verbose := first.verbose && second.verbose
    sevenBit := first.sevenBit && second.sevenBit
    allScripts := first.allScripts && second.allScripts
    template := first.template && second.template }

def diff (first second : Flags) : Flags :=
  { ignoreCase := first.ignoreCase && !second.ignoreCase
    multiline := first.multiline && !second.multiline
    dotAll := first.dotAll && !second.dotAll
    verbose := first.verbose && !second.verbose
    sevenBit := first.sevenBit && !second.sevenBit
    allScripts := first.allScripts && !second.allScripts
    template := first.template && !second.template }

/-- The flag that a letter sets. -/
def ofLetter? : Char → Option Flags
  | 'i' => some { none with ignoreCase := true }
  | 'm' => some { none with multiline := true }
  | 's' => some { none with dotAll := true }
  | 'x' => some { none with verbose := true }
  | 'a' => some { none with sevenBit := true }
  | 'u' => some { none with allScripts := true }
  | 't' => some { none with template := true }
  | _ => Option.none

/-- The flags that choose what counts as a letter, digit or blank. -/
def choosesScript (flags : Flags) : Bool :=
  flags.sevenBit || flags.allScripts

/-- The flags inside a part that adds some flags and removes others. -/
def within (flags added removed : Flags) : Flags :=
  let base :=
    if added.choosesScript then { flags with sevenBit := false, allScripts := false } else flags
  (base.union added).diff removed

end Flags

/-- The classes of characters that a letter after a backslash names. -/
inductive Category
  | digit
  | space
  | word
  deriving DecidableEq, Repr

/-- A member of a set of characters; codes need not be those of characters. -/
inductive Member
  | code (code : Nat)
  | range (low high : Nat)
  | category (category : Category) (negated : Bool)
  deriving DecidableEq, Repr

/-- Descriptions of one character. -/
inductive CharacterUnit
  | code (code : Nat)
  | any
  | set (negated : Bool) (members : List Member)
  deriving DecidableEq, Repr

/-- Descriptions of a place between characters. -/
inductive Anchor
  | lineStart
  | lineEnd
  | textStart
  | textEnd
  | boundary
  | notBoundary
  deriving DecidableEq, Repr

/-- How a repetition chooses its count. -/
inductive RepeatMode
  | greedy
  | lazy
  | possessive
  deriving DecidableEq, Repr

/-- The least and the greatest number of characters that a pattern describes. -/
structure Width where
  least : Nat
  greatest : Nat
  deriving DecidableEq, Repr, Inhabited

end Pattern

/-- A pattern.  A repetition without a greatest count has no limit. -/
inductive Pattern
  | empty
  | unit (unit : Pattern.CharacterUnit)
  | anchor (anchor : Pattern.Anchor)
  | sequence (first second : Pattern)
  | either (first second : Pattern)
  | group (index : Nat) (body : Pattern)
  | scope (added removed : Pattern.Flags) (body : Pattern)
  | atomic (body : Pattern)
  | look (behind negated : Bool) (body : Pattern)
  | reference (index : Nat) (width : Pattern.Width)
  | conditional (index : Nat) (present absent : Pattern)
  | repetition (mode : Pattern.RepeatMode) (least : Nat) (greatest : Option Nat) (body : Pattern)
  deriving Repr

namespace Pattern

/-- The least count that is too large for a repetition.  A repetition without a limit is as wide as
one with this count. -/
def countLimit : Nat := 4294967295

/-- A width of which no side is told apart from what is wider than the counts of repetitions. -/
def Width.cut (width : Width) : Width :=
  ⟨min width.least (countLimit - 1), min width.greatest countLimit⟩

/-- The width of a pattern, cut off at the limit of counts. -/
def width : Pattern → Width
  | empty => ⟨0, 0⟩
  | unit _ => ⟨1, 1⟩
  | anchor _ => ⟨0, 0⟩
  | sequence first second =>
    Width.cut ⟨first.width.least + second.width.least,
      first.width.greatest + second.width.greatest⟩
  | either first second =>
    ⟨min first.width.least second.width.least, max first.width.greatest second.width.greatest⟩
  | group _ body => body.width
  | scope _ _ body => body.width
  | atomic body => body.width
  | look _ _ _ => ⟨0, 0⟩
  | reference _ width => width
  | conditional _ present absent =>
    ⟨min present.width.least absent.width.least, max present.width.greatest absent.width.greatest⟩
  | repetition _ least greatest body =>
    Width.cut ⟨body.width.least * least, body.width.greatest * greatest.getD countLimit⟩

/-- Patterns one after the other. -/
def ofList : List Pattern → Pattern
  | [] => empty
  | [pattern] => pattern
  | pattern :: rest => sequence pattern (ofList rest)

def isAnchor : Pattern → Bool
  | anchor _ => true
  | _ => false

def isRepetition : Pattern → Bool
  | repetition .. => true
  | _ => false

def isChoice : Pattern → Bool
  | either _ _ => true
  | _ => false

/-- Whether a pattern is one unit, perhaps under other flags. -/
def isUnit : Pattern → Bool
  | unit _ => true
  | scope _ _ body => body.isUnit
  | _ => false

end Pattern
end DirectiveLint
