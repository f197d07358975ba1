import DirectiveLint.Text.Place
import DirectiveLint.Text.Quoted

/-!
# Faults of patterns

Most faults name a place of the pattern.  A few are found only when the pattern
as a whole is looked at and name none.
-/

namespace DirectiveLint
namespace Pattern

/-- What is wrong with a pattern. -/
inductive Cause
  | unterminatedGroup
  | unbalancedParenthesis
  | unterminatedSet
  | unexpectedEnd
  | missingName (what : String)
  | unterminatedName (terminator : Char)
  | badGroupName (name : List Letter)
  | redefinedGroup (name : List Letter) (index earlier : Nat)
  | unknownGroup (name : List Letter)
  | invalidReference (index : Nat)
  | zeroReference
  | openGroup
  | groupOfSameLookBehind
  | unknownExtension (text : List Letter)
  | unterminatedComment
  | missingFlagEnd
  | missingFlag
  | missingColon
  | unknownFlag
  | localeFlag
  | conflictingScriptFlags
  | globalFlagOn
  | globalFlagOff
  | scriptFlagOff
  | flagOnAndOff
  | flagsNotAtStart
  | nothingToRepeat
  | multipleRepeat
  | countsOutOfOrder
  | badRange (low high : List Letter)
  | badEscape (text : List Letter)
  | escapeAtEnd
  | incompleteEscape (text : List Letter)
  | octalTooLarge (text : List Letter)
  | missingBrace
  | undefinedName (name : List Letter)
  | tooManyBranches
  deriving DecidableEq, Repr

/-- The wording of a cause. -/
def Cause.message : Cause → LooseText
  | unterminatedGroup => "missing ), unterminated subpattern"
  | unbalancedParenthesis => "unbalanced parenthesis"
  | unterminatedSet => "unterminated character set"
  | unexpectedEnd => "unexpected end of pattern"
  | missingName what => "missing " ++ what
  | unterminatedName terminator =>
    "missing " ++ String.ofList [terminator] ++ ", unterminated name"
  | badGroupName name => "bad character in group name " ++ Text.quoted (.ofLetters name)
  | redefinedGroup name index earlier =>
    "redefinition of group name " ++ Text.quoted (.ofLetters name) ++ " as group " ++
      toString index ++ "; was group " ++ toString earlier
  | unknownGroup name => "unknown group name " ++ Text.quoted (.ofLetters name)
  | invalidReference index => "invalid group reference " ++ toString index
  | zeroReference => "bad group number"
  | openGroup => "cannot refer to an open group"
  | groupOfSameLookBehind => "cannot refer to group defined in the same lookbehind subpattern"
  | unknownExtension text => "unknown extension ?" ++ LooseText.ofLetters text
  | unterminatedComment => "missing ), unterminated comment"
  | missingFlagEnd => "missing -, : or )"
  | missingFlag => "missing flag"
  | missingColon => "missing :"
  | unknownFlag => "unknown flag"
  | localeFlag => "bad inline flags: cannot use 'L' flag with a str pattern"
  | conflictingScriptFlags => "bad inline flags: flags 'a', 'u' and 'L' are incompatible"
  | globalFlagOn => "bad inline flags: cannot turn on global flag"
  | globalFlagOff => "bad inline flags: cannot turn off global flag"
  | scriptFlagOff => "bad inline flags: cannot turn off flags 'a', 'u' and 'L'"
  | flagOnAndOff => "bad inline flags: flag turned on and off"
  | flagsNotAtStart => "global flags not at the start of the expression"
  | nothingToRepeat => "nothing to repeat"
  | multipleRepeat => "multiple repeat"
  | countsOutOfOrder => "min repeat greater than max repeat"
  | badRange low high =>
    "bad character range " ++ LooseText.ofLetters low ++ "-" ++ LooseText.ofLetters high
  | badEscape text => "bad escape " ++ LooseText.ofLetters text
  | escapeAtEnd => "bad escape (end of pattern)"
  | incompleteEscape text => "incomplete escape " ++ LooseText.ofLetters text
  | octalTooLarge text =>
    "octal escape value " ++ LooseText.ofLetters text ++ " outside of range 0-0o377"
  | missingBrace => "missing \x7b"
  | undefinedName name => "undefined character name " ++ Text.quoted (.ofLetters name)
  | tooManyBranches => "conditional backref with more than two branches"

/-- What is wrong with a pattern whose parts are all well formed. -/
inductive WholeCause
  | lookBehindNotFixed
  | repetitionInTemplate (mode : String)
  deriving DecidableEq, Repr

/-- The wording of a cause without a place. -/
def WholeCause.message : WholeCause → String
  | lookBehindNotFixed => "look-behind requires fixed-width pattern"
  | repetitionInTemplate mode => "internal: unsupported template operator " ++ mode

/-- Why a pattern is refused. -/
inductive Fault
  | malformed (cause : Cause) (position : Nat)
  | unusable (cause : WholeCause)
  | countTooLarge
  | countTooLong
  | conflictingFlags
  | lookBehindTooFar
  | nestedTooDeep
  deriving DecidableEq, Repr

/-- The wording of a fault of a pattern.  The line and the column of the place are added when the
pattern has more than one line. -/
def Fault.message (pattern : List Letter) : Fault → LooseText
  | malformed cause position =>
    let place := cause.message ++ " at position " ++ toString position
    if pattern.contains '\n' then
      place ++ " (line " ++ toString (Text.lineAt (.whole '\n') pattern position) ++ ", column " ++
        toString (Text.columnAt (.whole '\n') pattern position) ++ ")"
    else place
  | unusable cause => cause.message
  | countTooLarge => "the repetition number is too large"
  | countTooLong => "the repetition number has too many digits"
  | conflictingFlags => "ASCII and UNICODE flags are incompatible"
  | lookBehindTooFar => "a look-behind goes back too far"
  | nestedTooDeep => "the pattern is nested too deeply"

end Pattern
end DirectiveLint
