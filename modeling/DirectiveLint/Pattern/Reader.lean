import DirectiveLint.Character.Alphabetic
import DirectiveLint.Character.Identifier
import DirectiveLint.Character.Name
import DirectiveLint.Json.Reader
import DirectiveLint.Number.IntegerText
import DirectiveLint.Pattern.Arrangement
import DirectiveLint.Pattern.Fault

/-!
# Reading patterns

A pattern is read token by token; a backslash and the letter after it are one
token.  The reader keeps the groups that were opened so far with their widths
once they are closed, the names of groups, and the references whose groups must
exist in the end.  It also keeps how deep it is inside groups: a group counts as
two levels, one for its alternatives and one for their items, and a condition,
which has no alternatives, as one.

The recursion is bounded by a number that the length of the pattern gives: every
level and every step of a level consumes a token.
-/

namespace DirectiveLint
namespace Pattern

/-- One token: a letter, or a backslash with the letter after it. -/
abbrev Token := List Letter

/-- The state of reading.  `widths` lists the groups in the order of their opening, with the widths
of those that are closed. -/
structure Reading where
  rest : List Letter
  position : Nat
  flags : Flags
  widths : List (Option Width)
  names : List (List Letter × Nat)
  lookBehindGroups : Option Nat
  references : List (Nat × Nat)
  depth : Nat

/-- How many levels of groups may be open. -/
def nestingLimit : Nat := 987

abbrev Reader := StateT Reading (Except Fault)

namespace Reader

/-- Stops with a fault some letters before the position. -/
def failBack {α : Type} (cause : Cause) (back : Nat) : Reader α := do
  throw (.malformed cause ((← get).position - back))

/-- Stops with a fault at the position. -/
def fail {α : Type} (cause : Cause) : Reader α :=
  failBack cause 0

/-- The token at the position. -/
def peek : Reader (Option Token) := do
  match (← get).rest with
  | [] => return none
  | .whole '\\' :: letter :: _ => return some ['\\', letter]
  | letter :: _ => return some [letter]

/-- Refuses a backslash at the end of the pattern as soon as it is the next token. -/
def checkEscape : Reader Unit := do
  if (← get).rest == [.whole '\\'] then fail .escapeAtEnd

/-- Moves to another place of the pattern. -/
def moveTo (rest : List Letter) (position : Nat) : Reader Unit := do
  modify fun reading => { reading with rest, position }
  checkEscape

/-- Takes the token at the position. -/
def take : Reader (Option Token) := do
  match ← peek with
  | none => return none
  | some token =>
    let reading ← get
    moveTo (reading.rest.drop token.length) (reading.position + token.length)
    return some token

/-- Takes a character if it is the token at the position. -/
def takeIf (character : Char) : Reader Bool := do
  if (← peek) == some [.whole character] then
    discard take
    return true
  else return false

/-- Takes at most `count` letters of a class. -/
def takeWhile (allowed : Letter → Bool) : Nat → Reader (List Letter)
  | 0 => return []
  | count + 1 => do
    match ← peek with
    | some [letter] =>
      if allowed letter then
        discard take
        return letter :: (← takeWhile allowed count)
      else return []
    | _ => return []

/-- Takes a name up to its terminator. -/
def takeName (terminator : Char) (what : String) : Nat → List Letter → Reader (List Letter)
  | 0, _ => fail .unexpectedEnd
  | fuel + 1, name => do
    match ← take with
    | none =>
      if name.isEmpty then fail (.missingName what)
      else failBack (.unterminatedName terminator) name.length
    | some token =>
      if token == [.whole terminator] then
        if name.isEmpty then failBack (.missingName what) 1 else return name
      else takeName terminator what fuel (name ++ token)

def isOctal (letter : Letter) : Bool :=
  letter.satisfies fun character => '0' ≤ character && character ≤ '7'

def isDigit (letter : Letter) : Bool :=
  letter.satisfies Char.isDigit

def isHex (letter : Letter) : Bool :=
  letter.satisfies fun character => (Json.hexValue? character).isSome

def isSevenBitLetter (letter : Letter) : Bool :=
  letter.satisfies Char.isAlpha

/-- The number that digits of a base write. -/
def numberIn (base : Nat) (digits : List Letter) : Nat :=
  digits.foldl
    (fun total digit => base * total + (digit.character?.bind Json.hexValue?).getD 0) 0

/-- The code that an escape with a fixed number of hex digits writes. -/
def hexEscape (token : Token) (count : Nat) : Reader Nat := do
  let digits ← takeWhile isHex count
  let escape := token ++ digits
  if digits.length < count then failBack (.incompleteEscape escape) escape.length
  let code := numberIn 16 digits
  if 0x10ffff < code then failBack (.badEscape escape) escape.length
  return code

/-- The code of a character that is given by name.  A name with a half in it cannot be looked up. -/
def namedEscape (token : Token) : Reader Nat := do
  unless ← takeIf '{' do fail .missingBrace
  let name ← takeName '}' "character name" ((← get).rest.length + 1) []
  match Letter.characters? name with
  | none => failBack (.badEscape token) token.length
  | some characters =>
    match Character.codeOfName? characters with
    | some code => return code
    | none => failBack (.undefinedName name) (name.length + 4)

/-- The code of an octal escape, which has a single byte. -/
def octalCode (escape : Token) : Reader Nat := do
  let code := numberIn 8 (escape.drop 1)
  if 0o377 < code then failBack (.octalTooLarge escape) escape.length
  return code

/-- The category that a letter after a backslash names, and whether it is negated. -/
def categoryOf? : Letter → Option Member
  | .whole 'd' => some (.category .digit false)
  | .whole 'D' => some (.category .digit true)
  | .whole 's' => some (.category .space false)
  | .whole 'S' => some (.category .space true)
  | .whole 'w' => some (.category .word false)
  | .whole 'W' => some (.category .word true)
  | _ => none

def anchorOf? : Letter → Option Anchor
  | .whole 'A' => some .textStart
  | .whole 'b' => some .boundary
  | .whole 'B' => some .notBoundary
  | .whole 'Z' => some .textEnd
  | _ => none

/-- The control character or backslash that a letter after a backslash stands for. -/
def controlOf? : Letter → Option Nat
  | .whole 'a' => some 7
  | .whole 'f' => some 12
  | .whole 'n' => some 10
  | .whole 'r' => some 13
  | .whole 't' => some 9
  | .whole 'v' => some 11
  | .whole '\\' => some 92
  | _ => none

/-- Escapes that mean the same inside and outside a set of characters. -/
def sharedEscape (token : Token) (letter : Letter) : Reader Nat := do
  match letter with
  | .whole 'x' => hexEscape token 2
  | .whole 'u' => hexEscape token 4
  | .whole 'U' => hexEscape token 8
  | .whole 'N' => namedEscape token
  | _ =>
    if isSevenBitLetter letter then failBack (.badEscape token) token.length
    else return letter.code

/-- A member of a set that an escape stands for. -/
def setEscape (token : Token) : Reader Member := do
  let letter := token.getLastD '\\'
  match categoryOf? letter with
  | some member => return member
  | none =>
    if letter == 'b' then return .code 8
    match controlOf? letter with
    | some code => return .code code
    | none =>
      if isOctal letter then
        return .code (← octalCode (token ++ (← takeWhile isOctal 2)))
      else if isDigit letter then failBack (.badEscape token) token.length
      else return .code (← sharedEscape token letter)

/-- The width of a group that is closed. -/
def closedWidth? (index : Nat) : Reader (Option Width) := do
  return ((← get).widths[index - 1]?).join

/-- Refuses references out of a look-behind to its own groups. -/
def checkLookBehind (index : Nat) : Reader Unit := do
  match (← get).lookBehindGroups with
  | none => return ()
  | some groups =>
    if (← closedWidth? index).isNone then fail .openGroup
    if groups ≤ index then fail .groupOfSameLookBehind

/-- A reference to a group by its number, or an octal escape. -/
def digitEscape (token : Token) : Reader Pattern := do
  let mut escape := token
  match ← peek with
  | some [second] =>
    if isDigit second then
      discard take
      escape := escape ++ [second]
      match ← peek with
      | some [third] =>
        if (escape.drop 1).all isOctal && isOctal third then
          discard take
          return .unit (.code (← octalCode (escape ++ [third])))
      | _ => pure ()
  | _ => pure ()
  let index := numberIn 10 (escape.drop 1)
  if index ≤ (← get).widths.length then
    match ← closedWidth? index with
    | none => failBack .openGroup escape.length
    | some width =>
      checkLookBehind index
      return .reference index width
  else failBack (.invalidReference index) (escape.length - 1)

/-- What an escape outside a set stands for. -/
def escape (token : Token) : Reader Pattern := do
  let letter := token.getLastD '\\'
  match categoryOf? letter, anchorOf? letter, controlOf? letter with
  | some member, _, _ => return .unit (.set false [member])
  | _, some place, _ => return .anchor place
  | _, _, some code => return .unit (.code code)
  | _, _, _ =>
    if letter == '0' then
      return .unit (.code (numberIn 8 ((token ++ (← takeWhile isOctal 2)).drop 1)))
    else if isDigit letter then digitEscape token
    else return .unit (.code (← sharedEscape token letter))

/-- A token as a member of a set. -/
def setMember (token : Token) : Reader Member := do
  match token with
  | [.whole '\\', _] => setEscape token
  | _ => return .code (token.headD '\\').code

/-- The members of a set up to its closing bracket; `start` is the place of the opening one.  A
closing bracket that comes first is a member. -/
def setMembers (start : Nat) : Nat → List Member → Reader (List Member)
  | 0, _ => fail .unterminatedSet
  | fuel + 1, members => do
    let unterminated : Reader (List Member) :=
      throw (.malformed .unterminatedSet start)
    match ← take with
    | none => unterminated
    | some token =>
      if token == [.whole ']'] && !members.isEmpty then return members
      let low ← setMember token
      if ← takeIf '-' then
        match ← take with
        | none => unterminated
        | some other =>
          if other == [.whole ']'] then return members ++ [low, .code '-'.toNat]
          let high ← setMember other
          let back := token.length + 1 + other.length
          match low, high with
          | .code first, .code last =>
            if last < first then failBack (.badRange token other) back
            else setMembers start fuel (members ++ [.range first last])
          | _, _ => failBack (.badRange token other) back
      else setMembers start fuel (members ++ [low])

/-- A set after its opening bracket. -/
def set : Reader Pattern := do
  let start := (← get).position - 1
  let negated ← takeIf '^'
  let members := (← setMembers start ((← get).rest.length + 1) []).eraseDups
  match negated, members with
  | false, [.code code] => return .unit (.code code)
  | _, _ => return .unit (.set negated members)

/-- The counts of a repetition that a brace opens; nothing if the brace stands for itself. -/
def counts : Reader (Option (Nat × Option Nat)) := do
  let start ← get
  if (← peek) == some [.whole '}'] then return none
  let low ← takeWhile isDigit start.rest.length
  let high ← if ← takeIf ',' then takeWhile isDigit start.rest.length else pure low
  unless ← takeIf '}' do
    moveTo start.rest start.position
    return none
  let number (digits : List Letter) : Reader Nat := do
    if Number.digitLimit < digits.length then throw .countTooLong
    let count := numberIn 10 digits
    if Pattern.countLimit ≤ count then throw .countTooLarge
    return count
  let least ← if low.isEmpty then pure 0 else number low
  if high.isEmpty then return some (least, none)
  let greatest ← number high
  if greatest < least then throw (.malformed .countsOutOfOrder start.position)
  return some (least, some greatest)

/-- The counts of a repetition whose first letter was taken. -/
def repeatCounts (letter : Letter) : Reader (Option (Nat × Option Nat)) := do
  match letter with
  | .whole '?' => return some (0, some 1)
  | .whole '*' => return some (0, none)
  | .whole '+' => return some (1, none)
  | _ => counts

/-- How a repetition chooses, from the letter after its counts. -/
def repeatMode : Reader RepeatMode := do
  if ← takeIf '?' then return .lazy
  else if ← takeIf '+' then return .possessive
  else return .greedy

/-- Skips a comment in a group up to the closing parenthesis. -/
def skipGroupComment (start : Nat) : Nat → Reader Unit
  | 0 => return ()
  | fuel + 1 => do
    match ← take with
    | none => throw (.malformed .unterminatedComment start)
    | some token => if token == [.whole ')'] then return () else skipGroupComment start fuel

/-- Skips the rest of a line. -/
def skipLine : Nat → Reader Unit
  | 0 => return ()
  | fuel + 1 => do
    match ← take with
    | none => return ()
    | some token => if token == [.whole '\n'] then return () else skipLine fuel

/-- The flag of a token among those of the pattern's start or of a group. -/
def flagOf? (token : Token) : Option Flags :=
  match token with
  | [.whole character] => Flags.ofLetter? character
  | _ => none

/-- Whether a token is a letter of some script. -/
def isLetter (token : Token) : Bool :=
  token.all fun letter => letter.satisfies Character.isAlphabetic

/-- Flags that are switched on, with the token that ends them. -/
def flagsOn : Nat → Token → Flags → Reader (Flags × Token)
  | 0, _, _ => fail .missingFlagEnd
  | fuel + 1, token, flags => do
    if token == [.whole 'L'] then fail .localeFlag
    let flag := (flagOf? token).getD Flags.none
    let flags := flags.union flag
    if flag.choosesScript && flags.sevenBit && flags.allScripts then fail .conflictingScriptFlags
    match ← take with
    | none => fail .missingFlagEnd
    | some next =>
      if next == [.whole ')'] || next == [.whole '-'] || next == [.whole ':'] then
        return (flags, next)
      else if (flagOf? next).isSome || next == [.whole 'L'] then flagsOn fuel next flags
      else if isLetter next then failBack .unknownFlag next.length
      else failBack .missingFlagEnd next.length

/-- Flags that are switched off, up to the colon. -/
def flagsOff : Nat → Token → Flags → Reader Flags
  | 0, _, _ => fail .missingColon
  | fuel + 1, token, flags => do
    let flag := (flagOf? token).getD Flags.none
    if flag.choosesScript || token == [.whole 'L'] then fail .scriptFlagOff
    let flags := flags.union flag
    match ← take with
    | none => fail .missingColon
    | some next =>
      if next == [.whole ':'] then return flags
      else if (flagOf? next).isSome || next == [.whole 'L'] then flagsOff fuel next flags
      else if isLetter next then failBack .unknownFlag next.length
      else failBack .missingColon next.length

/-- The flags of a group, or nothing if they were set for the whole pattern. -/
def groupFlags (token : Token) : Reader (Option (Flags × Flags)) := do
  let fuel := (← get).rest.length + 1
  let (added, last) ←
    if token == [.whole '-'] then pure (Flags.none, token) else flagsOn fuel token Flags.none
  if last == [.whole ')'] then
    modify fun reading => { reading with flags := reading.flags.union added }
    return none
  if added.template then failBack .globalFlagOn 1
  let removed ←
    if last == [.whole '-'] then
      match ← take with
      | none => fail .missingFlag
      | some next =>
        if (flagOf? next).isSome || next == [.whole 'L'] then flagsOff fuel next Flags.none
        else if isLetter next then failBack .unknownFlag next.length
        else failBack .missingFlag next.length
    else pure Flags.none
  if removed.template then failBack .globalFlagOff 1
  if added.inter removed != Flags.none then failBack .flagOnAndOff 1
  return some (added, removed)

/-- Whether letters are a name. -/
def isName (letters : List Letter) : Bool :=
  (Letter.characters? letters).any Character.isIdentifier

/-- Refuses what is not a name. -/
def checkName (name : List Letter) : Reader Unit := do
  unless isName name do failBack (.badGroupName name) (name.length + 1)

/-- Opens a group and gives its number. -/
def openGroup (name : Option (List Letter)) : Reader Nat := do
  let reading ← get
  let index := reading.widths.length + 1
  modify fun reading => { reading with widths := reading.widths ++ [none] }
  match name with
  | none => return index
  | some name =>
    match reading.names.lookup name with
    | some earlier => failBack (.redefinedGroup name index earlier) (name.length + 1)
    | none =>
      modify fun reading => { reading with names := reading.names ++ [(name, index)] }
      return index

def closeGroup (index : Nat) (body : Pattern) : Reader Unit :=
  modify fun reading =>
    { reading with widths := reading.widths.set (index - 1) (some body.width) }

/-- A reference to a group by its name. -/
def namedReference : Reader Pattern := do
  let name ← takeName ')' "group name" ((← get).rest.length + 1) []
  checkName name
  match (← get).names.lookup name with
  | none => failBack (.unknownGroup name) (name.length + 1)
  | some index =>
    match ← closedWidth? index with
    | none => failBack .openGroup (name.length + 1)
    | some width =>
      checkLookBehind index
      return .reference index width

/-- The group that a condition asks for, by name or by number. -/
def conditionGroup : Reader Nat := do
  let name ← takeName ')' "group name" ((← get).rest.length + 1) []
  let back := name.length + 1
  if isName name then
    match (← get).names.lookup name with
    | none => failBack (.unknownGroup name) back
    | some index => return index
  else
    match (Letter.characters? name).bind Number.integer? with
    | none => failBack (.badGroupName name) back
    | some number =>
      if number < 0 then failBack (.badGroupName name) back
      let index := number.toNat
      if index == 0 then failBack .zeroReference back
      if 1073741823 ≤ index then failBack (.invalidReference index) back
      modify fun reading =>
        if (reading.references.lookup index).isSome then reading
        else { reading with
          references := reading.references ++ [(index, reading.position - back)] }
      return index

/-- Reads some levels deeper. -/
def deeper {α : Type} (levels : Nat) (inner : Reader α) : Reader α := do
  let depth := (← get).depth + levels
  if nestingLimit < depth then throw .nestedTooDeep
  modify fun reading => { reading with depth }
  let result ← inner
  modify fun reading => { reading with depth := depth - levels }
  return result

/-- Closes a part that a parenthesis opened at `start`. -/
def closeParenthesis (start : Nat) : Reader Unit := do
  unless ← takeIf ')' do throw (.malformed .unterminatedGroup start)

/-- White space that a verbose pattern skips. -/
def isVerboseSpace (letter : Letter) : Bool :=
  letter == ' ' || letter == '\t' || letter == '\n' || letter == '\r' ||
    letter == '\x0b' || letter == '\x0c'

mutual

/-- Alternatives after those read so far, up to a closing parenthesis or the end.  `top` says that
they are not within a group. -/
def alternatives : Nat → Bool → Bool → List Pattern → Reader Pattern
  | 0, _, _, _ => fail .unexpectedEnd
  | fuel + 1, verbose, top, before => do
    let read := before ++ [← items fuel verbose (top && before.isEmpty) []]
    if ← takeIf '|' then
      let flags := (← get).flags
      alternatives fuel (if top then flags.verbose else verbose) top read
    else return .oneOf read

/-- A sequence after the items read so far.  `first` says that flags for the whole pattern may still
come. -/
def items : Nat → Bool → Bool → List Pattern → Reader Pattern
  | 0, _, _, _ => fail .unexpectedEnd
  | fuel + 1, verbose, first, before => do
    match ← peek with
    | none => return .sequenceOf before
    | some token =>
      if token == [.whole '|'] || token == [.whole ')'] then return .sequenceOf before
      discard take
      match token with
      | [letter] =>
        if verbose && isVerboseSpace letter then items fuel verbose first before
        else if verbose && letter == '#' then
          skipLine ((← get).rest.length + 1)
          items fuel verbose first before
        else if letter == '[' then items fuel verbose first (before ++ [← set])
        else if letter == '.' then items fuel verbose first (before ++ [.unit .any])
        else if letter == '^' then items fuel verbose first (before ++ [.anchor .lineStart])
        else if letter == '$' then items fuel verbose first (before ++ [.anchor .lineEnd])
        else if letter == '(' then parenthesis fuel verbose first before
        else if letter == '?' || letter == '*' || letter == '+' || letter == '{' then
          repetitionOf fuel verbose first before letter
        else items fuel verbose first (before ++ [.unit (.code (letter.code))])
      | _ => items fuel verbose first (before ++ [← escape token])

/-- A repetition of the last item read. -/
def repetitionOf : Nat → Bool → Bool → List Pattern → Letter → Reader Pattern
  | 0, _, _, _, _ => fail .unexpectedEnd
  | fuel + 1, verbose, first, before, letter => do
    let place := (← get).position - 1
    match ← repeatCounts letter with
    | none => items fuel verbose first (before ++ [.unit (.code (letter.code))])
    | some (least, greatest) =>
      match before.getLast? with
      | none => throw (.malformed .nothingToRepeat place)
      | some item =>
        if item.isAnchor then throw (.malformed .nothingToRepeat place)
        if item.isRepetition then throw (.malformed .multipleRepeat place)
        let mode ← repeatMode
        items fuel verbose first
          (before.dropLast ++ [.repetition mode least greatest item.unwrapped])

/-- What a parenthesis opens, and the items after it. -/
def parenthesis : Nat → Bool → Bool → List Pattern → Reader Pattern
  | 0, _, _, _ => fail .unexpectedEnd
  | fuel + 1, verbose, first, before => do
    let start := (← get).position - 1
    unless ← takeIf '?' do
      return ← capture fuel verbose first before start none
    match ← take with
    | none => fail .unexpectedEnd
    | some [.whole 'P'] =>
      if ← takeIf '<' then
        let name ← takeName '>' "group name" ((← get).rest.length + 1) []
        checkName name
        capture fuel verbose first before start (some name)
      else if ← takeIf '=' then
        items fuel verbose first (before ++ [← namedReference])
      else
        match ← take with
        | none => fail .unexpectedEnd
        | some token => failBack (.unknownExtension ('P' :: token)) (token.length + 2)
    | some [.whole ':'] =>
      let body ← deeper 2 (alternatives fuel verbose false [])
      closeParenthesis start
      items fuel verbose first (before ++ [.scope Flags.none Flags.none body])
    | some [.whole '#'] =>
      skipGroupComment start ((← get).rest.length + 1)
      items fuel verbose first before
    | some [.whole '='] => look fuel verbose first before start false false
    | some [.whole '!'] => look fuel verbose first before start false true
    | some [.whole '<'] =>
      match ← take with
      | none => fail .unexpectedEnd
      | some [.whole '='] => look fuel verbose first before start true false
      | some [.whole '!'] => look fuel verbose first before start true true
      | some token => failBack (.unknownExtension ('<' :: token)) (token.length + 2)
    | some [.whole '('] => condition fuel verbose first before start
    | some [.whole '>'] =>
      let body ← deeper 2 (alternatives fuel verbose false [])
      closeParenthesis start
      items fuel verbose first (before ++ [.atomic body])
    | some token =>
      if (flagOf? token).isSome || token == [.whole 'L'] || token == [.whole '-'] then
        match ← groupFlags token with
        | none =>
          unless first && before.isEmpty do throw (.malformed .flagsNotAtStart start)
          items fuel (← get).flags.verbose first before
        | some (added, removed) =>
          let verboseInside := (verbose || added.verbose) && !removed.verbose
          let body ← deeper 2 (alternatives fuel verboseInside false [])
          closeParenthesis start
          items fuel verbose first (before ++ [.scope added removed body])
      else failBack (.unknownExtension token) (token.length + 1)

/-- A group that keeps what it matched, and the items after it. -/
def capture : Nat → Bool → Bool → List Pattern → Nat → Option (List Letter) → Reader Pattern
  | 0, _, _, _, _, _ => fail .unexpectedEnd
  | fuel + 1, verbose, first, before, start, name => do
    let index ← openGroup name
    let body ← deeper 2 (alternatives fuel verbose false [])
    closeParenthesis start
    closeGroup index body
    items fuel verbose first (before ++ [.group index body])

/-- A look around, and the items after it. -/
def look : Nat → Bool → Bool → List Pattern → Nat → Bool → Bool → Reader Pattern
  | 0, _, _, _, _, _, _ => fail .unexpectedEnd
  | fuel + 1, verbose, first, before, start, behind, negated => do
    let outer := (← get).lookBehindGroups
    if behind && outer.isNone then
      modify fun reading => { reading with lookBehindGroups := some (reading.widths.length + 1) }
    let body ← deeper 2 (alternatives fuel verbose false [])
    if behind && outer.isNone then
      modify fun reading => { reading with lookBehindGroups := none }
    closeParenthesis start
    items fuel verbose first (before ++ [.look behind negated body])

/-- A condition on a group, and the items after it. -/
def condition : Nat → Bool → Bool → List Pattern → Nat → Reader Pattern
  | 0, _, _, _, _ => fail .unexpectedEnd
  | fuel + 1, verbose, first, before, start => do
    let index ← conditionGroup
    checkLookBehind index
    let present ← deeper 1 (items fuel verbose false [])
    let absent ←
      if ← takeIf '|' then
        let absent ← deeper 1 (items fuel verbose false [])
        if (← peek) == some [.whole '|'] then fail .tooManyBranches
        pure absent
      else pure Pattern.empty
    closeParenthesis start
    items fuel verbose first (before ++ [.conditional index present absent])

end

end Reader

/-- A pattern that was read, with the flags for the whole of it and the number of its groups. -/
structure Parsed where
  pattern : Pattern
  flags : Flags
  groups : Nat
  deriving Repr

/-- Reads a whole pattern. -/
def Reader.whole (length : Nat) : Reader Parsed := do
  Reader.checkEscape
  let pattern ← Reader.alternatives (4 * length + 4) false true []
  let reading ← get
  if reading.flags.sevenBit && reading.flags.allScripts then throw .conflictingFlags
  unless reading.rest.isEmpty do Reader.fail .unbalancedParenthesis
  match reading.references.find? fun reference => reading.widths.length < reference.1 with
  | some (index, position) => throw (.malformed (.invalidReference index) position)
  | none => return ⟨pattern, reading.flags, reading.widths.length⟩

/-- Reads the pattern that a text writes. -/
def parse (text : List Letter) : Except Fault Parsed :=
  let start : Reading :=
    { rest := text, position := 0, flags := Flags.none, widths := [], names := []
      lookBehindGroups := none, references := [], depth := 0 }
  match (Reader.whole text.length).run start with
  | .ok (parsed, _) => .ok parsed
  | .error fault => .error fault

end Pattern
end DirectiveLint
