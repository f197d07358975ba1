import DirectiveLint.CommandLine.Token

/-!
# Reading command lines

Options and plain arguments may come in any order, but the plain arguments that
a command takes stand together: those after a later option are left over.  A
command that takes one plain argument takes the first; one that takes a
subcommand takes it together with everything that follows.

A reading is a list of uses, in the order in which they take effect, and then
either the arguments that are left over or a refusal.  Uses before a refusal
count, because showing a version or help ends the reading.
-/

namespace DirectiveLint
namespace CommandLine

/-- Which plain arguments a command takes. -/
inductive PlainArity
  | one
  | many
  | subcommand
  deriving DecidableEq, Repr

/-- The options of a command and its plain arguments. -/
structure Grammar (Key : Type) where
  options : List (OptionSpec Key)
  plainKey : Key
  plainArity : PlainArity
  deriving Repr

/-- An option or the plain arguments, with the values given. -/
structure Use (Key : Type) where
  key : Key
  values : List String
  deriving Repr

/-- What a command line says; no left-over arguments stand for a refusal. -/
structure Reading (Key : Type) where
  uses : List (Use Key)
  leftOver : Option (List String)
  deriving Repr

namespace Reading

variable {Key : Type}

def refused : Reading Key := ⟨[], none⟩

/-- A reading with uses before it. -/
def after (reading : Reading Key) (uses : List (Use Key)) : Reading Key :=
  { reading with uses := uses ++ reading.uses }

/-- A reading with more arguments left over. -/
def leaving (reading : Reading Key) (texts : List String) : Reading Key :=
  { reading with leftOver := reading.leftOver.map (texts ++ ·) }

end Reading

/-- What an option with an attached value stands for: options without values, and then an option
that takes what follows or one with the attached value. -/
inductive Cluster (Key : Type)
  | following (flags : List Key) (spec : OptionSpec Key)
  | valued (flags : List Key) (spec : OptionSpec Key) (value : List Char)
  | refused
  deriving Repr

namespace Cluster

variable {Key : Type}

/-- A cluster with an option without value before it. -/
def prepend (flag : Key) : Cluster Key → Cluster Key
  | following flags spec => following (flag :: flags) spec
  | valued flags spec value => valued (flag :: flags) spec value
  | refused => refused

/-- Opens an option with an attached value.  A short option without values hands the attached
letters on to further short options, also after an equals sign; a letter that names none is
refused. -/
def ofAttached (specs : List (OptionSpec Key)) (spec : OptionSpec Key) (long : Bool) :
    List Char → Cluster Key
  | [] =>
    match spec.arity with
    | .none => refused
    | _ => valued [] spec []
  | letter :: rest =>
    match spec.arity with
    | .none =>
      if long then refused
      else
        match OptionSpec.named? specs (String.ofList ['-', letter]) with
        | none => refused
        | some next =>
          prepend spec.key
            (match rest with
            | [] => following [] next
            | first :: more => ofAttached specs next false (first :: more))
    | _ => valued [] spec (letter :: rest)

/-- Opens an option. -/
def ofNamed (specs : List (OptionSpec Key)) (named : NamedOption Key) : Cluster Key :=
  match named.attached with
  | none => following [] named.spec
  | some value => ofAttached specs named.spec (isLong named.name.toList) value

end Cluster

section Taking

variable {Key : Type}

/-- The values that an option takes from the tokens after it, and the tokens that remain. -/
def takeValues (arity : Arity) (tokens : List (Token Key)) :
    Option (List String × List (Token Key)) :=
  match arity with
  | .none => some ([], tokens)
  | .many => some ((tokens.takeWhile Token.isPlain).map Token.text, tokens.dropWhile Token.isPlain)
  | .one =>
    match tokens with
    | .plain text :: rest => some ([text], rest)
    | _ => none

theorem takeValues_length {arity : Arity} {tokens rest : List (Token Key)} {values : List String}
    (taken : takeValues arity tokens = some (values, rest)) : rest.length ≤ tokens.length := by
  unfold takeValues at taken
  split at taken
  · cases taken
    exact Nat.le_refl _
  · cases taken
    exact (List.dropWhile_suffix _).length_le
  · split at taken
    · cases taken
      exact Nat.le_succ _
    · cases taken

/-- The uses of an option that was named and the tokens that remain; nothing if it is refused. -/
def takeOption (specs : List (OptionSpec Key)) (named : NamedOption Key)
    (tokens : List (Token Key)) : Option (List (Use Key) × List (Token Key)) :=
  match Cluster.ofNamed specs named with
  | .following flags spec =>
    match takeValues spec.arity tokens with
    | some (values, rest) => some (flags.map (⟨·, []⟩) ++ [⟨spec.key, values⟩], rest)
    | none => none
  | .valued flags spec value =>
    some (flags.map (⟨·, []⟩) ++ [⟨spec.key, [String.ofList value]⟩], tokens)
  | .refused => none

theorem takeOption_length {specs : List (OptionSpec Key)} {named : NamedOption Key}
    {tokens rest : List (Token Key)} {uses : List (Use Key)}
    (taken : takeOption specs named tokens = some (uses, rest)) :
    rest.length ≤ tokens.length := by
  unfold takeOption at taken
  split at taken
  · split at taken
    · next found =>
      cases taken
      exact takeValues_length found
    · cases taken
  · cases taken
    exact Nat.le_refl _
  · cases taken

/-- The plain arguments from a first one on, when options still follow, and the tokens that remain.
-/
def takePlain (arity : PlainArity) (first : String) (tokens : List (Token Key)) :
    List String × List (Token Key) :=
  match arity with
  | .one => ([first], tokens)
  | .many =>
    (first :: (tokens.takeWhile Token.isPlain).map Token.text, tokens.dropWhile Token.isPlain)
  | .subcommand => (first :: tokens.map Token.text, [])

theorem takePlain_length (arity : PlainArity) (first : String) (tokens : List (Token Key)) :
    (takePlain arity first tokens).2.length ≤ tokens.length := by
  unfold takePlain
  split
  · exact Nat.le_refl _
  · exact (List.dropWhile_suffix _).length_le
  · exact Nat.zero_le _

/-- Tokens without a separator in front. -/
def dropSeparator : List (Token Key) → List (Token Key)
  | .separator :: rest => rest
  | tokens => tokens

/-- Reads tokens among which there is no option any more. -/
def readLast (grammar : Grammar Key) (isOpen : Bool) (tokens : List (Token Key)) : Reading Key :=
  if isOpen then
    match grammar.plainArity with
    | .many =>
      ⟨[⟨grammar.plainKey,
        (tokens.filter Token.isPlain).map Token.text⟩], some []⟩
    | .one =>
      match dropSeparator tokens with
      | .plain text :: rest =>
        ⟨[⟨grammar.plainKey, [text]⟩], some ((dropSeparator rest).map Token.text)⟩
      | _ => .refused
    | .subcommand =>
      match dropSeparator tokens with
      | .plain _ :: _ => ⟨[⟨grammar.plainKey, tokens.map Token.text⟩], some []⟩
      | _ => ⟨[], some (tokens.map Token.text)⟩
  else ⟨[], some (tokens.map Token.text)⟩

/-- Reads tokens; `isOpen` says that the plain arguments were not taken yet. -/
def readTokens (grammar : Grammar Key) (isOpen : Bool) (tokens : List (Token Key)) :
    Reading Key :=
  match tokens with
  | [] => readLast grammar isOpen []
  | .separator :: rest => readLast grammar isOpen (.separator :: rest)
  | .unknownOption text :: rest => (readTokens grammar isOpen rest).leaving [text]
  | .option _ named :: rest =>
    match taken : takeOption grammar.options named rest with
    | none => .refused
    | some (uses, remaining) =>
      have := takeOption_length taken
      (readTokens grammar isOpen remaining).after uses
  | .plain text :: rest =>
    if rest.any Token.isOption then
      if isOpen then
        have := takePlain_length grammar.plainArity text rest
        (readTokens grammar false (takePlain grammar.plainArity text rest).2).after
          [⟨grammar.plainKey, (takePlain grammar.plainArity text rest).1⟩]
      else (readTokens grammar isOpen rest).leaving [text]
    else readLast grammar isOpen (.plain text :: rest)
termination_by tokens.length
decreasing_by all_goals (simp only [List.length_cons]; omega)

end Taking

/-- Reads arguments. -/
def Grammar.read {Key : Type} (grammar : Grammar Key) (arguments : List String) : Reading Key :=
  match Token.ofArguments? grammar.options arguments with
  | none => .refused
  | some tokens => readTokens grammar true tokens

end CommandLine
end DirectiveLint
