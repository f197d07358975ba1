import DirectiveLint.Text.Loose

/-!
# The log

What is worth noting is kept in the order in which it comes up.  Every entry has
a level, by which the user chooses how much is shown.
-/

namespace DirectiveLint

inductive LogLevel
  | debug
  | info
  | error
  deriving DecidableEq, Repr

namespace LogLevel

def name : LogLevel → String
  | debug => "DEBUG"
  | info => "INFO"
  | error => "ERROR"

/-- The weight of a level; entries below a chosen weight are not shown. -/
def weight : LogLevel → Nat
  | debug => 10
  | info => 20
  | error => 40

end LogLevel

/-- What is noted for the user of a command. -/
structure LogEntry where
  level : LogLevel
  message : LooseText
  deriving DecidableEq, Repr

namespace LogEntry

def debug (message : LooseText) : LogEntry := ⟨.debug, message⟩

def info (message : LooseText) : LogEntry := ⟨.info, message⟩

def error (message : LooseText) : LogEntry := ⟨.error, message⟩

end LogEntry

universe u v

/-- A result with what was noted on the way to it, also when there is none. -/
structure Logged (ε : Type) (α : Type u) where
  log : List LogEntry
  result : Except ε α

namespace Logged

variable {ε : Type} {α : Type u} {β : Type v}

/-- A result about which nothing was noted. -/
def quiet (result : Except ε α) : Logged ε α := ⟨[], result⟩

/-- A result after some notes. -/
def noting (log : List LogEntry) (value : α) : Logged ε α := ⟨log, .ok value⟩

/-- Goes on from a result; without one, the notes are kept. -/
def andThen (first : Logged ε α) (next : α → Logged ε β) : Logged ε β :=
  match first.result with
  | .error fault => ⟨first.log, .error fault⟩
  | .ok value => ⟨first.log ++ (next value).log, (next value).result⟩

end Logged
end DirectiveLint
