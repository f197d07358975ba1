import DirectiveLint.Value.Basic

/-!
# Mappings

A mapping relates keys to values and keeps the order in which keys first came.
Its keys may be any values but lists and objects.  Objects are mappings with
text keys; a list becomes a mapping when each of its elements has two parts, a
key and a value.
-/

namespace DirectiveLint

/-- Why a value cannot be taken as a mapping, a sequence or a key. -/
inductive ConversionFault
  | notIterable (value : Value)
  | notSequence (value : Value)
  | notPair (value : Value)
  | unhashable (value : Value)
  | keyNotText (key : Value)
  deriving Repr

namespace ConversionFault

/-- The wording of a fault. -/
def message : ConversionFault → String
  | notIterable value => "'" ++ value.kindName ++ "' object is not iterable"
  | notSequence value => "'" ++ value.kindName ++ "' object is not a sequence"
  | notPair value => "'" ++ value.kindName ++ "' object is not a pair"
  | unhashable value => "unhashable type: '" ++ value.kindName ++ "'"
  | keyNotText key => "'" ++ key.kindName ++ "' object is not a text"

end ConversionFault

namespace Value

/-- Whether a value may be a key. -/
def isKey : Value → Bool
  | .list _ => false
  | .object _ => false
  | _ => true

/-- A value as a key. -/
def asKey (value : Value) : Except ConversionFault Value :=
  if value.isKey then .ok value else .error (.unhashable value)

/-- The texts of one letter that make up a text. -/
def lettersOf (text : LooseText) : List Value :=
  text.letters.map fun letter => .text (.ofLetters [letter])

/-- What a value yields one by one: the items of a list, the letters of a text, the keys of an
object. -/
def elements (value : Value) : Except ConversionFault (List Value) :=
  match value with
  | .list items => .ok items
  | .text content => .ok (lettersOf content)
  | .object fields => .ok (fields.map fun field => .text field.1)
  | other => .error (.notIterable other)

end Value

/-- An ordered relation of keys and values in which every key occurs once. -/
structure Mapping where
  entries : List (Value × Value)
  deriving Repr

namespace Mapping

def empty : Mapping := ⟨[]⟩

/-- Puts a value under a key among entries; a key that is there keeps its place. -/
def putEntry (key value : Value) : List (Value × Value) → List (Value × Value)
  | [] => [(key, value)]
  | entry :: rest =>
    if entry.1.alike key then (entry.1, value) :: rest else entry :: putEntry key value rest

def insert (mapping : Mapping) (key value : Value) : Mapping :=
  ⟨putEntry key value mapping.entries⟩

/-- The value under a text key. -/
def find? (mapping : Mapping) (key : LooseText) : Option Value :=
  (mapping.entries.find? (·.1.same (.text key))).map (·.2)

/-- The mapping without a text key. -/
def erase (mapping : Mapping) (key : LooseText) : Mapping :=
  ⟨mapping.entries.filter fun entry => !entry.1.same (.text key)⟩

def keys (mapping : Mapping) : List Value :=
  mapping.entries.map (·.1)

/-- The fields of an object as a mapping. -/
def ofFields (fields : List (LooseText × Value)) : Mapping :=
  ⟨fields.map fun field => (.text field.1, field.2)⟩

/-- The key and the value that an element with two parts stands for. -/
def pairOf (element : Value) : Except ConversionFault (Value × Value) :=
  match element.elements with
  | .error _ => .error (.notSequence element)
  | .ok [key, value] => if key.isKey then .ok (key, value) else .error (.unhashable key)
  | .ok _ => .error (.notPair element)

/-- Adds the pairs of a list one by one. -/
def addPairs (mapping : Mapping) : List Value → Except ConversionFault Mapping
  | [] => .ok mapping
  | element :: rest =>
    match pairOf element with
    | .ok (key, value) => addPairs (mapping.insert key value) rest
    | .error fault => .error fault

/-- A value as a mapping. -/
def ofValue (value : Value) : Except ConversionFault Mapping :=
  match value with
  | .object fields => .ok (ofFields fields)
  | other =>
    match other.elements with
    | .ok elements => addPairs empty elements
    | .error fault => .error fault

/-- A value as a mapping, where a value that does not count as given stands for no entries. -/
def ofOptional (value : Value) : Except ConversionFault Mapping :=
  if value.isGiven then ofValue value else .ok empty

/-- The keys as texts, or the first one that is not a text. -/
def textKeys (keys : List Value) : Except ConversionFault (List LooseText) :=
  match keys with
  | [] => .ok []
  | .text key :: rest =>
    match textKeys rest with
    | .ok others => .ok (key :: others)
    | .error fault => .error fault
  | key :: _ => .error (.keyNotText key)

end Mapping
end DirectiveLint
