import DirectiveLint.Checker.Results

/-!
# Results under names

Several results may be kept under names and merged into each other.  A merge
that brings a list as a new statistic does not copy the list: from then on the
results on both sides hold it together, and what a later merge adds to it shows
in all of them.  Setting or dropping a statistic, or putting other results under
a name, lets go of the list.

A list is held under the same key by all its holders, so a hold is a key and the
names that hold the list.
-/

namespace DirectiveLint

/-- A list that the results under some names hold together as one statistic. -/
structure Hold where
  key : LooseText
  holders : List String
  deriving Repr

namespace Hold

/-- Whether a hold is on a statistic of the results under a name. -/
def isOn (hold : Hold) (key : LooseText) (name : String) : Bool :=
  hold.key == key && hold.holders.contains name

/-- The hold without a name. -/
def without (hold : Hold) (name : String) : Hold :=
  { hold with holders := hold.holders.filter (· != name) }

end Hold

structure NamedResults where
  results : List (String × Results)
  holds : List Hold
  deriving Repr

namespace NamedResults

def empty : NamedResults := ⟨[], []⟩

/-- The results under a name. -/
def find? (named : NamedResults) (name : String) : Option Results :=
  named.results.lookup name

/-- Replaces the results under a name. -/
def replace (name : String) (results : Results) (others : List (String × Results)) :
    List (String × Results) :=
  (name, results) :: others.filter (·.1 != name)

/-- Puts other results under a name. -/
def put (named : NamedResults) (name : String) (results : Results) : NamedResults :=
  ⟨replace name results named.results, named.holds.map (·.without name)⟩

/-- Changes the results under a name, where one of their statistics lets go of its list. -/
def changeStat (named : NamedResults) (name : String) (key : LooseText)
    (change : Results → Results) : NamedResults :=
  { results := named.results.map fun entry =>
      if entry.1 == name then (entry.1, change entry.2) else entry
    holds := named.holds.map fun hold => if hold.key == key then hold.without name else hold }

/-- Sets a statistic of the results under a name. -/
def setStat (named : NamedResults) (name : String) (key : LooseText) (value : Value) :
    NamedResults :=
  named.changeStat name key (·.setStat key value)

/-- Removes a statistic of the results under a name. -/
def dropStat (named : NamedResults) (name : String) (key : LooseText) : NamedResults :=
  named.changeStat name key (·.dropStat key)

/-- The keys of the lists that results have and others do not. -/
def newLists (results others : Results) : List LooseText :=
  (results.stats.filter fun stat =>
    stat.2.isList && (Value.fieldOf? stat.1 others.stats).isNone).map (·.1)

/-- Lets a name join the hold on a statistic of the results under another name. -/
def join (name source : String) (holds : List Hold) (key : LooseText) : List Hold :=
  if holds.any (·.isOn key source) then
    holds.map fun hold =>
      if hold.isOn key source then { hold with holders := name :: hold.holders } else hold
  else ⟨key, [name, source]⟩ :: holds

/-- Writes a statistic into the results under a name wherever both hold the list. -/
def spreadStat (holds : List Hold) (source name : String) (results : Results)
    (stat : LooseText × Value) : Results :=
  if holds.any fun hold => hold.isOn stat.1 source && hold.isOn stat.1 name then
    results.setStat stat.1 stat.2
  else results

/-- Puts merged results under a name, and what they hold with others into those. -/
def spread (named : NamedResults) (name : String) (merged : Results) : NamedResults :=
  { named with
    results := named.results.map fun entry =>
      (entry.1,
        if entry.1 == name then merged
        else merged.stats.foldl (spreadStat named.holds name entry.1) entry.2) }

/-- Merges the results under one name into those under another, and says what could not be
added. -/
def merge (named : NamedResults) (name source : String) :
    Option (NamedResults × Option AdditionFault) :=
  match named.find? name, named.find? source with
  | some results, some others =>
    let (merged, fault) := results.merge others
    let holds := (newLists merged results).foldl (join name source) named.holds
    some (({ named with holds } : NamedResults).spread name merged, fault)
  | _, _ => none

end NamedResults
end DirectiveLint
