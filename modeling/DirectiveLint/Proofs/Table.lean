import DirectiveLint.Value.Basic
import Mathlib.Data.List.Nodup

/-!
# Tables

A table is a list of values with keys.  A value is added under a key by combining
it with the value that is there, which keeps its place, or else by putting it at
the end.  A whole table is added entry by entry.

Adding tables is associative if combining values is and the table in the middle
has each key once.  Otherwise the first of two entries with one key would be
combined with what belongs behind the second.
-/

namespace DirectiveLint
namespace Table

universe u

variable {κ : Type} [DecidableEq κ] {β : Type u} (combine : β → β → β)

/-- Adds a value under a key. -/
def add (key : κ) (value : β) : List (κ × β) → List (κ × β)
  | [] => [(key, value)]
  | entry :: rest =>
    if entry.1 = key then (key, combine entry.2 value) :: rest
    else entry :: add key value rest

/-- Adds the entries of another table. -/
def addAll (table others : List (κ × β)) : List (κ × β) :=
  others.foldl (fun table entry => add combine entry.1 entry.2 table) table

/-- Whether no key occurs twice in a table. -/
def Keyed (table : List (κ × β)) : Prop :=
  (table.map Prod.fst).Nodup

variable {combine} {key other : κ} {value new : β} {table : List (κ × β)}

theorem addAll_cons (entry : κ × β) (table others : List (κ × β)) :
    addAll combine table (entry :: others) =
      addAll combine (add combine entry.1 entry.2 table) others :=
  rfl

theorem lookup_cons (name : κ) (entry : κ × β) (table : List (κ × β)) :
    (entry :: table).lookup name = if entry.1 = name then some entry.2 else table.lookup name := by
  rw [List.lookup_cons]
  by_cases same : entry.1 = name
  · simp [same]
  · simp [same, beq_eq_false_iff_ne.mpr (Ne.symm same)]

theorem lookup_add_self : (add combine key value table).lookup key =
    some (match table.lookup key with
      | some present => combine present value
      | none => value) := by
  induction table with
  | nil => simp [add]
  | cons entry rest inductionHypothesis =>
      by_cases same : entry.1 = key
      · simp [add, lookup_cons, same]
      · simp [add, lookup_cons, same, inductionHypothesis]

theorem lookup_add_of_ne (different : key ≠ other) :
    (add combine key value table).lookup other = table.lookup other := by
  induction table with
  | nil => simp [add, lookup_cons, different]
  | cons entry rest inductionHypothesis =>
      by_cases same : entry.1 = key
      · simp [add, lookup_cons, same, different]
      · simp [add, lookup_cons, same, inductionHypothesis]

/-- Under a new key a value is put at the end. -/
theorem add_of_lookup_eq_none (absent : table.lookup key = none) :
    add combine key value table = table ++ [(key, value)] := by
  induction table with
  | nil => rfl
  | cons entry rest inductionHypothesis =>
      rw [lookup_cons] at absent
      by_cases same : entry.1 = key
      · rw [if_pos same] at absent
        cases absent
      · rw [if_neg same] at absent
        rw [Table.add, if_neg same, inductionHypothesis absent, List.cons_append]

/-- Adding a value is putting a sum in its place. -/
theorem add_eq_replace (combine : β → β → β) (key : κ) (value : β)
    (table : List (κ × β)) : add combine key value table =
    add (fun _ new => new) key (match table.lookup key with
      | some present => combine present value
      | none => value) table := by
  induction table with
  | nil => rfl
  | cons entry rest inductionHypothesis =>
      rw [add, add, lookup_cons]
      split
      · rfl
      · rw [inductionHypothesis]

theorem add_map {γ : Type} (other : γ → γ → γ) (change : β → γ)
    (commutes : ∀ first second,
      change (combine first second) = other (change first) (change second))
    (key : κ) (value : β) (table : List (κ × β)) :
    (add combine key value table).map (fun entry => (entry.1, change entry.2)) =
      add other key (change value) (table.map fun entry => (entry.1, change entry.2)) := by
  induction table with
  | nil => rfl
  | cons entry rest inductionHypothesis =>
      rw [List.map_cons, add, add]
      split
      · rw [List.map_cons, commutes]
      · rw [List.map_cons, inductionHypothesis]

theorem lookup_map {γ : Type} (change : κ → β → γ) (name : κ)
    (table : List (κ × β)) :
    (table.map fun entry => (entry.1, change entry.1 entry.2)).lookup name =
      (table.lookup name).map (change name) := by
  induction table with
  | nil => rfl
  | cons entry rest inductionHypothesis =>
      rw [List.map_cons, lookup_cons, lookup_cons]
      split
      · next same => rw [← same, Option.map_some]
      · exact inductionHypothesis

theorem lookup_filter (test : κ → Bool) (key : κ) (table : List (κ × β)) :
    (table.filter fun entry => test entry.1).lookup key =
      if test key then table.lookup key else none := by
  induction table with
  | nil => simp
  | cons entry rest inductionHypothesis =>
      rw [List.filter_cons, lookup_cons]
      by_cases same : entry.1 = key
      · rw [if_pos same, same]
        split
        · next holds => rw [lookup_cons, if_pos same]
        · next fails => rw [inductionHypothesis, if_neg fails]
      · rw [if_neg same, ← inductionHypothesis]
        split
        · rw [lookup_cons, if_neg same]
        · rfl

theorem lookup_filter_of_ne (different : other ≠ key) :
    (table.filter (·.1 != other)).lookup key = table.lookup key :=
  (lookup_filter (· != other) key table).trans (if_pos (bne_iff_ne.mpr (Ne.symm different)))

theorem mem_of_lookup (found : table.lookup key = some value) : (key, value) ∈ table := by
  rcases List.lookup_eq_some_iff.mp found with ⟨front, back, rfl, _⟩
  exact List.mem_append_right front List.mem_cons_self

theorem filter_add_of_pos (test : κ → Bool) (holds : test key = true)
    (table : List (κ × β)) :
    (add combine key value table).filter (fun entry => test entry.1) =
      add combine key value (table.filter fun entry => test entry.1) := by
  induction table with
  | nil => simp [add, holds]
  | cons entry rest inductionHypothesis =>
      rw [add]
      split
      · next same => simp [same, holds, add]
      · next different =>
          rw [List.filter_cons, List.filter_cons, inductionHypothesis]
          split
          · rw [add, if_neg different]
          · rfl

theorem filter_add_of_neg (test : κ → Bool) (fails : test key = false)
    (table : List (κ × β)) :
    (add combine key value table).filter (fun entry => test entry.1) =
      table.filter fun entry => test entry.1 := by
  induction table with
  | nil => simp [add, fails]
  | cons entry rest inductionHypothesis =>
      rw [add]
      split
      · next same => simp [same, fails]
      · rw [List.filter_cons, List.filter_cons, inductionHypothesis]

theorem mem_replace {entry : κ × β} (member : entry ∈ add (fun _ new => new) key value table) :
    entry ∈ table ∨ entry = (key, value) := by
  induction table with
  | nil => exact Or.inr (List.mem_singleton.mp member)
  | cons first rest inductionHypothesis =>
      rw [add] at member
      split at member
      · rcases List.mem_cons.mp member with here | later
        · exact Or.inr here
        · exact Or.inl (List.mem_cons_of_mem first later)
      · rcases List.mem_cons.mp member with here | later
        · exact Or.inl (here ▸ List.mem_cons_self)
        · exact (inductionHypothesis later).imp_left (List.mem_cons_of_mem first)

/-- Where each key occurs once, every entry is found under its key. -/
theorem lookup_of_mem {κ : Type} [BEq κ] [LawfulBEq κ] {entries : List (κ × β)} {key : κ}
    {value : β} (distinct : (entries.map Prod.fst).Nodup) (member : (key, value) ∈ entries) :
    entries.lookup key = some value := by
  rcases List.append_of_mem member with ⟨before, after, whole⟩
  rw [whole, List.map_append, List.map_cons, List.nodup_append] at distinct
  refine List.lookup_eq_some_iff.mpr ⟨before, after, whole, fun entry isBefore => ?_⟩
  have different := distinct.2.2 entry.1 (List.mem_map_of_mem isBefore) key List.mem_cons_self
  exact bne_iff_ne.mpr (Ne.symm different)

theorem lookup_eq_none_of_not_mem {κ : Type} [BEq κ] [LawfulBEq κ] {entries : List (κ × β)}
    {key : κ} (absent : key ∉ entries.map Prod.fst) : entries.lookup key = none := by
  rw [List.lookup_eq_none_iff]
  intro entry member
  exact bne_iff_ne.mpr fun same => absent (same ▸ List.mem_map_of_mem member)

/-- In a table with each key once, every entry is found. -/
theorem Keyed.lookup (keyed : Keyed table) {entry : κ × β} (member : entry ∈ table) :
    table.lookup entry.1 = some entry.2 :=
  lookup_of_mem keyed member

/-- The order of the entries does not matter where each key occurs once. -/
theorem Keyed.lookup_eq_of_perm {other : List (κ × β)} (keyed : Keyed table)
    (same : other.Perm table) (key : κ) : other.lookup key = table.lookup key := by
  have keyedToo : Keyed other := (same.map Prod.fst).nodup_iff.mpr keyed
  apply Option.ext
  intro value
  constructor
  · intro found
    exact lookup_of_mem keyed (same.mem_iff.mp (mem_of_lookup found))
  · intro found
    exact lookup_of_mem keyedToo (same.mem_iff.mpr (mem_of_lookup found))

theorem Keyed.filter_eq_singleton (keyed : Keyed table) {entry : κ × β}
    (member : entry ∈ table) :
    (table.filter fun other => other.1 == entry.1) = [entry] := by
  induction table with
  | nil => cases member
  | cons first rest inductionHypothesis =>
      have parts := List.nodup_cons.mp keyed
      rcases List.mem_cons.mp member with rfl | later
      · rw [List.filter_cons_of_pos (by simp), List.filter_eq_nil_iff.mpr]
        intro other listed
        have different : other.1 ≠ entry.1 := fun same =>
          parts.1 (same ▸ List.mem_map_of_mem listed)
        simpa using different
      · have different : first.1 ≠ entry.1 := fun same =>
          parts.1 (same ▸ List.mem_map_of_mem later)
        rw [List.filter_cons_of_neg (by simpa using different), inductionHypothesis parts.2 later]

/-! ## Keys -/

theorem map_fst_add : (add combine key value table).map Prod.fst =
    if key ∈ table.map Prod.fst then table.map Prod.fst else table.map Prod.fst ++ [key] := by
  induction table with
  | nil => simp [add]
  | cons entry rest inductionHypothesis =>
      unfold add
      by_cases same : entry.1 = key
      · simp [same]
      · simp only [if_neg same, List.map_cons, inductionHypothesis, List.mem_cons, Ne.symm same,
          false_or]
        split <;> rfl

theorem mem_keys_add : other ∈ (add combine key value table).map Prod.fst ↔
    other ∈ table.map Prod.fst ∨ other = key := by
  rw [map_fst_add]
  split
  · next member => exact ⟨Or.inl, fun either => either.elim id fun same => same ▸ member⟩
  · rw [List.mem_append, List.mem_singleton]

theorem mem_keys_addAll {others : List (κ × β)} :
    other ∈ (addAll combine table others).map Prod.fst ↔
      other ∈ table.map Prod.fst ∨ other ∈ others.map Prod.fst := by
  induction others generalizing table with
  | nil => simp [addAll]
  | cons entry rest inductionHypothesis =>
      rw [addAll_cons, inductionHypothesis, mem_keys_add, List.map_cons, List.mem_cons, or_assoc]

theorem keyed_nil {κ : Type} : Keyed ([] : List (κ × β)) :=
  List.nodup_nil

theorem Keyed.add (keyed : Keyed table) : Keyed (add combine key value table) := by
  unfold Keyed
  rw [map_fst_add]
  split
  · exact keyed
  · next absent => exact List.nodup_append_comm.mp (List.nodup_cons.mpr ⟨absent, keyed⟩)

theorem Keyed.addAll (keyed : Keyed table) (others : List (κ × β)) :
    Keyed (addAll combine table others) := by
  induction others generalizing table with
  | nil => exact keyed
  | cons entry rest inductionHypothesis => exact inductionHypothesis keyed.add

/-! ## Order of additions -/

/-- Values that are added under one key can be combined before. -/
theorem add_add_self [associative : Std.Associative combine] :
    add combine key new (add combine key value table) =
      add combine key (combine value new) table := by
  induction table with
  | nil => simp [add]
  | cons entry rest inductionHypothesis =>
      by_cases same : entry.1 = key
      · simp [add, same, associative.assoc]
      · simp [add, same, inductionHypothesis]

/-- What is added under a key of the table does not change the places of other keys. -/
theorem add_comm (member : key ∈ table.map Prod.fst) (different : other ≠ key) :
    add combine other new (add combine key value table) =
      add combine key value (add combine other new table) := by
  induction table with
  | nil => cases member
  | cons entry rest inductionHypothesis =>
      by_cases same : entry.1 = key
      · simp [add, same, Ne.symm different]
      · rw [List.map_cons, List.mem_cons] at member
        have later := member.resolve_left (Ne.symm same)
        by_cases here : entry.1 = other
        · simp [add, here, different]
        · simp [add, same, here, inductionHypothesis later]

/-- A value that is added under another key of the table may as well be added last. -/
theorem addAll_add_of_not_mem {others : List (κ × β)} (member : key ∈ table.map Prod.fst)
    (absent : key ∉ others.map Prod.fst) :
    addAll combine (add combine key value table) others =
      add combine key value (addAll combine table others) := by
  induction others generalizing table with
  | nil => rfl
  | cons entry rest inductionHypothesis =>
      rw [List.map_cons, List.mem_cons, not_or] at absent
      rw [addAll_cons, addAll_cons, add_comm member (Ne.symm absent.1),
        inductionHypothesis (mem_keys_add.mpr (Or.inl member)) absent.2]

variable [Std.Associative combine]

/-- Adding a table to which a value was added is adding the table and then the value. -/
theorem addAll_add {others : List (κ × β)} (keyed : Keyed others) :
    addAll combine table (add combine key value others) =
      add combine key value (addAll combine table others) := by
  induction others generalizing table with
  | nil => rfl
  | cons entry rest inductionHypothesis =>
      have parts := List.nodup_cons.mp keyed
      by_cases same : entry.1 = key
      -- The key is not among the rest, so the second addition under it can move to the end.
      · have absent : key ∉ rest.map Prod.fst := same ▸ parts.1
        rw [Table.add, if_pos same, addAll_cons, addAll_cons, same, ← add_add_self,
          addAll_add_of_not_mem (mem_keys_add.mpr (Or.inr rfl)) absent]
      · rw [Table.add, if_neg same, addAll_cons, addAll_cons, inductionHypothesis parts.2]

theorem addAll_assoc (first : List (κ × β)) {second : List (κ × β)}
    (keyed : Keyed second) (third : List (κ × β)) :
    addAll combine (addAll combine first second) third =
      addAll combine first (addAll combine second third) := by
  induction third generalizing second with
  | nil => rfl
  | cons entry rest inductionHypothesis =>
      rw [addAll_cons, addAll_cons, ← inductionHypothesis keyed.add, addAll_add keyed]

end Table

/-! ## Fields of objects -/

namespace Value

/-- The fields of an object are a table. -/
theorem fieldOf?_eq_lookup (key : LooseText) (fields : List (LooseText × Value)) :
    fieldOf? key fields = fields.lookup key := by
  induction fields with
  | nil => rfl
  | cons field rest inductionHypothesis =>
      rw [Table.lookup_cons, ← inductionHypothesis]
      unfold fieldOf?
      by_cases same : field.1 = key <;> simp [same]

theorem putField_eq_add (key : LooseText) (value : Value) (fields : List (LooseText × Value)) :
    putField key value fields = Table.add (fun _ new => new) key value fields := by
  induction fields with
  | nil => rfl
  | cons field rest inductionHypothesis => simp [putField, Table.add, inductionHypothesis]

theorem lookup_putField_self (key : LooseText) (value : Value) (fields : List (LooseText × Value)) :
    (putField key value fields).lookup key = some value := by
  rw [putField_eq_add, Table.lookup_add_self]
  split <;> rfl

theorem lookup_putField_of_ne {key other : LooseText} (different : key ≠ other) {value : Value}
    {fields : List (LooseText × Value)} :
    (putField key value fields).lookup other = fields.lookup other := by
  rw [putField_eq_add, Table.lookup_add_of_ne different]

theorem keyed_putField {key : LooseText} {value : Value} {fields : List (LooseText × Value)}
    (keyed : Table.Keyed fields) : Table.Keyed (putField key value fields) := by
  rw [putField_eq_add]
  exact keyed.add

end Value
end DirectiveLint
