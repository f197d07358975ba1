import DirectiveLint.Checker.NamedResults
import DirectiveLint.Proofs.Checker.Findings

/-!
# Results that hold lists together

A merge can let results under several names hold one list.  Whatever is done to
named results, a name that holds a list with others has a list as that
statistic.  Results without lists therefore hold nothing with others, and a merge
into them changes the results under no other name.

Where lists are held together, a merge still changes nothing but statistics under
the other names.
-/

namespace DirectiveLint

namespace Value

theorem isList_of_toInteger? {value : Value} {number : Int}
    (isNumber : value.toInteger? = some number) : value.isList = false := by
  cases value <;> cases isNumber <;> rfl

theorem isList_addReal {first : Except AdditionFault Number.Binary64} {second : Number.Binary64}
    {sum : Value} (added : addReal first second = .ok sum) : sum.isList = false := by
  cases first <;> cases added
  rfl

/-- A sum is a list exactly if the first value is one. -/
theorem isList_add {first second sum : Value} (added : first.add second = .ok sum) :
    sum.isList = first.isList := by
  unfold add at added
  split at added
  · cases added
    rfl
  · split at added <;> cases added
    rfl
  · cases added
    rfl
  · split at added
    · exact isList_addReal added
    · cases added
  · split at added
    · next isNumber => exact (isList_addReal added).trans (isList_of_toInteger? isNumber).symm
    · cases added
  · split at added
    · next isNumber _ =>
        cases added
        exact (isList_of_toInteger? isNumber).symm
    · cases added

end Value

namespace Results

/-- Whether no key occurs twice among the groups, nor among the statistics. -/
structure Keyed (results : Results) : Prop where
  groups : Table.Keyed results.byChecker
  stats : Table.Keyed results.stats

theorem stats_merge (results others : Results) :
    (results.merge others).1.stats = (addStats results.stats others.stats).1 := by
  unfold merge
  split
  · next sum => rw [sum]
  · next sum => rw [sum]

theorem byChecker_merge (results others : Results) :
    (results.merge others).1.byChecker =
      Table.addAll (· ++ ·) results.byChecker others.byChecker := by
  rw [← addGroups_eq_addAll]
  unfold merge
  split <;> rfl

/-! ## Statistics of merged results -/

section

variable {stats others : List (LooseText × Value)}

/-- Adding a statistic puts a value under its key, or stops. -/
theorem addStats_cons (stats : List (LooseText × Value)) (key : LooseText) (value : Value)
    (rest : List (LooseText × Value)) :
    (∃ new, addStats stats ((key, value) :: rest) = addStats (Value.putField key new stats) rest ∧
        (stats.lookup key = none ∧ new = value ∨
          ∃ present, stats.lookup key = some present ∧ present.add value = .ok new)) ∨
      ∃ fault, addStats stats ((key, value) :: rest) = (stats, some fault) ∧
        ∃ present, stats.lookup key = some present ∧ present.add value = .error fault := by
  rw [addStats, Value.fieldOf?_eq_lookup]
  cases found : stats.lookup key with
  | none =>
      have put : Value.putField key value stats = stats ++ [(key, value)] := by
        rw [Value.putField_eq_add, Table.add_of_lookup_eq_none found]
      exact Or.inl ⟨value, by rw [put], Or.inl ⟨rfl, rfl⟩⟩
  | some present =>
      cases added : present.add value with
      | ok sum => exact Or.inl ⟨sum, by simp only [added], Or.inr ⟨present, rfl, added⟩⟩
      | error fault => exact Or.inr ⟨fault, by simp only [added], present, rfl, added⟩

theorem keyed_addStats (keyed : Table.Keyed stats) : Table.Keyed (addStats stats others).1 := by
  induction others generalizing stats with
  | nil => exact keyed
  | cons stat rest inductionHypothesis =>
      rcases addStats_cons stats stat.1 stat.2 rest with ⟨new, step, _⟩ | ⟨_, step, _⟩
      · rw [step]
        exact inductionHypothesis (Value.keyed_putField keyed)
      · rw [step]
        exact keyed

/-- A statistic that is there stays, as a list or as no list. -/
theorem exists_lookup_addStats (others : List (LooseText × Value)) {key : LooseText}
    {present : Value}
    (found : stats.lookup key = some present) :
    ∃ final, (addStats stats others).1.lookup key = some final ∧
      final.isList = present.isList := by
  induction others generalizing stats present with
  | nil => exact ⟨present, found, rfl⟩
  | cons stat rest inductionHypothesis =>
      rcases stat with ⟨other, value⟩
      rcases addStats_cons stats other value rest with ⟨new, step, origin⟩ | ⟨_, step, _⟩
      · rw [step]
        by_cases same : other = key
        · subst same
          rcases origin with ⟨absent, _⟩ | ⟨old, here, added⟩
          · rw [absent] at found
            cases found
          · rw [found] at here
            cases here
            rcases inductionHypothesis (Value.lookup_putField_self other new stats) with
              ⟨final, there, kind⟩
            exact ⟨final, there, kind.trans (Value.isList_add added)⟩
        · exact inductionHypothesis ((Value.lookup_putField_of_ne same).trans found)
      · rw [step]
        exact ⟨present, found, rfl⟩

/-- A statistic that is new comes from the others, as a list or as no list. -/
theorem exists_of_lookup_addStats {key : LooseText} {final : Value}
    (found : (addStats stats others).1.lookup key = some final)
    (absent : stats.lookup key = none) :
    ∃ first, others.lookup key = some first ∧ final.isList = first.isList := by
  induction others generalizing stats with
  | nil =>
      rw [addStats, absent] at found
      cases found
  | cons stat rest inductionHypothesis =>
      rcases stat with ⟨other, value⟩
      rw [Table.lookup_cons]
      rcases addStats_cons stats other value rest with ⟨new, step, origin⟩ | ⟨_, step, _⟩
      · rw [step] at found
        by_cases same : other = key
        · subst same
          rcases origin with ⟨_, rfl⟩ | ⟨_, here, _⟩
          · rcases exists_lookup_addStats rest (Value.lookup_putField_self other new stats) with
              ⟨last, there, kind⟩
            rw [found] at there
            cases there
            exact ⟨new, if_pos rfl, kind⟩
          · rw [absent] at here
            cases here
        · rw [if_neg same]
          exact inductionHypothesis found ((Value.lookup_putField_of_ne same).trans absent)
      · rw [step, absent] at found
        cases found

end

theorem Keyed.merge {results : Results} (keyed : results.Keyed) (others : Results) :
    (results.merge others).1.Keyed := by
  constructor
  · rw [byChecker_merge]
    exact keyed.groups.addAll _
  · rw [stats_merge]
    exact keyed_addStats keyed.stats

theorem Keyed.setStat {results : Results} (keyed : results.Keyed) (key : LooseText)
    (value : Value) :
    (results.setStat key value).Keyed :=
  ⟨keyed.groups, Value.keyed_putField keyed.stats⟩

theorem Keyed.dropStat {results : Results} (keyed : results.Keyed) (key : LooseText) :
    (results.dropStat key).Keyed :=
  ⟨keyed.groups, keyed.stats.sublist (List.filter_sublist.map Prod.fst)⟩

/-- Whether a statistic is there and a list. -/
def HasList (results : Results) (key : LooseText) : Prop :=
  ∃ value, results.stats.lookup key = some value ∧ value.isList = true

theorem HasList.merge {results : Results} {key : LooseText} (has : results.HasList key)
    (others : Results) : (results.merge others).1.HasList key := by
  rcases has with ⟨value, found, isList⟩
  rcases exists_lookup_addStats others.stats found with ⟨final, there, kind⟩
  exact ⟨final, by rw [stats_merge, there], kind.trans isList⟩

end Results

namespace NamedResults

open Results (HasList)

/-! ## What is found under a name -/

theorem find?_put_self (named : NamedResults) (name : String) (results : Results) :
    (named.put name results).find? name = some results := by
  simp [find?, put, replace]

theorem find?_put_of_ne (named : NamedResults) {name other : String} (different : name ≠ other)
    (results : Results) : (named.put name results).find? other = named.find? other := by
  unfold find? put replace
  rw [Table.lookup_cons, if_neg different, Table.lookup_filter_of_ne different]

theorem find?_changeStat (named : NamedResults) (name other : String) (key : LooseText)
    (change : Results → Results) :
    (named.changeStat name key change).find? other =
      (named.find? other).map fun results => if other == name then change results else results := by
  have mapped := Table.lookup_map
    (fun entry results => if entry == name then change results else results) other named.results
  refine Eq.trans ?_ mapped
  unfold find? changeStat
  congr 1
  apply List.map_congr_left
  intro entry _
  split <;> rfl

theorem find?_spread (named : NamedResults) (name other : String) (merged : Results) :
    (named.spread name merged).find? other = (named.find? other).map fun results =>
      if other == name then merged
      else merged.stats.foldl (spreadStat named.holds name other) results :=
  Table.lookup_map (fun entry results => if entry == name then merged
    else merged.stats.foldl (spreadStat named.holds name entry) results) other named.results

theorem find?_spread_self (named : NamedResults) {name : String} (merged : Results)
    {results : Results} (here : named.find? name = some results) :
    (named.spread name merged).find? name = some merged := by
  rw [find?_spread, here, Option.map_some, if_pos (beq_self_eq_true name)]

theorem find?_spread_of_ne (named : NamedResults) {name other : String} (different : other ≠ name)
    (merged : Results) :
    (named.spread name merged).find? other = (named.find? other).map fun results =>
      merged.stats.foldl (spreadStat named.holds name other) results := by
  simp only [find?_spread, if_neg (show ¬(other == name) = true by simpa using different)]

/-! ## Lists that are held together -/

/-- Whether no key occurs twice and every name that holds a list has a list as this statistic. -/
structure Sound (named : NamedResults) : Prop where
  keyed : ∀ name results, named.find? name = some results → results.Keyed
  held : ∀ hold ∈ named.holds, ∀ name ∈ hold.holders,
    ∃ results, named.find? name = some results ∧ results.HasList hold.key

variable {named : NamedResults} {name source : String} {results others : Results}

theorem sound_empty : empty.Sound :=
  ⟨fun _ _ found => (nomatch found), fun _ member => (nomatch member)⟩

theorem Sound.put (sound : named.Sound) (keyed : results.Keyed) :
    (named.put name results).Sound := by
  constructor
  · intro other found here
    by_cases same : name = other
    · rw [← same, find?_put_self] at here
      cases here
      exact keyed
    · rw [find?_put_of_ne named same] at here
      exact sound.keyed other found here
  · intro hold member other holds
    rcases List.mem_map.mp member with ⟨old, wasThere, rfl⟩
    rcases List.mem_filter.mp holds with ⟨held, different⟩
    rw [find?_put_of_ne named (Ne.symm (bne_iff_ne.mp different))]
    exact sound.held old wasThere other held

/-- A change of one statistic that keeps the others keeps all other lists. -/
theorem Sound.changeStat (sound : named.Sound) {key : LooseText} {change : Results → Results}
    (keyed : ∀ results : Results, results.Keyed → (change results).Keyed)
    (keeps : ∀ (results : Results) other, other ≠ key → results.HasList other →
      (change results).HasList other) : (named.changeStat name key change).Sound := by
  constructor
  · intro other found here
    rw [find?_changeStat] at here
    rcases Option.map_eq_some_iff.mp here with ⟨old, wasThere, rfl⟩
    split
    · exact keyed old (sound.keyed other old wasThere)
    · exact sound.keyed other old wasThere
  · intro hold member other holds
    rcases List.mem_map.mp member with ⟨old, wasThere, rfl⟩
    have facts : other ∈ old.holders ∧ (old.key = key → other ≠ name) := by
      by_cases same : old.key = key
      · rw [if_pos (beq_iff_eq.mpr same)] at holds
        rcases List.mem_filter.mp holds with ⟨held, different⟩
        exact ⟨held, fun _ => bne_iff_ne.mp different⟩
      · rw [if_neg (by simpa using same)] at holds
        exact ⟨holds, fun equal => absurd equal same⟩
    have sameKey : (if (old.key == key) = true then old.without name else old).key = old.key := by
      split <;> rfl
    rcases sound.held old wasThere other facts.1 with ⟨found, here, list⟩
    rw [find?_changeStat, here, sameKey]
    refine ⟨_, rfl, ?_⟩
    split
    · next equal => exact keeps found old.key (fun same => facts.2 same (beq_iff_eq.mp equal)) list
    · exact list

theorem Sound.setStat (sound : named.Sound) (key : LooseText) (value : Value) :
    (named.setStat name key value).Sound := by
  refine sound.changeStat (fun _ keyed => keyed.setStat key value) ?_
  rintro found other different ⟨present, here, isList⟩
  exact ⟨present, (Value.lookup_putField_of_ne (Ne.symm different)).trans here, isList⟩

theorem Sound.dropStat (sound : named.Sound) (key : LooseText) :
    (named.dropStat name key).Sound := by
  refine sound.changeStat (fun _ keyed => keyed.dropStat key) ?_
  rintro found other different ⟨present, here, isList⟩
  exact ⟨present, (Table.lookup_filter_of_ne (Ne.symm different)).trans here, isList⟩

/-! ## Merging -/

/-- What a merge does: the results under one name take in those under another one, and the rest of
the names get the lists that they hold with the first. -/
theorem exists_of_merge {after : NamedResults} {fault : Option AdditionFault}
    (merged : named.merge name source = some (after, fault)) :
    ∃ results others, named.find? name = some results ∧ named.find? source = some others ∧
      fault = (results.merge others).2 ∧
      after.holds =
        (newLists (results.merge others).1 results).foldl (join name source) named.holds ∧
      after.find? name = some (results.merge others).1 ∧
      ∀ other, other ≠ name → after.find? other = (named.find? other).map fun old =>
        (results.merge others).1.stats.foldl (spreadStat after.holds name other) old := by
  unfold NamedResults.merge at merged
  split at merged
  · next results others here there =>
      cases merged
      refine ⟨results, others, here, there, rfl, rfl, ?_, ?_⟩
      · exact find?_spread_self _ _ here
      · exact fun other different => find?_spread_of_ne _ different _
  · cases merged

theorem exists_merge (here : named.find? name = some results)
    (there : named.find? source = some others) :
    ∃ after, named.merge name source = some (after, (results.merge others).2) := by
  unfold NamedResults.merge
  rw [here, there]
  exact ⟨_, rfl⟩

/-- A holder after a merge held the list before, or it is one of the merged two and the list is
new. -/
theorem mem_holders_foldl_join {keys : List LooseText} {holds : List Hold} {hold : Hold}
    (member : hold ∈ keys.foldl (join name source) holds) {other : String}
    (holder : other ∈ hold.holders) :
    hold.key ∈ keys ∧ (other = name ∨ other = source) ∨
      ∃ old ∈ holds, old.key = hold.key ∧ other ∈ old.holders := by
  induction keys generalizing holds with
  | nil => exact Or.inr ⟨hold, member, rfl, holder⟩
  | cons key rest inductionHypothesis =>
      rcases inductionHypothesis member with ⟨new, which⟩ | ⟨joined, there, sameKey, held⟩
      · exact Or.inl ⟨List.mem_cons_of_mem key new, which⟩
      · unfold join at there
        split at there
        · rcases List.mem_map.mp there with ⟨old, wasThere, rfl⟩
          by_cases isOn : old.isOn key source
          · rw [if_pos isOn] at sameKey held
            have oldKey : old.key = key := beq_iff_eq.mp (Bool.and_eq_true_iff.mp isOn).1
            rcases List.mem_cons.mp held with rfl | held
            · exact Or.inl ⟨by rw [← sameKey, ← oldKey]; exact List.mem_cons_self, Or.inl rfl⟩
            · exact Or.inr ⟨old, wasThere, sameKey, held⟩
          · rw [if_neg isOn] at sameKey held
            exact Or.inr ⟨old, wasThere, sameKey, held⟩
        · rcases List.mem_cons.mp there with rfl | wasThere
          · refine Or.inl ⟨by rw [← sameKey]; exact List.mem_cons_self, ?_⟩
            simpa using held
          · exact Or.inr ⟨joined, wasThere, sameKey, held⟩

theorem mem_newLists {merged : Results} {key : LooseText} (new : key ∈ newLists merged results)
    (keyed : merged.Keyed) : merged.HasList key ∧ results.stats.lookup key = none := by
  rcases List.mem_map.mp new with ⟨stat, listed, rfl⟩
  rcases List.mem_filter.mp listed with ⟨member, facts⟩
  rcases Bool.and_eq_true_iff.mp facts with ⟨isList, absent⟩
  rw [Value.fieldOf?_eq_lookup, Option.isNone_iff_eq_none] at absent
  exact ⟨⟨stat.2, keyed.stats.lookup member, isList⟩, absent⟩

/-- What is held with others changes nothing but statistics. -/
theorem exists_foldl_spreadStat (holds : List Hold) (source other : String)
    (stats : List (LooseText × Value)) (results : Results) :
    ∃ new, stats.foldl (spreadStat holds source other) results = { results with stats := new } ∧
      (Table.Keyed results.stats → Table.Keyed new) ∧
      ∀ key, (∃ value, results.stats.lookup key = some value ∧ value.isList = true) →
        (∀ stat ∈ stats, ∀ hold ∈ holds, hold.isOn stat.1 source = true → stat.2.isList = true) →
        ∃ value, new.lookup key = some value ∧ value.isList = true := by
  induction stats generalizing results with
  | nil => exact ⟨results.stats, rfl, id, fun _ has _ => has⟩
  | cons stat rest inductionHypothesis =>
      rw [List.foldl_cons]
      rcases inductionHypothesis (spreadStat holds source other results stat) with
        ⟨new, shape, keyed, lists⟩
      rw [shape]
      unfold spreadStat at keyed lists ⊢
      split
      · next shared =>
          rw [if_pos shared] at keyed lists
          refine ⟨new, rfl, fun before => keyed (Value.keyed_putField before), ?_⟩
          intro key has all
          refine lists key ?_ fun later member => all later (List.mem_cons_of_mem stat member)
          by_cases same : stat.1 = key
          · rcases List.any_eq_true.mp shared with ⟨hold, member, both⟩
            refine ⟨stat.2, ?_, all stat List.mem_cons_self hold member
              (Bool.and_eq_true_iff.mp both).1⟩
            rw [← same]
            exact Value.lookup_putField_self stat.1 stat.2 results.stats
          · rcases has with ⟨value, found, isList⟩
            exact ⟨value, (Value.lookup_putField_of_ne same).trans found, isList⟩
      · next apart =>
          rw [if_neg apart] at keyed lists
          exact ⟨new, rfl, keyed, fun key has all =>
            lists key has fun later member => all later (List.mem_cons_of_mem stat member)⟩

section

variable (sound : named.Sound) (here : named.find? name = some results)
  (there : named.find? source = some others) {hold : Hold}
  (member : hold ∈ (newLists (results.merge others).1 results).foldl (join name source) named.holds)

include sound here member

/-- What the merged results hold with others is a list of theirs, whether it is new or not. -/
theorem Sound.hasList_merged (holder : name ∈ hold.holders) :
    (results.merge others).1.HasList hold.key := by
  rcases mem_holders_foldl_join member holder with ⟨new, _⟩ | ⟨old, wasThere, sameKey, held⟩
  · exact (mem_newLists new ((sound.keyed name results here).merge others)).1
  · rcases sound.held old wasThere name held with ⟨found, present, list⟩
    rw [here] at present
    cases present
    exact sameKey ▸ list.merge others

include there

/-- What other results hold after a merge was a list of theirs before. -/
theorem Sound.hasList_before {other : String} (different : other ≠ name)
    (holder : other ∈ hold.holders) :
    ∃ old, named.find? other = some old ∧ old.HasList hold.key := by
  rcases mem_holders_foldl_join member holder with ⟨new, which⟩ | ⟨old, wasThere, sameKey, held⟩
  · rcases mem_newLists new ((sound.keyed name results here).merge others) with
      ⟨⟨value, found, isList⟩, absent⟩
    rw [Results.stats_merge] at found
    rcases Results.exists_of_lookup_addStats found absent with ⟨first, origin, kind⟩
    rw [which.resolve_left different]
    exact ⟨others, there, first, origin, kind.symm.trans isList⟩
  · exact sameKey ▸ sound.held old wasThere other held

end

/-- A merge keeps the lists of all holders, whether or not everything could be added. -/
theorem Sound.merge (sound : named.Sound) {after : NamedResults} {fault : Option AdditionFault}
    (merged : named.merge name source = some (after, fault)) : after.Sound := by
  rcases exists_of_merge merged with ⟨results, others, here, there, _, holds, self, rest⟩
  have keyed := (sound.keyed name results here).merge others
  constructor
  · intro other found present
    by_cases same : other = name
    · rw [same, self] at present
      cases present
      exact keyed
    · rw [rest other same] at present
      rcases Option.map_eq_some_iff.mp present with ⟨old, wasThere, rfl⟩
      rcases exists_foldl_spreadStat after.holds name other (results.merge others).1.stats old with
        ⟨new, shape, stillKeyed, _⟩
      rw [shape]
      exact ⟨(sound.keyed other old wasThere).groups,
        stillKeyed (sound.keyed other old wasThere).stats⟩
  · intro hold member other holder
    by_cases same : other = name
    · rw [same] at holder ⊢
      exact ⟨_, self, sound.hasList_merged here (holds ▸ member) holder⟩
    · have lists : ∀ stat ∈ (results.merge others).1.stats, ∀ hold ∈ after.holds,
          hold.isOn stat.1 name = true → stat.2.isList = true := by
        intro stat listed hold isHold isOn
        rcases Bool.and_eq_true_iff.mp isOn with ⟨sameKey, holder⟩
        rcases sound.hasList_merged here (holds ▸ isHold) (by simpa using holder) with
          ⟨value, found, isList⟩
        rw [beq_iff_eq.mp sameKey, keyed.stats.lookup listed] at found
        cases found
        exact isList
      rcases sound.hasList_before here there (holds ▸ member) same holder with
        ⟨old, wasThere, list⟩
      rcases exists_foldl_spreadStat after.holds name other (results.merge others).1.stats old with
        ⟨new, shape, _, stillLists⟩
      refine ⟨{ old with stats := new }, ?_, stillLists hold.key list lists⟩
      rw [rest other same, wasThere, Option.map_some, shape]

/-- Where a list would have to be written, there is one in the merged results; without any, the
results under the other names stay as they are. -/
theorem Sound.find?_of_merge (sound : named.Sound) {after : NamedResults}
    {fault : Option AdditionFault} (merged : named.merge name source = some (after, fault))
    (noLists : ∀ results others, named.find? name = some results →
      named.find? source = some others →
      ∀ stat ∈ (results.merge others).1.stats, stat.2.isList = false)
    {other : String} (different : other ≠ name) : after.find? other = named.find? other := by
  rcases exists_of_merge merged with ⟨results, others, here, there, _, _, self, rest⟩
  have apart : ∀ old, ∀ stat ∈ (results.merge others).1.stats,
      spreadStat after.holds name other old stat = old := by
    intro old stat member
    refine if_neg fun shared => ?_
    rcases List.any_eq_true.mp shared with ⟨hold, isHold, both⟩
    rcases Bool.and_eq_true_iff.mp (Bool.and_eq_true_iff.mp both).1 with ⟨_, holder⟩
    rcases (sound.merge merged).held hold isHold name (by simpa using holder) with
      ⟨found, present, value, held, isList⟩
    rw [self] at present
    cases present
    have none := noLists results others here there (hold.key, value) (Table.mem_of_lookup held)
    rw [isList] at none
    cases none
  have kept : ∀ old, (results.merge others).1.stats.foldl (spreadStat after.holds name other) old =
      old := by
    intro old
    rw [List.foldl_ext _ (fun old _ => old) old apart]
    exact List.foldl_fixed _
  rw [rest other different]
  simp only [kept, Option.map_id']

/-- The named results that come of putting results under names, changing their statistics and
merging them. -/
inductive Made : NamedResults → Prop
  | none : Made empty
  | put {named : NamedResults} (name : String) {results : Results} (keyed : results.Keyed)
      (before : named.Made) : Made (named.put name results)
  | setStat {named : NamedResults} (name : String) (key : LooseText) (value : Value)
      (before : named.Made) :
      Made (named.setStat name key value)
  | dropStat {named : NamedResults} (name : String) (key : LooseText) (before : named.Made) :
      Made (named.dropStat name key)
  | merge {named after : NamedResults} {name source : String} {fault : Option AdditionFault}
      (merged : named.merge name source = some (after, fault)) (before : named.Made) : Made after

theorem Made.sound {named : NamedResults} (made : named.Made) : named.Sound := by
  induction made with
  | none => exact sound_empty
  | put name keyed before inductionHypothesis => exact inductionHypothesis.put keyed
  | setStat name key value before inductionHypothesis => exact inductionHypothesis.setStat key value
  | dropStat name key before inductionHypothesis => exact inductionHypothesis.dropStat key
  | merge merged before inductionHypothesis => exact inductionHypothesis.merge merged

end NamedResults
end DirectiveLint
