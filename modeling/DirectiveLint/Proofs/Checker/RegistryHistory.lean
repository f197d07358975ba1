import DirectiveLint.Proofs.Checker.RuleLevel
import DirectiveLint.Proofs.Table
import Mathlib.Data.List.Permutation
import Mathlib.Data.List.Sort

/-!
# Histories of a registry

A registry keeps its rules by name and, apart from them, the names that are
switched off.  So the two do not disturb each other: a rule that is registered
again keeps its place and stays switched off, and a name may be switched off
before there is a rule for it.

What a registry holds is read off the calls on it: the places come from the first
registration under each name, the rules from the last one, and the switches from
the last call that turns them.  A runner takes the rules that are switched on, or
those that a selection names, and leaves out the ones that its options turn off.
-/

namespace DirectiveLint
namespace Registry

/-- A call that changes a registry. -/
inductive Call
  | register (rule : Rule)
  | enable (name : String)
  | disable (name : String)

namespace Call

def act (registry : Registry) : Call → Registry
  | .register rule => registry.register rule
  | .enable name => registry.enable name
  | .disable name => registry.disable name

/-- The rule that a call registers. -/
def rule? : Call → Option Rule
  | .register rule => some rule
  | _ => none

/-- What a call switches a name to. -/
def switch? (name : String) : Call → Option Bool
  | .enable other => if other = name then some true else none
  | .disable other => if other = name then some false else none
  | .register _ => none

end Call

/-- A new registry after some calls. -/
def after (calls : List Call) : Registry :=
  calls.foldl Call.act empty

/-! ## What has been called -/

/-- The names of registered rules, in the order of their first registration. -/
def registeredNames (calls : List Call) : List String :=
  ((calls.filterMap Call.rule?).map (·.name)).eraseDups

/-- The rule that was registered last under a name. -/
def latest? (calls : List Call) (name : String) : Option Rule :=
  ((calls.filterMap Call.rule?).filter (·.name = name)).getLast?

/-- Whether the last call that switches a name, if there is one, switches it on. -/
def isOn (calls : List Call) (name : String) : Bool :=
  (calls.filterMap (Call.switch? name)).getLast?.getD true

/-- The rules that were registered last under names, in the order of the names. -/
def latestOf (calls : List Call) (names : List String) : List Rule :=
  names.filterMap (latest? calls)

section

variable {registry : Registry} {calls : List Call} {name : String} {rule : Rule}

theorem eraseDups_concat (names : List String) (name : String) :
    (names ++ [name]).eraseDups =
      if name ∈ names.eraseDups then names.eraseDups else names.eraseDups ++ [name] := by
  rw [List.eraseDups_append]
  by_cases member : name ∈ names
  · simp [List.removeAll, member]
  · simp [List.removeAll, member, List.eraseDups_cons]

theorem registeredNames_register :
    registeredNames (calls ++ [.register rule]) =
      if rule.name ∈ registeredNames calls then registeredNames calls
      else registeredNames calls ++ [rule.name] := by
  simp only [registeredNames, List.filterMap_append, List.map_append]
  exact eraseDups_concat _ _

theorem latest?_register :
    latest? (calls ++ [.register rule]) name =
      if rule.name = name then some rule else latest? calls name := by
  simp only [latest?, List.filterMap_append, List.filter_append]
  split
  · next same => simp [Call.rule?, same]
  · next different => simp [Call.rule?, different]

theorem registeredNames_of_rule?_eq_none {call : Call} (none : call.rule? = none) :
    registeredNames (calls ++ [call]) = registeredNames calls := by
  simp [registeredNames, none]

theorem latest?_of_rule?_eq_none {call : Call} (none : call.rule? = none) :
    latest? (calls ++ [call]) name = latest? calls name := by
  simp [latest?, none]

theorem isOn_concat (call : Call) :
    isOn (calls ++ [call]) name = (call.switch? name).getD (isOn calls name) := by
  simp only [isOn, List.filterMap_append]
  cases switched : call.switch? name with
  | none => simp [switched]
  | some on => simp [switched]

theorem registeredNames_nodup (calls : List Call) : (registeredNames calls).Nodup := by
  unfold registeredNames
  generalize (calls.filterMap Call.rule?).map (·.name) = names
  induction names using List.reverseRecOn with
  | nil => exact List.nodup_nil
  | append_singleton front name inductionHypothesis =>
      rw [eraseDups_concat]
      split
      · exact inductionHypothesis
      · next absent =>
          exact List.nodup_append_comm.mp (List.nodup_cons.mpr ⟨absent, inductionHypothesis⟩)

theorem mem_registeredNames_iff :
    name ∈ registeredNames calls ↔ ∃ rule, .register rule ∈ calls ∧ rule.name = name := by
  rw [registeredNames, List.mem_eraseDups, List.mem_map]
  apply exists_congr
  intro rule
  rw [List.mem_filterMap]
  apply and_congr_left
  intro _
  constructor
  · rintro ⟨call, member, registers⟩
    cases call with
    | register other =>
        cases registers
        exact member
    | enable other => cases registers
    | disable other => cases registers
  · intro member
    exact ⟨_, member, rfl⟩

theorem name_of_latest? (found : latest? calls name = some rule) : rule.name = name := by
  have member := List.mem_of_getLast? found
  simpa using (List.mem_filter.mp member).2

theorem mem_registeredNames_of_latest? (found : latest? calls name = some rule) :
    name ∈ registeredNames calls := by
  have registered := (List.mem_filter.mp (List.mem_of_getLast? found)).1
  rw [registeredNames, List.mem_eraseDups, ← name_of_latest? found]
  exact List.mem_map_of_mem registered

/-! ## What a registry holds -/

/-- What calls leave in a registry. -/
structure Holds (registry : Registry) (calls : List Call) : Prop where
  names : registry.rules.map Prod.fst = registeredNames calls
  latest : ∀ name, registry.rules.lookup name = latest? calls name
  switches : ∀ name, registry.disabled.contains name = !isOn calls name

theorem putRule_eq_add (name : String) (rule : Rule) (rules : List (String × Rule)) :
    putRule name rule rules = Table.add (fun _ new => new) name rule rules := by
  induction rules with
  | nil => rfl
  | cons entry rest inductionHypothesis =>
      rw [putRule, Table.add, inductionHypothesis]
      by_cases same : entry.1 = name <;> simp [same]

theorem contains_filter_ne (names : List String) (other : String) :
    (names.filter (· != other)).contains name =
      if other = name then false else names.contains name := by
  by_cases same : other = name
  · simp [same]
  · simp [same, Ne.symm same]

/-- Every call does what it says and nothing else. -/
theorem Holds.act (holds : Holds registry calls) (call : Call) :
    Holds (call.act registry) (calls ++ [call]) := by
  cases call with
  | register rule =>
      refine ⟨?_, ?_, ?_⟩
      · change (putRule rule.name rule registry.rules).map Prod.fst = _
        rw [putRule_eq_add, Table.map_fst_add, holds.names, registeredNames_register]
      · intro name
        change (putRule rule.name rule registry.rules).lookup name = _
        rw [putRule_eq_add, latest?_register]
        split
        · next same =>
            rw [← same, Table.lookup_add_self]
            split <;> rfl
        · next different =>
            rw [Table.lookup_add_of_ne different, holds.latest]
      · intro name
        rw [isOn_concat]
        exact holds.switches name
  | enable other =>
      refine ⟨?_, ?_, ?_⟩
      · rw [registeredNames_of_rule?_eq_none rfl]
        exact holds.names
      · intro name
        rw [latest?_of_rule?_eq_none rfl]
        exact holds.latest name
      · intro name
        change (registry.disabled.filter (· != other)).contains name = _
        rw [contains_filter_ne, isOn_concat, holds.switches, Call.switch?]
        split <;> rfl
  | disable other =>
      refine ⟨?_, ?_, ?_⟩
      · rw [registeredNames_of_rule?_eq_none rfl]
        exact holds.names
      · intro name
        rw [latest?_of_rule?_eq_none rfl]
        exact holds.latest name
      · intro name
        change (other :: registry.disabled.filter (· != other)).contains name = _
        rw [List.contains_cons, contains_filter_ne, isOn_concat, holds.switches, Call.switch?]
        split
        · next same => simp [same]
        · next different => simp [Ne.symm different]

theorem holds_after (calls : List Call) : Holds (after calls) calls := by
  induction calls using List.reverseRecOn with
  | nil => exact ⟨rfl, fun _ => rfl, fun _ => rfl⟩
  | append_singleton front call inductionHypothesis =>
      have last : after (front ++ [call]) = call.act (after front) := by
        rw [after, List.foldl_append]
        rfl
      rw [last]
      exact inductionHypothesis.act call

section

variable (holds : Holds registry calls)

include holds

theorem Holds.keyed : Table.Keyed registry.rules := by
  rw [Table.Keyed, holds.names]
  exact registeredNames_nodup calls

/-- The rules of some of the names. -/
theorem Holds.map_snd_filter (test : String → Bool) :
    (registry.rules.filter fun entry => test entry.1).map Prod.snd =
      latestOf calls ((registeredNames calls).filter test) := by
  rw [latestOf, ← holds.names, List.filter_map, List.filterMap_map, ← List.filterMap_eq_map']
  apply List.filterMap_congr
  intro entry member
  have listed := (List.mem_filter.mp member).1
  rw [Function.comp_apply, ← holds.latest, holds.keyed.lookup listed]

theorem Holds.enabled_eq :
    registry.enabled = latestOf calls ((registeredNames calls).filter (isOn calls)) := by
  have switched : (fun entry : String × Rule => !registry.disabled.contains entry.1) =
      fun entry => isOn calls entry.1 := by
    funext entry
    rw [holds.switches, Bool.not_not]
  rw [enabled, switched]
  exact holds.map_snd_filter (isOn calls)

theorem Holds.byErrorId_eq (id : String) :
    registry.byErrorId id =
      (latestOf calls (registeredNames calls)).filter (·.errorIds.contains id) := by
  have all := holds.map_snd_filter fun _ => true
  rw [List.filter_true, List.filter_true] at all
  rw [byErrorId, all]

theorem Holds.byName?_eq (name : String) : registry.byName? name = latest? calls name := by
  rw [← holds.latest, byName?]
  induction registry.rules with
  | nil => rfl
  | cons entry rest inductionHypothesis =>
      rw [Table.lookup_cons, ← inductionHypothesis]
      by_cases same : entry.1 = name
      · simp [same]
      · rw [List.find?_cons_of_neg (by simpa using same), if_neg same]

theorem Holds.names_sorted :
    registry.names.Pairwise (· < ·) ∧
      ∀ name, name ∈ registry.names ↔ name ∈ registeredNames calls := by
  have perm : registry.names.Perm (registeredNames calls) := by
    rw [Registry.names, holds.names]
    exact List.mergeSort_perm _ _
  refine ⟨?_, fun name => perm.mem_iff⟩
  have ordered : registry.names.Pairwise fun first second => decide (first ≤ second) = true := by
    apply List.pairwise_mergeSort
    · intro first second third
      simpa using String.le_trans
    · intro first second
      simpa using String.le_total first second
  have distinct : registry.names.Nodup := perm.nodup_iff.mpr (registeredNames_nodup calls)
  refine (ordered.and distinct).imp ?_
  rintro first second ⟨atMost, different⟩
  exact String.not_le.mp fun atLeast =>
    different (String.le_antisymm (of_decide_eq_true atMost) atLeast)

/-- A selection gets the latest rules of its names, each as often as it is named. -/
theorem Holds.rulesNamed_eq_ok {names : List Value} {rules : List Rule}
    (named : Runner.rulesNamed registry names = .ok rules) :
    ∃ texts : List String, names = texts.map (fun text => .text text) ∧
      (∀ text ∈ texts, text ∈ registeredNames calls) ∧ rules = latestOf calls texts := by
  induction names generalizing rules with
  | nil =>
      cases named
      exact ⟨[], rfl, by simp, rfl⟩
  | cons name rest inductionHypothesis =>
      simp only [Runner.rulesNamed] at named
      split at named
      · cases named
      · split at named
        · cases named
        · next rule found =>
            split at named
            · cases named
            · next others later =>
                cases named
                rcases inductionHypothesis later with ⟨texts, rfl, known, rfl⟩
                split at found
                · next text _ =>
                    rw [holds.byName?_eq] at found
                    refine ⟨text :: texts, rfl, ?_, ?_⟩
                    · exact List.forall_mem_cons.mpr ⟨mem_registeredNames_of_latest? found, known⟩
                    · exact (List.filterMap_cons_some found).symm
                · cases found

end

end

end Registry

namespace Runner

open Registry (registeredNames latestOf isOn)

theorem build_eq_ok {registry : Registry} {options selection : Value} {runner : Runner}
    (built : (build registry options selection).result = .ok runner) :
    ∃ mapping rules, Mapping.ofOptional options = .ok mapping ∧
      selectRules registry selection = .ok rules ∧
      runner.checkers.map (·.1) = rules.filter fun rule => !turnsOff mapping rule := by
  unfold build at built
  split at built
  · cases built
  · next mapping taken =>
      unfold ofMapping at built
      split at built
      · cases built
      · rcases Logged.andThen_result_eq_ok_iff.mp built with ⟨rules, selected, built⟩
        rcases Logged.andThen_result_eq_ok_iff.mp built with ⟨checkers, made, same⟩
        cases same
        exact ⟨mapping, rules, taken, selected, rules_of_buildCheckers made⟩

/-- After any calls on a new registry, its names are those registered, in order; the rules that are
switched on, and those that report a message, are the latest ones in the order of their first
registration.  A runner that is built from it has checkers of the rules that are switched on, or of
those that a selection names, in this order, without the rules that the options turn off. -/
theorem rules_of_calls (calls : List Registry.Call) :
    ((Registry.after calls).names.Pairwise (· < ·) ∧
      ∀ name, name ∈ (Registry.after calls).names ↔
        ∃ rule, .register rule ∈ calls ∧ rule.name = name) ∧
    (Registry.after calls).enabled = latestOf calls ((registeredNames calls).filter (isOn calls)) ∧
    (∀ id, (Registry.after calls).byErrorId id =
      (latestOf calls (registeredNames calls)).filter (·.errorIds.contains id)) ∧
    ∀ options selection runner,
      (build (Registry.after calls) options selection).result = .ok runner →
      ∃ mapping, Mapping.ofOptional options = .ok mapping ∧
        (selection = .null → runner.checkers.map (·.1) =
          (Registry.after calls).enabled.filter fun rule => !turnsOff mapping rule) ∧
        ∀ names, selection = .list names → ∃ texts : List String,
          names = texts.map (fun text => .text text) ∧
          (∀ text ∈ texts, text ∈ registeredNames calls) ∧
          runner.checkers.map (·.1) =
            (latestOf calls texts).filter fun rule => !turnsOff mapping rule := by
  have holds := Registry.holds_after calls
  refine ⟨⟨holds.names_sorted.1, ?_⟩, holds.enabled_eq, holds.byErrorId_eq, ?_⟩
  · intro name
    rw [holds.names_sorted.2, Registry.mem_registeredNames_iff]
  · intro options selection runner built
    rcases build_eq_ok built with ⟨mapping, rules, taken, selected, checkers⟩
    refine ⟨mapping, taken, ?_, ?_⟩
    · rintro rfl
      cases selected
      exact checkers
    · rintro names rfl
      rcases holds.rulesNamed_eq_ok selected with ⟨texts, same, known, rfl⟩
      exact ⟨texts, same, known, checkers⟩

/-- A rule without effects, known by its name and its description. -/
def plainRule (name description : String) : Rule where
  label := "Plain"
  name
  description
  errorIds := []
  State := Unit
  initial := ()
  collect _ state := { state }
  diagnose _ _ state := { state }

/-- Switches off a name before there is a rule for it, and registers two names twice. -/
def tangledCalls : List Registry.Call :=
  [.disable "b", .register (plainRule "b" "early"), .register (plainRule "a" "early"),
    .register (plainRule "c" "only"), .register (plainRule "b" "late"),
    .register (plainRule "a" "late"), .disable "a", .enable "a"]

/-- A rule that is switched off runs if it is selected, and as often as it is. -/
theorem rules_of_calls_tangled :
    ∃ all some, (build (Registry.after tangledCalls) .null .null).result = .ok all ∧
      (build (Registry.after tangledCalls) (.object [("c", .text "off")])
        (.list [.text "b", .text "c", .text "b"])).result = .ok some ∧
      (Registry.after tangledCalls).names.Pairwise (· < ·) ∧
      all.checkers.map (·.1.description) = ["late", "only"] ∧
      some.checkers.map (·.1.description) = ["late", "late"] := by
  have builds : (build (Registry.after tangledCalls) .null .null).result.toOption.isSome = true ∧
      (build (Registry.after tangledCalls) (.object [("c", .text "off")])
        (.list [.text "b", .text "c", .text "b"])).result.toOption.isSome = true := by
    constructor
    · decide +kernel
    · cbv
  rcases Option.isSome_iff_exists.mp builds.1 with ⟨all, builtAll⟩
  rcases Option.isSome_iff_exists.mp builds.2 with ⟨some, builtSome⟩
  replace builtAll := Except.eq_ok_of_toOption_eq_some builtAll
  replace builtSome := Except.eq_ok_of_toOption_eq_some builtSome
  rcases rules_of_calls tangledCalls with ⟨⟨sorted, _⟩, enabled, _, runners⟩
  rcases runners _ _ _ builtAll with ⟨mapping, taken, selectsAll, _⟩
  rcases runners _ _ _ builtSome with ⟨others, takenOthers, _, selectsSome⟩
  cases taken
  cases takenOthers
  rcases selectsSome _ rfl with ⟨texts, named, _, checkers⟩
  have listed : texts = ["b", "c", "b"] :=
    List.map_injective_iff.mpr (fun _ _ same => LooseText.plain.inj (Value.text.inj same))
      named.symm
  refine ⟨all, some, builtAll, builtSome, sorted, ?_, ?_⟩
  · have described := congrArg (List.map Rule.description) (selectsAll rfl)
    rw [List.map_map, enabled] at described
    exact described.trans (by decide +kernel)
  · have described := congrArg (List.map Rule.description) checkers
    rw [List.map_map, listed] at described
    exact described.trans (by decide +kernel)

end Runner
end DirectiveLint
