import DirectiveLint.Checker.Log
import Mathlib.Logic.Basic

/-!
# Failures that escape

An operation that fails may report why, or it may let a failure escape that
nobody answers for.  Operations are done one after the other, and the first
failure ends them.  So a failure escapes from one of them if all before it
succeed.
-/

namespace DirectiveLint

universe u v

namespace Except

variable {ε : Type} {α : Type u} {β : Type v} {reported : ε → Prop}

/-- Whether there is no result because of a failure that is not reported. -/
def Escapes (reported : ε → Prop) (result : Except ε α) : Prop :=
  ∃ failure, result = .error failure ∧ ¬reported failure

@[simp] theorem not_escapes_ok (value : α) : ¬Escapes reported (.ok value : Except ε α) := by
  rintro ⟨failure, impossible, _⟩
  cases impossible

@[simp] theorem escapes_error_iff {failure : ε} :
    Escapes reported (.error failure : Except ε α) ↔ ¬reported failure := by
  constructor
  · rintro ⟨other, same, unreported⟩
    cases same
    exact unreported
  · intro unreported
    exact ⟨failure, rfl, unreported⟩

/-- Without an escape there is a result or, where failures are reported as faults, a fault. -/
theorem not_escapes_iff {φ : Type} {report : φ → ε} {result : Except ε α} :
    ¬Escapes (fun failure => ∃ fault, failure = report fault) result ↔
      (∃ value, result = .ok value) ∨ ∃ fault, result = .error (report fault) := by
  cases result with
  | ok value => simp
  | error failure => simp

theorem eq_ok_of_toOption_eq_some {result : Except ε α} {value : α}
    (found : result.toOption = some value) : result = .ok value := by
  cases result with
  | ok other =>
      cases found
      rfl
  | error failure => cases found

/-- What is done after something else has a result if both have. -/
theorem bind_eq_ok_iff {first : Except ε α} {next : α → Except ε β} {result : β} :
    first.bind next = .ok result ↔ ∃ middle, first = .ok middle ∧ next middle = .ok result := by
  cases first with
  | error failure => simp [Except.bind]
  | ok middle => simp [Except.bind]

theorem bind_eq_error_iff {first : Except ε α} {next : α → Except ε β} {failure : ε} :
    first.bind next = .error failure ↔
      first = .error failure ∨ ∃ middle, first = .ok middle ∧ next middle = .error failure := by
  cases first with
  | error other => simp [Except.bind]
  | ok middle => simp [Except.bind]

theorem escapes_bind_iff {first : Except ε α} {next : α → Except ε β} :
    Escapes reported (first.bind next) ↔
      Escapes reported first ∨ ∃ value, first = .ok value ∧ Escapes reported (next value) := by
  cases first with
  | ok value => simp [Except.bind]
  | error failure => simp [Except.bind]

/-- What is done last does not matter if it always succeeds. -/
theorem escapes_bind_ok_iff {first : Except ε α} {next : α → β} :
    Escapes reported (first.bind fun value => .ok (next value)) ↔ Escapes reported first := by
  rw [escapes_bind_iff]
  simp

end Except

theorem Logged.andThen_result {ε : Type} {α : Type u} {β : Type v} (first : Logged ε α)
    (next : α → Logged ε β) :
    (first.andThen next).result = first.result.bind fun value => (next value).result := by
  unfold andThen
  cases first.result <;> rfl

namespace List

variable {α : Type u} {passes stops : α → Prop}

/-- Whether the items of a list pass one after the other up to one that stops. -/
def StopsAt (passes stops : α → Prop) (items : List α) : Prop :=
  ∃ earlier item later, items = earlier ++ item :: later ∧ (∀ other ∈ earlier, passes other) ∧
    stops item

@[simp] theorem not_stopsAt_nil : ¬StopsAt passes stops [] := by
  rintro ⟨earlier, item, later, split, _⟩
  cases earlier <;> cases split

theorem stopsAt_cons_iff {item : α} {rest : List α} :
    StopsAt passes stops (item :: rest) ↔ stops item ∨ passes item ∧ StopsAt passes stops rest := by
  constructor
  · rintro ⟨earlier, found, later, split, pass, stop⟩
    cases earlier with
    | nil =>
        cases split
        exact Or.inl stop
    | cons first others =>
        cases split
        rw [List.forall_mem_cons] at pass
        exact Or.inr ⟨pass.1, others, found, later, rfl, pass.2, stop⟩
  · rintro (stop | ⟨pass, earlier, found, later, rfl, others, stop⟩)
    · exact ⟨[], item, rest, rfl, by simp, stop⟩
    · refine ⟨item :: earlier, found, later, rfl, ?_, stop⟩
      rw [List.forall_mem_cons]
      exact ⟨pass, others⟩

end List
end DirectiveLint
