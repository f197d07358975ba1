import DirectiveLint.Diagnostic.Edit

/-!
# Edits that follow each other

Edits whose ranges follow each other without overlapping can be applied from the
front to the back in one pass: the text between them is kept, and each range
gives way to the text of its edit.  Applying them from the back comes to the
same, and none of them is left out.

The same holds when every edit is given several times, if no range is empty.
The copies of an edit reach into the one that was applied first, so they are
left out.
-/

namespace DirectiveLint
namespace TextEdit

/-- Whether edits have ranges that follow each other between two offsets; ranges may be empty. -/
def Ascending (offset length : Nat) : List TextEdit → Prop
  | [] => True
  | edit :: rest =>
    (offset : Int) ≤ edit.start ∧ edit.start ≤ edit.stop ∧ edit.stop ≤ length ∧
      Ascending edit.stop.toNat length rest

/-- Whether edits have ranges that are not empty and follow each other between two offsets. -/
def InOrder (offset length : Nat) : List TextEdit → Prop
  | [] => True
  | edit :: rest =>
    (offset : Int) ≤ edit.start ∧ edit.start < edit.stop ∧ edit.stop ≤ length ∧
      InOrder edit.stop.toNat length rest

/-- A text that begins at an offset with the ranges of edits replaced, from the front to the
back. -/
def spliced (offset : Nat) (source : List Char) : List TextEdit → List Char
  | [] => source
  | edit :: rest =>
    source.take (edit.start.toNat - offset) ++ edit.text.toList ++
      spliced edit.stop.toNat (source.drop (edit.stop.toNat - offset)) rest

section

variable {offset length : Nat} {source : List Char} {edit : TextEdit} {edits rest : List TextEdit}

theorem placeOf_of_le {place : Int} (nonnegative : 0 ≤ place) (within : place ≤ length) :
    placeOf length place = place.toNat := by
  rw [placeOf, if_neg (Int.not_lt.mpr nonnegative)]
  omega

namespace Ascending

/-- The ranges of ascending edits lie between the offsets. -/
theorem of_mem (ascending : Ascending offset length edits) :
    ∀ edit ∈ edits, (offset : Int) ≤ edit.start ∧ edit.start ≤ edit.stop ∧ edit.stop ≤ length := by
  induction edits generalizing offset with
  | nil => simp
  | cons first rest inductionHypothesis =>
      rcases ascending with ⟨after, forward, within, later⟩
      intro edit member
      rcases List.mem_cons.mp member with rfl | member
      · exact ⟨after, forward, within⟩
      · rcases inductionHypothesis later edit member with ⟨behind, bounds⟩
        exact ⟨by omega, bounds⟩

theorem pairwise (ascending : Ascending offset length edits) :
    edits.Pairwise fun first second => first.stop ≤ second.start := by
  induction edits generalizing offset with
  | nil => exact List.Pairwise.nil
  | cons first rest inductionHypothesis =>
      rcases ascending with ⟨after, forward, within, later⟩
      rw [List.pairwise_cons]
      refine ⟨?_, inductionHypothesis later⟩
      intro second member
      have behind := (later.of_mem second member).1
      omega

theorem of_pairwise
    (bounds : ∀ edit ∈ edits,
      (offset : Int) ≤ edit.start ∧ edit.start ≤ edit.stop ∧ edit.stop ≤ length)
    (disjoint : edits.Pairwise fun first second => first.stop ≤ second.start) :
    Ascending offset length edits := by
  induction edits generalizing offset with
  | nil => trivial
  | cons first rest inductionHypothesis =>
      rcases List.pairwise_cons.mp disjoint with ⟨behind, later⟩
      rcases bounds first List.mem_cons_self with ⟨after, forward, within⟩
      refine ⟨after, forward, within, inductionHypothesis ?_ later⟩
      intro edit member
      have apart := behind edit member
      exact ⟨by omega, (bounds edit (List.mem_cons_of_mem first member)).2⟩

end Ascending

theorem inOrder_iff : InOrder offset length edits ↔
    Ascending offset length edits ∧ ∀ edit ∈ edits, edit.start < edit.stop := by
  induction edits generalizing offset with
  | nil => simp [InOrder, Ascending]
  | cons first rest inductionHypothesis =>
      rw [List.forall_mem_cons, InOrder, Ascending, inductionHypothesis]
      constructor
      · rintro ⟨after, nonempty, within, later, others⟩
        exact ⟨⟨after, Int.le_of_lt nonempty, within, later⟩, nonempty, others⟩
      · rintro ⟨⟨after, _, within, later⟩, nonempty, others⟩
        exact ⟨after, nonempty, within, later, others⟩

namespace InOrder

/-- The ranges of edits in order are not empty and begin behind the offset. -/
theorem of_mem (inOrder : InOrder offset length edits) :
    ∀ edit ∈ edits, (offset : Int) ≤ edit.start ∧ edit.start < edit.stop ∧ edit.stop ≤ length := by
  rcases inOrder_iff.mp inOrder with ⟨ascending, nonempty⟩
  intro edit member
  rcases ascending.of_mem edit member with ⟨after, _, within⟩
  exact ⟨after, nonempty edit member, within⟩

theorem pairwise (inOrder : InOrder offset length edits) :
    edits.Pairwise fun first second => first.stop ≤ second.start :=
  (inOrder_iff.mp inOrder).1.pairwise

theorem of_pairwise
    (bounds : ∀ edit ∈ edits,
      (offset : Int) ≤ edit.start ∧ edit.start < edit.stop ∧ edit.stop ≤ length)
    (disjoint : edits.Pairwise fun first second => first.stop ≤ second.start) :
    InOrder offset length edits := by
  refine inOrder_iff.mpr ⟨Ascending.of_pairwise ?_ disjoint, fun edit member =>
    (bounds edit member).2.1⟩
  intro edit member
  rcases bounds edit member with ⟨after, nonempty, within⟩
  exact ⟨after, Int.le_of_lt nonempty, within⟩

end InOrder

/-- Edits that begin behind a stretch of text leave it as it is. -/
theorem spliced_append {front back : List Char} (nonempty : ∀ edit ∈ edits, edit.start < edit.stop)
    (behind : ∀ edit ∈ edits, ((offset + front.length : Nat) : Int) ≤ edit.start) :
    spliced offset (front ++ back) edits =
      front ++ spliced (offset + front.length) back edits := by
  cases edits with
  | nil => rfl
  | cons edit rest =>
      have here := behind edit List.mem_cons_self
      have range := nonempty edit List.mem_cons_self
      have start : edit.start.toNat - offset =
          front.length + (edit.start.toNat - (offset + front.length)) := by omega
      have stop : edit.stop.toNat - offset =
          front.length + (edit.stop.toNat - (offset + front.length)) := by omega
      rw [spliced, spliced, start, stop, List.take_length_add_append, List.drop_length_add_append,
        List.append_assoc, List.append_assoc, List.append_assoc]

/-- How much longer a text becomes by edits. -/
def growth : List TextEdit → Int
  | [] => 0
  | edit :: rest => edit.text.toList.length - (edit.stop - edit.start) + growth rest

theorem length_spliced (inOrder : InOrder offset (offset + source.length) edits) :
    ((spliced offset source edits).length : Int) = source.length + growth edits := by
  induction edits generalizing offset source with
  | nil => simp [spliced, growth]
  | cons edit rest inductionHypothesis =>
      rcases inOrder with ⟨after, nonempty, within, later⟩
      have remaining : edit.stop.toNat + (source.drop (edit.stop.toNat - offset)).length =
          offset + source.length := by
        rw [List.length_drop]
        omega
      have there := inductionHypothesis (remaining.symm ▸ later)
      rw [List.length_drop] at there
      simp only [spliced, growth, List.length_append, Int.natCast_add, List.length_take]
      omega

/-! ## From the back to the front -/

/-- Whether an edit ends before a limit, if there is one. -/
def Clears (edit : TextEdit) (limit : Option Int) : Prop :=
  ∀ start, limit = some start → edit.stop ≤ start

theorem clears_none (edit : TextEdit) : edit.Clears none := by
  intro start same
  cases same

theorem applyInOrder_of_clears {limit : Option Int} (clears : edit.Clears limit) :
    applyInOrder source limit (edit :: rest) =
      ((applyInOrder (edit.applyTo source) (some edit.start) rest).1,
        (applyInOrder (edit.applyTo source) (some edit.start) rest).2 + 1) := by
  cases limit with
  | none => rfl
  | some start =>
      have apart : ¬ start < edit.stop := Int.not_lt.mpr (clears start rfl)
      simp only [applyInOrder, apart, decide_false, Bool.false_eq_true, if_false]

theorem applyInOrder_of_not_clears {limit : Option Int} (overlaps : ¬ edit.Clears limit) :
    applyInOrder source limit (edit :: rest) = applyInOrder source limit rest := by
  cases limit with
  | none => exact absurd (clears_none edit) overlaps
  | some start =>
      have reaches : start < edit.stop := by
        refine Int.not_le.mp fun le => overlaps fun other same => ?_
        rwa [← Option.some.inj same]
      simp only [applyInOrder, reaches, decide_true, if_true]

/-- An edit that ends before all others is applied last. -/
theorem applyInOrder_concat {limit : Option Int}
    (fits : ∀ other ∈ edits, edit.stop ≤ other.start) (clears : edit.Clears limit) :
    applyInOrder source limit (edits ++ [edit]) =
      (edit.applyTo (applyInOrder source limit edits).1,
        (applyInOrder source limit edits).2 + 1) := by
  induction edits generalizing source limit with
  | nil =>
      rw [List.nil_append, applyInOrder_of_clears clears]
      rfl
  | cons other rest inductionHypothesis =>
      have later := fun third member => fits third (List.mem_cons_of_mem other member)
      have first := fits other List.mem_cons_self
      rw [List.cons_append]
      by_cases otherClears : other.Clears limit
      · rw [applyInOrder_of_clears otherClears, applyInOrder_of_clears otherClears,
          inductionHypothesis later fun start same => Option.some.inj same ▸ first]
      · rw [applyInOrder_of_not_clears otherClears, applyInOrder_of_not_clears otherClears,
          inductionHypothesis later clears]

/-- Ascending edits are all applied, and applying them from the back is splicing. -/
theorem applyInOrder_reverse (ascending : Ascending offset source.length edits) :
    applyInOrder source none edits.reverse =
      (source.take offset ++ spliced offset (source.drop offset) edits, edits.length) := by
  induction edits generalizing offset with
  | nil => simp [applyInOrder, spliced]
  | cons edit rest inductionHypothesis =>
      have disjoint := ascending.pairwise
      rcases ascending with ⟨after, forward, within, later⟩
      have fits : ∀ other ∈ rest.reverse, edit.stop ≤ other.start := by
        intro other member
        exact (List.pairwise_cons.mp disjoint).1 other (List.mem_reverse.mp member)
      rw [List.reverse_cons, applyInOrder_concat fits (clears_none edit), inductionHypothesis later]
      have taken : (source.take edit.stop.toNat).length = edit.stop.toNat :=
        List.length_take_of_le (by omega)
      have start : ∀ back : List Char, placeOf (source.take edit.stop.toNat ++ back).length
          edit.start = edit.start.toNat := by
        intro back
        refine placeOf_of_le (by omega) ?_
        rw [List.length_append, taken]
        omega
      have stop : ∀ back : List Char, placeOf (source.take edit.stop.toNat ++ back).length
          edit.stop = edit.stop.toNat := by
        intro back
        refine placeOf_of_le (by omega) ?_
        rw [List.length_append, taken]
        omega
      have kept : source.take edit.start.toNat =
          source.take offset ++ (source.drop offset).take (edit.start.toNat - offset) := by
        rw [← List.take_add]
        congr 1
        omega
      have rest' : (source.drop offset).drop (edit.stop.toNat - offset) =
          source.drop edit.stop.toNat := by
        rw [List.drop_drop]
        congr 1
        omega
      simp only [applyTo, start, stop, spliced, rest', List.length_cons]
      rw [List.take_append_of_le_length (by omega), List.take_take,
        Nat.min_eq_left (by omega), List.drop_left' taken, kept]
      simp only [List.append_assoc]

/-! ## Copies -/

theorem applyInOrder_replicate_of_not_clears {limit : Option Int}
    (overlaps : ¬ edit.Clears limit) (copies : Nat) :
    applyInOrder source limit (List.replicate copies edit ++ rest) =
      applyInOrder source limit rest := by
  induction copies with
  | zero => rfl
  | succ copies inductionHypothesis =>
      rw [List.replicate_succ, List.cons_append, applyInOrder_of_not_clears overlaps,
        inductionHypothesis]

/-- Of several copies of an edit only the first one can be applied. -/
theorem applyInOrder_replicate {limit : Option Int} (nonempty : edit.start < edit.stop)
    (copies : Nat) :
    applyInOrder source limit (List.replicate (copies + 1) edit ++ rest) =
      applyInOrder source limit (edit :: rest) := by
  rw [List.replicate_succ, List.cons_append]
  by_cases clears : edit.Clears limit
  · have overlaps : ¬ edit.Clears (some edit.start) := fun within =>
      absurd (within edit.start rfl) (Int.not_le.mpr nonempty)
    rw [applyInOrder_of_clears clears, applyInOrder_of_clears clears,
      applyInOrder_replicate_of_not_clears overlaps]
  · rw [applyInOrder_of_not_clears clears, applyInOrder_of_not_clears clears,
      applyInOrder_replicate_of_not_clears clears]

theorem applyInOrder_flatMap_replicate {limit : Option Int}
    (nonempty : ∀ edit ∈ edits, edit.start < edit.stop) (copies : Nat) :
    applyInOrder source limit (edits.flatMap (List.replicate (copies + 1))) =
      applyInOrder source limit edits := by
  induction edits generalizing source limit with
  | nil => rfl
  | cons edit rest inductionHypothesis =>
      have later := fun other member => nonempty other (List.mem_cons_of_mem edit member)
      rw [List.flatMap_cons, applyInOrder_replicate (nonempty edit List.mem_cons_self)]
      by_cases clears : edit.Clears limit
      · rw [applyInOrder_of_clears clears, applyInOrder_of_clears clears,
          inductionHypothesis later]
      · rw [applyInOrder_of_not_clears clears, applyInOrder_of_not_clears clears,
          inductionHypothesis later]

theorem isAfter_of_start_lt {first second : TextEdit} (behind : second.start < first.start) :
    first.isAfter second = true := by
  simp [isAfter, behind]

theorem isAfter_refl (edit : TextEdit) : edit.isAfter edit = true := by
  simp [isAfter]

theorem start_eq_of_isAfter {first second : TextEdit} (after : first.isAfter second = true)
    (before : second.isAfter first = true) : first.start = second.start := by
  simp only [isAfter, Bool.or_eq_true, Bool.and_eq_true, decide_eq_true_eq, beq_iff_eq] at *
  omega

theorem isAfter_trans (first second third : TextEdit) (after : first.isAfter second = true)
    (later : second.isAfter third = true) : first.isAfter third = true := by
  simp only [isAfter, Bool.or_eq_true, Bool.and_eq_true, decide_eq_true_eq, beq_iff_eq] at *
  omega

theorem isAfter_total (first second : TextEdit) :
    (first.isAfter second || second.isAfter first) = true := by
  simp only [isAfter, Bool.or_eq_true, Bool.and_eq_true, decide_eq_true_eq, beq_iff_eq]
  omega

/-- Edits in order are told apart by their starts. -/
theorem InOrder.eq_of_start_eq (inOrder : InOrder offset length edits) {first second : TextEdit}
    (firstMember : first ∈ edits) (secondMember : second ∈ edits)
    (same : first.start = second.start) : first = second := by
  induction edits generalizing offset with
  | nil => cases firstMember
  | cons edit rest inductionHypothesis =>
      have behind := (List.pairwise_cons.mp inOrder.pairwise).1
      rcases inOrder with ⟨_, nonempty, _, later⟩
      rcases List.mem_cons.mp firstMember with rfl | firstLater
      · rcases List.mem_cons.mp secondMember with rfl | secondLater
        · rfl
        · have apart := behind second secondLater
          omega
      · rcases List.mem_cons.mp secondMember with rfl | secondLater
        · have apart := behind first firstLater
          omega
        · exact inductionHypothesis later firstLater secondLater

theorem flatten_replicate_perm (copies : Nat) :
    (List.replicate copies edits).flatten.Perm (edits.reverse.flatMap (List.replicate copies)) := by
  rw [List.perm_iff_count]
  intro edit
  rw [List.count_flatten, List.map_replicate, List.sum_replicate_nat, List.count_flatMap]
  rw [List.Perm.sum_nat ((List.reverse_perm edits).map _)]
  induction edits with
  | nil => simp
  | cons first rest inductionHypothesis =>
      rw [List.map_cons, List.sum_cons, ← inductionHypothesis, Function.comp_apply,
        List.count_replicate, List.count_cons, Nat.mul_add]
      split <;> omega

/-- Sorting copies of edits in order brings the copies of each edit together, the last edit
first. -/
theorem mergeSort_flatten_replicate (inOrder : InOrder offset length edits) (copies : Nat) :
    (List.replicate copies edits).flatten.mergeSort isAfter =
      edits.reverse.flatMap (List.replicate copies) := by
  have perm := (List.mergeSort_perm (List.replicate copies edits).flatten isAfter).trans
    (flatten_replicate_perm copies)
  have member : ∀ edit ∈ edits.reverse.flatMap (List.replicate copies), edit ∈ edits := by
    intro edit listed
    rcases List.mem_flatMap.mp listed with ⟨other, within, copy⟩
    rw [List.eq_of_mem_replicate copy]
    exact List.mem_reverse.mp within
  have sorted : (edits.reverse.flatMap (List.replicate copies)).Pairwise
      (fun first second => first.isAfter second = true) := by
    rw [List.pairwise_flatMap]
    constructor
    · intro edit _
      exact List.pairwise_replicate.mpr (Or.inr (isAfter_refl edit))
    · rw [List.pairwise_reverse]
      refine inOrder.pairwise.imp_of_mem ?_
      intro earlier later earlierMember _ apart copy ofLater other ofEarlier
      rw [List.eq_of_mem_replicate ofLater, List.eq_of_mem_replicate ofEarlier]
      have nonempty := (inOrder.of_mem earlier earlierMember).2.1
      exact isAfter_of_start_lt (by omega)
  refine List.Perm.eq_of_pairwise ?_ (List.pairwise_mergeSort isAfter_trans isAfter_total _)
    sorted perm
  intro first second firstMember secondMember after before
  exact inOrder.eq_of_start_eq (member first (perm.mem_iff.mp firstMember))
    (member second secondMember) (start_eq_of_isAfter after before)

end

end TextEdit

open TextEdit

variable {source : String} {edits : List TextEdit}

/-- Edits in order that are given several times are all applied, each of them once. -/
theorem applyEdits_replicate (inOrder : InOrder 0 source.toList.length edits) (copies : Nat) :
    applyEdits source (List.replicate (copies + 1) edits).flatten =
      (String.ofList (spliced 0 source.toList edits), edits.length) := by
  have nonempty : ∀ edit ∈ edits.reverse, edit.start < edit.stop := by
    intro edit member
    exact (inOrder.of_mem edit (List.mem_reverse.mp member)).2.1
  rw [applyEdits, mergeSort_flatten_replicate inOrder, applyInOrder_flatMap_replicate nonempty,
    applyInOrder_reverse (inOrder_iff.mp inOrder).1]
  rfl

/-- Edits in order are all applied. -/
theorem applyEdits_of_inOrder (inOrder : InOrder 0 source.toList.length edits) :
    applyEdits source edits = (String.ofList (spliced 0 source.toList edits), edits.length) := by
  have once := applyEdits_replicate inOrder 0
  rwa [List.replicate_one, List.flatten_singleton] at once

theorem applyEdits_nil (source : String) : applyEdits source [] = (source, 0) := by
  have none : applyEdits source [] = (String.ofList (spliced 0 source.toList []), 0) :=
    applyEdits_of_inOrder trivial
  rw [none, spliced, String.ofList_toList]

end DirectiveLint
