import DirectiveLint.Proofs.Diagnostic.Splice
import Mathlib.Logic.Function.Iterate

/-!
# Applying edits again

Edits are found on one text, and nothing keeps them from being applied to what
an earlier pass with them has left.  If each edit puts more characters in the
place of its range than the range has, their offsets stay within the text, so
every pass applies all of them, and the text grows with every pass.  So only the
first pass gives the text that the edits were meant for.
-/

namespace DirectiveLint

namespace TextEdit

section

variable {edit : TextEdit} {edits : List TextEdit} {source : List Char} {character : Char}

theorem InOrder.lengthen {offset length longer : Nat} (inOrder : InOrder offset length edits)
    (le : length ≤ longer) : InOrder offset longer edits := by
  refine InOrder.of_pairwise (fun edit member => ?_) inOrder.pairwise
  have bounds := inOrder.of_mem edit member
  omega

/-- Whether an edit has more characters than its range. -/
def Enlarges (edit : TextEdit) : Prop :=
  edit.stop - edit.start < edit.text.toList.length

theorem length_le_growth (enlarge : ∀ edit ∈ edits, edit.Enlarges) :
    (edits.length : Int) ≤ growth edits := by
  induction edits with
  | nil => exact Int.le_refl 0
  | cons edit rest inductionHypothesis =>
      rw [List.forall_mem_cons] at enlarge
      have here : edit.stop - edit.start < edit.text.toList.length := enlarge.1
      have later := inductionHypothesis enlarge.2
      rw [growth, List.length_cons]
      omega

/-! ## Characters -/

theorem mem_applyTo (member : character ∈ edit.applyTo source) :
    character ∈ source ∨ character ∈ edit.text.toList := by
  unfold applyTo at member
  rcases List.mem_append.mp member with front | back
  · rcases List.mem_append.mp front with kept | new
    · exact Or.inl (List.mem_of_mem_take kept)
    · exact Or.inr new
  · exact Or.inl (List.mem_of_mem_drop back)

theorem mem_applyInOrder {limit : Option Int}
    (member : character ∈ (applyInOrder source limit edits).1) :
    character ∈ source ∨ ∃ edit ∈ edits, character ∈ edit.text.toList := by
  induction edits generalizing source limit with
  | nil => exact Or.inl member
  | cons edit rest inductionHypothesis =>
      by_cases clears : edit.Clears limit
      · rw [applyInOrder_of_clears clears] at member
        rcases inductionHypothesis member with old | ⟨other, later, new⟩
        · rcases mem_applyTo old with kept | new
          · exact Or.inl kept
          · exact Or.inr ⟨edit, List.mem_cons_self, new⟩
        · exact Or.inr ⟨other, List.mem_cons_of_mem _ later, new⟩
      · rw [applyInOrder_of_not_clears clears] at member
        rcases inductionHypothesis member with kept | ⟨other, later, new⟩
        · exact Or.inl kept
        · exact Or.inr ⟨other, List.mem_cons_of_mem _ later, new⟩

end

end TextEdit

/-- What edits leave was there before, or one of them brings it. -/
theorem mem_applyEdits {source : String} {edits : List TextEdit} {character : Char}
    (member : character ∈ (applyEdits source edits).1.toList) :
    character ∈ source.toList ∨ ∃ edit ∈ edits, character ∈ edit.text.toList := by
  rw [applyEdits, String.toList_ofList] at member
  rcases TextEdit.mem_applyInOrder member with kept | ⟨edit, sorted, new⟩
  · exact Or.inl kept
  · exact Or.inr ⟨edit, List.mem_mergeSort.mp sorted, new⟩

/-! ## Passes -/

theorem flatten_replicate_flatten_replicate (passes copies : Nat) (edits : List TextEdit) :
    (List.replicate passes (List.replicate copies edits).flatten).flatten =
      (List.replicate (passes * copies) edits).flatten := by
  induction passes with
  | zero => simp
  | succ passes inductionHypothesis =>
      rw [List.replicate_succ, List.flatten_cons, inductionHypothesis, Nat.succ_mul, Nat.add_comm,
        ← List.replicate_append_replicate, List.flatten_append]

/-- Whether edits are copies of edits in order that enlarge a text. -/
def Enlarging (source : String) (all : List TextEdit) : Prop :=
  ∃ (copies : Nat) (edits : List TextEdit), all = (List.replicate copies edits).flatten ∧
    TextEdit.InOrder 0 source.toList.length edits ∧ ∀ edit ∈ edits, edit.Enlarges

namespace Enlarging

variable {source text : String} {all : List TextEdit}

/-- More copies of the edits make no difference, on any text that is at least as long. -/
theorem applyEdits_flatten_replicate (enlarging : Enlarging source all)
    (long : source.toList.length ≤ text.toList.length) (passes : Nat) :
    applyEdits text (List.replicate (passes + 1) all).flatten = applyEdits text all := by
  rcases enlarging with ⟨copies, edits, rfl, inOrder, enlarge⟩
  have here := inOrder.lengthen long
  rw [flatten_replicate_flatten_replicate]
  cases copies with
  | zero => rfl
  | succ copies =>
      have product : (passes + 1) * (copies + 1) = passes * (copies + 1) + copies + 1 := by
        rw [Nat.succ_mul, Nat.add_assoc]
      rw [product, applyEdits_replicate here, applyEdits_replicate here]

/-- A pass on a text that is at least as long makes it longer, if there are edits at all. -/
theorem length_lt_applyEdits (enlarging : Enlarging source all)
    (long : source.toList.length ≤ text.toList.length) (edited : all ≠ []) :
    text.toList.length < (applyEdits text all).1.toList.length := by
  rcases enlarging with ⟨copies, edits, rfl, inOrder, enlarge⟩
  cases copies with
  | zero => exact absurd rfl edited
  | succ copies =>
      have here := inOrder.lengthen long
      have some : 0 < edits.length := by
        refine List.length_pos_iff.mpr fun none => edited ?_
        rw [none]
        simp
      have grown : ((TextEdit.spliced 0 text.toList edits).length : Int) =
          text.toList.length + TextEdit.growth edits :=
        TextEdit.length_spliced (by rwa [Nat.zero_add])
      have atLeast := TextEdit.length_le_growth enlarge
      rw [applyEdits_replicate here, String.toList_ofList]
      omega

/-- Further passes make the text longer and longer. -/
theorem length_add_le_iterate (enlarging : Enlarging source all)
    (long : source.toList.length ≤ text.toList.length) (edited : all ≠ []) (passes : Nat) :
    text.toList.length + passes ≤
      ((fun text => (applyEdits text all).1)^[passes] text).toList.length := by
  induction passes generalizing text with
  | zero => exact Nat.le_refl _
  | succ passes inductionHypothesis =>
      have longer := enlarging.length_lt_applyEdits long edited
      have later := inductionHypothesis (Nat.le_trans long (Nat.le_of_lt longer))
      rw [Function.iterate_succ_apply]
      omega

theorem iterate_applyEdits_nil (passes : Nat) :
    (fun text => (applyEdits text []).1)^[passes] source = source := by
  induction passes with
  | zero => rfl
  | succ passes inductionHypothesis =>
      rw [Function.iterate_succ_apply', inductionHypothesis, applyEdits_nil]

/-- Copies of the edits make no difference in any number of passes. -/
theorem iterate_flatten_replicate (enlarging : Enlarging source all) (copies passes : Nat) :
    (fun text => (applyEdits text (List.replicate (copies + 1) all).flatten).1)^[passes] source =
      (fun text => (applyEdits text all).1)^[passes] source := by
  by_cases none : all = []
  · rw [none, List.flatten_replicate_nil]
  · induction passes with
    | zero => rfl
    | succ passes inductionHypothesis =>
        have long := enlarging.length_add_le_iterate (Nat.le_refl _) none passes
        rw [Function.iterate_succ_apply', Function.iterate_succ_apply', inductionHypothesis,
          enlarging.applyEdits_flatten_replicate (by omega)]

/-- Several passes give the text of the first one only if there are no edits. -/
theorem iterate_eq_iff (enlarging : Enlarging source all) {passes : Nat} (positive : 0 < passes) :
    (fun text => (applyEdits text all).1)^[passes] source = (applyEdits source all).1 ↔
      passes = 1 ∨ all = [] := by
  constructor
  · intro same
    by_contra others
    rw [not_or] at others
    have first := enlarging.length_lt_applyEdits (Nat.le_refl _) others.2
    have later := enlarging.length_add_le_iterate (Nat.le_of_lt first) others.2 (passes - 1)
    rw [← Function.iterate_succ_apply (fun text => (applyEdits text all).1), Nat.succ_eq_add_one,
      Nat.sub_add_cancel positive, same] at later
    omega
  · rintro (rfl | rfl)
    · rfl
    · rw [iterate_applyEdits_nil, applyEdits_nil]

end Enlarging
end DirectiveLint
