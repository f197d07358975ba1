import DirectiveLint.Proofs.Diagnostic.Splice
import Mathlib.Data.List.Nodup
import Mathlib.Data.List.Perm.Basic

/-!
# Replacing ranges at once

Applying edits from the back to the front changes the text under the edits that
are still to come.  What comes out can be said without any order of steps: some
of the edits are chosen, no two of them overlap, and every offset of the text
gives what the chosen edits put there, and its character unless one of them
covers it.

An edit is left out only if it overlaps a chosen one.  An insertion covers
nothing, so insertions at one offset never overlap, and neither do an insertion
and a replacement that starts there; the text says in which order they stand.
Which one of two replacements of the same range is chosen depends on the order
in which they are given.  If no two edits have the same range, the order makes
no difference.
-/

namespace DirectiveLint
namespace TextEdit

/-- Whether an edit puts its text between two characters. -/
def InsertsAt (offset : Nat) (edit : TextEdit) : Prop :=
  edit.start = offset ∧ edit.stop = offset

/-- Whether an edit puts its text in the place of a range that starts at an offset. -/
def ReplacesAt (offset : Nat) (edit : TextEdit) : Prop :=
  edit.start = offset ∧ edit.start < edit.stop

/-- Whether an edit takes the character at an offset away. -/
def Covers (offset : Nat) (edit : TextEdit) : Prop :=
  edit.start ≤ offset ∧ (offset : Int) < edit.stop

instance (offset : Nat) : DecidablePred (InsertsAt offset) :=
  fun _ => inferInstanceAs (Decidable (_ ∧ _))

instance (offset : Nat) : DecidablePred (ReplacesAt offset) :=
  fun _ => inferInstanceAs (Decidable (_ ∧ _))

instance (offset : Nat) : DecidablePred (Covers offset) :=
  fun _ => inferInstanceAs (Decidable (_ ∧ _))

/-- Whether one of two edits ends before the other one starts. -/
def Apart (first second : TextEdit) : Prop :=
  first.stop ≤ second.start ∨ second.stop ≤ first.start

/-- The texts of edits, one after the other. -/
def textsOf (edits : List TextEdit) : List Char :=
  edits.flatMap (·.text.toList)

/-- What edits put in front of the character at an offset: first what is inserted there, the last
insertion in front, then what replaces a range that starts there. -/
def putAt (edits : List TextEdit) (offset : Nat) : List Char :=
  textsOf (edits.reverse.filter (InsertsAt offset)) ++ textsOf (edits.filter (ReplacesAt offset))

/-- The characters that edits leave of the one at an offset. -/
def keptAt (edits : List TextEdit) (offset : Nat) (character : Char) : List Char :=
  if ∃ edit ∈ edits, edit.Covers offset then [] else [character]

/-- A text that begins at an offset with the ranges of edits replaced, all at once. -/
def replaced (edits : List TextEdit) (offset : Nat) : List Char → List Char
  | [] => putAt edits offset
  | character :: rest =>
    putAt edits offset ++ keptAt edits offset character ++ replaced edits (offset + 1) rest

section

variable {offset : Nat} {source : List Char} {edit : TextEdit} {edits others : List TextEdit}

theorem apart_symm {first second : TextEdit} (apart : first.Apart second) : second.Apart first :=
  apart.symm

/-! ## From offset to offset -/

theorem putAt_eq_nil (away : ∀ edit ∈ edits, edit.start ≠ offset) : putAt edits offset = [] := by
  have noInsertion : edits.reverse.filter (InsertsAt offset) = [] := by
    rw [List.filter_eq_nil_iff]
    intro edit member inserts
    exact away edit (List.mem_reverse.mp member) (of_decide_eq_true inserts).1
  have noReplacement : edits.filter (ReplacesAt offset) = [] := by
    rw [List.filter_eq_nil_iff]
    intro edit member replaces
    exact away edit member (of_decide_eq_true replaces).1
  rw [putAt, noInsertion, noReplacement]
  rfl

theorem keptAt_of_not_covers {character : Char} (uncovered : ∀ edit ∈ edits, ¬edit.Covers offset) :
    keptAt edits offset character = [character] := by
  refine if_neg ?_
  rintro ⟨edit, member, covers⟩
  exact uncovered edit member covers

theorem keptAt_of_covers {character : Char} (member : edit ∈ edits) (covers : edit.Covers offset) :
    keptAt edits offset character = [] :=
  if_pos ⟨edit, member, covers⟩

/-- What comes out behind an offset depends on what is put there and on what is covered there. -/
theorem replaced_congr
    (put : ∀ place, offset ≤ place → putAt edits place = putAt others place)
    (kept : ∀ place character, offset ≤ place →
      keptAt edits place character = keptAt others place character) :
    replaced edits offset source = replaced others offset source := by
  induction source generalizing offset with
  | nil => exact put offset (Nat.le_refl offset)
  | cons character rest inductionHypothesis =>
      have later := inductionHypothesis (fun place behind => put place (Nat.le_of_succ_le behind))
        (fun place next behind => kept place next (Nat.le_of_succ_le behind))
      rw [replaced, replaced, put offset (Nat.le_refl offset),
        kept offset character (Nat.le_refl offset), later]

/-- Characters in front of all edits are kept. -/
theorem replaced_append_of_beyond {front back : List Char}
    (beyond : ∀ edit ∈ edits, ((offset + front.length : Nat) : Int) ≤ edit.start) :
    replaced edits offset (front ++ back) =
      front ++ replaced edits (offset + front.length) back := by
  induction front generalizing offset with
  | nil => rfl
  | cons character rest inductionHypothesis =>
      rw [List.length_cons] at beyond ⊢
      have put : putAt edits offset = [] := by
        refine putAt_eq_nil fun edit member => ?_
        have start := beyond edit member
        omega
      have kept : keptAt edits offset character = [character] := by
        refine keptAt_of_not_covers fun edit member covers => ?_
        have start := beyond edit member
        have reaches := covers.1
        omega
      have later : replaced edits (offset + 1) (rest ++ back) =
          rest ++ replaced edits (offset + 1 + rest.length) back := by
        refine inductionHypothesis fun edit member => ?_
        have start := beyond edit member
        omega
      rw [List.cons_append, replaced, put, kept, later, Nat.add_right_comm, Nat.add_assoc]
      rfl

/-- Characters that an edit covers are taken away if nothing is put between them. -/
theorem replaced_append_of_covers {range back : List Char} (member : edit ∈ edits)
    (start : edit.start ≤ offset) (stop : ((offset + range.length : Nat) : Int) ≤ edit.stop)
    (away : ∀ other ∈ edits,
      other.start < offset ∨ ((offset + range.length : Nat) : Int) ≤ other.start) :
    replaced edits offset (range ++ back) = replaced edits (offset + range.length) back := by
  induction range generalizing offset with
  | nil => rfl
  | cons character rest inductionHypothesis =>
      rw [List.length_cons] at stop away ⊢
      have put : putAt edits offset = [] := by
        refine putAt_eq_nil fun other member => ?_
        have apart := away other member
        omega
      have kept : keptAt edits offset character = [] :=
        keptAt_of_covers member ⟨start, by omega⟩
      have later : replaced edits (offset + 1) (rest ++ back) =
          replaced edits (offset + 1 + rest.length) back := by
        refine inductionHypothesis (by omega) (by omega) fun other member => ?_
        have apart := away other member
        omega
      rw [List.cons_append, replaced, put, kept, later, Nat.add_right_comm, Nat.add_assoc]
      rfl

theorem replaced_nil : replaced [] offset source = source := by
  have untouched : replaced [] offset (source ++ []) =
      source ++ replaced [] (offset + source.length) [] :=
    replaced_append_of_beyond (by simp)
  rw [List.append_nil] at untouched
  rw [untouched, replaced, putAt_eq_nil (by simp), List.append_nil]

/-! ## One edit in front of others -/

theorem putAt_concat_of_ne (away : edit.start ≠ offset) :
    putAt (edits ++ [edit]) offset = putAt edits offset := by
  have noInsertion : ¬edit.InsertsAt offset := fun inserts => away inserts.1
  have noReplacement : ¬edit.ReplacesAt offset := fun replaces => away replaces.1
  simp [putAt, noInsertion, noReplacement]

theorem keptAt_concat_of_not_covers {character : Char} (uncovered : ¬edit.Covers offset) :
    keptAt (edits ++ [edit]) offset character = keptAt edits offset character := by
  simp [keptAt, or_and_right, exists_or, uncovered]

/-- An edit that ends in front of an offset makes no difference there. -/
theorem replaced_concat_of_before (start : edit.start < offset) (stop : edit.stop ≤ offset) :
    replaced (edits ++ [edit]) offset source = replaced edits offset source := by
  apply replaced_congr
  · intro place behind
    exact putAt_concat_of_ne (by omega)
  · intro place character behind
    refine keptAt_concat_of_not_covers fun covers => ?_
    have reaches := covers.2
    omega

theorem replaced_concat_of_insertsAt (inserts : edit.InsertsAt offset) :
    replaced (edits ++ [edit]) offset source =
      edit.text.toList ++ replaced edits offset source := by
  rcases inserts with ⟨start, stop⟩
  have noReplacement : ¬edit.ReplacesAt offset := fun replaces => by
    have nonempty := replaces.2
    omega
  have put : putAt (edits ++ [edit]) offset = edit.text.toList ++ putAt edits offset := by
    have inserts : edit.InsertsAt offset := ⟨start, stop⟩
    simp [putAt, textsOf, inserts, noReplacement]
  cases source with
  | nil => exact put
  | cons character rest =>
      have uncovered : ¬edit.Covers offset := fun covers => by
        have reaches := covers.2
        omega
      have later : replaced (edits ++ [edit]) (offset + 1) rest =
          replaced edits (offset + 1) rest :=
        replaced_concat_of_before (by omega) (by omega)
      rw [replaced, replaced, put, keptAt_concat_of_not_covers uncovered, later]
      simp only [List.append_assoc]

theorem replaced_concat_of_replacesAt {character : Char} {range back : List Char}
    (start : edit.start = offset) (stop : edit.stop = ((offset + range.length + 1 : Nat) : Int))
    (behind : ∀ other ∈ edits, edit.stop ≤ other.start) :
    replaced (edits ++ [edit]) offset (character :: (range ++ back)) =
      edit.text.toList ++ replaced edits (offset + range.length + 1) back := by
  have replaces : edit.ReplacesAt offset := ⟨start, by omega⟩
  have noInsertion : ¬edit.InsertsAt offset := fun inserts => by
    have empty := inserts.2
    omega
  have none : putAt edits offset = [] := by
    refine putAt_eq_nil fun other member => ?_
    have apart := behind other member
    omega
  have put : putAt (edits ++ [edit]) offset = putAt edits offset ++ edit.text.toList := by
    simp [putAt, textsOf, replaces, noInsertion]
  have member : edit ∈ edits ++ [edit] := List.mem_append_right edits List.mem_cons_self
  have kept : keptAt (edits ++ [edit]) offset character = [] :=
    keptAt_of_covers member ⟨by omega, by omega⟩
  have passed : replaced (edits ++ [edit]) (offset + 1) (range ++ back) =
      replaced (edits ++ [edit]) (offset + 1 + range.length) back := by
    refine replaced_append_of_covers member (by omega) (by omega) fun other listed => ?_
    rcases List.mem_append.mp listed with later | same
    · have apart := behind other later
      omega
    · rw [List.mem_singleton.mp same]
      omega
  rw [replaced, put, none, kept, passed, List.nil_append, List.append_nil, Nat.add_right_comm,
    replaced_concat_of_before (by omega) (by omega)]

/-- The first of some edits puts its text in the place of its range. -/
theorem replaced_concat {range back : List Char} (start : edit.start = offset)
    (stop : edit.stop = ((offset + range.length : Nat) : Int))
    (behind : ∀ other ∈ edits, edit.stop ≤ other.start) :
    replaced (edits ++ [edit]) offset (range ++ back) =
      edit.text.toList ++ replaced edits (offset + range.length) back := by
  cases range with
  | nil => exact replaced_concat_of_insertsAt ⟨start, stop⟩
  | cons character rest => exact replaced_concat_of_replacesAt start stop behind

/-- A text is cut at the start and at the end of a range within it. -/
theorem exists_cut (after : (offset : Int) ≤ edit.start) (forward : edit.start ≤ edit.stop)
    (within : edit.stop ≤ ((offset + source.length : Nat) : Int)) :
    ∃ front range back : List Char, source = front ++ (range ++ back) ∧
      edit.start = ((offset + front.length : Nat) : Int) ∧
        edit.stop = ((offset + front.length + range.length : Nat) : Int) := by
  refine ⟨source.take (edit.start.toNat - offset),
    (source.drop (edit.start.toNat - offset)).take (edit.stop.toNat - edit.start.toNat),
    (source.drop (edit.start.toNat - offset)).drop (edit.stop.toNat - edit.start.toNat), ?_, ?_, ?_⟩
  · rw [List.take_append_drop, List.take_append_drop]
  · rw [List.length_take]
    omega
  · rw [List.length_take, List.length_take, List.length_drop]
    omega

theorem spliced_cut {front range back : List Char}
    (start : edit.start = ((offset + front.length : Nat) : Int))
    (stop : edit.stop = ((offset + front.length + range.length : Nat) : Int)) :
    spliced offset (front ++ (range ++ back)) (edit :: edits) =
      front ++ (edit.text.toList ++ spliced (offset + front.length + range.length) back edits) := by
  have atStart : edit.start.toNat - offset = front.length := by omega
  have atStop : edit.stop.toNat - offset = (front ++ range).length := by
    rw [List.length_append]
    omega
  have stopped : edit.stop.toNat = offset + front.length + range.length := by omega
  rw [spliced, atStart, List.take_left, atStop, stopped, ← List.append_assoc front, List.drop_left,
    List.append_assoc front]

/-- Splicing ascending edits replaces their ranges at once. -/
theorem spliced_eq_replaced (ascending : Ascending offset (offset + source.length) edits) :
    spliced offset source edits = replaced edits.reverse offset source := by
  induction edits generalizing offset source with
  | nil => rw [List.reverse_nil, replaced_nil, spliced]
  | cons edit rest inductionHypothesis =>
      have behind := (List.pairwise_cons.mp ascending.pairwise).1
      rcases ascending with ⟨after, forward, within, later⟩
      rcases exists_cut after forward within with ⟨front, range, back, rfl, start, stop⟩
      have inFront : ∀ other ∈ (edit :: rest).reverse,
          ((offset + front.length : Nat) : Int) ≤ other.start := by
        intro other member
        rcases List.mem_cons.mp (List.mem_reverse.mp member) with rfl | later
        · omega
        · have apart := behind other later
          omega
      have ascends : Ascending (offset + front.length + range.length)
          (offset + front.length + range.length + back.length) rest := by
        rw [stop, Int.toNat_natCast] at later
        simpa only [List.length_append, Nat.add_assoc] using later
      rw [spliced_cut start stop, inductionHypothesis ascends, replaced_append_of_beyond inFront,
        List.reverse_cons,
        replaced_concat start stop fun other member => behind other (List.mem_reverse.mp member)]

/-! ## Which edits are chosen -/

/-- How edits that are taken up one after the other are divided into those that are applied and
those that are left out, after a last one that was applied. -/
inductive Divides : Option TextEdit → List TextEdit → List TextEdit → List TextEdit → Prop
  | done (last : Option TextEdit) : Divides last [] [] []
  | apply {last : Option TextEdit} {edit : TextEdit} {rest chosen leftOut : List TextEdit}
      (clears : edit.Clears (last.map start)) (later : Divides (some edit) rest chosen leftOut) :
      Divides last (edit :: rest) (edit :: chosen) leftOut
  | leave {last : Option TextEdit} {edit : TextEdit} {rest chosen leftOut : List TextEdit}
      (overlaps : ¬edit.Clears (last.map start)) (later : Divides last rest chosen leftOut) :
      Divides last (edit :: rest) chosen (edit :: leftOut)

theorem exists_divides (last : Option TextEdit) (edits : List TextEdit) :
    ∃ chosen leftOut, Divides last edits chosen leftOut := by
  induction edits generalizing last with
  | nil => exact ⟨[], [], .done last⟩
  | cons edit rest inductionHypothesis =>
      by_cases clears : edit.Clears (last.map start)
      · rcases inductionHypothesis (some edit) with ⟨chosen, leftOut, later⟩
        exact ⟨edit :: chosen, leftOut, .apply clears later⟩
      · rcases inductionHypothesis last with ⟨chosen, leftOut, later⟩
        exact ⟨chosen, edit :: leftOut, .leave clears later⟩

namespace Divides

variable {last : Option TextEdit} {chosen leftOut : List TextEdit}

theorem sublist (divides : Divides last edits chosen leftOut) : chosen.Sublist edits := by
  induction divides with
  | done last => exact List.Sublist.refl []
  | apply clears later inductionHypothesis => exact inductionHypothesis.cons_cons _
  | leave overlaps later inductionHypothesis => exact inductionHypothesis.cons _

theorem perm (divides : Divides last edits chosen leftOut) : edits.Perm (chosen ++ leftOut) := by
  induction divides with
  | done last => exact List.Perm.refl []
  | apply clears later inductionHypothesis => exact inductionHypothesis.cons _
  | leave overlaps later inductionHypothesis =>
      exact (inductionHypothesis.cons _).trans List.perm_middle.symm

/-- The edits that are left out make no difference. -/
theorem applyInOrder_eq (divides : Divides last edits chosen leftOut) :
    applyInOrder source (last.map start) edits = applyInOrder source (last.map start) chosen := by
  induction divides generalizing source with
  | done last => rfl
  | apply clears later inductionHypothesis =>
      rw [applyInOrder_of_clears clears, applyInOrder_of_clears clears]
      simp only [Option.map_some] at inductionHypothesis
      rw [inductionHypothesis]
  | leave overlaps later inductionHypothesis =>
      rw [applyInOrder_of_not_clears overlaps, inductionHypothesis]

/-- Each of the edits that are applied ends before those that were applied earlier start. -/
theorem descending (divides : Divides last edits chosen leftOut)
    (forward : ∀ edit ∈ edits, edit.start ≤ edit.stop) :
    (∀ edit ∈ chosen, edit.Clears (last.map start)) ∧
      chosen.Pairwise fun first second => second.stop ≤ first.start := by
  induction divides with
  | done last => simp
  | @apply last edit rest chosen leftOut clears later inductionHypothesis =>
      rw [List.forall_mem_cons] at forward
      rcases inductionHypothesis forward.2 with ⟨clearsEdit, disjoint⟩
      have below : ∀ other ∈ chosen, other.stop ≤ edit.start := fun other member =>
        clearsEdit other member edit.start rfl
      refine ⟨List.forall_mem_cons.mpr ⟨clears, ?_⟩, List.pairwise_cons.mpr ⟨below, disjoint⟩⟩
      intro other member limit isLimit
      have first := clears limit isLimit
      have second := below other member
      omega
  | leave overlaps later inductionHypothesis =>
      rw [List.forall_mem_cons] at forward
      exact inductionHypothesis forward.2

/-- If edits are taken up from the back, one that is left out reaches into one that was applied. -/
theorem overlaps (divides : Divides last edits chosen leftOut)
    (sorted : edits.Pairwise fun first second => first.isAfter second = true)
    (after : ∀ before, last = some before → ∀ edit ∈ edits, before.isAfter edit = true) :
    ∀ edit ∈ leftOut, ∃ other, (last = some other ∨ other ∈ chosen) ∧ other.isAfter edit = true ∧
      other.start < edit.stop := by
  induction divides with
  | done last => simp
  | @apply last edit rest chosen leftOut clears later inductionHypothesis =>
      rcases List.pairwise_cons.mp sorted with ⟨behind, sorted⟩
      intro skipped member
      have onward : ∀ before, some edit = some before → ∀ other ∈ rest,
          before.isAfter other = true := by
        intro before same
        rw [← Option.some.inj same]
        exact behind
      rcases inductionHypothesis sorted onward skipped member with ⟨other, found, reaches⟩
      refine ⟨other, Or.inr (List.mem_cons.mpr ?_), reaches⟩
      exact found.imp (fun same => (Option.some.inj same).symm) id
  | @leave last edit rest chosen leftOut overlaps later inductionHypothesis =>
      rcases List.pairwise_cons.mp sorted with ⟨_, sorted⟩
      intro skipped member
      rcases List.mem_cons.mp member with rfl | member
      · cases last with
        | none => exact absurd (clears_none _) overlaps
        | some before =>
            refine ⟨before, Or.inl rfl, after before rfl _ List.mem_cons_self, ?_⟩
            refine Int.not_le.mp fun le => overlaps fun limit isLimit => ?_
            rwa [← Option.some.inj isLimit]
      · exact inductionHypothesis sorted
          (fun before same other member => after before same other (List.mem_cons_of_mem _ member))
          skipped member

/-- If edits are taken up from the back, one that is left out overlaps one that is applied. -/
theorem not_apart (divides : Divides none edits chosen leftOut)
    (sorted : edits.Pairwise fun first second => first.isAfter second = true)
    (forward : ∀ edit ∈ edits, edit.start ≤ edit.stop) :
    ∀ edit ∈ leftOut, ∃ other ∈ chosen, edit.start ≤ other.start ∧ other.start < edit.stop ∧
      ¬edit.Apart other := by
  intro edit member
  rcases divides.overlaps sorted (fun _ impossible => nomatch impossible) edit member with
    ⟨other, found, after, reaches⟩
  have applied : other ∈ chosen := found.resolve_left (fun impossible => nomatch impossible)
  have range := forward other (divides.sublist.subset applied)
  simp only [isAfter, Bool.or_eq_true, Bool.and_eq_true, decide_eq_true_eq, beq_iff_eq] at after
  refine ⟨other, applied, by omega, reaches, ?_⟩
  rintro (before | behind) <;> omega

end Divides

/-- If no edit is left out without overlapping one that is chosen, edits that do not overlap are all
chosen. -/
theorem eq_of_pairwise_apart {chosen leftOut : List TextEdit} (sublist : chosen.Sublist edits)
    (parts : edits.Perm (chosen ++ leftOut))
    (overlaps : ∀ edit ∈ leftOut, ∃ other ∈ chosen, ¬edit.Apart other)
    (apart : edits.Pairwise Apart) : chosen = edits := by
  have none : leftOut = [] := by
    rw [List.eq_nil_iff_forall_not_mem]
    intro edit member
    rcases overlaps edit member with ⟨other, isChosen, overlap⟩
    have divided := apart.perm parts apart_symm
    exact overlap (apart_symm ((List.pairwise_append.mp divided).2.2 other isChosen edit member))
  rw [none, List.append_nil] at parts
  exact sublist.eq_of_length parts.length_eq.symm

/-! ## The order of the edits -/

/-- Insertions at an offset stay, in their order, if only other edits are left out. -/
theorem filter_insertsAt_eq {part leftOut : List TextEdit} (sublist : part.Sublist edits)
    (parts : edits.Perm (part ++ leftOut)) (none : ∀ edit ∈ leftOut, ¬edit.InsertsAt offset) :
    part.filter (InsertsAt offset) = edits.filter (InsertsAt offset) := by
  have dropped : leftOut.filter (InsertsAt offset) = [] := by
    rw [List.filter_eq_nil_iff]
    intro edit member inserts
    exact none edit member (of_decide_eq_true inserts)
  have length := (parts.filter (InsertsAt offset)).length_eq
  rw [List.filter_append, dropped, List.append_nil] at length
  exact (sublist.filter _).eq_of_length length.symm

/-- Sorting keeps the order of insertions at one offset. -/
theorem filter_insertsAt_mergeSort (edits : List TextEdit) (offset : Nat) :
    (edits.mergeSort isAfter).filter (InsertsAt offset) = edits.filter (InsertsAt offset) := by
  have alike : (edits.filter (InsertsAt offset)).Pairwise
      (fun first second => first.isAfter second = true) := by
    rw [List.pairwise_filter]
    refine List.pairwise_of_forall fun first second => ?_
    intro firstInserts secondInserts
    rcases of_decide_eq_true firstInserts with ⟨firstStart, firstStop⟩
    rcases of_decide_eq_true secondInserts with ⟨secondStart, secondStop⟩
    simp [isAfter, firstStart, firstStop, secondStart, secondStop]
  have inSorted := List.sublist_mergeSort isAfter_trans isAfter_total alike List.filter_sublist
  have sublist := inSorted.filter (fun edit => decide (InsertsAt offset edit))
  rw [List.filter_filter] at sublist
  simp only [Bool.and_self] at sublist
  exact (sublist.eq_of_length
    ((List.mergeSort_perm edits isAfter).filter _).length_eq.symm).symm

/-- Only one of some edits that do not overlap replaces a range that starts at an offset. -/
theorem filter_replacesAt_eq_of_perm (perm : edits.Perm others)
    (disjoint : edits.Pairwise fun first second => second.stop ≤ first.start) :
    edits.filter (ReplacesAt offset) = others.filter (ReplacesAt offset) := by
  have apart := disjoint.filter (fun edit => decide (ReplacesAt offset edit))
  have replaces : ∀ edit ∈ edits.filter (ReplacesAt offset), edit.ReplacesAt offset :=
    fun edit member => of_decide_eq_true (List.mem_filter.mp member).2
  have same := perm.filter (fun edit => decide (ReplacesAt offset edit))
  generalize edits.filter (ReplacesAt offset) = few at apart replaces same ⊢
  rcases few with _ | ⟨first, _ | ⟨second, rest⟩⟩
  · exact same.nil_eq
  · exact same.singleton_eq
  · have order := (List.pairwise_cons.mp apart).1 second List.mem_cons_self
    rcases replaces first List.mem_cons_self with ⟨firstStart, _⟩
    rcases replaces second (List.mem_cons_of_mem _ List.mem_cons_self) with ⟨secondStart, nonempty⟩
    omega

theorem mergeSort_eq_of_perm (distinct : (edits.map fun edit => (edit.start, edit.stop)).Nodup)
    (perm : others.Perm edits) : others.mergeSort isAfter = edits.mergeSort isAfter := by
  refine List.Perm.eq_of_pairwise ?_ (List.pairwise_mergeSort isAfter_trans isAfter_total _)
    (List.pairwise_mergeSort isAfter_trans isAfter_total _)
    ((List.mergeSort_perm others isAfter).trans
      (perm.trans (List.mergeSort_perm edits isAfter).symm))
  intro first second firstMember secondMember after before
  have firstListed := perm.mem_iff.mp (List.mem_mergeSort.mp firstMember)
  have secondListed := List.mem_mergeSort.mp secondMember
  have start := start_eq_of_isAfter after before
  have stop : first.stop = second.stop := by
    simp only [isAfter, Bool.or_eq_true, Bool.and_eq_true, decide_eq_true_eq, beq_iff_eq] at *
    omega
  exact List.inj_on_of_nodup_map distinct firstListed secondListed (Prod.ext start stop)

/-- Edits that are applied in some order replace their ranges at once. -/
theorem applyInOrder_eq_replaced {chosen leftOut : List TextEdit}
    (divides : Divides none edits chosen leftOut)
    (within : ∀ edit ∈ edits, 0 ≤ edit.start ∧ edit.start ≤ edit.stop ∧ edit.stop ≤ source.length) :
    applyInOrder source none edits = (replaced chosen 0 source, chosen.length) := by
  have disjoint := (divides.descending fun edit member => (within edit member).2.1).2
  have ascending : Ascending 0 source.length chosen.reverse := by
    refine Ascending.of_pairwise (fun edit member => ?_) (List.pairwise_reverse.mpr disjoint)
    exact within edit (divides.sublist.subset (List.mem_reverse.mp member))
  have applied := applyInOrder_reverse ascending
  have all : applyInOrder source none edits = applyInOrder source none chosen :=
    divides.applyInOrder_eq
  rw [List.reverse_reverse, List.take_zero, List.drop_zero, List.nil_append, List.length_reverse,
    spliced_eq_replaced (by rwa [Nat.zero_add]), List.reverse_reverse] at applied
  rw [all, applied]

theorem replaced_eq_of_perm (perm : edits.Perm others)
    (disjoint : edits.Pairwise fun first second => second.stop ≤ first.start)
    (insertions : ∀ offset, edits.filter (InsertsAt offset) = others.filter (InsertsAt offset)) :
    replaced edits offset source = replaced others offset source := by
  apply replaced_congr
  · intro place _
    rw [putAt, putAt, List.filter_reverse, List.filter_reverse, insertions place,
      filter_replacesAt_eq_of_perm perm disjoint]
  · intro place character _
    simp only [keptAt, perm.mem_iff]

end

end TextEdit

open TextEdit

/-- Edits within a text replace the ranges of some of them at once, as many as are counted.  No two
of these overlap, and every other edit overlaps one of them that starts at the same place or behind;
so edits that do not overlap are all chosen.  Edits with different ranges can be given in any
order. -/
theorem applyEdits_chosen {source : String} {edits : List TextEdit}
    (within : ∀ edit ∈ edits,
      0 ≤ edit.start ∧ edit.start ≤ edit.stop ∧ edit.stop ≤ source.length) :
    (∃ chosen leftOut, chosen.Sublist edits ∧ edits.Perm (chosen ++ leftOut) ∧
      chosen.Pairwise Apart ∧
      applyEdits source edits =
        (String.ofList (replaced chosen 0 source.toList), chosen.length) ∧
      (∀ edit ∈ leftOut, ∃ other ∈ chosen, edit.start ≤ other.start ∧ other.start < edit.stop ∧
        ¬edit.Apart other) ∧
      (edits.Pairwise Apart → chosen = edits)) ∧
    ((edits.map fun edit => (edit.start, edit.stop)).Nodup →
      ∀ others : List TextEdit, others.Perm edits →
        applyEdits source others = applyEdits source edits) := by
  constructor
  · have sortedPerm := List.mergeSort_perm edits isAfter
    have sortedWithin : ∀ edit ∈ edits.mergeSort isAfter,
        0 ≤ edit.start ∧ edit.start ≤ edit.stop ∧ edit.stop ≤ source.toList.length := by
      intro edit member
      rw [String.length_toList]
      exact within edit (List.mem_mergeSort.mp member)
    have forward := fun edit member => (sortedWithin edit member).2.1
    rcases exists_divides none (edits.mergeSort isAfter) with ⟨applied, leftOut, divides⟩
    have overlaps := divides.not_apart
      (List.pairwise_mergeSort isAfter_trans isAfter_total edits) forward
    -- What is applied was sorted before; the same edits are chosen among those that were given.
    rcases List.exists_perm_sublist divides.sublist sortedPerm with ⟨chosen, perm, sublist⟩
    have parts : edits.Perm (chosen ++ leftOut) :=
      (sortedPerm.symm.trans divides.perm).trans (perm.symm.append_right leftOut)
    have disjoint := (divides.descending forward).2
    have noInsertion : ∀ offset, ∀ edit ∈ leftOut, ¬edit.InsertsAt offset := by
      rintro offset edit member ⟨start, stop⟩
      rcases overlaps edit member with ⟨other, _, behind, reaches, _⟩
      omega
    have insertions : ∀ offset,
        applied.filter (InsertsAt offset) = chosen.filter (InsertsAt offset) := by
      intro offset
      rw [filter_insertsAt_eq divides.sublist divides.perm (noInsertion offset),
        filter_insertsAt_mergeSort, filter_insertsAt_eq sublist parts (noInsertion offset)]
    have overlapsChosen : ∀ edit ∈ leftOut, ∃ other ∈ chosen, edit.start ≤ other.start ∧
        other.start < edit.stop ∧ ¬edit.Apart other := by
      intro edit member
      rcases overlaps edit member with ⟨other, isApplied, overlap⟩
      exact ⟨other, perm.mem_iff.mpr isApplied, overlap⟩
    refine ⟨chosen, leftOut, sublist, parts, ?_, ?_, overlapsChosen, ?_⟩
    · exact (disjoint.imp Or.inr).perm perm.symm apart_symm
    · rw [applyEdits, applyInOrder_eq_replaced divides sortedWithin,
        replaced_eq_of_perm perm.symm disjoint insertions, perm.length_eq]
    · refine eq_of_pairwise_apart sublist parts fun edit member => ?_
      rcases overlapsChosen edit member with ⟨other, isChosen, _, _, overlap⟩
      exact ⟨other, isChosen, overlap⟩
  · intro distinct others perm
    rw [applyEdits, applyEdits, mergeSort_eq_of_perm distinct perm]

/-- Insertions at one offset, twice the same range, and a replacement that reaches into it. -/
def tiedEdits : List TextEdit :=
  [⟨2, 4, "X"⟩, ⟨2, 2, "1"⟩, ⟨3, 5, "Y"⟩, ⟨2, 2, "2"⟩, ⟨5, 5, "3"⟩, ⟨2, 4, "Z"⟩]

/-- Both replacements of the range are left out; the insertions in front of it are not. -/
theorem applyEdits_chosen_tiedEdits :
    ∃ chosen leftOut, chosen.Sublist tiedEdits ∧ tiedEdits.Perm (chosen ++ leftOut) ∧
      chosen.Pairwise Apart ∧ replaced chosen 0 "abcdef".toList = "ab21cY3f".toList ∧
      chosen.length = 4 ∧ leftOut.length = 2 ∧
      ∀ edit ∈ leftOut, ∃ other ∈ chosen, ¬edit.Apart other := by
  have within : ∀ edit ∈ tiedEdits,
      0 ≤ edit.start ∧ edit.start ≤ edit.stop ∧ edit.stop ≤ "abcdef".length := by
    decide
  have applied : applyEdits "abcdef" tiedEdits = ("ab21cY3f", 4) := by
    have sorted : tiedEdits.mergeSort isAfter =
        [⟨5, 5, "3"⟩, ⟨3, 5, "Y"⟩, ⟨2, 4, "X"⟩, ⟨2, 4, "Z"⟩, ⟨2, 2, "1"⟩, ⟨2, 2, "2"⟩] := by
      simp [tiedEdits, List.mergeSort, List.MergeSort.Internal.splitInTwo, isAfter]
    rw [applyEdits, sorted]
    decide +kernel
  rcases (applyEdits_chosen within).1 with
    ⟨chosen, leftOut, sublist, parts, apart, result, overlaps, _⟩
  rw [applied, Prod.mk.injEq] at result
  rcases result with ⟨text, count⟩
  have characters : replaced chosen 0 "abcdef".toList = "ab21cY3f".toList :=
    String.toList_ofList.symm.trans (congrArg String.toList text.symm)
  have total : 6 = chosen.length + leftOut.length := by
    rw [← List.length_append]
    exact parts.length_eq
  refine ⟨chosen, leftOut, sublist, parts, apart, characters, count.symm, by omega, ?_⟩
  intro edit member
  rcases overlaps edit member with ⟨other, isChosen, _, _, overlap⟩
  exact ⟨other, isChosen, overlap⟩

end DirectiveLint
