import DirectiveLint.FileTree.Path

/-!
# The text of a path

A directory can hold an entry under any name that has characters, holds no
slash, and is neither a single dot nor two dots.  The text of a path of such
names stands for the path itself, in every working directory, since it starts
with a slash.
-/

namespace DirectiveLint
namespace FilePath

/-- A name that a directory can hold. -/
structure IsName (name : String) : Prop where
  notEmpty : name ≠ ""
  notDot : name ≠ "."
  notDots : name ≠ ".."
  noSlash : '/' ∉ name.toList

theorem descend_of_isName {name : String} (isName : IsName name) (above : List String) :
    descend above name = name :: above := by
  have visible : ¬((name.isEmpty || name == ".") = true) := by
    simp [isName.notEmpty, isName.notDot]
  have notDots : ¬((name == "..") = true) := by
    simp [isName.notDots]
  rw [descend, if_neg visible, if_neg notDots]

theorem foldl_descend {path : FilePath} (named : ∀ name ∈ path, IsName name)
    (above : List String) : path.foldl descend above = path.reverse ++ above := by
  induction path generalizing above with
  | nil => rfl
  | cons name rest inductionHypothesis =>
      rw [List.forall_mem_cons] at named
      rw [List.foldl_cons, descend_of_isName named.1, inductionHypothesis named.2]
      simp

theorem toList_text (path : FilePath) :
    path.text.toList = '/' :: ['/'].intercalate (path.map String.toList) := by
  rw [text, String.toList_append, String.toList_intercalate]
  rfl

/-- The names between the slashes of a path's text are the names on the path, after an empty one. -/
theorem namesOf_text {path : FilePath} (named : ∀ name ∈ path, IsName name) (below : path ≠ []) :
    namesOf path.text = "" :: path := by
  have noSlash : ∀ characters ∈ path.map String.toList, '/' ∉ characters := by
    intro characters member
    rcases List.mem_map.mp member with ⟨name, onPath, rfl⟩
    exact (named name onPath).noSlash
  have texts : (path.map String.toList).map String.ofList = path := by
    simp
  have split : ('/' :: ['/'].intercalate (path.map String.toList)).splitOn '/' =
      [] :: path.map String.toList :=
    calc
      _ = [] :: (['/'].intercalate (path.map String.toList)).splitOn '/' :=
          List.splitOn_append_cons_self_of_not_mem List.not_mem_nil _
      _ = _ := by rw [List.splitOn_intercalate '/' noSlash (by simpa using below)]
  rw [namesOf, toList_text, split, List.map_cons, texts]

/-- The text of a path stands for the path. -/
theorem resolve_text (working : FilePath) {path : FilePath}
    (named : ∀ name ∈ path, IsName name) : resolve working path.text = path := by
  have absolute : path.text.startsWith "/" = true := by
    rw [text]
    simp
  rw [resolve, if_pos absolute]
  by_cases below : path = []
  · subst below
    decide
  · rw [namesOf_text named below, List.foldl_cons]
    change (path.foldl descend []).reverse = path
    rw [foldl_descend named, List.append_nil, List.reverse_reverse]

/-- Paths with the same text are the same. -/
theorem eq_of_text_eq {path other : FilePath} (named : ∀ name ∈ path, IsName name)
    (otherNamed : ∀ name ∈ other, IsName name) (same : path.text = other.text) :
    path = other := by
  rw [← resolve_text [] named, same, resolve_text [] otherNamed]

end FilePath
end DirectiveLint
