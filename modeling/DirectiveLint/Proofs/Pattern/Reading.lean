import DirectiveLint.Pattern.NamedGroup
import Mathlib.Data.List.TakeWhile

/-!
# What converting names does to a pattern

A pattern of the first dialect is read from left to right.  A backslash and the
letter behind it are one escape.  An opening bracket begins a class, which
lasts to the next closing one; neither counts if it is escaped.  Openings of
named groups and references to them have a meaning outside of classes only.

The conversion reads the pattern in another way.  It takes any backslash in front
of a name for the start of an escape, although it may itself be escaped, and it
knows no classes.  So it goes wrong on exactly those patterns where a name stands
behind an escaped backslash outside of a class, or in a class and not behind one.
-/

namespace DirectiveLint
namespace Pattern
namespace NamedGroup

/-! ## Reading a pattern -/

/-- Whether a text begins with the opening of a named group. -/
def opens : List Letter → Bool
  | .whole '(' :: .whole '?' :: .whole '<' :: rest => !marksLookBehind rest
  | _ => false

/-- The name that a text refers to if a backslash stands before it, with what comes after. -/
def takeReference? : List Letter → Option (List Letter × List Letter)
  | .whole 'k' :: .whole '<' :: rest => takeName? rest
  | _ => none

/-- A piece of a pattern. -/
inductive Piece
  | plain (letter : Letter)
  | escape (letter : Letter)
  | opening
  | reference (name : List Letter)
  deriving DecidableEq, Repr

namespace Piece

def source : Piece → List Letter
  | plain letter => [letter]
  | escape letter => ['\\', letter]
  | opening => [.whole '(', .whole '?', .whole '<']
  | reference name => .whole '\\' :: .whole 'k' :: .whole '<' :: (name ++ [.whole '>'])

/-- A piece in the other dialect. -/
def converted : Piece → List Letter
  | opening => [.whole '(', .whole '?', .whole 'P', .whole '<']
  | reference name => .whole '(' :: .whole '?' :: .whole 'P' :: .whole '=' :: (name ++ [.whole ')'])
  | piece => piece.source

/-- Whether a piece opens a named group or refers to one. -/
def isNamed : Piece → Bool
  | opening | reference _ => true
  | _ => false

/-- Whether the text behind a piece is in a class. -/
def inClassAfter (inClass : Bool) : Piece → Bool
  | plain (.whole '[') => true
  | plain (.whole ']') => false
  | _ => inClass

/-- Whether a piece is an escaped backslash. -/
def isBackslash : Piece → Bool
  | escape (.whole '\\') => true
  | _ => false

end Piece

/-- The piece that a text begins with, and the text after it. -/
def takePiece? : List Letter → Option (Piece × List Letter)
  | [] => none
  | .whole '\\' :: letter :: rest =>
    match takeReference? (letter :: rest) with
    | some (name, after) => some (.reference name, after)
    | none => some (.escape letter, rest)
  | letter :: rest =>
    if opens (letter :: rest) then some (.opening, rest.drop 2)
    else some (.plain letter, rest)

/-- A piece in its place. -/
structure Place where
  inClass : Bool
  behindBackslash : Bool
  piece : Piece
  deriving DecidableEq, Repr

/-- A name as it is referred to. -/
def IsName (name : List Letter) : Prop :=
  ∃ first more, name = first :: more ∧ startsName first = true ∧
    ∀ letter ∈ more, continuesName letter = true

theorem takeName?_eq_some_iff {text name after : List Letter} :
    takeName? text = some (name, after) ↔ IsName name ∧ text = name ++ .whole '>' :: after := by
  constructor
  · intro taken
    unfold takeName? at taken
    split at taken
    · cases taken
    · next first rest =>
        split at taken
        · next starts =>
            split at taken
            · next behind shape =>
                cases taken
                refine ⟨⟨first, _, rfl, starts, fun letter => List.mem_takeWhile_imp⟩, ?_⟩
                rw [List.cons_append, ← shape, List.takeWhile_append_dropWhile]
            · cases taken
        · cases taken
  · rintro ⟨⟨first, more, rfl, starts, continues⟩, rfl⟩
    have stops : continuesName (.whole '>') = false := by decide
    have shape : (more ++ .whole '>' :: after).dropWhile continuesName = .whole '>' :: after := by
      rw [List.dropWhile_append_of_pos continues, List.dropWhile_cons_of_neg (by simp [stops])]
    have name : (more ++ .whole '>' :: after).takeWhile continuesName = more := by
      rw [List.takeWhile_append_of_pos continues, List.takeWhile_cons_of_neg (by simp [stops]),
        List.append_nil]
    simp only [List.cons_append, takeName?, starts, if_true, shape, name]

/-- No name holds a parenthesis or a backslash. -/
theorem IsName.not_mem {name : List Letter} (isName : IsName name) {mark : Letter}
    (noStart : startsName mark = false) (noPart : continuesName mark = false) : mark ∉ name := by
  rcases isName with ⟨first, more, rfl, starts, continues⟩
  intro member
  rcases List.mem_cons.mp member with rfl | later
  · rw [noStart] at starts
    cases starts
  · have part := continues mark later
    rw [noPart] at part
    cases part

/-- Whether a piece can stand before a text as the first piece that is read. -/
def Piece.StandsBefore (rest : List Letter) : Piece → Prop
  | plain letter =>
    (letter = '\\' → rest = []) ∧ opens (letter :: rest) = false
  | escape letter => takeReference? (letter :: rest) = none
  | opening => marksLookBehind rest = false
  | reference name => IsName name

theorem takeReference?_eq_some {text name after : List Letter}
    (taken : takeReference? text = some (name, after)) :
    IsName name ∧ text = .whole 'k' :: .whole '<' :: (name ++ .whole '>' :: after) := by
  unfold takeReference? at taken
  split at taken
  · next rest =>
      rcases takeName?_eq_some_iff.mp taken with ⟨isName, rfl⟩
      exact ⟨isName, rfl⟩
  · cases taken

theorem opens_eq_true {text : List Letter} (opening : opens text = true) :
    ∃ rest, text = .whole '(' :: .whole '?' :: .whole '<' :: rest ∧
      marksLookBehind rest = false := by
  unfold opens at opening
  split at opening
  · next rest => exact ⟨rest, rfl, by simpa using opening⟩
  · cases opening

/-- A text is its first piece and what follows. -/
theorem takePiece?_eq_some {text rest : List Letter} {piece : Piece}
    (taken : takePiece? text = some (piece, rest)) :
    text = piece.source ++ rest ∧ piece.StandsBefore rest := by
  unfold takePiece? at taken
  split at taken
  · cases taken
  · next letter behind =>
      split at taken
      · next name after found =>
          cases taken
          rcases takeReference?_eq_some found with ⟨isName, shape⟩
          rw [shape]
          exact ⟨by simp [Piece.source], isName⟩
      · next none =>
          cases taken
          exact ⟨rfl, none⟩
  · next letter behind noEscape =>
      split at taken
      · next opening =>
          cases taken
          rcases opens_eq_true opening with ⟨after, shape, noLookBehind⟩
          cases shape
          exact ⟨rfl, noLookBehind⟩
      · next noOpening =>
          cases taken
          refine ⟨rfl, ?_, by simpa using noOpening⟩
          rintro rfl
          cases rest with
          | nil => rfl
          | cons next others => exact absurd rfl (noEscape next others rfl)

theorem Piece.source_length_pos (piece : Piece) : 0 < piece.source.length := by
  cases piece <;> simp [source]

/-- The pieces of a text in their places, read from left to right. -/
def reading (inClass behindBackslash : Bool) (text : List Letter) : List Place :=
  match _taken : takePiece? text with
  | none => []
  | some (piece, rest) =>
    ⟨inClass, behindBackslash, piece⟩ ::
      reading (piece.inClassAfter inClass) piece.isBackslash rest
termination_by text.length
decreasing_by
  rw [(takePiece?_eq_some _taken).1, List.length_append]
  have := piece.source_length_pos
  omega

theorem takePiece?_eq_none {text : List Letter} (none : takePiece? text = none) : text = [] := by
  unfold takePiece? at none
  split at none
  · rfl
  · split at none <;> cases none
  · split at none <;> cases none

/-- The pieces make up the text. -/
theorem flatMap_source_reading (inClass behindBackslash : Bool) (text : List Letter) :
    (reading inClass behindBackslash text).flatMap (·.piece.source) = text := by
  fun_induction reading inClass behindBackslash text with
  | case1 inClass behind text none => rw [takePiece?_eq_none none, List.flatMap_nil]
  | case2 inClass behind text piece rest taken inductionHypothesis =>
      rw [List.flatMap_cons, inductionHypothesis, (takePiece?_eq_some taken).1]

/-! ## What is converted -/

variable {previous : Option Letter} {letter : Letter} {text rest : List Letter}

/-- A letter that opens no group, or stands behind a backslash, is passed. -/
theorem convertOpenings_cons
    (passed : opens (letter :: rest) = true → previous = some (.whole '\\')) :
    convertOpenings previous (letter :: rest) =
      letter :: convertOpenings (some letter) rest := by
  rw [convertOpenings.eq_def previous]
  split
  · next shape => cases shape
  · next after shape =>
      cases shape
      have noConversion : ¬ (previous ≠ some (.whole '\\') ∧ marksLookBehind after = false) := by
        rintro ⟨noBackslash, noLookBehind⟩
        exact noBackslash (passed (by simp [opens, noLookBehind]))
      rw [if_neg noConversion]
      rfl
  · next shape =>
      cases shape
      rfl

theorem convertOpenings_opening (noLookBehind : marksLookBehind rest = false) :
    convertOpenings previous (.whole '(' :: .whole '?' :: .whole '<' :: rest) =
      (if previous = some (.whole '\\') then Piece.opening.source else Piece.opening.converted) ++
        convertOpenings (some (.whole '<')) rest := by
  rw [convertOpenings]
  by_cases backslash : previous = some (.whole '\\') <;>
    simp [backslash, noLookBehind, Piece.source, Piece.converted]

/-- A text without parentheses is passed. -/
theorem convertOpenings_append {front : List Letter} {last : Letter}
    (noOpening : .whole '(' ∉ front) (other : '(' ≠ last) :
    convertOpenings previous (front ++ last :: rest) =
      front ++ last :: convertOpenings (some last) rest := by
  have passes : ∀ {before : Option Letter} {letter : Letter} (behind : List Letter),
      '(' ≠ letter → convertOpenings before (letter :: behind) =
        letter :: convertOpenings (some letter) behind := by
    intro before letter behind different
    apply convertOpenings_cons
    intro opening
    rcases opens_eq_true opening with ⟨after, shape, _⟩
    exact absurd (List.cons.inj shape).1.symm different
  induction front generalizing previous with
  | nil => exact passes rest other
  | cons letter more inductionHypothesis =>
      rw [List.mem_cons, not_or] at noOpening
      rw [List.cons_append, passes _ noOpening.1, inductionHypothesis noOpening.2]
      rfl

/-- A text without parentheses that begins a converted one also begins the original one. -/
theorem exists_of_convertOpenings_eq_append {front back : List Letter}
    (noOpening : .whole '(' ∉ front) (converted : convertOpenings previous text = front ++ back) :
    ∃ after, text = front ++ after := by
  induction front generalizing previous text with
  | nil => exact ⟨text, rfl⟩
  | cons first more inductionHypothesis =>
      rw [List.mem_cons, not_or] at noOpening
      cases text with
      | nil => cases converted
      | cons letter rest =>
          have passes : opens (letter :: rest) = true → previous = some (.whole '\\') := by
            intro opening
            rcases opens_eq_true opening with ⟨after, shape, noLookBehind⟩
            rw [shape, convertOpenings_opening noLookBehind] at converted
            split at converted <;> exact absurd (List.cons.inj converted).1 noOpening.1
          rw [convertOpenings_cons passes] at converted
          have heads := (List.cons.inj converted).1
          rcases inductionHypothesis noOpening.2 (List.cons.inj converted).2 with ⟨after, rfl⟩
          exact ⟨after, by rw [heads, List.cons_append]⟩

/-- A letter that begins no reference, or stands behind a backslash, is passed. -/
theorem convertReferences_cons
    (passed : letter = '\\' → takeReference? rest ≠ none → previous = some (.whole '\\')) :
    convertReferences previous (letter :: rest) =
      letter :: convertReferences (some letter) rest := by
  rw [convertReferences.eq_def previous]
  split
  · next shape => cases shape
  · next after shape =>
      cases shape
      split
      · rfl
      · next noBackslash =>
          split
          · next name others taken =>
              have refers : takeReference? (.whole 'k' :: .whole '<' :: after) ≠ none := by
                rw [takeReference?, taken]
                exact Option.some_ne_none _
              exact absurd (passed rfl refers) noBackslash
          · rfl
  · next shape =>
      cases shape
      rfl

/-- A text without backslashes is passed. -/
theorem convertReferences_append {front : List Letter} {last : Letter}
    (noEscape : .whole '\\' ∉ front) (other : '\\' ≠ last) :
    convertReferences previous (front ++ last :: rest) =
      front ++ last :: convertReferences (some last) rest := by
  induction front generalizing previous with
  | nil => exact convertReferences_cons fun same => absurd same.symm other
  | cons letter more inductionHypothesis =>
      rw [List.mem_cons, not_or] at noEscape
      rw [List.cons_append, convertReferences_cons fun same => absurd same.symm noEscape.1,
        inductionHypothesis noEscape.2]
      rfl

theorem convertReferences_reference {name : List Letter} (isName : IsName name) :
    convertReferences previous
        (.whole '\\' :: .whole 'k' :: .whole '<' :: (name ++ .whole '>' :: rest)) =
      (if previous = some (.whole '\\') then (Piece.reference name).source
        else (Piece.reference name).converted) ++ convertReferences (some (.whole '>')) rest := by
  rw [convertReferences.eq_def previous]
  by_cases backslash : previous = some (.whole '\\')
  · have noEscape : .whole '\\' ∉ .whole 'k' :: .whole '<' :: name := by
      simpa using isName.not_mem (by decide) (by decide)
    have passes : convertReferences (some (.whole '\\'))
        (.whole 'k' :: .whole '<' :: (name ++ .whole '>' :: rest)) =
          .whole 'k' :: .whole '<' ::
            (name ++ .whole '>' :: convertReferences (some (.whole '>')) rest) :=
      convertReferences_append noEscape (by decide)
    simp only [if_pos backslash, passes, Piece.source, List.cons_append, List.append_assoc,
      List.nil_append]
  · simp only [if_neg backslash]
    have taken : takeName? (name ++ .whole '>' :: rest) = some (name, rest) :=
      takeName?_eq_some_iff.mpr ⟨isName, rfl⟩
    split
    · next found =>
        rw [taken] at found
        cases found
        simp [Piece.converted]
    · next found =>
        rw [taken] at found
        cases found

/-! ## Piece by piece -/

/-- Both conversions of a text behind a letter. -/
def convertBehind (previous : Option Letter) (text : List Letter) : List Letter :=
  convertReferences previous (convertOpenings previous text)

theorem convertBehind_nil : convertBehind previous [] = [] := by
  rw [convertBehind, convertOpenings, convertReferences]

/-- Converting openings makes no references. -/
theorem takeReference?_convertOpenings (none : takeReference? (letter :: rest) = none) :
    takeReference? (letter :: convertOpenings previous rest) = Option.none := by
  cases taken : takeReference? (letter :: convertOpenings previous rest) with
  | none => rfl
  | some found =>
      rcases found with ⟨name, after⟩
      rcases takeReference?_eq_some taken with ⟨isName, shape⟩
      have noOpening : .whole '(' ∉ .whole '<' :: (name ++ [.whole '>']) := by
        simpa using isName.not_mem (by decide) (by decide)
      have behind : convertOpenings previous rest =
          .whole '<' :: (name ++ [.whole '>']) ++ after := by
        rw [(List.cons.inj shape).2]
        simp
      -- The name is the same in the original text, so that holds a reference, too.
      rcases exists_of_convertOpenings_eq_append noOpening behind with ⟨original, rfl⟩
      have again : takeName? (name ++ .whole '>' :: original) = some (name, original) :=
        takeName?_eq_some_iff.mpr ⟨isName, rfl⟩
      rw [(List.cons.inj shape).1, List.cons_append, List.append_assoc] at none
      exact absurd (none.symm.trans again) (Option.some_ne_none _).symm

theorem convertBehind_plain (stands : (Piece.plain letter).StandsBefore rest) :
    convertBehind previous (letter :: rest) =
      letter :: convertBehind (some letter) rest := by
  have noOpening : opens (letter :: rest) = true → previous = some (.whole '\\') := by
    intro opening
    rw [stands.2] at opening
    cases opening
  have noReference : letter = '\\' →
      takeReference? (convertOpenings (some letter) rest) ≠ none →
        previous = some (.whole '\\') := by
    intro same refers
    rw [stands.1 same] at refers
    exact absurd rfl refers
  rw [convertBehind, convertOpenings_cons noOpening, convertReferences_cons noReference]
  rfl

theorem convertBehind_escape (stands : (Piece.escape letter).StandsBefore rest) :
    convertBehind previous (.whole '\\' :: letter :: rest) =
      .whole '\\' :: letter :: convertBehind (some letter) rest := by
  have noOpening : opens (.whole '\\' :: letter :: rest) = true →
      previous = some (.whole '\\') := by
    intro opening
    cases opening
  have noReference : (.whole '\\' : Letter) = .whole '\\' →
      takeReference? (letter :: convertOpenings (some letter) rest) ≠ none →
        previous = some (.whole '\\') :=
    fun _ refers => absurd (takeReference?_convertOpenings stands) refers
  rw [convertBehind, convertOpenings_cons noOpening, convertOpenings_cons fun _ => rfl,
    convertReferences_cons noReference, convertReferences_cons fun _ _ => rfl]
  rfl

theorem convertBehind_opening (stands : Piece.opening.StandsBefore rest) :
    convertBehind previous (Piece.opening.source ++ rest) =
      (if previous = some (.whole '\\') then Piece.opening.source else Piece.opening.converted) ++
        convertBehind (some (.whole '<')) rest := by
  change convertReferences previous
    (convertOpenings previous (.whole '(' :: .whole '?' :: .whole '<' :: rest)) = _
  rw [convertOpenings_opening stands]
  by_cases backslash : previous = some (.whole '\\')
  · have noEscape : Letter.whole '\\' ∉ [.whole '(', .whole '?'] := by decide
    rw [if_pos backslash]
    exact convertReferences_append noEscape (by decide)
  · have noEscape : Letter.whole '\\' ∉ [.whole '(', .whole '?', .whole 'P'] := by decide
    rw [if_neg backslash]
    exact convertReferences_append noEscape (by decide)

theorem convertBehind_reference {name : List Letter} (isName : IsName name) :
    convertBehind previous ((Piece.reference name).source ++ rest) =
      (if previous = some (.whole '\\') then (Piece.reference name).source
        else (Piece.reference name).converted) ++ convertBehind (some (.whole '>')) rest := by
  have noOpening : .whole '(' ∉ .whole '\\' :: .whole 'k' :: .whole '<' :: name := by
    simpa using isName.not_mem (by decide) (by decide)
  have passed : convertOpenings previous ((Piece.reference name).source ++ rest) =
      .whole '\\' :: .whole 'k' :: .whole '<' ::
        (name ++ .whole '>' :: convertOpenings (some (.whole '>')) rest) := by
    rw [Piece.source, List.cons_append, List.cons_append, List.cons_append, List.append_assoc]
    exact convertOpenings_append noOpening (by decide)
  rw [convertBehind, passed, convertReferences_reference isName]
  rfl

theorem Piece.isBackslash_escape : (escape letter).isBackslash = true ↔ letter = '\\' := by
  unfold isBackslash
  split
  · next same =>
      cases same
      simp
  · next other => simpa using fun same => other (congrArg escape same)

/-- Converting names converts the first piece, unless a backslash stands before it, and then goes on
with the rest. -/
theorem exists_convertBehind_append {piece : Piece} {behind : Bool}
    (stands : piece.StandsBefore rest)
    (backslash : previous = some (.whole '\\') ↔ behind = true) :
    ∃ next, (next = some (.whole '\\') ↔ piece.isBackslash = true) ∧
      convertBehind previous (piece.source ++ rest) =
        (if behind then piece.source else piece.converted) ++ convertBehind next rest := by
  cases piece with
  | plain letter =>
      have unchanged : (if behind then (Piece.plain letter).source
          else (Piece.plain letter).converted) = [letter] := ite_self _
      rw [unchanged]
      by_cases same : letter = '\\'
      · -- A backslash that is no escape ends the pattern.
        refine ⟨none, by simp [Piece.isBackslash], (convertBehind_plain stands).trans ?_⟩
        rw [stands.1 same, convertBehind_nil, convertBehind_nil]
        rfl
      · exact ⟨some letter, by simp [Piece.isBackslash, same], convertBehind_plain stands⟩
  | escape letter =>
      have unchanged : (if behind then (Piece.escape letter).source
          else (Piece.escape letter).converted) = [.whole '\\', letter] := ite_self _
      rw [unchanged]
      refine ⟨some letter, ?_, convertBehind_escape stands⟩
      rw [Piece.isBackslash_escape, Option.some.injEq]
  | opening =>
      refine ⟨some (.whole '<'), by decide, ?_⟩
      rw [convertBehind_opening stands]
      simp only [backslash]
  | reference name =>
      refine ⟨some (.whole '>'), by simp [Piece.isBackslash], ?_⟩
      rw [convertBehind_reference stands]
      simp only [backslash]

/-- A place as it is written where names in some places are converted. -/
def Place.written (converts : Place → Bool) (place : Place) : List Letter :=
  if converts place then place.piece.converted else place.piece.source

/-- Converting names converts those that stand behind no backslash. -/
theorem convertBehind_eq_flatMap_reading (inClass behind : Bool) (text : List Letter)
    (backslash : previous = some (.whole '\\') ↔ behind = true) :
    convertBehind previous text =
      (reading inClass behind text).flatMap
        (Place.written fun place => !place.behindBackslash) := by
  fun_induction reading inClass behind text generalizing previous with
  | case1 inClass behind text none =>
      rw [takePiece?_eq_none none, convertBehind_nil, List.flatMap_nil]
  | case2 inClass behind text piece rest taken inductionHypothesis =>
      rcases takePiece?_eq_some taken with ⟨rfl, stands⟩
      rcases exists_convertBehind_append stands backslash with ⟨next, again, converted⟩
      rw [converted, inductionHypothesis again, List.flatMap_cons]
      congr 1
      cases behind <;> rfl

/-- A name is written in another way if it is converted, whatever follows. -/
theorem Piece.converted_append_ne {piece : Piece} (named : piece.isNamed = true)
    (front back : List Letter) : piece.converted ++ front ≠ piece.source ++ back := by
  cases piece with
  | opening => simp [converted, source]
  | reference name => simp [converted, source]
  | _ => cases named

theorem Piece.converted_eq_source {piece : Piece} (unnamed : piece.isNamed ≠ true) :
    piece.converted = piece.source := by
  cases piece with
  | opening => exact absurd rfl unnamed
  | reference name => exact absurd rfl unnamed
  | _ => rfl

/-- Two ways to convert names write the same exactly if they convert the same names. -/
theorem flatMap_written_eq_iff {converts alsoConverts : Place → Bool} {places : List Place} :
    places.flatMap (Place.written converts) = places.flatMap (Place.written alsoConverts) ↔
      ∀ place ∈ places, place.piece.isNamed = true → converts place = alsoConverts place := by
  induction places with
  | nil => simp
  | cons place rest inductionHypothesis =>
      rw [List.flatMap_cons, List.flatMap_cons, List.forall_mem_cons, ← inductionHypothesis]
      unfold Place.written
      by_cases named : place.piece.isNamed = true
      · have differ := Piece.converted_append_ne named
        cases converts place <;> cases alsoConverts place <;>
          simp [named, differ, (differ _ _).symm]
      · simp [named, Piece.converted_eq_source named]

end NamedGroup

open NamedGroup

/-- For every pattern: the pieces that are read from left to right make up the pattern, and the
conversion converts those names among them that do not stand behind an escaped backslash.  It should
convert those outside of classes.  It does exactly if each name stands either outside of classes and
behind no escaped backslash, or in a class and behind one. -/
theorem convertNames_reading (source : List Letter) :
    (reading false false source).flatMap (·.piece.source) = source ∧
    convertNames source =
      (reading false false source).flatMap (Place.written fun place => !place.behindBackslash) ∧
    (convertNames source =
        (reading false false source).flatMap (Place.written fun place => !place.inClass) ↔
      ∀ place ∈ reading false false source, place.piece.isNamed = true →
        place.behindBackslash = place.inClass) := by
  have converted : convertNames source =
      (reading false false source).flatMap (Place.written fun place => !place.behindBackslash) :=
    convertBehind_eq_flatMap_reading false false source (by simp)
  refine ⟨flatMap_source_reading false false source, converted, ?_⟩
  rw [converted, flatMap_written_eq_iff]
  simp only [Bool.not_inj_iff]

/-- The backslash in front of the group is escaped, so the group should be converted. -/
example : convertNames (LooseText.plain "\\\\(?<a>x)").letters =
    (LooseText.plain "\\\\(?<a>x)").letters := by
  decide +kernel

/-- The class holds three letters that open no group, so it should not be changed. -/
example : convertNames (LooseText.plain "[(?<]").letters = (LooseText.plain "[(?P<]").letters := by
  decide +kernel

end Pattern
end DirectiveLint
