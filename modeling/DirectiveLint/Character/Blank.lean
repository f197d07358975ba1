/-!
# Blank characters

The white space of running text: the six layout characters, the four information
separators, next line, the no-break space and the space separators of the
Unicode standard.  The byte order mark and the zero-width space are not blank.
The set is small enough to be written as intervals in the definition.
-/

namespace DirectiveLint
namespace Character

/-- White space of the Unicode standard, with the information separators. -/
def isBlank (character : Char) : Bool :=
  let code := character.toNat
  (9 ≤ code && code ≤ 13) || (28 ≤ code && code ≤ 32) || code == 0x85 || code == 0xa0 ||
    code == 0x1680 || (0x2000 ≤ code && code ≤ 0x200a) || code == 0x2028 || code == 0x2029 ||
    code == 0x202f || code == 0x205f || code == 0x3000

/-- The white space of the seven-bit range that layout uses. -/
def isLayout (character : Char) : Bool :=
  let code := character.toNat
  (9 ≤ code && code ≤ 13) || code == 32

theorem ne_of_isBlank {character mark : Char} (blank : isBlank character = true)
    (notBlank : isBlank mark = false) : character ≠ mark := by
  rintro rfl
  rw [notBlank] at blank
  cases blank

end Character
end DirectiveLint
