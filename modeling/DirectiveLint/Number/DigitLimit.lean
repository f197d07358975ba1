/-!
# How many digits a number may have

Reading and writing an integer take time that grows with the square of its
length, so neither is done beyond a number of digits.  A sign does not count.
-/

namespace DirectiveLint
namespace Number

/-- The greatest number of digits that an integer in text may have. -/
def digitLimit : Nat := 4300

/-- Whether an integer may be written: it has no more digits than the limit. -/
def isWritable (value : Int) : Bool :=
  (Nat.toDigits 10 value.natAbs).length ≤ digitLimit

/-- The least number that has more digits than a limit. -/
def leastLonger (limit : Nat) : Nat := Nat.pow 10 limit

theorem leastLonger_pos (limit : Nat) : 0 < leastLonger limit :=
  Nat.pow_pos (by decide)

theorem length_toDigits_le_iff {number limit : Nat} (positive : 0 < limit) :
    (Nat.toDigits 10 number).length ≤ limit ↔ number < leastLonger limit :=
  Nat.length_toDigits_le_iff (by decide) positive

/-- The least number that has too many digits. -/
def leastTooLong : Nat := leastLonger digitLimit

theorem isWritable_iff {value : Int} :
    isWritable value = true ↔ value.natAbs < leastTooLong := by
  rw [isWritable, decide_eq_true_iff, length_toDigits_le_iff (by decide), leastTooLong]

theorem isWritable_eq_false_iff {value : Int} :
    isWritable value = false ↔ leastTooLong ≤ value.natAbs := by
  rw [← Bool.not_eq_true, isWritable_iff, Nat.not_lt]

/-- What is said of an integer that may not be written. -/
def digitLimitText : String :=
  "Exceeds the limit (" ++ toString digitLimit ++ " digits) for integer string conversion; " ++
    "use sys.set_int_max_str_digits() to increase the limit"

end Number
end DirectiveLint
