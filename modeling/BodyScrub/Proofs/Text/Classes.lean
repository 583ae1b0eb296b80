import BodyScrub.Text.Blank
import BodyScrub.Text.Digit
import BodyScrub.Text.Word

/-!
# Classes of code points

The digits `0` to `9` are digits of any script with their own values, a digit of any script has a value below ten, and
between the space and the next line control there is no white space. Letters `a` to `z`, digits and the underscore
belong to words, and no identifier begins with a digit.
-/

namespace BodyScrub

/-! ## Walking along the bounds of a set -/

section PointSet

variable {n b : Nat} (inside : Bool) (bs : List Nat)

theorem PointSet.side_of_lt (h : n < b) : side n inside (b :: bs) = inside := by rw [side, if_pos h]

theorem PointSet.side_of_le (h : b ≤ n) : side n inside (b :: bs) = side n (!inside) bs := by
  rw [side, if_neg (Nat.not_lt.2 h)]

end PointSet

namespace CodePoint

variable {c : CodePoint}

/-- A digit `0` to `9` has the same value among the digits of any script as among these ten. What is written with
these is read back by the readers of all digits. -/
theorem digit?_of_isAsciiDigit (h : c.isAsciiDigit = true) : c.digit? = c.asciiDigit? := by
  have hrange : 0x30 ≤ c.val ∧ c.val ≤ 0x39 := by
    simpa [isAsciiDigit] using h
  -- the first of all zeros is the one for these digits
  have hfirst : (decide (0x30 ≤ c.val) && decide (c.val < 0x30 + 10)) = true := by
    simp only [Bool.and_eq_true, decide_eq_true_eq]
    omega
  have hfound : zeroPoints.find? (fun z => z ≤ c.val && c.val < z + 10) = some 0x30 :=
    List.find?_cons_of_pos hfirst
  unfold isAsciiDigit at h
  unfold digit? asciiDigit?
  rw [hfound, if_pos h]
  rfl

theorem isDigit_of_isAsciiDigit (h : c.isAsciiDigit = true) : c.isDigit = true := by
  unfold isAsciiDigit at h
  unfold isDigit
  rw [digit?_of_isAsciiDigit h]
  unfold asciiDigit?
  rw [if_pos h]
  rfl

/-- A digit has a value below ten, counted from the zero of its script. -/
theorem lt_ten_of_digit? {d : Nat} (h : c.digit? = some d) : d < 10 := by
  obtain ⟨z, hz, rfl⟩ := Option.map_eq_some_iff.1 h
  have hrange := List.find?_some hz
  simp only [Bool.and_eq_true, decide_eq_true_eq] at hrange
  omega

/-- No white space lies between the space and the next line control. All printable code points of ASCII lie there. -/
theorem isBlank_eq_false (hlow : 0x21 ≤ c.val) (hhigh : c.val < 0x85) : c.isBlank = false := by
  unfold isBlank PointSet.contains blankPoints
  simp only [PointSet.side]
  rw [if_neg (by omega), if_neg (by omega), if_neg (by omega), if_neg (by omega), if_pos hhigh]
  rfl

theorem isBlank_of_isAsciiDigit (h : c.isAsciiDigit = true) : c.isBlank = false := by
  have hrange : 0x30 ≤ c.val ∧ c.val ≤ 0x39 := by
    simpa [isAsciiDigit] using h
  exact isBlank_eq_false (by omega) (by omega)

/-! ## Words -/

/-- A letter `a` to `z` or `A` to `Z`, a digit `0` to `9`, or the underscore. -/
def isAsciiWord (c : CodePoint) : Bool := c.isAsciiLetter || c.isAsciiDigit || c = '_'

theorem isAsciiWord_of_isAsciiDigit (h : c.isAsciiDigit = true) : c.isAsciiWord = true := by simp [isAsciiWord, h]

/-- The letters, digits and the underscore of ASCII belong to words among all code points too, which holds by the
categories of these few. -/
theorem isWord_of_isAsciiWord (h : c.isAsciiWord = true) : c.isWord = true := by
  have hpoints : alphanumericPoints.contains c
      = PointSet.side c.val false (0x30 :: 0x3a :: 0x41 :: 0x5b :: 0x61 :: 0x7b :: alphanumericPoints.bounds.drop 6) :=
    rfl
  simp only [isAsciiWord, isAsciiLetter, isAsciiDigit, Bool.or_eq_true, Bool.and_eq_true, decide_eq_true_eq] at h
  rw [isWord, isAlphanumeric, hpoints, Bool.or_eq_true]
  -- each range lies between two of the first six bounds; the underscore is none of the points and is taken on its
  -- own
  rcases h with ((hupper | hlower) | hdigit) | hunderscore
  · left
    rw [PointSet.side_of_le _ _ (by omega), PointSet.side_of_le _ _ (by omega), PointSet.side_of_le _ _ (by omega),
      PointSet.side_of_lt _ _ (by omega)]
    rfl
  · left
    rw [PointSet.side_of_le _ _ (by omega), PointSet.side_of_le _ _ (by omega), PointSet.side_of_le _ _ (by omega),
      PointSet.side_of_le _ _ (by omega), PointSet.side_of_le _ _ (by omega), PointSet.side_of_lt _ _ (by omega)]
    rfl
  · left
    rw [PointSet.side_of_le _ _ (by omega), PointSet.side_of_lt _ _ (by omega)]
    rfl
  · exact Or.inr (decide_eq_true hunderscore)

end CodePoint

/-- No identifier begins with a digit. This keeps the names of groups apart from their numbers. -/
theorem Text.isIdentifier_eq_false {c : CodePoint} (h : c.isAsciiDigit = true) (t : Text) :
    Text.isIdentifier (c :: t) = false := by
  have hpoints : identifierStartPoints.contains c
      = PointSet.side c.val false (0x41 :: identifierStartPoints.bounds.drop 1) := rfl
  have hrange : 0x30 ≤ c.val ∧ c.val ≤ 0x39 := by
    simpa [CodePoint.isAsciiDigit] using h
  rw [Text.isIdentifier, hpoints, PointSet.side_of_lt _ _ (by omega), Bool.false_and]

end BodyScrub
