import BodyScrub.Text

/-!
# Places in a text

How a message names a place: by line and column, or by offset.
-/

namespace BodyScrub

/-- A place in a text: lines and columns count from one, offsets from zero. -/
structure Mark where
  line : Nat
  column : Nat
  offset : Nat
deriving DecidableEq

def Mark.of (t : Text) (offset : Nat) : Mark :=
  let before := t.take offset
  ⟨before.count CodePoint.newline + 1,
    (before.reverse.takeWhile (· ≠ CodePoint.newline)).length + 1, offset⟩

end BodyScrub
