import BodyScrub.Text.PointSet

/-!
# Blanks

The code points that count as white space around media types, path indices and numerals, and for `\s`.
They include the four information separators U+001C to U+001F.
-/

namespace BodyScrub

/-- Where runs of white space begin and end. -/
def blankPoints : PointSet := ⟨[
  0x9, 0xe, 0x1c, 0x21, 0x85, 0x86, 0xa0, 0xa1, 0x1680, 0x1681,
  0x2000, 0x200b, 0x2028, 0x202a, 0x202f, 0x2030, 0x205f, 0x2060, 0x3000, 0x3001]⟩

/-- White space of any script. -/
def CodePoint.isBlank (c : CodePoint) : Bool := blankPoints.contains c

/-- The text without white space at either end. -/
def Text.strip (t : Text) : Text := t.trim CodePoint.isBlank

end BodyScrub
