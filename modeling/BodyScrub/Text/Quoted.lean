import BodyScrub.Text.Numeral
import BodyScrub.Text.Printable

/-!
# Quoted texts

How a text is shown inside a message: between quotes, with everything that would not print escaped, so that a
message never breaks a line.
-/

namespace BodyScrub

namespace CodePoint

/-- A code point inside a text quoted by `q`. -/
def quotedIn (q c : CodePoint) : Text :=
  if c = q || c = backslash then [backslash, c]
  else if c = '\n' then [backslash, 'n']
  else if c = '\r' then [backslash, 'r']
  else if c = '\t' then [backslash, 't']
  else if c.isPrintable then [c]
  else if c.val < 0x100 then [backslash, 'x'] ++ Text.hex 2 c.val
  else if c.val < 0x10000 then [backslash, 'u'] ++ Text.hex 4 c.val
  else [backslash, 'U'] ++ Text.hex 8 c.val

end CodePoint

namespace Text

/-- Double quotes are taken only for a text that holds a single quote and no double one. -/
def quoteMark (t : Text) : CodePoint :=
  if t.contains CodePoint.apostrophe && !t.contains CodePoint.quote then CodePoint.quote
  else CodePoint.apostrophe

/-- The text as it is shown in a message. -/
def quoted (t : Text) : Text :=
  t.quoteMark :: t.flatMap (CodePoint.quotedIn t.quoteMark) ++ [t.quoteMark]

end Text

end BodyScrub
