import BodyScrub.Json.Position
import BodyScrub.Text.Numeral

/-!
# Paths

A path addresses nodes of a JSON value from the root down: members by name, items by index, or all children.
A path has one normal text, in which plain names stand after a dot and all others between quotes.
-/

namespace BodyScrub

inductive Segment where
  | field (name : Text)
  /-- The item of that index; a negative one counts from the end. -/
  | index (i : Int)
  | wildcard
deriving DecidableEq

/-- A path: segments from the root down. -/
structure Path where
  segments : List Segment
deriving DecidableEq

/-- The code points that may begin a plain name. -/
def isNameStart (c : CodePoint) : Bool := c.isAsciiLetter || c = '_'

/-- The code points that may continue a plain name. -/
def isNamePart (c : CodePoint) : Bool := isNameStart c || c.isAsciiDigit || c = '-'

/-- The text without a line feed at its end. -/
def dropFinalNewline (t : Text) : Text :=
  if t.getLast? = some CodePoint.newline then t.dropLast else t

/-- A name that is written without quotes. A line feed may stand at its end. -/
def isPlainName (name : Text) : Bool :=
  match dropFinalNewline name with
  | [] => false
  | c :: t => isNameStart c && t.all isNamePart

/-- A code point of a quoted name. -/
def escapeInName (c : CodePoint) : Text :=
  if c = CodePoint.backslash || c = CodePoint.apostrophe then [CodePoint.backslash, c] else [c]

def fieldText (name : Text) : Text :=
  if isPlainName name then ('.' : CodePoint) :: name
  else ("['" : Text) ++ name.flatMap escapeInName ++ ("']" : Text)

def indexText (i : Int) : Text := ('[' : CodePoint) :: Text.ofInt i ++ [(']' : CodePoint)]

/-- The normal text of a segment. -/
def Segment.text : Segment → Text
  | .field name => fieldText name
  | .index i => indexText i
  | .wildcard => "[*]"

def rootText : Text := "$"

namespace Path

/-- The path that addresses the root itself. -/
def isRoot (p : Path) : Bool := p.segments.isEmpty

def text (p : Path) : Text := rootText ++ p.segments.flatMap Segment.text

end Path

def Json.Step.text : Json.Step → Text
  | .name key => fieldText key
  | .index i => indexText i

/-- The text of a position: the path that leads to it alone. -/
def Json.Position.text (p : Json.Position) : Text := rootText ++ p.flatMap Json.Step.text

end BodyScrub
