import BodyScrub.Json.Value
import BodyScrub.Number.Decimal

/-!
# Writing JSON

Strings are escaped as little as the format allows, or down to plain ASCII; items are separated with or without
blanks. A number that is not finite is written only where its word is allowed, and an integer of too many digits
not at all.
-/

namespace BodyScrub.Json

/-- How values are written. -/
structure Style where
  /-- Escape everything outside printable ASCII. -/
  asciiOnly : Bool
  /-- What stands between items. -/
  itemSeparator : Text
  /-- What stands between a name and its value. -/
  nameSeparator : Text

/-- An escape of four hexadecimal digits. -/
def unicodeEscape (n : Nat) : Text := [CodePoint.backslash, 'u'] ++ Text.hex 4 n

/-- Escapes for a code point; one beyond the basic plane is escaped as a surrogate pair. -/
def escapeUnits (c : CodePoint) : Text :=
  if c.val < 0x10000 then unicodeEscape c.val
  else
    unicodeEscape (0xD800 + (c.val - 0x10000) / 0x400) ++ unicodeEscape (0xDC00 + (c.val - 0x10000) % 0x400)

/-- A code point inside a string. -/
def writeCodePoint (asciiOnly : Bool) (c : CodePoint) : Text :=
  if c = CodePoint.quote || c = CodePoint.backslash then [CodePoint.backslash, c]
  else if c.val = 8 then [CodePoint.backslash, 'b']
  else if c.val = 9 then [CodePoint.backslash, 't']
  else if c.val = 10 then [CodePoint.backslash, 'n']
  else if c.val = 12 then [CodePoint.backslash, 'f']
  else if c.val = 13 then [CodePoint.backslash, 'r']
  else if c.val < 0x20 || (asciiOnly && 0x7E < c.val) then escapeUnits c
  else [c]

/-- A string between its quotes. -/
def writeString (asciiOnly : Bool) (s : Text) : Text :=
  CodePoint.quote :: s.flatMap (writeCodePoint asciiOnly) ++ [CodePoint.quote]

namespace Value

mutual

/-- The text of a value. -/
def write (style : Style) : Value → Text
  | null => "null"
  | bool true => "true"
  | bool false => "false"
  | integer i => Text.ofInt i
  | real x => x.text "Infinity" "NaN"
  | string s => writeString style.asciiOnly s
  | array [] => "[]"
  | array (v :: vs) => ('[' : CodePoint) :: v.write style ++ writeItems style vs ++ [(']' : CodePoint)]
  | object [] => "\x7b\x7d"
  | object ((n, v) :: ms) =>
    CodePoint.openBrace :: writeString style.asciiOnly n ++ style.nameSeparator ++ v.write style
      ++ writeMembers style ms ++ [CodePoint.closeBrace]

/-- Further items, each after a separator. -/
def writeItems (style : Style) : List Value → Text
  | [] => []
  | v :: vs => style.itemSeparator ++ v.write style ++ writeItems style vs

/-- Further members, each after a separator. -/
def writeMembers (style : Style) : Entries Value → Text
  | [] => []
  | (n, v) :: ms =>
    style.itemSeparator ++ writeString style.asciiOnly n ++ style.nameSeparator ++ v.write style
      ++ writeMembers style ms

end

end Value

/-! ## What is refused -/

/-- A number that a writer refuses. -/
inductive WriteFault where
  | nonFinite
  /-- An integer of more digits than a reader takes. -/
  | digits
deriving DecidableEq

def WriteFault.text : WriteFault → Text
  | .nonFinite => "Out of range float values are not JSON compliant"
  | .digits => tooManyDigitsToWrite

namespace Value

mutual

/-- The first number in a value that is refused. -/
def writeFault? (allowNonFinite : Bool) : Value → Option WriteFault
  | integer i => if (Text.ofNat i.natAbs).length ≤ maxIntegerDigits then none else some .digits
  | real x => if allowNonFinite || x.isFinite then none else some .nonFinite
  | array items => itemsFault? allowNonFinite items
  | object members => membersFault? allowNonFinite members
  | _ => none

/-- The first number in some values that is refused. -/
def itemsFault? (allowNonFinite : Bool) : List Value → Option WriteFault
  | [] => none
  | v :: vs => (v.writeFault? allowNonFinite).or (itemsFault? allowNonFinite vs)

/-- The first number in some members that is refused. -/
def membersFault? (allowNonFinite : Bool) : Entries Value → Option WriteFault
  | [] => none
  | (_, v) :: ms => (v.writeFault? allowNonFinite).or (membersFault? allowNonFinite ms)

end

end Value

/-- The text of a value, unless a number in it is refused. -/
def writeChecked (style : Style) (allowNonFinite : Bool) (v : Value) : Except WriteFault Text :=
  match v.writeFault? allowNonFinite with
  | none => .ok (v.write style)
  | some f => .error f

end BodyScrub.Json
