import BodyScrub.Text

/-!
# Decimal digits

Every script with decimal digits has ten consecutive code points for them, so the code points of the zeros
give all digits and their values.
-/

namespace BodyScrub

/-- The zero of every set of decimal digits. -/
def zeroPoints : List Nat := [
  0x30, 0x660, 0x6f0, 0x7c0, 0x966, 0x9e6, 0xa66, 0xae6, 0xb66, 0xbe6,
  0xc66, 0xce6, 0xd66, 0xde6, 0xe50, 0xed0, 0xf20, 0x1040, 0x1090, 0x17e0,
  0x1810, 0x1946, 0x19d0, 0x1a80, 0x1a90, 0x1b50, 0x1bb0, 0x1c40, 0x1c50, 0xa620,
  0xa8d0, 0xa900, 0xa9d0, 0xa9f0, 0xaa50, 0xabf0, 0xff10, 0x104a0, 0x10d30, 0x11066,
  0x110f0, 0x11136, 0x111d0, 0x112f0, 0x11450, 0x114d0, 0x11650, 0x116c0, 0x11730, 0x118e0,
  0x11950, 0x11c50, 0x11d50, 0x11da0, 0x16a60, 0x16ac0, 0x16b50, 0x1d7ce, 0x1d7d8, 0x1d7e2,
  0x1d7ec, 0x1d7f6, 0x1e140, 0x1e2f0, 0x1e950, 0x1fbf0]

namespace CodePoint

/-- The value of a decimal digit of any script. -/
def digit? (c : CodePoint) : Option Nat :=
  (zeroPoints.find? fun z => z ≤ c.val && c.val < z + 10).map (c.val - ·)

/-- A decimal digit of any script. -/
def isDigit (c : CodePoint) : Bool := c.digit?.isSome

/-- The value of a digit `0` to `9`. -/
def asciiDigit? (c : CodePoint) : Option Nat :=
  if 0x30 ≤ c.val && c.val ≤ 0x39 then some (c.val - 0x30) else none

/-- A digit `0` to `9`. -/
def isAsciiDigit (c : CodePoint) : Bool := 0x30 ≤ c.val && c.val ≤ 0x39

/-- A digit `0` to `7`. -/
def isOctalDigit (c : CodePoint) : Bool := 0x30 ≤ c.val && c.val ≤ 0x37

/-- The value of a hexadecimal digit in either case. -/
def hexDigit? (c : CodePoint) : Option Nat :=
  if 0x30 ≤ c.val && c.val ≤ 0x39 then some (c.val - 0x30)
  else if 0x41 ≤ c.val && c.val ≤ 0x46 then some (c.val - 0x41 + 10)
  else if 0x61 ≤ c.val && c.val ≤ 0x66 then some (c.val - 0x61 + 10)
  else none

/-- A letter `a` to `z` or `A` to `Z`. -/
def isAsciiLetter (c : CodePoint) : Bool :=
  (0x41 ≤ c.val && c.val ≤ 0x5A) || (0x61 ≤ c.val && c.val ≤ 0x7A)

end CodePoint

end BodyScrub
