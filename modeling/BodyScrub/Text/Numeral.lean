import BodyScrub.Text.Blank
import BodyScrub.Text.Digit

/-!
# Numerals

Integers in decimal, and the hexadecimal numbers of escapes. A numeral is read with the digits of any script.
-/

namespace BodyScrub

namespace Text

def ofNat (n : Nat) : Text := (Nat.toDigits 10 n).map CodePoint.ofChar

/-- The decimal digits of an integer, after a hyphen if it is negative. -/
def ofInt (i : Int) : Text :=
  if i < 0 then CodePoint.ofChar '-' :: ofNat i.natAbs else ofNat i.natAbs

/-- The digit `0` to `f` of a number below sixteen. -/
def hexDigit (n : Nat) : CodePoint :=
  if n < 10 then CodePoint.ofNat (0x30 + n) else CodePoint.ofNat (0x61 + (n - 10))

/-- The last `width` hexadecimal digits of a number. -/
def hex : (width n : Nat) → Text
  | 0, _ => []
  | width + 1, n => hex width (n / 16) ++ [hexDigit (n % 16)]

/-- The number that a list of digit values spells in a base. -/
def spelled (base : Nat) (digits : List Nat) : Nat := digits.foldl (fun n d => n * base + d) 0

/-- The value of a text of decimal digits of any script. -/
def digitsValue? (t : Text) : Option Nat :=
  if t.isEmpty then none else (t.mapM CodePoint.digit?).map (spelled 10)

/-- The digits of a numeral in which single underscores may stand between digits. -/
def ungroup? : Text → Option (List Nat)
  | [] => none
  | [c] => c.digit?.map ([·])
  | c :: d :: t =>
    match c.digit?, if d = '_' then ungroup? t else ungroup? (d :: t) with
    | some v, some vs => some (v :: vs)
    | _, _ => none

end Text

/-- The most digits an integer may be read from. -/
def maxIntegerDigits : Nat := 4300

/-- What is said of a numeral with more digits than that. -/
def tooManyDigits (count : Nat) : Text :=
  "Exceeds the limit (4300 digits) for integer string conversion: value has " ++ Text.ofNat count
    ++ " digits; use sys.set_int_max_str_digits() to increase the limit"

/-- What is said of an integer that would be written with more digits than that. -/
def tooManyDigitsToWrite : Text :=
  "Exceeds the limit (4300 digits) for integer string conversion; use sys.set_int_max_str_digits() "
    ++ "to increase the limit"

/-- An integer with blanks around it, an optional sign, and digits of any script in groups. -/
def Text.integer? (t : Text) : Option Int :=
  let magnitude? (digits : Text) : Option Nat :=
    (Text.ungroup? digits).bind fun vs =>
      if vs.length ≤ maxIntegerDigits then some (Text.spelled 10 vs) else none
  match t.strip with
  | [] => none
  | c :: digits =>
    if c = '-' then (magnitude? digits).map fun n => -(n : Int)
    else if c = '+' then (magnitude? digits).map Int.ofNat
    else (magnitude? (c :: digits)).map Int.ofNat

end BodyScrub
