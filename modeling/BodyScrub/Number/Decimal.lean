import BodyScrub.Number.Double
import BodyScrub.Text.Numeral

/-!
# Doubles in decimal

A decimal is read as the nearest double. A double is written with the fewest digits that read back, and of
several texts of that length with the nearest one, a tie going to the even last digit.
-/

namespace BodyScrub

/-- The number `digits * 10 ^ exponent`. -/
structure Decimal where
  digits : Nat
  exponent : Int
deriving DecidableEq

namespace Decimal

/-- The same number without zeros at the end of its digits. -/
def normalize : (fuel : Nat) → Decimal → Decimal
  | 0, d => d
  | fuel + 1, d =>
    if d.digits ≠ 0 && d.digits % 10 == 0 then normalize fuel ⟨d.digits / 10, d.exponent + 1⟩ else d

/-- Digits with a point after the first one, if there are more. -/
def mantissaText : Text → Text
  | [] => []
  | [c] => [c]
  | c :: cs => c :: ('.' : CodePoint) :: cs

/-- An exponent of two digits at least. -/
def exponentText (exponent : Int) : Text :=
  let size := Text.ofNat exponent.natAbs
  let sign : CodePoint := if exponent < 0 then '-' else '+'
  ('e' : CodePoint) :: sign :: (if size.length < 2 then ('0' : CodePoint) :: size else size)

/-- A decimal other than zero: positional for exponents from -4 to 15, always with a point or an exponent. -/
def text (d : Decimal) : Text :=
  let digits := Text.ofNat d.digits
  let point : Int := digits.length + d.exponent
  let zero : CodePoint := '0'
  if point ≤ -4 || 16 < point then mantissaText digits ++ exponentText (point - 1)
  else if point ≤ 0 then "0." ++ List.replicate (-point).toNat zero ++ digits
  else if digits.length ≤ point.toNat then
    digits ++ List.replicate (point.toNat - digits.length) zero ++ (".0" : Text)
  else digits.take point.toNat ++ ('.' : CodePoint) :: digits.drop point.toNat

end Decimal

namespace Double

/-- The number of decimal digits of a natural number. -/
def digitCount (n : Nat) : Nat := (Nat.toDigits 10 n).length

/-- The double nearest to a decimal. Decimals far outside the range are settled by their magnitude alone. -/
def ofDecimal (negative : Bool) (d : Decimal) : Double :=
  if d.digits = 0 then finite negative 0 0
  else if 310 ≤ d.exponent then infinite negative
  else if d.exponent + digitCount d.digits < -330 then finite negative 0 0
  else if 0 ≤ d.exponent then
    ofUnits negative (d.digits * Nat.pow 10 d.exponent.toNat * Nat.pow 2 unitExponent) 1
  else ofUnits negative (d.digits * Nat.pow 2 unitExponent) (Nat.pow 10 (-d.exponent).toNat)

/-- Whether a decimal is read as the magnitude of `x`. -/
def readsBack (x : Double) (d : Decimal) : Bool :=
  ofDecimal x.isNegative d == x

/-- The digits of the magnitude of `x` when it is written in full, with `unitExponent` of them behind the
point. -/
def allDigits (x : Double) : Nat := x.units * Nat.pow 5 unitExponent

/-- The decimal of `n` digits nearest to `x` among the two around it that read back. -/
def roundedTo? (x : Double) (all count n : Nat) : Option Decimal :=
  let cut := Nat.pow 10 (count - n)
  let low := all / cut
  let rest := all % cut
  let exponent : Int := (count - n : Nat) - (unitExponent : Int)
  let below : Decimal := ⟨low, exponent⟩
  let above : Decimal := ⟨low + 1, exponent⟩
  match readsBack x below, readsBack x above with
  | true, true =>
    if 2 * rest < cut || (2 * rest == cut && low % 2 == 0) then some below else some above
  | true, false => some below
  | false, true => some above
  | false, false => none

/-- The first decimal that reads back, with `n` digits or one more and so on, `tries` times. -/
def firstRounded? (x : Double) (all count : Nat) : (tries n : Nat) → Option Decimal
  | 0, _ => none
  | tries + 1, n =>
    match roundedTo? x all count n with
    | some d => some d
    | none => firstRounded? x all count tries (n + 1)

def maxDigits : Nat := 17

/-- The shortest decimal of at most `tries` digits for the magnitude of `x`, or that of `all` its digits. -/
def shortestOf (x : Double) (all count tries : Nat) : Decimal :=
  match firstRounded? x all count tries 1 with
  | some d => d.normalize 400
  | none => ⟨all, -(unitExponent : Int)⟩

/-- The shortest decimal for the magnitude of a finite number. -/
def shortest (x : Double) : Decimal := shortestOf x x.allDigits (digitCount x.allDigits) maxDigits

def magnitudeText (x : Double) : Text := if x.units = 0 then "0.0" else x.shortest.text

/-- A number as it is written, with the words for the infinite one and for what is not a number. -/
def text (infinity notANumber : Text) : Double → Text
  | nan => notANumber
  | x =>
    let magnitude := match x with
      | infinite _ => infinity
      | y => y.magnitudeText
    if x.isNegative then ('-' : CodePoint) :: magnitude else magnitude

def display : Double → Text := text "inf" "nan"

end Double

end BodyScrub
