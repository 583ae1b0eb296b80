/-!
# Doubles

A double is its three fields, so equality is equality of numbers with their sign. Every finite magnitude is a
natural number of smallest subnormals, and rounding is division of natural numbers.
-/

namespace BodyScrub

/-- A double-precision number. -/
inductive Double where
  /-- Sign, biased exponent and fraction of a finite number. -/
  | finite (negative : Bool) (exponent : Fin 2047) (fraction : Fin 4503599627370496)
  | infinite (negative : Bool)
  | nan
deriving DecidableEq

namespace Double

/-- The exponent of the smallest subnormal is the negative of this. -/
def unitExponent : Nat := 1074

/-- The weight of the leading bit of a normal significand, `2 ^ 52`. -/
def leadingBit : Nat := 4503599627370496

instance : Inhabited Double := ⟨nan⟩

def isFinite : Double → Bool
  | finite .. => true
  | _ => false

/-- The magnitude of a finite number, counted in smallest subnormals. -/
def units : Double → Nat
  | finite _ e f => (if e.val = 0 then f.val else leadingBit + f.val) * Nat.pow 2 (e.val - 1)
  | _ => 0

def isNegative : Double → Bool
  | finite s _ _ => s
  | infinite s => s
  | nan => false

/-- The number with a significand of at most 53 bits, scaled by `2 ^ scale` units. Beyond the largest
exponent it is infinite. -/
def pack (negative : Bool) (significand scale : Nat) : Double :=
  let exponent :=
    if significand < leadingBit then 0
    else if significand < 2 * leadingBit then scale + 1
    else scale + 2
  if h : exponent < 2047 then
    finite negative ⟨exponent, h⟩ ⟨significand % leadingBit, Nat.mod_lt _ (by decide)⟩
  else infinite negative

/-- The quotient to the nearest natural number, a half going to the even neighbour. -/
def divideNearest (num den : Nat) : Nat :=
  let q := num / den
  let r := num % den
  if den < 2 * r || (2 * r == den && q % 2 == 1) then q + 1 else q

/-- The bits to drop so that a number of units keeps at most 53. -/
def droppedBits (units : Nat) : Nat :=
  if units < 2 * leadingBit then 0 else units.log2 - 52

/-- The double nearest to `num / den` units, a half going to the even significand. -/
def ofUnits (negative : Bool) (num den : Nat) : Double :=
  let scale := droppedBits (num / den)
  pack negative (divideNearest num (den * Nat.pow 2 scale)) scale

/-- Whether a finite number is an integer. -/
def isIntegral (x : Double) : Bool := x.isFinite && x.units % Nat.pow 2 unitExponent == 0

/-- The integer part of a finite number. -/
def truncate (x : Double) : Int :=
  let n := x.units / Nat.pow 2 unitExponent
  if x.isNegative then -(n : Int) else n

end Double

end BodyScrub
