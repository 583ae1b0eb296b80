import BodyScrub.Text.Blank
import BodyScrub.Text.Case
import BodyScrub.Text.Digit
import BodyScrub.Text.Word

/-!
# Tests of one code point

What a literal, a dot, an escape such as `\d` or a bracketed class accepts. Without regard to case, code points
are compared by the first code point of their lower case; two lower-case code points with the same upper case count
as equal.
-/

namespace BodyScrub.Pattern

/-- How letters are compared. -/
inductive Folding where
  /-- As they stand. -/
  | exact
  /-- Without regard to the case of `A` to `Z`. -/
  | ascii
  /-- Without regard to the case of any letter. -/
  | unicode
deriving DecidableEq

/-- The representative by which a code point is compared. -/
def Folding.fold : Folding → CodePoint → CodePoint
  | .exact, c => c
  | .ascii, c => c.asciiLower
  | .unicode, c => c.foldLower

/-- The classes of `\d`, `\s` and `\w`. -/
inductive Category where
  | digit
  | blank
  | word
deriving DecidableEq

/-- Membership in a class, of ASCII only or of all scripts. -/
def Category.contains (asciiOnly : Bool) : Category → CodePoint → Bool
  | .digit, c => if asciiOnly then c.isAsciiDigit else c.isDigit
  | .blank, c => if asciiOnly then c.val = 0x20 || (9 ≤ c.val && c.val ≤ 13) else c.isBlank
  | .word, c =>
    if asciiOnly then c.isAsciiLetter || c.isAsciiDigit || c = '_' else c.isWord

/-- One entry of a bracketed class. -/
inductive ClassItem where
  | one (c : CodePoint)
  | range (low high : CodePoint)
  | category (k : Category) (negated : Bool)
deriving DecidableEq

/-- A test of one code point. -/
inductive PointTest where
  /-- Anything but a line feed. -/
  | inLine
  | anything
  | literal (negated : Bool) (folding : Folding) (c : CodePoint)
  | oneOf (negated : Bool) (folding : Folding) (asciiOnly : Bool) (items : List ClassItem)
deriving DecidableEq

/-- Whether `c`, taken from a text, equals the literal `d`. -/
def literalAccepts (folding : Folding) (d c : CodePoint) : Bool :=
  match folding with
  | .exact => c = d
  | .ascii => c.asciiLower = d.asciiLower
  | .unicode =>
    if d.isCased then c.foldLower = d.foldLower || d.foldLower.caseSiblings.contains c.foldLower else c = d

/-- The code points whose fold is `y`. -/
def foldSources (folding : Folding) (y : CodePoint) : List CodePoint :=
  match folding with
  | .exact => [y]
  | .ascii => [y, CodePoint.ofNat (y.val - 32)].filter fun c => c.asciiLower = y
  | .unicode =>
    let shifted := lowerRuns.map fun r => CodePoint.ofNat ((y.val : Int) - r.shift).toNat
    let expanded := lowerExpansions.map fun (n, _) => CodePoint.ofNat n
    (y :: shifted ++ expanded).filter fun c => c.foldLower = y

/-- The folds that count as equal to `y`. -/
def foldEquals (folding : Folding) (y : CodePoint) : List CodePoint :=
  match folding with
  | .unicode => y :: y.caseSiblings
  | _ => [y]

/-- The last code point of the basic plane. -/
def lastBasic : Nat := 0xFFFF

/-- Whether an item of a class accepts `y`, the fold of a code point. Beyond the basic plane a listed code point
is compared as it stands, and a range accepts what it holds in either case. -/
def ClassItem.accepts (folding : Folding) (asciiOnly : Bool) (y : CodePoint) : ClassItem → Bool
  | .one d =>
    if lastBasic < (folding.fold d).val then y = d
    else (foldEquals folding y).contains (folding.fold d)
  | .range low high =>
    let holds (c : CodePoint) : Bool := low.val ≤ c.val && c.val ≤ high.val
    match folding with
    | .exact => holds y
    | _ =>
      ((foldEquals folding y).any fun z => z.val ≤ lastBasic && (foldSources folding z).any holds)
        || (lastBasic < high.val && (holds y || holds y.foldUpper))
  | .category k negated => k.contains asciiOnly y != negated

/-- Whether a test accepts a code point. -/
def PointTest.accepts : PointTest → CodePoint → Bool
  | .inLine, c => c ≠ CodePoint.newline
  | .anything, _ => true
  | .literal negated folding d, c => literalAccepts folding d c != negated
  | .oneOf negated folding asciiOnly items, c =>
    items.any (ClassItem.accepts folding asciiOnly (folding.fold c)) != negated

end BodyScrub.Pattern
