import BodyScrub.Pattern.Reading
import BodyScrub.Text.Word

/-!
# Escapes

What a backslash and the code point after it mean. Letters that are no escape are refused; anything else escaped
means itself. Outside brackets `\b` is a word boundary, inside them it is a backspace.
-/

namespace BodyScrub.Pattern

/-- What stands for an item in a pattern, for the quantifier after it. -/
inductive Role where
  /-- Takes no quantifier. -/
  | anchor
  /-- Takes no second quantifier. -/
  | repetition
  | other
deriving DecidableEq

/-- A part of a pattern with its role. -/
structure Item where
  role : Role
  node : Node

namespace Item

def anchor (a : Anchor) : Item := ⟨.anchor, .anchor a⟩

def test (t : PointTest) : Item := ⟨.other, .test t⟩

/-- A code point that stands for itself. -/
def literal (f : Flags) (c : CodePoint) : Item := test (.literal false f.folding c)

end Item

def escapeText (c : CodePoint) (digits : Text) : Text := CodePoint.backslash :: c :: digits

/-- The class of a letter, and whether it is negated. -/
def categoryEscape? (c : CodePoint) : Option (Category × Bool) :=
  if c = 'd' then some (.digit, false)
  else if c = 'D' then some (.digit, true)
  else if c = 's' then some (.blank, false)
  else if c = 'S' then some (.blank, true)
  else if c = 'w' then some (.word, false)
  else if c = 'W' then some (.word, true)
  else none

/-- The anchor of a letter. -/
def anchorEscape? (f : Flags) (c : CodePoint) : Option Anchor :=
  if c = 'A' then some .textStart
  else if c = 'b' then some (.wordBoundary false f.asciiOnly)
  else if c = 'B' then some (.wordBoundary true f.asciiOnly)
  else if c = 'Z' then some .textEnd
  else none

namespace Reader

/-- Complains about an escape that has just been read. -/
def complainEscape {α : Type} (c : CodePoint) (digits : Text) (complaint : Text → Complaint) : Reader α :=
  complain (complaint (escapeText c digits)) (digits.length + 2)

/-- The code point of an escape with that many hexadecimal digits. -/
def hexEscape (c : CodePoint) (width : Nat) : Reader CodePoint := do
  let digits ← takeWhile (·.hexDigit?.isSome) width
  if digits.length ≠ width then complainEscape c digits .incompleteEscape
  else
    let n := digitsIn 16 digits
    if h : n < 0x110000 then pure ⟨n, h⟩ else complainEscape c digits .badEscape

/-- An escape by the name of a code point. No names are known. -/
def nameEscape : Reader CodePoint := do
  if ← skip CodePoint.openBrace then
    let name ← takeUntil CodePoint.closeBrace "character name"
    complain (.undefinedCharacter name) (name.length + 4)
  else complain (.missing [CodePoint.openBrace]) 0

/-- The code point of an octal escape with these digits. -/
def octalEscape (c : CodePoint) (digits : Text) : Reader CodePoint :=
  let n := digitsIn 8 (c :: digits)
  if maxOctal < n then complainEscape c digits .largeOctal else pure (CodePoint.ofNat n)

/-- The code point of an escape by a number or name in hexadecimal. -/
def numberEscape? (c : CodePoint) : Option (Reader CodePoint) :=
  if c = 'x' then some (hexEscape c 2)
  else if c = 'u' then some (hexEscape c 4)
  else if c = 'U' then some (hexEscape c 8)
  else if c = 'N' then some nameEscape
  else none

/-- The code point that an escape without a meaning of its own stands for. -/
def selfEscape (c : CodePoint) : Reader CodePoint :=
  if c.isAsciiLetter then complainEscape c [] .badEscape else pure c

/-- The entry that an escape makes inside brackets. -/
def classEscape (c : CodePoint) : Reader ClassItem := do
  match controlEscape? c with
  | some d => pure (.one d)
  | none =>
    match categoryEscape? c with
    | some (k, negated) => pure (.category k negated)
    | none =>
      match numberEscape? c with
      | some read => return .one (← read)
      | none =>
        if c.isOctalDigit then
          let digits ← takeWhile CodePoint.isOctalDigit 2
          return .one (← octalEscape c digits)
        else if c.isAsciiDigit then complainEscape c [] .badEscape
        else return .one (← selfEscape c)

/-- A reference to the group with these digits. -/
def referenceEscape (f : Flags) (digits : Text) : Reader Item := do
  let s ← get
  let index := digitsIn 10 digits
  if s.groups.length < index then complain (.groupReference index) digits.length
  else if (closed? s index).isNone then complain .openGroup (digits.length + 1)
  else
    checkBehind index
    pure ⟨.other, .backReference index f.folding⟩

/-- What an escape by a digit other than zero means: of three octal digits a code point, else a group. -/
def digitEscape (f : Flags) (c : CodePoint) : Reader Item := do
  let second ← takeWhile CodePoint.isAsciiDigit 1
  if c.isOctalDigit && second ≠ [] && second.all CodePoint.isOctalDigit then
    let third ← takeWhile CodePoint.isOctalDigit 1
    if third ≠ [] then return Item.literal f (← octalEscape c (second ++ third))
    else referenceEscape f (c :: second)
  else referenceEscape f (c :: second)

/-- What an escape means outside brackets. -/
def escape (f : Flags) (c : CodePoint) : Reader Item := do
  match anchorEscape? f c with
  | some a => pure (Item.anchor a)
  | none =>
    match categoryEscape? c with
    | some (k, negated) => pure (Item.test (.oneOf false .exact f.asciiOnly [.category k negated]))
    | none =>
      match controlEscape? c with
      | some d => pure (Item.literal f d)
      | none =>
        match numberEscape? c with
        | some read => return Item.literal f (← read)
        | none =>
          if c = '0' then
            let digits ← takeWhile CodePoint.isOctalDigit 2
            return Item.literal f (← octalEscape c digits)
          else if c.isAsciiDigit then digitEscape f c
          else return Item.literal f (← selfEscape c)

/-! ## Bracketed classes -/

/-- One entry of a class: the entry, and the token it began with. -/
def classEntry (t : Token) : Reader ClassItem :=
  match t with
  | .plain c => pure (.one c)
  | .escaped c => classEscape c
  | .stray => complain .strayBackslash 0

/-- A range between two entries. -/
def classRange (first last : Token) (low high : ClassItem) : Reader ClassItem :=
  let refused : Reader ClassItem :=
    complain (.badRange first.text last.text) (first.text.length + 1 + last.text.length)
  match low, high with
  | .one a, .one b => if b.val < a.val then refused else pure (.range a b)
  | _, _ => refused

/-- The entries of a class, up to its closing bracket, after those in `done`. `start` code points remained at its
opening bracket, and `fuel` bounds the entries still to come. -/
def classEntries (start : Nat) : (fuel : Nat) → (done : List ClassItem) → Reader (List ClassItem)
  | 0, done => pure done
  | fuel + 1, done => do
    let unterminated : Reader (List ClassItem) := refuse (.at .unterminatedClass start)
    match ← take with
    | none => unterminated
    | some t =>
      if t = .plain ']' && !done.isEmpty then pure done
      else
        let low ← classEntry t
        if ← skip '-' then
          match ← take with
          | none => unterminated
          | some u =>
            if u = .plain ']' then pure (done ++ [low, .one '-'])
            else
              let high ← classEntry u
              let range ← classRange t u low high
              classEntries start fuel (done ++ [range])
        else classEntries start fuel (done ++ [low])

/-- The test of a class. A single code point is compared as a literal. -/
def classTest (f : Flags) (negated : Bool) (items : List ClassItem) : PointTest :=
  match items.eraseDups with
  | [.one c] => .literal negated f.folding c
  | items => .oneOf negated f.folding f.asciiOnly items

/-- A class after its opening bracket. -/
def bracketed (f : Flags) : Reader Item := do
  let here ← left
  let negated ← skip '^'
  let s ← get
  let items ← classEntries (here + 1) (s.tokens.length + 1) []
  pure (Item.test (classTest f negated items))

end Reader

end BodyScrub.Pattern
