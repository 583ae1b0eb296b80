import BodyScrub.Json.Value
import BodyScrub.Number.Decimal
import BodyScrub.Text.Mark

/-!
# Reading JSON

One pass over the text, without a step back. A fault is located by what was left to read, so the scanners carry
no positions; `read` turns that into a line, a column and an offset.
-/

namespace BodyScrub.Json

/-- What a reader misses or refuses at a place of the text. -/
inductive Complaint where
  | value
  | name
  | colon
  | comma
  | extra
  | unterminated
  | control
  | escape
  | unicodeEscape
  | byteOrderMark
deriving DecidableEq

def Complaint.text : Complaint → Text
  | .value => "Expecting value"
  | .name => "Expecting property name enclosed in double quotes"
  | .colon => "Expecting ':' delimiter"
  | .comma => "Expecting ',' delimiter"
  | .extra => "Extra data"
  | .unterminated => "Unterminated string starting at"
  | .control => "Invalid control character at"
  | .escape => "Invalid \\escape"
  | .unicodeEscape => "Invalid \\uXXXX escape"
  | .byteOrderMark => "Unexpected UTF-8 BOM (decode using utf-8-sig)"

/-- What a reader refuses although it is well formed. -/
inductive Refusal where
  /-- A word for a number that is not finite. -/
  | nonFinite (word : Text)
  /-- An integer with that many digits. -/
  | digits (count : Nat)
  /-- A container that opens one level too deep. -/
  | depth (kind : Kind)
deriving DecidableEq

def Refusal.text : Refusal → Text
  | .nonFinite word => "non-finite number " ++ word ++ " is not allowed"
  | .digits count => tooManyDigits count
  | .depth kind =>
    "maximum recursion depth exceeded while decoding a JSON " ++ kind.text ++ " from a unicode string"

/-- Why a text could not be read. -/
inductive ReadFault where
  | malformed (complaint : Complaint) (mark : Mark)
  | refused (refusal : Refusal)
deriving DecidableEq

def ReadFault.text : ReadFault → Text
  | .malformed complaint mark =>
    complaint.text ++ ": line " ++ Text.ofNat mark.line ++ " column " ++ Text.ofNat mark.column
      ++ " (char " ++ Text.ofNat mark.offset ++ ")"
  | .refused refusal => refusal.text

/-- A fault while reading: a complaint is located by the number of code points from there to the end. -/
inductive Stop where
  | complaint (c : Complaint) (left : Nat)
  | refusal (r : Refusal)
deriving DecidableEq

/-- A reading of an `α` at the head of a text: the `α` and the rest, or a fault. -/
abbrev Reading (α : Type) := Except Stop (α × Text)

/-- The blanks between tokens. -/
def isSpace (c : CodePoint) : Bool := c = ' ' || c = '\n' || c = '\r' || c = '\t'

/-- The text from its first token on. -/
def skipSpace (t : Text) : Text := t.dropWhile isSpace

/-! ## Strings -/

/-- The number spelled by four hexadecimal digits. -/
def hex4? (a b c d : CodePoint) : Option Nat :=
  match a.hexDigit?, b.hexDigit?, c.hexDigit?, d.hexDigit? with
  | some a, some b, some c, some d => some (Text.spelled 16 [a, b, c, d])
  | _, _, _, _ => none

/-- The code point of a surrogate pair. -/
def joinSurrogates (high low : Nat) : CodePoint :=
  CodePoint.ofNat (0x10000 + (high - 0xD800) * 0x400 + (low - 0xDC00))

/-- What was read of a string, backwards, with an escaped number added. After the escape of a high surrogate
that of a low one completes the pair. -/
def addEscaped (afterHigh : Bool) (n : Nat) (done : Text) : Text :=
  match done with
  | high :: before =>
    if afterHigh && (CodePoint.ofNat n).isLowSurrogate then joinSurrogates high.val n :: before
    else CodePoint.ofNat n :: done
  | [] => [CodePoint.ofNat n]

/-- The code point of an escape of one letter. -/
def simpleEscape? (c : CodePoint) : Option CodePoint :=
  if c = CodePoint.quote || c = CodePoint.backslash || c = '/' then some c
  else if c = 'b' then some (CodePoint.ofNat 8)
  else if c = 'f' then some (CodePoint.ofNat 12)
  else if c = 'n' then some (CodePoint.ofNat 10)
  else if c = 'r' then some (CodePoint.ofNat 13)
  else if c = 't' then some (CodePoint.ofNat 9)
  else none

/-- A string after its opening quote, where `start` remained; `done` is what was read of it, backwards, and
`afterHigh` tells whether the last of it was the escape of a high surrogate. An escape of four digits needs a code
point after them. -/
def readString (start : Text) (afterHigh : Bool) (done : Text) : Text → Reading Text
  | [] => .error (.complaint .unterminated (start.length + 1))
  | c :: t =>
    if c = CodePoint.quote then .ok (done.reverse, t)
    else if c.val < 0x20 then .error (.complaint .control (t.length + 1))
    else if c = CodePoint.backslash then
      match t with
      | [] => .error (.complaint .unterminated (start.length + 1))
      | e :: t =>
        if e = 'u' then
          match t with
          | h₁ :: h₂ :: h₃ :: h₄ :: t =>
            match hex4? h₁ h₂ h₃ h₄ with
            | some n =>
              if t.isEmpty then .error (.complaint .unicodeEscape 5)
              else readString start (CodePoint.ofNat n).isHighSurrogate (addEscaped afterHigh n done) t
            | none => .error (.complaint .unicodeEscape (t.length + 5))
          | _ => .error (.complaint .unicodeEscape (t.length + 1))
        else
          match simpleEscape? e with
          | some d => readString start false (d :: done) t
          | none => .error (.complaint .escape (t.length + 2))
    else readString start false (c :: done) t

/-! ## Numbers -/

/-- The digits before the point: a zero, or digits that do not begin with one. -/
def whole? : Text → Option (Text × Text)
  | [] => none
  | c :: t =>
    if c = '0' then some ([c], t)
    else if c.isAsciiDigit then some (Text.span CodePoint.isAsciiDigit (c :: t))
    else none

/-- A point with digits after it. -/
def fraction? : Text → Option (Text × Text)
  | [] => none
  | c :: t =>
    if c = '.' then
      match Text.span CodePoint.isAsciiDigit t with
      | ([], _) => none
      | r => some r
    else none

/-- The value of digits `0` to `9`. -/
def digitsNat (t : Text) : Nat := Text.spelled 10 (t.filterMap CodePoint.asciiDigit?)

/-- Whether a minus stands at the head of a text, and what follows a sign there. -/
def takeSign : Text → Bool × Text
  | [] => (false, [])
  | s :: r => if s = '-' then (true, r) else if s = '+' then (false, r) else (false, s :: r)

/-- An exponent: a letter, an optional sign and digits. -/
def exponent? : Text → Option (Int × Text)
  | [] => none
  | c :: t =>
    if c = 'e' || c = 'E' then
      match Text.span CodePoint.isAsciiDigit (takeSign t).2 with
      | ([], _) => none
      | (ds, r) => some (if (takeSign t).1 then -(digitsNat ds : Int) else digitsNat ds, r)
    else none

/-- A piece that may be missing, and the text after it. -/
def optional {α : Type} (piece? : Text → Option (α × Text)) (t : Text) : Option α × Text :=
  match piece? t with
  | some (a, r) => (some a, r)
  | none => (none, t)

/-- The number with those digits before and after the point, and that exponent. Without the latter two it is an
integer. -/
def numberOf (negative : Bool) (whole : Text) (fraction : Option Text) (exponent : Option Int) :
    Except Refusal Value :=
  match fraction, exponent with
  | none, none =>
    if whole.length ≤ maxIntegerDigits then
      .ok (.integer (if negative then -(digitsNat whole : Int) else digitsNat whole))
    else .error (.digits whole.length)
  | _, _ =>
    let behind := fraction.getD []
    .ok (.real (Double.ofDecimal negative
      ⟨digitsNat (whole ++ behind), exponent.getD 0 - behind.length⟩))

/-- A number after its sign; `start` remained at its beginning. -/
def readMagnitude (negative : Bool) (start t : Text) : Reading Value :=
  match whole? t with
  | none => .error (.complaint .value start.length)
  | some (whole, t) =>
    let fraction := optional fraction? t
    let exponent := optional exponent? fraction.2
    match numberOf negative whole fraction.1 exponent.1 with
    | .ok v => .ok (v, exponent.2)
    | .error r => .error (.refusal r)

/-! ## Values -/

/-- The words that stand for a value. -/
def wordValues : List (Text × Value) := [("null", .null), ("true", .bool true), ("false", .bool false)]

/-- The words for numbers that are not finite. -/
def nonFiniteWords : List (Text × Double) :=
  [("NaN", .nan), ("Infinity", .infinite false), ("-Infinity", .infinite true)]

/-- A word or a number at the head of a text. -/
def readScalar (allowNonFinite : Bool) (t : Text) : Reading Value :=
  match wordValues.findSome? fun (w, v) => (Text.after? w t).map ((v, ·)) with
  | some r => .ok r
  | none =>
    match nonFiniteWords.findSome? fun (w, x) => (Text.after? w t).map ((w, x, ·)) with
    | some (w, x, r) =>
      if allowNonFinite then .ok (.real x, r) else .error (.refusal (.nonFinite w))
    | none =>
      match t with
      | [] => .error (.complaint .value 0)
      | c :: r =>
        if c = '-' then readMagnitude true t r else readMagnitude false t t

mutual

/-- A value at the head of a text, with containers at most `depth` deep. Every call within takes a step of
`fuel`, and between two steps the text grows shorter, so twice its length is enough. -/
def readValue (allowNonFinite : Bool) : (fuel depth : Nat) → Text → Reading Value
  | 0, _, t => .error (.complaint .value t.length)
  | fuel + 1, depth, t =>
    match t with
    | [] => .error (.complaint .value 0)
    | c :: r =>
      if c = CodePoint.quote then
        match readString r false [] r with
        | .ok (s, r) => .ok (.string s, r)
        | .error e => .error e
      else if c = CodePoint.openBrace then
        match depth with
        | 0 => .error (.refusal (.depth .object))
        | depth + 1 =>
          match skipSpace r with
          | [] => .error (.complaint .name 0)
          | d :: r =>
            if d = CodePoint.closeBrace then .ok (.object [], r) else readMembers allowNonFinite fuel depth [] (d :: r)
      else if c = '[' then
        match depth with
        | 0 => .error (.refusal (.depth .array))
        | depth + 1 =>
          match skipSpace r with
          | [] => .error (.complaint .value 0)
          | d :: r =>
            if d = ']' then .ok (.array [], r) else readItems allowNonFinite fuel depth [] (d :: r)
      else readScalar allowNonFinite (c :: r)

/-- The items of an array from the head of one on; `done` are those before, backwards. -/
def readItems (allowNonFinite : Bool) : (fuel depth : Nat) → (done : List Value) → Text → Reading Value
  | 0, _, _, t => .error (.complaint .value t.length)
  | fuel + 1, depth, done, t =>
    match readValue allowNonFinite fuel depth t with
    | .error e => .error e
    | .ok (v, r) =>
      match skipSpace r with
      | [] => .error (.complaint .comma 0)
      | c :: r =>
        if c = ']' then .ok (.array (v :: done).reverse, r)
        else if c = ',' then readItems allowNonFinite fuel depth (v :: done) (skipSpace r)
        else .error (.complaint .comma (r.length + 1))

/-- The members of an object from the head of a name on; `done` are those before. -/
def readMembers (allowNonFinite : Bool) :
    (fuel depth : Nat) → (done : Entries Value) → Text → Reading Value
  | 0, _, _, t => .error (.complaint .name t.length)
  | fuel + 1, depth, done, t =>
    match t with
    | [] => .error (.complaint .name 0)
    | q :: r =>
      if q = CodePoint.quote then
        match readString r false [] r with
        | .error e => .error e
        | .ok (name, r) =>
          match skipSpace r with
          | [] => .error (.complaint .colon 0)
          | c :: r =>
            if c = ':' then
              match readValue allowNonFinite fuel depth (skipSpace r) with
              | .error e => .error e
              | .ok (v, r) =>
                match skipSpace r with
                | [] => .error (.complaint .comma 0)
                | c :: r =>
                  if c = CodePoint.closeBrace then .ok (.object (done.insert name v), r)
                  else if c = ',' then
                    readMembers allowNonFinite fuel depth (done.insert name v) (skipSpace r)
                  else .error (.complaint .comma (r.length + 1))
            else .error (.complaint .colon (r.length + 1))
      else .error (.complaint .name (r.length + 1))

end

/-- The deepest nesting of containers that is read. -/
def maxDepth : Nat := 992

/-- The text begins with a byte order mark. -/
def hasByteOrderMark : Text → Bool
  | [] => false
  | c :: _ => c.val = 0xFEFF

/-- A value and nothing after it, as a fault located by what was left. -/
def readAll (allowNonFinite : Bool) (t : Text) : Except Stop Value :=
  if hasByteOrderMark t then .error (.complaint .byteOrderMark t.length)
  else
    match readValue allowNonFinite (2 * t.length + 2) maxDepth (skipSpace t) with
    | .error e => .error e
    | .ok (v, r) =>
      match skipSpace r with
      | [] => .ok v
      | c :: r => .error (.complaint .extra (c :: r).length)

/-- The value that a text writes. Numbers that are not finite may be written by their words if that is
allowed. -/
def read (allowNonFinite : Bool) (t : Text) : Except ReadFault Value :=
  match readAll allowNonFinite t with
  | .ok v => .ok v
  | .error (.refusal r) => .error (.refused r)
  | .error (.complaint c left) => .error (.malformed c (Mark.of t (t.length - left)))

end BodyScrub.Json
