import BodyScrub.Json.Display
import BodyScrub.Path

/-!
# Reading paths

A path is `$` followed by segments: a name after a dot, a quoted name between brackets, or an index or `*`
between brackets. Any other text is refused with the place and the reason. Places are found from what was left
to read.
-/

namespace BodyScrub

/-- Why a text is not a path. -/
inductive PathFault.Reason where
  | notText
  | tooLong (limit : Int)
  | noRoot
  | unexpected (c : CodePoint)
  | recursiveDescent
  | emptyName
  | unclosedName
  | unclosedBracket
  | badToken (token : Text)
  | unterminatedName
deriving DecidableEq

def PathFault.Reason.text : PathFault.Reason → Text
  | .notText => "path must be a string"
  | .tooLong limit => "longer than " ++ Text.ofInt limit ++ " characters"
  | .noRoot => "path must start with '$'"
  | .unexpected c => "unexpected character " ++ Text.quoted [c]
  | .recursiveDescent => "recursive descent '..' is not supported"
  | .emptyName => "empty field name"
  | .unclosedName => "expected ']' after quoted name"
  | .unclosedBracket => "unclosed '['"
  | .badToken token => "invalid bracket token " ++ token.quoted
  | .unterminatedName => "unterminated quoted name"

/-- Why a path could not be read. -/
inductive PathFault where
  /-- The text is not a path, at a place if there is one. -/
  | invalid (path : Text) (reason : PathFault.Reason) (position : Option Nat)
  /-- An index has more digits than an integer may have. -/
  | indexDigits (count : Nat)
deriving DecidableEq

namespace Path

/-- A fault while reading segments: a reason is located by the number of code points from there to the end. -/
inductive Stop where
  | reason (r : PathFault.Reason) (left : Nat)
  | indexDigits (count : Nat)

/-- A quoted name up to its closing quote, and what follows it. A backslash takes the next code point as it
is. -/
def readName (q : CodePoint) : Text → Option (Text × Text)
  | [] => none
  | c :: t =>
    if c = CodePoint.backslash then
      match t with
      | [] => none
      | e :: t => (readName q t).map fun (name, r) => (e :: name, r)
    else if c = q then some ([], t)
    else (readName q t).map fun (name, r) => (c :: name, r)

/-- The index that a token writes: decimal digits, after a hyphen if it is negative. `none` if the token writes
none. -/
def indexOf (token : Text) : Option (Except Nat Int) :=
  let magnitude (digits : Text) : Option (Except Nat Nat) :=
    (Text.digitsValue? digits).map fun n =>
      if digits.length ≤ maxIntegerDigits then .ok n else .error digits.length
  match token with
  | [] => none
  | c :: digits =>
    if c = '-' then (magnitude digits).map fun m => m.map fun n => -(n : Int)
    else (magnitude (c :: digits)).map fun m => m.map Int.ofNat

/-- The segment that a bracketed token writes; `left` code points remained at its bracket. -/
def tokenSegment (left : Nat) (token : Text) : Except Stop Segment :=
  if token = "*" then .ok .wildcard
  else
    match indexOf token with
    | none => .error (.reason (.badToken token) left)
    | some (.ok i) => .ok (.index i)
    | some (.error count) => .error (.indexDigits count)

/-- The segment after an opening bracket, and the rest. -/
def readBracketed (t : Text) : Except Stop (Segment × Text) :=
  let unquoted : Except Stop (Segment × Text) :=
    match Text.cut? ']' t with
    | none => .error (.reason .unclosedBracket (t.length + 1))
    | some (token, r) => (tokenSegment (t.length + 1) (Text.strip token)).map (·, r)
  match t with
  | [] => unquoted
  | q :: r =>
    if q = CodePoint.apostrophe || q = CodePoint.quote then
      match readName q r with
      | none => .error (.reason .unterminatedName t.length)
      | some (name, r) =>
        match r with
        | [] => .error (.reason .unclosedName 0)
        | c :: r =>
          if c = ']' then .ok (.field name, r) else .error (.reason .unclosedName (r.length + 1))
    else unquoted

/-- The code points that end a name after a dot. -/
def endsName (c : CodePoint) : Bool := c = '.' || c = '['

/-- The segment after a dot, and the rest. -/
def readDotted (t : Text) : Except Stop (Segment × Text) :=
  match t.head? with
  | some c =>
    if c = '.' then .error (.reason .recursiveDescent t.length)
    else
      match Text.span (fun c => !endsName c) t with
      | ([], _) => .error (.reason .emptyName t.length)
      | (name, r) => .ok (if name = "*" then .wildcard else .field name, r)
  | none => .error (.reason .emptyName 0)

/-- The segments of a text. Every segment takes a step of `fuel` and at least one code point, so the length of
the text is enough. -/
def readSegments : (fuel : Nat) → Text → Except Stop (List Segment)
  | _, [] => .ok []
  | 0, c :: t => .error (.reason (.unexpected c) (t.length + 1))
  | fuel + 1, c :: t =>
    let segment : Except Stop (Segment × Text) :=
      if c = '.' then readDotted t
      else if c = '[' then readBracketed t
      else .error (.reason (.unexpected c) (t.length + 1))
    match segment with
    | .error e => .error e
    | .ok (s, r) => (readSegments fuel r).map (s :: ·)

/-- The path that a text of any length writes. -/
def readText (t : Text) : Except PathFault Path :=
  match Text.after? rootText t with
  | none => .error (.invalid t .noRoot (some 0))
  | some r =>
    match readSegments r.length r with
    | .ok segments => .ok ⟨segments⟩
    | .error (.reason reason left) => .error (.invalid t reason (some (t.length - left)))
    | .error (.indexDigits count) => .error (.indexDigits count)

/-- The path that a text of at most `limit` code points writes. -/
def read (limit : Int) (t : Text) : Except PathFault Path :=
  if limit < t.length then .error (.invalid t (.tooLong limit) none) else readText t

/-- The path that a value writes, which has to be a string. -/
def ofValue (limit : Int) : Json.Value → Except PathFault Path
  | .string t => read limit t
  | v => .error (.invalid v.display .notText none)

end Path

end BodyScrub
