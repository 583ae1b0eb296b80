import BodyScrub.Text.Mark
import BodyScrub.Text.Quoted

/-!
# Tokens of patterns and templates

A backslash and the code point after it are one token; every other code point is one. A backslash with nothing
after it is found as soon as the token before it is taken, ahead of any fault of that token.

Faults are located by the number of code points from their place to the end.
-/

namespace BodyScrub.Pattern

/-- What is wrong in a pattern or a template. -/
inductive Complaint where
  | strayBackslash
  | badEscape (escape : Text)
  | incompleteEscape (escape : Text)
  | largeOctal (escape : Text)
  | undefinedCharacter (name : Text)
  | openGroup
  | sameLookBehind
  | groupReference (index : Nat)
  | unterminatedClass
  | badRange (low high : Text)
  | nothingToRepeat
  | multipleRepeat
  | repeatOrder
  | unexpectedEnd
  | missing (what : Text)
  | unterminatedName (closing : CodePoint)
  | unknownExtension (extension : Text)
  | badName (name : Text)
  | redefinition (name : Text) (new old : Nat)
  | tooManyGroups
  /-- The same of a group without a name, whose place is not found. -/
  | tooManyUnnamed
  | unknownName (name : Text)
  | groupZero
  | unterminatedGroup
  | unterminatedComment
  | threeBranches
  | lateFlags
  | localeFlag
  | incompatibleFlags
  | permanentFlag
  | globalFlagOn
  | globalFlagOff
  | flagOnAndOff
  | unknownFlag
  | unbalanced
  | variableLookBehind
  | longLookBehind
  | templateOperator (operator : Text)
deriving DecidableEq

def Complaint.text : Complaint → Text
  | strayBackslash => "bad escape (end of pattern)"
  | badEscape escape => "bad escape " ++ escape
  | incompleteEscape escape => "incomplete escape " ++ escape
  | largeOctal escape => "octal escape value " ++ escape ++ " outside of range 0-0o377"
  | undefinedCharacter name => "undefined character name " ++ name.quoted
  | openGroup => "cannot refer to an open group"
  | sameLookBehind => "cannot refer to group defined in the same lookbehind subpattern"
  | groupReference index => "invalid group reference " ++ Text.ofNat index
  | unterminatedClass => "unterminated character set"
  | badRange low high => "bad character range " ++ low ++ ('-' : CodePoint) :: high
  | nothingToRepeat => "nothing to repeat"
  | multipleRepeat => "multiple repeat"
  | repeatOrder => "min repeat greater than max repeat"
  | unexpectedEnd => "unexpected end of pattern"
  | missing what => "missing " ++ what
  | unterminatedName closing => "missing " ++ closing :: (", unterminated name" : Text)
  | unknownExtension extension => "unknown extension " ++ extension
  | badName name => "bad character in group name " ++ name.quoted
  | redefinition name new old =>
    "redefinition of group name " ++ name.quoted ++ " as group " ++ Text.ofNat new ++ "; was group "
      ++ Text.ofNat old
  | tooManyGroups => "too many groups"
  | tooManyUnnamed => "object of type 'NoneType' has no len()"
  | unknownName name => "unknown group name " ++ name.quoted
  | groupZero => "bad group number"
  | unterminatedGroup => "missing ), unterminated subpattern"
  | unterminatedComment => "missing ), unterminated comment"
  | threeBranches => "conditional backref with more than two branches"
  | lateFlags => "global flags not at the start of the expression"
  | localeFlag => "bad inline flags: cannot use 'L' flag with a str pattern"
  | incompatibleFlags => "bad inline flags: flags 'a', 'u' and 'L' are incompatible"
  | permanentFlag => "bad inline flags: cannot turn off flags 'a', 'u' and 'L'"
  | globalFlagOn => "bad inline flags: cannot turn on global flag"
  | globalFlagOff => "bad inline flags: cannot turn off global flag"
  | flagOnAndOff => "bad inline flags: flag turned on and off"
  | unknownFlag => "unknown flag"
  | unbalanced => "unbalanced parenthesis"
  | variableLookBehind => "look-behind requires fixed-width pattern"
  | longLookBehind => "looks too much behind"
  | templateOperator operator => "internal: unsupported template operator " ++ operator

/-- A fault while reading. -/
inductive Stop where
  | at (complaint : Complaint) (left : Nat)
  /-- A complaint about the whole. -/
  | whole (complaint : Complaint)
  /-- A number that no count may reach. -/
  | repetitionTooLarge
  /-- A number with that many digits. -/
  | digits (count : Nat)
  /-- Flags for ASCII only and for all scripts together. -/
  | scriptFlags
deriving DecidableEq

/-- Why a pattern or a template could not be read. -/
inductive Fault where
  /-- A complaint at a place, in a text of one line or of several. -/
  | at (complaint : Complaint) (mark : Mark) (severalLines : Bool)
  | whole (complaint : Complaint)
  | repetitionTooLarge
  | digits (count : Nat)
  | scriptFlags
deriving DecidableEq

def Fault.text : Fault → Text
  | .at complaint mark severalLines =>
    complaint.text ++ (" at position " : Text) ++ Text.ofNat mark.offset ++
      if severalLines then
        (" (line " : Text) ++ Text.ofNat mark.line ++ (", column " : Text) ++ Text.ofNat mark.column ++ (")" : Text)
      else []
  | .whole complaint => complaint.text
  | .repetitionTooLarge => "the repetition number is too large"
  | .digits count => tooManyDigits count
  | .scriptFlags => "ASCII and UNICODE flags are incompatible"

/-- A fault while reading `source`, with its place. -/
def Stop.locate (source : Text) : Stop → Fault
  | .at complaint left =>
    .at complaint (Mark.of source (source.length - left)) (source.contains CodePoint.newline)
  | .whole complaint => .whole complaint
  | .repetitionTooLarge => .repetitionTooLarge
  | .digits count => .digits count
  | .scriptFlags => .scriptFlags

inductive Token where
  | plain (c : CodePoint)
  | escaped (c : CodePoint)
  /-- A backslash at the end. -/
  | stray
deriving DecidableEq

namespace Token

def text : Token → Text
  | plain c => [c]
  | escaped c => [CodePoint.backslash, c]
  | stray => [CodePoint.backslash]

def ofText : Text → List Token
  | [] => []
  | c :: t =>
    if c = CodePoint.backslash then
      match t with
      | [] => [stray]
      | e :: t => escaped e :: ofText t
    else plain c :: ofText t

/-- The number of code points of some tokens. -/
def left (ts : List Token) : Nat := (ts.flatMap Token.text).length

/-- Refuses a stray backslash that comes next. -/
def checkNext (ts : List Token) : Except Stop Unit :=
  match ts with
  | stray :: _ => .error (.at .strayBackslash 1)
  | _ => .ok ()

/-- The next token, if there is one, and the tokens after it. -/
def take (ts : List Token) : Except Stop (Option Token × List Token) :=
  match ts with
  | [] => .ok (none, [])
  | t :: rest => (checkNext rest).map fun _ => (some t, rest)

/-- The tokens after `c`, if it comes next. -/
def skip? (c : CodePoint) (ts : List Token) : Except Stop (Option (List Token)) :=
  match ts with
  | plain d :: rest => if d = c then (checkNext rest).map fun _ => some rest else .ok none
  | _ => .ok none

/-- The longest run of at most `limit` code points in a class, and the tokens after it. -/
def takeWhile (p : CodePoint → Bool) : (limit : Nat) → List Token → Except Stop (Text × List Token)
  | limit + 1, plain c :: rest =>
    if p c then
      match checkNext rest with
      | .ok () => (takeWhile p limit rest).map fun (t, ts) => (c :: t, ts)
      | .error e => .error e
    else .ok ([], plain c :: rest)
  | _, ts => .ok ([], ts)

/-- The text up to `closing`, which is called `what` if it is missing, and the tokens after `closing`. -/
def takeUntil (closing : CodePoint) (what : Text) (done : Text) (ts : List Token) :
    Except Stop (Text × List Token) :=
  match ts with
  | [] =>
    if done.isEmpty then .error (.at (.missing what) 0)
    else .error (.at (.unterminatedName closing) done.length)
  | t :: rest =>
    match checkNext rest with
    | .error e => .error e
    | .ok () =>
      if t = plain closing then
        if done.isEmpty then .error (.at (.missing what) (left rest + 1)) else .ok (done, rest)
      else takeUntil closing what (done ++ t.text) rest

end Token

/-- The code point of an escape for a control character or a backslash. -/
def controlEscape? (c : CodePoint) : Option CodePoint :=
  if c = 'a' then some (CodePoint.ofNat 7)
  else if c = 'b' then some (CodePoint.ofNat 8)
  else if c = 'f' then some (CodePoint.ofNat 12)
  else if c = 'n' then some (CodePoint.ofNat 10)
  else if c = 'r' then some (CodePoint.ofNat 13)
  else if c = 't' then some (CodePoint.ofNat 9)
  else if c = 'v' then some (CodePoint.ofNat 11)
  else if c = CodePoint.backslash then some c
  else none

/-- The number that digits spell in a base. -/
def digitsIn (base : Nat) (t : Text) : Nat := Text.spelled base (t.filterMap CodePoint.hexDigit?)

/-- The largest number of an octal escape. -/
def maxOctal : Nat := 0xFF

/-- Group numbers are below this. -/
def maxGroups : Nat := 1073741823

end BodyScrub.Pattern
