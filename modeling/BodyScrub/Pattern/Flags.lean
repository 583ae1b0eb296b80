import BodyScrub.Pattern.PointTest
import BodyScrub.Pattern.Token

/-!
# Flags

How a pattern reads and compares. Flags are given with the whole pattern, at its start, or for one group. Flags
for ASCII only and for all scripts exclude each other; without either all scripts are meant.
-/

namespace BodyScrub.Pattern

/-- The flags of a pattern or of a part of it. -/
structure Flags where
  ignoreCase : Bool
  multiline : Bool
  dotAll : Bool
  /-- Blanks and comments in the pattern mean nothing. -/
  spaced : Bool
  asciiOnly : Bool
  allScripts : Bool
  /-- A flag that is known and allows no repetition. -/
  plain : Bool
deriving DecidableEq

namespace Flags

def empty : Flags := ⟨false, false, false, false, false, false, false⟩

/-- The flag of a letter, besides others. -/
def add? (f : Flags) (c : CodePoint) : Option Flags :=
  if c = 'i' then some { f with ignoreCase := true }
  else if c = 'm' then some { f with multiline := true }
  else if c = 's' then some { f with dotAll := true }
  else if c = 'x' then some { f with spaced := true }
  else if c = 'a' then some { f with asciiOnly := true }
  else if c = 'u' then some { f with allScripts := true }
  else if c = 't' then some { f with plain := true }
  else none

/-- A flag for one-byte text, which has a letter and may not be used. -/
def isLocaleLetter (c : CodePoint) : Bool := c = 'L'

def isLetter (c : CodePoint) : Bool := isLocaleLetter c || (empty.add? c).isSome

/-- The letters of flags that choose scripts. -/
def choosesScripts (c : CodePoint) : Bool := isLocaleLetter c || c = 'a' || c = 'u'

def union (f g : Flags) : Flags :=
  ⟨f.ignoreCase || g.ignoreCase, f.multiline || g.multiline, f.dotAll || g.dotAll, f.spaced || g.spaced,
    f.asciiOnly || g.asciiOnly, f.allScripts || g.allScripts, f.plain || g.plain⟩

def without (f g : Flags) : Flags :=
  ⟨f.ignoreCase && !g.ignoreCase, f.multiline && !g.multiline, f.dotAll && !g.dotAll, f.spaced && !g.spaced,
    f.asciiOnly && !g.asciiOnly, f.allScripts && !g.allScripts, f.plain && !g.plain⟩

/-- The flags inside a group that turns some on and some off. Choosing scripts undoes an earlier choice. -/
def within (f on off : Flags) : Flags :=
  let f := if on.asciiOnly || on.allScripts then { f with asciiOnly := false, allScripts := false } else f
  (f.union on).without off

/-- How letters are compared under some flags. -/
def folding (f : Flags) : Folding :=
  if f.ignoreCase then if f.asciiOnly then .ascii else .unicode else .exact

/-- Two choices of scripts. -/
def isTorn (f : Flags) : Bool := f.asciiOnly && f.allScripts

/-! ## Flags inside a pattern -/

/-- What a letter that is no flag is called, where `expected` could have come. -/
def complaintAbout (expected : Text) (t : Token) : Complaint :=
  match t with
  | .plain c => if c.isLetter then .unknownFlag else .missing expected
  | _ => .missing expected

/-- Turns on the flag of the letter `c`, and those of the letters that follow; also gives what ended them. -/
def readOn (on : Flags) (c : CodePoint) (ts : List Token) :
    Except Stop ((Flags × CodePoint) × List Token) :=
  if isLocaleLetter c then .error (.at .localeFlag (Token.left ts))
  else
    let on := (on.add? c).getD on
    if on.isTorn then .error (.at .incompatibleFlags (Token.left ts))
    else
      match ts with
      | [] => .error (.at (.missing "-, : or )") 0)
      | t :: rest =>
        match Token.checkNext rest with
        | .error e => .error e
        | .ok () =>
          let refused := Stop.at (complaintAbout "-, : or )" t) (Token.left (t :: rest))
          match t with
          | .plain d =>
            if d = ')' || d = '-' || d = ':' then .ok ((on, d), rest)
            else if isLetter d then readOn on d rest
            else .error refused
          | _ => .error refused

/-- Turns off the flag of the letter `c`, and those of the letters up to a colon. -/
def readOff (off : Flags) (c : CodePoint) (ts : List Token) : Except Stop (Flags × List Token) :=
  if choosesScripts c then .error (.at .permanentFlag (Token.left ts))
  else
    let off := (off.add? c).getD off
    match ts with
    | [] => .error (.at (.missing ":") 0)
    | t :: rest =>
      match Token.checkNext rest with
      | .error e => .error e
      | .ok () =>
        let refused := Stop.at (complaintAbout ":" t) (Token.left (t :: rest))
        match t with
        | .plain d =>
          if d = ':' then .ok (off, rest)
          else if isLetter d then readOff off d rest
          else .error refused
        | _ => .error refused

/-- The flags after a hyphen. -/
def readFirstOff (ts : List Token) : Except Stop (Flags × List Token) :=
  match ts with
  | [] => .error (.at (.missing "flag") 0)
  | t :: rest =>
    match Token.checkNext rest with
    | .error e => .error e
    | .ok () =>
      let refused := Stop.at (complaintAbout "flag" t) (Token.left (t :: rest))
      match t with
      | .plain c => if isLetter c then readOff empty c rest else .error refused
      | _ => .error refused

/-- What the flags of a group apply to. -/
inductive Scope where
  | whole (on : Flags)
  | group (on off : Flags)
deriving DecidableEq

/-- Flags for a group, whose body comes next. -/
def scopeOf (on off : Flags) (ts : List Token) : Except Stop (Scope × List Token) :=
  if off.plain then .error (.at .globalFlagOff (Token.left ts + 1))
  else if on.without off ≠ on then
    .error (.at .flagOnAndOff (Token.left ts + 1))
  else .ok (.group on off, ts)

/-- Flags after the question mark of a group: `c` is the first letter, or a hyphen. -/
def readScope (c : CodePoint) (ts : List Token) : Except Stop (Scope × List Token) :=
  if c = '-' then (readFirstOff ts).bind fun (off, ts) => scopeOf empty off ts
  else
    (readOn empty c ts).bind fun ((on, d), ts) =>
      if d = ')' then .ok (.whole on, ts)
      else if on.plain then .error (.at .globalFlagOn (Token.left ts + 1))
      else if d = '-' then (readFirstOff ts).bind fun (off, ts) => scopeOf on off ts
      else scopeOf on empty ts

end Flags

end BodyScrub.Pattern
