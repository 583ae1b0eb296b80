import BodyScrub.Pattern.Matcher
import BodyScrub.Pattern.Reader

/-!
# Searching and replacing

The matches of a pattern in a text, from left to right and without overlap. An empty match may follow a match
directly, but not an empty one.
-/

namespace BodyScrub

open Pattern (Subject Span Progress)

structure Match where
  span : Span
  /-- What the numbered groups matched, the latest first. -/
  groups : List (Nat × Span)

namespace Match

/-- What a group matched: group zero is the whole match. A group that did not take part matched nothing. -/
def groupText (m : Match) (s : Subject) (index : Nat) : Text :=
  if index = 0 then m.span.text s
  else
    match m.groups.find? (·.1 = index) with
    | some (_, r) => r.text s
    | none => []

end Match

namespace Pattern

/-- The match at a place; `nonempty` refuses an empty one. -/
def matchAt (p : Pattern) (s : Subject) (place : Nat) (nonempty : Bool) : Option Match :=
  (p.node.run s ⟨place, []⟩ fun q => if nonempty && q.place = place then none else some q).map
    fun q => ⟨⟨place, q.place⟩, q.groups⟩

/-- The first match at one of `count` places. At the first of them `nonempty` refuses an empty match. -/
def findAmong (p : Pattern) (s : Subject) : (count place : Nat) → (nonempty : Bool) → Option Match
  | 0, _, _ => none
  | count + 1, place, nonempty =>
    match p.matchAt s place nonempty with
    | some m => some m
    | none => findAmong p s count (place + 1) false

/-- The first match from a place on. -/
def findFrom (p : Pattern) (s : Subject) (place : Nat) (nonempty : Bool) : Option Match :=
  p.findAmong s (s.size + 1 - place) place nonempty

/-- At most `limit` matches from a place on. -/
def matchesFrom (p : Pattern) (s : Subject) : (limit place : Nat) → (nonempty : Bool) → List Match
  | 0, _, _ => []
  | limit + 1, place, nonempty =>
    match p.findFrom s place nonempty with
    | some m => m :: matchesFrom p s limit m.span.stop (m.span.start = m.span.stop)
    | none => []

/-- All matches. Every place begins at most one empty match and one other. -/
def allMatches (p : Pattern) (s : Subject) : List Match := p.matchesFrom s (2 * s.size + 2) 0 false

def occursIn (p : Pattern) (t : Text) : Bool := (p.findFrom t.toArray 0 false).isSome

/-- The text from a place on with every match replaced. -/
def splice (s : Subject) (f : Match → Text) : (place : Nat) → List Match → Text
  | place, [] => (⟨place, s.size⟩ : Span).text s
  | place, m :: ms => (⟨place, m.span.start⟩ : Span).text s ++ f m ++ splice s f m.span.stop ms

def replaceAll (p : Pattern) (f : Subject → Match → Text) (t : Text) : Text :=
  splice t.toArray (f t.toArray) 0 (p.allMatches t.toArray)

end Pattern

end BodyScrub
