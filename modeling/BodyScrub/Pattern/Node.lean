import BodyScrub.Pattern.PointTest

/-!
# The parts of a pattern

A pattern as a tree. Flags are already resolved: every leaf says itself how it treats case, lines and scripts.
-/

namespace BodyScrub.Pattern

/-- A condition on a place between code points. -/
inductive Anchor where
  | textStart
  | lineStart
  | textEnd
  /-- The end, or before a line feed at the end. -/
  | finalLineEnd
  | lineEnd
  /-- Between a word code point and another one, or not so. -/
  | wordBoundary (negated asciiOnly : Bool)
deriving DecidableEq

/-- How a repetition chooses its count. -/
inductive Pace where
  /-- As many as possible, then fewer. -/
  | greedy
  /-- As few as possible, then more. -/
  | lazy
  /-- As many as possible, never fewer. -/
  | possessive
deriving DecidableEq

/-- A part of a pattern. -/
inductive Node where
  | empty
  | test (t : PointTest)
  | anchor (a : Anchor)
  | seq (first second : Node)
  /-- The first alternative that leads to a match. -/
  | either (first second : Node)
  /-- Remembers what it matched under its number. -/
  | capture (index : Nat) (body : Node)
  | repeated (least : Nat) (most : Option Nat) (pace : Pace) (body : Node)
  /-- What the numbered group matched last. -/
  | backReference (index : Nat) (folding : Folding)
  | lookAhead (negated : Bool) (body : Node)
  /-- Looks at what ends here; the least and the greatest length of it have to agree. -/
  | lookBehind (negated : Bool) (least most : Nat) (body : Node)
  /-- Its first match only. -/
  | atomic (body : Node)
  /-- One of two parts, by whether the numbered group took part. -/
  | conditional (index : Nat) (yes no : Node)

namespace Node

/-- Lengths are counted up to here. -/
def maxLength : Nat := Nat.pow 2 64

/-- The greatest count that a repetition may name is below this. -/
def maxRepeat : Nat := 4294967295

/-- The least and the greatest length of what a part matches, given those of the numbered groups. -/
def lengths (group : Nat → Nat × Nat) : Node → Nat × Nat
  | empty => (0, 0)
  | test _ => (1, 1)
  | anchor _ => (0, 0)
  | seq first second =>
    let (a, b) := first.lengths group
    let (c, d) := second.lengths group
    (min (a + c) maxLength, min (b + d) maxLength)
  | either first second =>
    let (a, b) := first.lengths group
    let (c, d) := second.lengths group
    (min a c, max b d)
  | capture _ body => body.lengths group
  | repeated least most _ body =>
    let (a, b) := body.lengths group
    let high := match most with
      | none => if b = 0 then 0 else maxLength
      | some m => b * m
    (min (a * least) maxLength, min high maxLength)
  | backReference index _ => group index
  | lookAhead _ _ => (0, 0)
  | lookBehind _ _ _ _ => (0, 0)
  | atomic body => body.lengths group
  | conditional _ yes no =>
    let (a, b) := yes.lengths group
    let (c, d) := no.lengths group
    (min a c, max b d)

def ofList : List Node → Node
  | [] => empty
  | [n] => n
  | n :: ns => seq n (ofList ns)

end Node

end BodyScrub.Pattern
