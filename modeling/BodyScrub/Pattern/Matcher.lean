import BodyScrub.Pattern.Node

/-!
# Matching

Matching with backtracking: every part is given what has to match after it, and tries its possibilities in order
until that succeeds. So of several alternatives the first that leads to a match wins.

A repetition makes an optional round only if the round before it moved on, so it ends: `rounds` counts the rounds
that can still come, which are at most the least count, one for every code point left and two more.
-/

namespace BodyScrub.Pattern

/-- The text that a pattern is matched against. -/
abbrev Subject := Array CodePoint

/-- A stretch of the subject. -/
structure Span where
  start : Nat
  stop : Nat
deriving DecidableEq

def Span.text (s : Subject) (r : Span) : Text := (s.extract r.start r.stop).toList

/-- Where a match stands: the place, and what the numbered groups matched, the latest first. -/
structure Progress where
  place : Nat
  groups : List (Nat × Span)

namespace Progress

/-- What a group matched last. -/
def group? (p : Progress) (index : Nat) : Option Span :=
  (p.groups.find? (·.1 = index)).map (·.2)

end Progress

/-- What has to match after a part. -/
abbrev Continuation := Progress → Option Progress

/-! ## Anchors -/

/-- Whether the code point at a place belongs to a word. -/
def isWordAt (asciiOnly : Bool) (s : Subject) (place : Nat) : Bool :=
  match s[place]? with
  | some c => Category.word.contains asciiOnly c
  | none => false

/-- Whether an anchor holds at a place. In an empty subject no word boundary holds, negated or not. -/
def Anchor.holds (s : Subject) (place : Nat) : Anchor → Bool
  | .textStart => place == 0
  | .lineStart => place == 0 || s[place - 1]? == some CodePoint.newline
  | .textEnd => place == s.size
  | .finalLineEnd =>
    place == s.size || (place + 1 == s.size && s[place]? == some CodePoint.newline)
  | .lineEnd => place == s.size || s[place]? == some CodePoint.newline
  | .wordBoundary negated asciiOnly =>
    let before := place != 0 && isWordAt asciiOnly s (place - 1)
    let after := isWordAt asciiOnly s place
    s.size != 0 && (before != after) != negated

/-! ## Repetitions of one code point -/

/-- How many code points from a place on pass a test, up to `limit`. -/
def countPassing (s : Subject) (t : PointTest) : (limit place : Nat) → Nat
  | 0, _ => 0
  | limit + 1, place =>
    match s[place]? with
    | some c => if t.accepts c then countPassing s t limit (place + 1) + 1 else 0
    | none => 0

/-- Tries the counts from `least + extra` down to `least`. -/
def tryDown (k : Nat → Option Progress) (least : Nat) : (extra : Nat) → Option Progress
  | 0 => k least
  | extra + 1 =>
    match k (least + (extra + 1)) with
    | some r => some r
    | none => tryDown k least extra

/-- Tries the counts from `least` up to `least + extra`. -/
def tryUp (k : Nat → Option Progress) : (least extra : Nat) → Option Progress
  | least, 0 => k least
  | least, extra + 1 =>
    match k least with
    | some r => some r
    | none => tryUp k (least + 1) extra

/-- A repetition of one test. -/
def repeatTest (s : Subject) (t : PointTest) (least : Nat) (most : Option Nat) (pace : Pace) (p : Progress)
    (k : Continuation) : Option Progress :=
  let left := s.size - p.place
  let count := countPassing s t (match most with | some m => min m left | none => left) p.place
  if count < least then none
  else
    let atCount (n : Nat) : Option Progress := k { p with place := p.place + n }
    match pace with
    | .greedy => tryDown atCount least (count - least)
    | .lazy => tryUp atCount least (count - least)
    | .possessive => atCount count

/-! ## Repetitions of a part -/

/-- A part that is to be repeated: from where a match stands, through what comes after. -/
abbrev Body := Progress → Continuation → Option Progress

/-- Whether another round is allowed after `done` rounds. -/
def mayRepeat (most : Option Nat) (done : Nat) : Bool :=
  match most with
  | some m => done < m
  | none => true

/-- As many rounds as possible. `last` is where the latest optional round began. -/
def repeatGreedy (body : Body) (least : Nat) (most : Option Nat) :
    (rounds done : Nat) → (last : Option Nat) → Progress → Continuation → Option Progress
  | 0, _, _, p, k => k p
  | rounds + 1, done, last, p, k =>
    if done < least then body p fun q => repeatGreedy body least most rounds (done + 1) last q k
    else if mayRepeat most done && last ≠ some p.place then
      match body p fun q => repeatGreedy body least most rounds (done + 1) (some p.place) q k with
      | some r => some r
      | none => k p
    else k p

/-- As few rounds as possible. -/
def repeatLazy (body : Body) (least : Nat) (most : Option Nat) :
    (rounds done : Nat) → (last : Option Nat) → Progress → Continuation → Option Progress
  | 0, _, _, p, k => k p
  | rounds + 1, done, last, p, k =>
    if done < least then body p fun q => repeatLazy body least most rounds (done + 1) last q k
    else
      match k p with
      | some r => some r
      | none =>
        if mayRepeat most done && last ≠ some p.place then
          body p fun q => repeatLazy body least most rounds (done + 1) (some p.place) q k
        else none

/-- As many rounds as possible, each by its first match. -/
def repeatPossessive (body : Body) (least : Nat) (most : Option Nat) :
    (rounds done : Nat) → (last : Option Nat) → Progress → Option Progress
  | 0, _, _, p => some p
  | rounds + 1, done, last, p =>
    if done < least then
      match body p some with
      | some q => repeatPossessive body least most rounds (done + 1) last q
      | none => none
    else if mayRepeat most done && last ≠ some p.place then
      match body p some with
      | some q => repeatPossessive body least most rounds (done + 1) (some p.place) q
      | none => some p
    else some p

/-! ## Parts -/

/-- What a group matched, found again at the place of a match. -/
def matchAgain (s : Subject) (folding : Folding) (r : Span) (p : Progress) (k : Continuation) :
    Option Progress :=
  let length := r.stop - r.start
  let here : Span := ⟨p.place, p.place + length⟩
  if here.stop ≤ s.size && (here.text s).map folding.fold == (r.text s).map folding.fold then
    k { p with place := here.stop }
  else none

/-- Matches a part from where a match stands, and then what comes after. -/
def Node.run (s : Subject) : Node → Progress → Continuation → Option Progress
  | .empty, p, k => k p
  | .test t, p, k =>
    match s[p.place]? with
    | some c => if t.accepts c then k { p with place := p.place + 1 } else none
    | none => none
  | .anchor a, p, k => if a.holds s p.place then k p else none
  | .seq first second, p, k => first.run s p fun q => second.run s q k
  | .either first second, p, k =>
    match first.run s p k with
    | some r => some r
    | none => second.run s p k
  | .capture index body, p, k =>
    body.run s p fun q => k { q with groups := (index, ⟨p.place, q.place⟩) :: q.groups }
  | .repeated least most pace (.test t), p, k => repeatTest s t least most pace p k
  | .repeated least most pace body, p, k =>
    let rounds := least + (s.size - p.place) + 2
    match pace with
    | .greedy => repeatGreedy (body.run s) least most rounds 0 none p k
    | .lazy => repeatLazy (body.run s) least most rounds 0 none p k
    | .possessive =>
      match repeatPossessive (body.run s) least most rounds 0 none p with
      | some q => k q
      | none => none
  | .backReference index folding, p, k =>
    match p.group? index with
    | some r => matchAgain s folding r p k
    | none => none
  | .lookAhead negated body, p, k =>
    match body.run s p some with
    | some q => if negated then none else k { q with place := p.place }
    | none => if negated then k p else none
  | .lookBehind negated least _ body, p, k =>
    let found :=
      if least ≤ p.place then body.run s { p with place := p.place - least } some else none
    match found with
    | some q => if negated then none else k { q with place := p.place }
    | none => if negated then k p else none
  | .atomic body, p, k =>
    match body.run s p some with
    | some q => k q
    | none => none
  | .conditional index yes no, p, k =>
    match p.group? index with
    | some _ => yes.run s p k
    | none => no.run s p k

end BodyScrub.Pattern
