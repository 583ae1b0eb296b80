import BodyScrub.Text.CaseTable

/-!
# Letter case

The full mappings of a text, which may lengthen it and which write a sigma at the end of a word in its final
form, and the one-to-one mapping that case-insensitive patterns compare by.
-/

namespace BodyScrub

/-- A code point moved by the run that covers it, if one does. -/
def shiftCase (runs : List CaseRun) (c : CodePoint) : CodePoint :=
  match runs.find? (·.covers c.val) with
  | some r => CodePoint.ofNat (c.val + r.shift).toNat
  | none => c

/-- A code point mapped through its expansion if it has one, else moved by its run. -/
def mapCase (runs : List CaseRun) (expansions : List (Nat × List Nat)) (c : CodePoint) : Text :=
  match expansions.find? (·.1 = c.val) with
  | some (_, ns) => ns.map CodePoint.ofNat
  | none => [shiftCase runs c]

namespace CodePoint

/-- The lower case of a code point that stands alone. -/
def lower (c : CodePoint) : Text := mapCase lowerRuns lowerExpansions c

def upper (c : CodePoint) : Text := mapCase upperRuns upperExpansions c

/-- The first code point of the lower case: what case-insensitive patterns compare. -/
def foldLower (c : CodePoint) : CodePoint := c.lower.headD c

/-- The first code point of the upper case. -/
def foldUpper (c : CodePoint) : CodePoint := c.upper.headD c

/-- Whether either mapping moves the code point. -/
def isCased (c : CodePoint) : Bool := c.foldLower != c || c.foldUpper != c

/-- The other lower-case code points with the same upper case. -/
def caseSiblings (c : CodePoint) : List CodePoint :=
  match sharedUpper.find? (·.contains c.val) with
  | some ns => (ns.filter (· ≠ c.val)).map ofNat
  | none => []

/-- The lower case of `A` to `Z`; all else stays. -/
def asciiLower (c : CodePoint) : CodePoint :=
  if 0x41 ≤ c.val && c.val ≤ 0x5A then ofNat (c.val + 32) else c

end CodePoint

namespace Text

/-- Whether a cased letter comes first, once what is skipped around a sigma is skipped. -/
def beginsCased (t : Text) : Bool :=
  match t.dropWhile ignorablePoints.contains with
  | [] => false
  | c :: _ => casedPoints.contains c

/-- A sigma ends its word if a letter stands before it and none after it. -/
def sigmaIsFinal (before after : Text) : Bool := beginsCased before && !beginsCased after

/-- The lower case of what follows `before`, which is given backwards. -/
def lowerFrom (before : Text) : Text → Text
  | [] => []
  | c :: rest =>
    (if c.val = 0x3A3 then
      [CodePoint.ofNat (if sigmaIsFinal before rest then 0x3C2 else 0x3C3)]
    else c.lower) ++ lowerFrom (c :: before) rest

def lower (t : Text) : Text := lowerFrom [] t

def upper (t : Text) : Text := t.flatMap CodePoint.upper

end Text

end BodyScrub
