import BodyScrub.Path
import BodyScrub.Text.Quoted

/-!
# What a path addresses

A path is resolved against a value into the positions of the nodes that it addresses, in document order. A name
that is missing, an index out of range or a node of the wrong kind is no fault: that branch addresses nothing.
-/

namespace BodyScrub

open Json (Value Step Position)

/-- A node that a path addresses. -/
structure Location where
  position : Position
  value : Value

namespace Location

def path (l : Location) : Text := l.position.text

/-- The last step to the node; the root has none. -/
def key? (l : Location) : Option Step := l.position.getLast?

def isRoot (l : Location) : Bool := l.position.isEmpty

end Location

/-- The index from the beginning, for one that may count from the end. -/
def itemIndex (i : Int) (count : Nat) : Option Nat :=
  let j := if i < 0 then i + count else i
  if 0 ≤ j && j < count then some j.toNat else none

namespace Segment

/-- The children that a segment selects, each with the step to it. -/
def children : Segment → Value → List (Step × Value)
  | .field name, .object members =>
    match Entries.get? name members with
    | some v => [(.name name, v)]
    | none => []
  | .index i, .array items =>
    match itemIndex i items.length with
    | some j => (items[j]?.map fun v => (Step.index j, v)).toList
    | none => []
  | .wildcard, .object members => members.map fun (n, v) => (.name n, v)
  | .wildcard, .array items => items.zipIdx.map fun (v, i) => (.index i, v)
  | _, _ => []

end Segment

/-- The nodes that segments address below a value, with the positions from there. -/
def resolveSegments : List Segment → Value → List Location
  | [], v => [⟨[], v⟩]
  | s :: rest, v =>
    (s.children v).flatMap fun (step, child) =>
      (resolveSegments rest child).map fun l => ⟨step :: l.position, l.value⟩

/-- A path as it is shown where it is matched. -/
def Path.matcherText (p : Path) : Text := ("PathMatcher(" : Text) ++ p.text.quoted ++ (")" : Text)

def Path.resolve (p : Path) (v : Value) : List Location := resolveSegments p.segments v

end BodyScrub
