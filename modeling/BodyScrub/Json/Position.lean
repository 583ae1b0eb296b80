import BodyScrub.Json.Value

/-!
# Positions in a value

A position is the way from the root to a node: names of members and indices of items. `alter` changes the node at
a position, or takes it out, and leaves everything else where it is.
-/

namespace BodyScrub.Json

/-- One step down: to a member or to an item. -/
inductive Step where
  | name (key : Text)
  | index (i : Nat)
deriving DecidableEq

/-- The way from the root to a node. -/
abbrev Position := List Step

/-- Changes the item at an index, or takes it out. -/
def alterItem {α : Type} (f : α → Option α) : Nat → List α → List α
  | _, [] => []
  | 0, a :: as =>
    match f a with
    | some b => b :: as
    | none => as
  | i + 1, a :: as => a :: alterItem f i as

namespace Value

def child? : Step → Value → Option Value
  | .name key, object members => Entries.get? key members
  | .index i, array items => items[i]?
  | _, _ => none

def get? : Position → Value → Option Value
  | [], v => some v
  | s :: p, v => (v.child? s).bind (get? p)

/-- Changes the node at a position, or takes it out. A position that leads nowhere changes nothing; `none` means
that the root itself was taken out. -/
def alter (f : Value → Option Value) : Position → Value → Option Value
  | [], v => f v
  | .name key :: p, object members => some (object (Entries.alter key (alter f p) members))
  | .index i :: p, array items => some (array (alterItem (alter f p) i items))
  | _ :: _, v => some v

def set (p : Position) (new : Value) (v : Value) : Value := (alter (fun _ => some new) p v).getD v

/-- The value without the node at a position; the root stays. -/
def erase (p : Position) (v : Value) : Value := (alter (fun _ => none) p v).getD v

end Value

end BodyScrub.Json
