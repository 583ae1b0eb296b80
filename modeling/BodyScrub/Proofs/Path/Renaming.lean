import BodyScrub.Proofs.Path.Simultaneous
import Mathlib.Data.List.Forall2

/-!
# Other names under a wildcard

A wildcard selects members whatever their names are. Two values that differ only in the names of such members
(`Renamed`) have the same addressed nodes, one by one in the same order, and the positions of two that correspond
differ only in such names (`locations_renamed`).
-/

namespace BodyScrub

open Json (Value Step Position)

/-! ## Values -/

/-- Two nodes that are equal up to what `R` allows for the children that a segment selects. Members that a wildcard
selects may have other names. -/
def Segment.Relates (R : Value → Value → Prop) : Segment → Value → Value → Prop
  | .field name, .object ms, .object ns =>
    List.Forall₂ (fun m n => m.1 = n.1 ∧ if m.1 = name then R m.2 n.2 else m.2 = n.2) ms ns
  | .index i, .array vs, .array ws =>
    vs.length = ws.length ∧ ∀ k v w, vs[k]? = some v → ws[k]? = some w →
      if itemIndex i vs.length = some k then R v w else v = w
  | .wildcard, .object ms, .object ns => List.Forall₂ (fun m n => R m.2 n.2) ms ns
  | .wildcard, .array vs, .array ws => List.Forall₂ R vs ws
  | _, v, w => v = w

/-- Two values that are equal except for the names of members that segments reach by a wildcard. The members are in
the same order. -/
def Renamed : List Segment → Value → Value → Prop
  | [], v, w => v = w
  | s :: rest, v, w => s.Relates (Renamed rest) v w

/-! ## Positions -/

/-- Two steps by the same segment to children that correspond. -/
inductive SameStep : (s : Segment) → (a b : Step) → Prop where
  | same (s : Segment) (a : Step) : SameStep s a a
  | renamed (m n : Text) : SameStep .wildcard (.name m) (.name n)

/-- Two positions that are equal except for names that a wildcard reached. -/
inductive SamePlace : (segments : List Segment) → (p q : Position) → Prop where
  | root : SamePlace [] [] []
  | step {s : Segment} {rest : List Segment} {a b : Step} {p q : Position} (h : SameStep s a b)
    (below : SamePlace rest p q) : SamePlace (s :: rest) (a :: p) (b :: q)

/-! ## Addressed nodes -/

namespace Segment

variable {R : Value → Value → Prop}

/-- Members that correspond under their names have values that correspond: what one object has at a name the other
one has at the same name. -/
theorem relates_get? {name : Text} {ms ns : Entries Value}
    (h : List.Forall₂ (fun m n => m.1 = n.1 ∧ if m.1 = name then R m.2 n.2 else m.2 = n.2) ms ns) :
    Option.Rel R (Entries.get? name ms) (Entries.get? name ns) := by
  induction h with
  | nil => exact .none
  | @cons m n ms ns hmn _ ih =>
    obtain ⟨hname, hvalue⟩ := hmn
    rw [Entries.get?, Entries.get?, ← hname]
    -- this member is the one that is asked for, or the others are looked at
    split
    · next hm =>
      rw [if_pos hm] at hvalue
      exact .some hvalue
    · exact ih

/-- Items that correspond one by one are numbered alike, from whatever number on. A renaming never touches the
numbers of items. -/
theorem itemChildren_relates {vs ws : List Value} (h : List.Forall₂ R vs ws) (start : Nat) :
    List.Forall₂ (fun x y => SameStep wildcard x.1 y.1 ∧ R x.2 y.2) (itemChildren vs start)
      (itemChildren ws start) := by
  induction h generalizing start with
  | nil => exact .nil
  | cons hvw _ ih => exact .cons ⟨.same _ _, hvw⟩ (ih (start + 1))

/-- The selected children of two such nodes correspond, one by one and in the same order. A name and an index lead
to the same step in both; under a wildcard two names may be different. -/
theorem children_relates {s : Segment} {v w : Value} (h : s.Relates R v w) :
    List.Forall₂ (fun x y => SameStep s x.1 y.1 ∧ R x.2 y.2) (s.children v) (s.children w) := by
  cases v with
  | array vs =>
    cases s with
    | field name =>
      obtain rfl : Value.array vs = w := h
      exact .nil
    | wildcard =>
      cases w with
      | array ws => exact itemChildren_relates h 0
      | _ => cases h
    | index i =>
      cases w with
      | array ws =>
        obtain ⟨hlength, hitems⟩ := h
        cases hj : itemIndex i vs.length with
        | none =>
          rw [children, children, ← hlength, hj]
          exact .nil
        | some j =>
          -- the arrays are of one length, so the index counts to the same item
          have hj' : itemIndex i ws.length = some j := by rw [← hlength, hj]
          have hv := List.getElem?_eq_getElem (itemIndex_lt hj)
          have hw := List.getElem?_eq_getElem (itemIndex_lt hj')
          have hvw := hitems j _ _ hv hw
          rw [if_pos hj] at hvw
          rw [children_index hj, children_index hj', hv, hw]
          exact .cons ⟨.same _ _, hvw⟩ .nil
      | _ => cases h
  | object ms =>
    cases s with
    | index i =>
      obtain rfl : Value.object ms = w := h
      exact .nil
    | wildcard =>
      cases w with
      | object ns =>
        refine List.rel_map (fun m n hmn => ?_) h
        exact ⟨.renamed m.1 n.1, hmn⟩
      | _ => cases h
    | field name =>
      cases w with
      | object ns =>
        have hfound := relates_get? h
        rw [children_field, children_field]
        generalize Entries.get? name ms = found, Entries.get? name ns = found' at hfound
        cases hfound with
        | none => exact .nil
        | some hvw => exact .cons ⟨.same _ _, hvw⟩ .nil
      | _ => cases h
  | _ =>
    cases s <;>
      obtain rfl := h <;>
      exact .nil

end Segment

/-- Two values that differ in names under wildcards have the same addressed nodes, at positions that differ only in
such names. So whatever is told by values alone is the same for both. -/
theorem locations_renamed {segments : List Segment} {v w : Value} (h : Renamed segments v w) :
    List.Forall₂ (fun l m => l.value = m.value ∧ SamePlace segments l.position m.position)
      (resolveSegments segments v) (resolveSegments segments w) := by
  induction segments generalizing v w with
  | nil => exact .cons ⟨h, .root⟩ .nil
  | cons s rest ih =>
    rw [resolveSegments_cons, resolveSegments_cons]
    -- below children that correspond the rest of the segments finds nodes that correspond
    refine List.rel_flatMap (Segment.children_relates h) fun x y hxy => ?_
    obtain ⟨hstep, hbelow⟩ := hxy
    rw [List.forall₂_map_left_iff, List.forall₂_map_right_iff]
    exact (ih hbelow).imp fun l m hlm => ⟨hlm.1, .step hstep hlm.2⟩

end BodyScrub
