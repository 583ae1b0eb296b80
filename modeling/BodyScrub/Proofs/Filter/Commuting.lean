import BodyScrub.Proofs.Filter.Merge
import BodyScrub.Proofs.Operation

/-!
# Steps under different members

Two steps whose paths go on under different members of the same nodes have nothing to do with each other: what the
first changes or takes out lies below its own member, so that the second addresses the same nodes with the same values
in either order (`resolve_alterField`), and entries under different names are changed in either order
(`alterField_comm`). A filter gives the same text whichever of the two steps comes first.
-/

namespace BodyScrub

open Json (Value)

/-! ## One node -/

namespace Segment

/-- Changes of two members of one node can be made in either order, whether they put something in their place or
take them out. -/
theorem alterField_comm {f g : Text} (hfg : f ≠ g) (F G : Value → Option Value) (v : Value) :
    (field f).alterChildren F ((field g).alterChildren G v)
      = (field g).alterChildren G ((field f).alterChildren F v) := by
  cases v with
  | object members => exact congrArg Value.object (Entries.alter_comm hfg.symm F G members)
  | _ => rfl

/-- A change of one member leaves what another name addresses as it was, and also whether it addresses anything. -/
theorem children_alterField {f g : Text} (hfg : f ≠ g) (F : Value → Option Value) (v : Value) :
    (field g).children ((field f).alterChildren F v) = (field g).children v := by
  cases v with
  | object members =>
    show (field g).children (.object (Entries.alter f F members)) = _
    rw [children_field, children_field, Entries.get?_alter_of_ne hfg.symm]
  | _ => rfl

end Segment

/-! ## All nodes under a common path -/

section Members

variable {f g : Text} (hfg : f ≠ g) (F G : Value → Option Value) (above below below' : List Segment) (v : Value)

include hfg

/-- What is done under one member does not show under another: the path of the second step addresses the same nodes
with the same values, at the same positions, before and after the first. -/
theorem resolve_alterField :
    resolveSegments (above ++ .field g :: below) ((alterSegments F (above ++ .field f :: below') v).getD v)
      = resolveSegments (above ++ .field g :: below) v := by
  rw [alterSegments_append_cons, Option.getD_some, resolveSegments_append, resolveSegments_append, resolve_mapSegments,
    List.flatMap_map]
  congr 1
  funext l
  rw [resolveSegments_cons, resolveSegments_cons, Segment.children_alterField hfg]

/-- The changes themselves can be made in either order, at every node that the common path leads to. What lies above
the two members is gone through once for both. -/
theorem alterSegments_field_comm :
    alterSegments F (above ++ .field f :: below) ((alterSegments G (above ++ .field g :: below') v).getD v)
      = alterSegments G (above ++ .field g :: below') ((alterSegments F (above ++ .field f :: below) v).getD v) := by
  rw [alterSegments_append_cons, alterSegments_append_cons, alterSegments_append_cons, alterSegments_append_cons,
    Option.getD_some, Option.getD_some, mapSegments_mapSegments, mapSegments_mapSegments]
  congr 2
  funext u
  exact Segment.alterField_comm hfg _ _ u

end Members

/-! ## Steps -/

namespace Filter

/-- What two steps in a row come to, where neither fails: the second works on the document of the first, and their
changes are added up. -/
theorem runSteps_pair_eq_ok_iff {s t : ScrubStep} {d : Document} {r : Document × Nat} :
    (runSteps [s, t] d).2 = .ok r
      ↔ ∃ a b, (s.apply d).2 = .ok a ∧ (t.apply (s.apply d).1).2 = .ok b
          ∧ r = ((t.apply (s.apply d).1).1, a.changed + b.changed) := by
  rw [runSteps_cons, runSteps_cons]
  constructor
  -- a run that ends without a fault had none in either step
  · intro h
    obtain ⟨a, ha, hrest⟩ := exists_of_bind_eq_ok h
    obtain ⟨r', hr', rfl⟩ := exists_of_map_eq_ok hrest
    obtain ⟨b, hb, hlast⟩ := exists_of_bind_eq_ok hr'
    obtain rfl := Except.ok.inj hlast
    exact ⟨a, b, ha, hb, rfl⟩
  · rintro ⟨a, b, ha, hb, rfl⟩
    rw [ha, hb]
    rfl

/-- Two steps under different members come to the same document with the same count in either order. The count
matters too, since a filter passes the body on as it is spelled where it is zero. -/
theorem runSteps_field_comm {f g : Text} (hfg : f ≠ g) {above below below' : List Segment} {op op' : Operation}
    {okName : Text → Prop} {depth : Nat} {d : Document} (hd : d.root.Regular okName depth) {r : Document × Nat}
    (h : (runSteps [⟨⟨above ++ .field f :: below⟩, op⟩, ⟨⟨above ++ .field g :: below'⟩, op'⟩] d).2 = .ok r) :
    (runSteps [⟨⟨above ++ .field g :: below'⟩, op'⟩, ⟨⟨above ++ .field f :: below⟩, op⟩] d).2 = .ok r := by
  generalize hs : (⟨⟨above ++ .field f :: below⟩, op⟩ : ScrubStep) = s at h ⊢
  generalize ht : (⟨⟨above ++ .field g :: below'⟩, op'⟩ : ScrubStep) = t at h ⊢
  obtain ⟨a, b, ha, hb, rfl⟩ := runSteps_pair_eq_ok_iff.1 h
  have hfirst := s.fst_apply hd ha
  -- the second step finds what it would have found without the first
  have hb' : (t.apply d).2 = .ok b := by
    rw [← hb]
    refine ScrubStep.snd_apply_congr (by rw [hfirst]) ?_
    rw [hfirst, ← hs, ← ht]
    exact (resolve_alterField hfg _ above below' below d.root).symm
  have hfirst' := t.fst_apply hd hb'
  have ha' : (s.apply (t.apply d).1).2 = .ok a := by
    rw [← ha]
    refine ScrubStep.snd_apply_congr (by rw [hfirst']) ?_
    rw [hfirst', ← hs, ← ht]
    exact resolve_alterField hfg.symm _ above below below' d.root
  -- both orders succeed with the same tallies, so only the two documents are left to compare
  refine runSteps_pair_eq_ok_iff.2 ⟨b, a, hb', ha', Prod.ext ?_ (Nat.add_comm _ _)⟩
  show (t.apply (s.apply d).1).1 = (s.apply (t.apply d).1).1
  rw [t.fst_apply (s.regular_apply hd) hb, s.fst_apply (t.regular_apply hd) ha', hfirst, hfirst', ← hs, ← ht]
  have hcomm := alterSegments_field_comm hfg (op.result d.settings) (op'.result d.settings) above below below' d.root
  show (⟨_, _⟩ : Document) = ⟨_, _⟩
  congr 1
  rw [hcomm]
  rw [alterSegments_append_cons, alterSegments_append_cons, alterSegments_append_cons]
  rfl

/-- Two steps under different members can be made in either order: where one order gives a text, the other gives the
same text. Above the members there may be any segments, and below them too. -/
theorem apply_path_comm {f g : Text} (hfg : f ≠ g) {above below below' : List Segment} {op op' : Operation}
    {settings : Settings} {mediaType : Option Text} {body out : Text}
    (h : (Filter.path [⟨⟨above ++ .field f :: below⟩, op⟩, ⟨⟨above ++ .field g :: below'⟩, op'⟩] settings).apply
      mediaType body = .ok out) :
    (Filter.path [⟨⟨above ++ .field g :: below'⟩, op'⟩, ⟨⟨above ++ .field f :: below⟩, op⟩] settings).apply
      mediaType body = .ok out := by
  cases hjson : MediaType.isJson mediaType with
  | false =>
    -- no filter by path touches a body that is not JSON
    rw [apply_path_of_not_isJson _ _ hjson] at h ⊢
    exact h
  | true =>
    obtain ⟨d, d', n, hread, hrun, hout⟩ := exists_of_apply_path hjson h
    have hregular := Json.regular_of_read (Document.read_eq_ok_iff.1 hread).1
    rw [apply_path_of_isJson _ _ hjson, hread]
    show (runSteps _ d).2.bind (outcome body) = _
    rw [runSteps_field_comm hfg hregular hrun]
    exact hout

/-- A function under one member and a deletion of an item under the other, in all members of an object. -/
theorem apply_path_comm_members :
    (Filter.path [⟨⟨[.wildcard, .field "g"]⟩, .transform (fun t => .text t.reverse) none⟩,
        ⟨⟨[.wildcard, .field "f", .index (-1)]⟩, .delete⟩] Settings.builtIn).apply (some "application/json")
        "\x7b\"a\": \x7b\"g\": \"xy\", \"f\": [1, 2.50]\x7d, \"b\": \x7b\"f\": [[]], \"g\": \"\"\x7d\x7d"
      = .ok "\x7b\"a\":\x7b\"g\":\"yx\",\"f\":[1]\x7d,\"b\":\x7b\"f\":[],\"g\":\"\"\x7d\x7d" :=
  @apply_path_comm "f" "g" (by decide) [.wildcard] [.index (-1)] [] .delete
    (.transform (fun t => .text t.reverse) none) Settings.builtIn _ _ _ (Json.eq_ok_of_toOption (by decide +kernel))

end Filter

end BodyScrub
