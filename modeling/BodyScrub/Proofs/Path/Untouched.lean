import BodyScrub.Proofs.Path.Simultaneous

/-!
# What a change leaves alone

A change of the nodes that a path addresses shows at these nodes and below them. A node above them keeps its kind and
its names or its number of items (`shell_get?_mapSegments`), and a node away from them is the same as before
(`get?_mapSegments`).
-/

namespace BodyScrub

open Json (Value Step Position)

namespace Json.Value

/-- A node without what its children are: an array keeps its length, an object its names, and a scalar is itself. -/
def shell : Value → Value
  | array items => array (items.map fun _ => null)
  | object members => object (members.map fun m => (m.1, null))
  | v => v

theorem shell_object_congr {ms ns : Entries Value} (h : Entries.names ms = Entries.names ns) :
    (object ms).shell = (object ns).shell := by
  have hshell : ∀ es : Entries Value, (object es).shell = object ((Entries.names es).map fun n => (n, null)) := by
    intro es
    unfold Entries.names
    rw [List.map_map]
    rfl
  rw [hshell, hshell, h]

theorem shell_array_congr {vs ws : List Value} (h : vs.length = ws.length) : (array vs).shell = (array ws).shell := by
  show array (vs.map fun _ => null) = array (ws.map fun _ => null)
  rw [List.map_const', List.map_const', h]

end Json.Value

/-! ## One node -/

namespace Segment

theorem shell_mapChildren (g : Value → Value) (s : Segment) (v : Value) : (s.mapChildren g v).shell = v.shell := by
  cases v with
  | array items =>
    cases s with
    | field name => rfl
    | wildcard =>
      rw [mapChildren_wildcard_array]
      exact Value.shell_array_congr (List.length_map g)
    | index i =>
      cases hj : itemIndex i items.length with
      | none => rw [mapChildren_index_of_none hj]
      | some j =>
        rw [mapChildren_index hj]
        exact Value.shell_array_congr (List.length_modify g items j)
  | object members =>
    cases s with
    | index i => rfl
    | wildcard =>
      rw [mapChildren_wildcard_object]
      exact Value.shell_object_congr (Entries.names_map (fun m => g m.2) members)
    | field name =>
      rw [mapChildren_field]
      exact Value.shell_object_congr (Entries.names_alter_some name g members)
  | _ => cases s <;> rfl

/-- A child either stays or is one of those that the segment selects, in which case it is changed. No child is
added, dropped or moved. -/
theorem child?_mapChildren (g : Value → Value) (s : Segment) (v : Value) (t : Step) :
    (s.mapChildren g v).child? t = v.child? t
      ∨ ∃ c, (t, c) ∈ s.children v ∧ v.child? t = some c ∧ (s.mapChildren g v).child? t = some (g c) := by
  -- a step whose child is changed, if there is one, is among those selected
  have hchanged : (s.mapChildren g v).child? t = (v.child? t).map g →
      (∀ c, v.child? t = some c → (t, c) ∈ s.children v) → (s.mapChildren g v).child? t = v.child? t
        ∨ ∃ c, (t, c) ∈ s.children v ∧ v.child? t = some c ∧ (s.mapChildren g v).child? t = some (g c) := by
    intro hmap hmem
    cases hc : v.child? t with
    | none =>
      rw [hc] at hmap
      exact Or.inl hmap
    | some c =>
      rw [hc] at hmap
      exact Or.inr ⟨c, hmem c hc, rfl, hmap⟩
  cases v with
  | array items =>
    cases s with
    | field name => exact Or.inl rfl
    | wildcard =>
      rw [mapChildren_wildcard_array] at hchanged ⊢
      cases t with
      | name key => exact Or.inl rfl
      | index k =>
        refine hchanged (List.getElem?_map ..) fun c hc => ?_
        exact List.mem_map.2 ⟨(c, k), List.mem_zipIdx_iff_getElem?.2 hc, rfl⟩
    | index i =>
      cases hj : itemIndex i items.length with
      | none =>
        rw [mapChildren_index_of_none hj]
        exact Or.inl rfl
      | some j =>
        rw [mapChildren_index hj, ← Value.modifyChild_array] at hchanged ⊢
        by_cases ht : t = .index j
        · rw [ht] at hchanged ⊢
          refine hchanged (Value.child?_modifyChild_self g _ _) fun c hc => ?_
          have hitem : items[j]? = some c := hc
          rw [children_index hj, hitem]
          exact List.mem_cons_self
        · exact Or.inl (Value.child?_modifyChild_of_ne ht g _)
  | object members =>
    cases s with
    | index i => exact Or.inl rfl
    | wildcard =>
      rw [mapChildren_wildcard_object] at hchanged ⊢
      cases t with
      | index k => exact Or.inl rfl
      | name key =>
        refine hchanged (Entries.get?_map (fun m => g m.2) key members) fun c hc => ?_
        exact List.mem_map.2 ⟨(key, c), Entries.mem_of_get? hc, rfl⟩
    | field name =>
      rw [mapChildren_field, ← Value.modifyChild_object] at hchanged ⊢
      by_cases ht : t = .name name
      · rw [ht] at hchanged ⊢
        refine hchanged (Value.child?_modifyChild_self g _ _) fun c hc => ?_
        have hmember : Entries.get? name members = some c := hc
        rw [children_field, hmember]
        exact List.mem_cons_self
      · exact Or.inl (Value.child?_modifyChild_of_ne ht g _)
  | _ => cases s <;> exact Or.inl rfl

/-- A change that keeps the selected children keeps the node, with all its children in their order. An operation
that finds nothing to do has this case at every level. -/
theorem mapChildren_eq_self {g : Value → Value} {s : Segment} {v : Value} (h : ∀ x ∈ s.children v, g x.2 = x.2) :
    s.mapChildren g v = v := by
  cases v with
  | array items =>
    cases s with
    | field name => rfl
    | wildcard =>
      rw [mapChildren_wildcard_array]
      refine congrArg Value.array ((List.map_congr_left fun c hc => ?_).trans (List.map_id items))
      obtain ⟨x, hx, rfl⟩ := exists_mem_itemChildren hc
      exact h x hx
    | index i =>
      cases hj : itemIndex i items.length with
      | none => rw [mapChildren_index_of_none hj]
      | some j =>
        rw [mapChildren_index hj, ← Value.modifyChild_array]
        refine Value.modifyChild_eq_self fun c hc => ?_
        have hitem : items[j]? = some c := hc
        rw [children_index hj, hitem] at h
        exact h (.index j, c) List.mem_cons_self
  | object members =>
    cases s with
    | index i => rfl
    | wildcard =>
      rw [mapChildren_wildcard_object]
      refine congrArg Value.object ((List.map_congr_left fun m hm => ?_).trans (List.map_id members))
      exact Prod.ext rfl (h (.name m.1, m.2) (List.mem_map_of_mem hm))
    | field name =>
      rw [mapChildren_field, ← Value.modifyChild_object]
      refine Value.modifyChild_eq_self fun c hc => ?_
      have hmember : Entries.get? name members = some c := hc
      rw [children_field, hmember] at h
      exact h (.name name, c) List.mem_cons_self
  | _ => cases s <;> rfl

end Segment

/-! ## All nodes -/

section

variable {g : Value → Value} {segments : List Segment} {v : Value} {q : Position}

theorem mapSegments_eq_self (h : resolveSegments segments v = []) : mapSegments g segments v = v := by
  induction segments generalizing v with
  | nil => cases h
  | cons s rest ih =>
    rw [resolveSegments_cons_eq_nil_iff] at h
    exact Segment.mapChildren_eq_self fun x hx => ih (h x hx)

/-- A node that is not addressed, nor is below a node that is, keeps its shell. It may have addressed nodes below
it, and so another value. -/
theorem shell_get?_mapSegments (h : ∀ l ∈ resolveSegments segments v, ¬l.position <+: q) :
    ((mapSegments g segments v).get? q).map Value.shell = (v.get? q).map Value.shell := by
  induction segments generalizing v q with
  | nil => exact absurd (List.nil_prefix) (h ⟨[], v⟩ List.mem_cons_self)
  | cons s rest ih =>
    cases q with
    | nil => exact congrArg some (Segment.shell_mapChildren _ s v)
    | cons t q =>
      show (((s.mapChildren _ v).child? t).bind (Value.get? q)).map _ = ((v.child? t).bind (Value.get? q)).map _
      -- the way to the node goes through a child that stays, or through one that is selected
      rcases Segment.child?_mapChildren (mapSegments g rest) s v t with heq | ⟨c, hmem, hc, hnew⟩
      · rw [heq]
      · rw [hc, hnew]
        refine ih fun l hl hprefix => ?_
        refine h (l.below t) ?_ (List.cons_prefix_cons.2 ⟨rfl, hprefix⟩)
        rw [resolveSegments_cons]
        exact List.mem_flatMap.2 ⟨(t, c), hmem, List.mem_map_of_mem hl⟩

/-- A node that is neither above, nor below, nor among the addressed nodes is the same afterwards, and there is no
node afterwards where there was none. -/
theorem get?_mapSegments (h : ∀ l ∈ resolveSegments segments v, ¬l.position <+: q ∧ ¬q <+: l.position) :
    (mapSegments g segments v).get? q = v.get? q := by
  induction segments generalizing v q with
  | nil => exact absurd List.nil_prefix (h ⟨[], v⟩ List.mem_cons_self).1
  | cons s rest ih =>
    cases q with
    | nil =>
      -- the root is above every node, so none is addressed
      have hnone : resolveSegments (s :: rest) v = [] :=
        List.eq_nil_iff_forall_not_mem.2 fun l hl => (h l hl).2 List.nil_prefix
      rw [mapSegments_eq_self hnone]
    | cons t q =>
      show ((s.mapChildren _ v).child? t).bind (Value.get? q) = (v.child? t).bind (Value.get? q)
      rcases Segment.child?_mapChildren (mapSegments g rest) s v t with heq | ⟨c, hmem, hc, hnew⟩
      · rw [heq]
      · rw [hc, hnew]
        refine ih fun l hl => ?_
        have hbelow : l.below t ∈ resolveSegments (s :: rest) v := by
          rw [resolveSegments_cons]
          exact List.mem_flatMap.2 ⟨(t, c), hmem, List.mem_map_of_mem hl⟩
        obtain ⟨hdown, hup⟩ := h (l.below t) hbelow
        exact ⟨fun hprefix => hdown (List.cons_prefix_cons.2 ⟨rfl, hprefix⟩),
          fun hprefix => hup (List.cons_prefix_cons.2 ⟨rfl, hprefix⟩)⟩

end

end BodyScrub
