import BodyScrub.Proofs.Filter.Writing
import BodyScrub.Proofs.Json.Removal
import BodyScrub.Proofs.Operation
import BodyScrub.Proofs.Path.DocumentOrder

/-!
# Deleting what a path addresses

A deletion takes the addressed nodes out one by one, and items behind one that is taken out move up. Since it goes from
the last node in document order to the first, what was taken out before is always clear of the nodes still to come
(`get?_eraseEach_of_clear`): each of them is at its position, with its value, when its turn comes. So no removal is in
vain, and what is left is the value without all these positions, taken out at once (`apply_delete_locate`).

* **`Segment.alterChildren_eq_rebuild`**: a change of the selected children, as a map over all children.
* **`alterSegments_eq_without`**: taking out what segments address is taking out the positions that they address.
* **`Value.Before.clear`**: a removal further on in document order does not move a node.
-/

namespace BodyScrub

open Json (Value Step Position)

/-! ## Changes of one node and below -/

section

variable {okName : Text → Prop} {depth : Nat} {v : Value}

/-- A change of the children that a segment selects is a map over all children, in which those that are not selected
stay as they are. Names and items are both told by the step that leads to a child. -/
theorem Segment.alterChildren_eq_rebuild (hv : v.Regular okName depth) (f : Value → Option Value) (s : Segment) :
    s.alterChildren f v = v.rebuild fun t c => if t ∈ (s.children v).map Prod.fst then f c else some c := by
  -- where no child is selected both sides are the value itself
  have hnone : s.children v = [] → s.alterChildren f v = v →
      s.alterChildren f v = v.rebuild fun t c => if t ∈ (s.children v).map Prod.fst then f c else some c := by
    intro hchildren hsame
    rw [hsame, hchildren]
    simp [Value.rebuild_some]
  cases hv with
  | scalar hscalar => exact hnone (children_of_isScalar hscalar s) (alterChildren_of_isScalar hscalar f s)
  | @array depth items hitems =>
    cases s with
    | field name => exact hnone rfl rfl
    | wildcard =>
      -- every child is selected, so the test for it always holds
      have hall : items.zipIdx.filterMap (fun x => f x.1) = items.filterMap f := by
        conv_rhs => rw [← List.zipIdx_map_fst 0 items, List.filterMap_map]
        rfl
      show Value.array (items.filterMap f) = _
      rw [← hall]
      refine Value.rebuild_congr (F := fun _ c => f c) (.array hitems) fun t c hc => ?_
      have hmem : (t, c) ∈ wildcard.children (.array items) := (mem_children_iff (.array hitems)).2 ⟨.wildcard _ t, hc⟩
      exact (if_pos (List.mem_map_of_mem hmem)).symm
    | index i =>
      cases hj : itemIndex i items.length with
      | none => exact hnone (by rw [children, hj]) (by rw [alterChildren, hj])
      | some j =>
        have hlt : j < items.length := itemIndex_lt hj
        rw [alterChildren, hj, children_index hj, List.getElem?_eq_getElem hlt, Value.rebuild]
        simp [Value.alterItem_eq_filterMap f j 0]
  | @object depth members distinct names hmembers =>
    cases s with
    | index i => exact hnone rfl rfl
    | wildcard =>
      refine Value.rebuild_congr (F := fun _ c => f c) (.object distinct names hmembers) fun t c hc => ?_
      have hmem : (t, c) ∈ wildcard.children (.object members) :=
        (mem_children_iff (.object distinct names hmembers)).2 ⟨.wildcard _ t, hc⟩
      exact (if_pos (List.mem_map_of_mem hmem)).symm
    | field name =>
      cases hget : Entries.get? name members with
      | none =>
        refine hnone ?_ (congrArg Value.object (Entries.alter_of_get?_eq_none hget f))
        rw [children_field, hget]
        rfl
      | some c =>
        show Value.object (Entries.alter name f members) = _
        rw [children_field, hget, Entries.alter_eq_filterMap distinct, Value.rebuild]
        simp [fieldChildren]

/-- The positions below a child that are addressed are those that the rest of the segments addresses from there, if
the child is selected. A well-formed value has one child for a step, so the child that leads there is this one. -/
theorem mem_positions_cons (hv : v.Regular okName depth) (s : Segment) (rest : List Segment) {t : Step} {c : Value}
    (hc : v.child? t = some c) (p : Position) :
    t :: p ∈ (resolveSegments (s :: rest) v).map Location.position
      ↔ t ∈ (s.children v).map Prod.fst ∧ p ∈ (resolveSegments rest c).map Location.position := by
  -- a step is selected together with the child that it leads to
  have hselected : t ∈ (s.children v).map Prod.fst ↔ (t, c) ∈ s.children v := by
    refine ⟨fun h => ?_, List.mem_map_of_mem⟩
    obtain ⟨⟨u, c'⟩, hmem, rfl⟩ := List.mem_map.1 h
    exact (Segment.mem_children_iff hv).2 ⟨((Segment.mem_children_iff hv).1 hmem).1, hc⟩
  rw [hselected, resolveSegments_cons, List.map_flatMap, List.mem_flatMap]
  constructor
  · rintro ⟨⟨u, c'⟩, hmem, hp⟩
    rw [map_position_below] at hp
    obtain ⟨q, hq, hcons⟩ := List.mem_map.1 hp
    obtain ⟨rfl, rfl⟩ := List.cons.inj hcons
    have hc' := ((Segment.mem_children_iff hv).1 hmem).2
    obtain rfl : c' = c := Option.some.inj (hc'.symm.trans hc)
    exact ⟨hmem, hq⟩
  · rintro ⟨hmem, hp⟩
    refine ⟨(t, c), hmem, ?_⟩
    rw [map_position_below]
    exact List.mem_map_of_mem hp

/-- Taking out what segments address is taking out the positions that they address, all at once. The induction is on
the segments, with the value free: the rest of them is about one child. -/
theorem alterSegments_eq_without (hv : v.Regular okName depth) {segments : List Segment} (hne : segments ≠ []) :
    alterSegments (fun _ => none) segments v
      = some (v.without fun q => decide (q ∈ (resolveSegments segments v).map Location.position)) := by
  induction segments generalizing depth v with
  | nil => exact absurd rfl hne
  | cons s rest ih =>
    rw [alterSegments, Segment.alterChildren_eq_rebuild hv, Value.without_eq_rebuild]
    refine congrArg some (Value.rebuild_congr hv fun t c hc => ?_)
    have hbelow := mem_positions_cons hv s rest hc
    simp only [hbelow]
    by_cases hselected : t ∈ (s.children v).map Prod.fst
    · obtain ⟨⟨u, c'⟩, hmem, rfl⟩ := List.mem_map.1 hselected
      obtain rfl : c' = c := Option.some.inj (((Segment.mem_children_iff hv).1 hmem).2.symm.trans hc)
      obtain ⟨d, hchild⟩ := Segment.regular_of_mem_children hv hmem
      cases rest with
      -- this is the last segment, and the child itself goes
      | nil => simp [alterSegments, resolveSegments, hselected]
      | cons r rest =>
        -- the child itself stays, as there is a segment left
        have hroot : [] ∉ (resolveSegments (r :: rest) c').map Location.position := by
          intro h
          obtain ⟨l, hl, hnil⟩ := List.mem_map.1 h
          exact position_ne_nil hl hnil
        simp only [hselected, hroot, true_and, decide_false, Bool.false_eq_true, if_false, if_true]
        exact ih hchild (List.cons_ne_nil r rest)
    · obtain ⟨d, hchild⟩ := hv.of_child? hc
      simp [hselected, Value.without_false hchild]

end

/-! ## One removal after another -/

/-- A removal further on in document order, and not below a node, does not move the node. In an array it moves up
the items behind it alone; in an object no member depends on another. -/
theorem Json.Value.Before.clear {okName : Text → Prop} {depth : Nat} {v : Value} (hv : v.Regular okName depth)
    {p q : Position} (h : v.Before p q) (hpq : ¬p <+: q) : p.Clear q := by
  induction h generalizing depth with
  | above v t q => exact absurd List.nil_prefix hpq
  | part hst p q =>
    cases hst with
    -- the removed item stands behind the one that leads to the node
    | items _ hlt => exact .index hlt p q
    | @members ms m n hsub =>
      cases hv with
      | scalar hscalar => cases hscalar
      | object distinct _ _ =>
        have hmn : m ≠ n := by
          rintro rfl
          exact List.nodup_iff_sublist.1 distinct m hsub
        exact .name hmn p q
  | @within v c t hchild p q _ ih =>
    obtain ⟨d, hc⟩ := hv.of_child? hchild
    have hbelow : ¬p <+: q := fun hprefix => hpq (List.cons_prefix_cons.2 ⟨rfl, hprefix⟩)
    exact .cons t (ih hc hbelow)

/-- Of two addressed nodes, taking out the later one does not move the earlier one. The later one is further on in
document order, and it is not below the earlier one. -/
theorem pairwise_clear {okName : Text → Prop} {depth : Nat} {v : Value} (hv : v.Regular okName depth)
    (segments : List Segment) : (resolveSegments segments v).Pairwise fun l m => l.position.Clear m.position :=
  ((pairwise_before hv segments).and (pairwise_apart hv segments)).imp fun h => h.1.clear hv h.2.1

namespace Operation

/-- Removals that are clear of a node leave it where it is, with its value. In particular none of them is a removal
of the root, which would stop the loop. -/
theorem get?_eraseEach_of_clear {ls : List Location} {p : Position} (h : ∀ l ∈ ls, p.Clear l.position) (v : Value) :
    (eraseEach ls v).1.get? p = v.get? p := by
  induction ls generalizing v with
  | nil => rfl
  | cons l ls ih =>
    have hl : p.Clear l.position := h l List.mem_cons_self
    have hroot : ¬l.isRoot = true := by simpa [Location.isRoot] using hl.ne_nil
    rw [eraseEach, if_neg hroot]
    show (eraseEach ls (v.erase l.position)).1.get? p = v.get? p
    rw [ih (fun m hm => h m (List.mem_cons_of_mem _ hm)), Value.get?_erase_of_clear hl]

/-- A deletion of what a path below the root addresses comes to an end, counts all addressed nodes, and leaves the value
without them, all taken out at once. When the turn of a node comes, those behind it are gone, and the node is still at
its position with its value. -/
theorem apply_delete_locate {p : Path} (hp : p.isRoot = false) {d : Document} {okName : Text → Prop} {depth : Nat}
    (hd : d.root.Regular okName depth) :
    delete.apply (d.locate p) d
        = (⟨d.root.without fun q => decide (q ∈ (d.locate p).map Location.position), d.settings⟩,
            .ok (d.locate p).length)
      ∧ ∀ before l after, d.locate p = before ++ l :: after →
          (eraseEach after.reverse d.root).1.get? l.position = some l.value := by
  have hne : p.segments ≠ [] := by simpa [Path.isRoot] using hp
  have hbelow : ∀ l ∈ (d.locate p).reverse, l.isRoot = false := fun l hl =>
    (ScrubStep.IsDeletion.mk (s := ⟨p, .delete⟩) rfl hp).isRoot_of_mem (List.mem_reverse.1 hl)
  constructor
  · have hcount : (delete.apply (d.locate p) d).2 = .ok (d.locate p).length := by
      show (eraseEach (d.locate p).reverse d.root).2 = _
      rw [eraseEach_eq_ok hbelow, List.length_reverse]
    have hroot : (delete.apply (d.locate p) d).1.root
        = d.root.without fun q => decide (q ∈ (d.locate p).map Location.position) := by
      have hall := alterSegments_eq_without hd hne
      rw [apply_locate hd hcount]
      show (alterSegments (fun _ => none) p.segments d.root).getD d.root = _
      rw [hall]
      rfl
    refine Prod.ext ?_ hcount
    rw [← hroot, ← delete.settings_apply (d.locate p) d]
  -- the nodes behind the one in question are gone by its turn, and they are clear of it
  · intro before l after hsplit
    have hl : l ∈ resolveSegments p.segments d.root := by
      show l ∈ d.locate p
      simp [hsplit]
    have hclear : (before ++ l :: after).Pairwise fun l m => l.position.Clear m.position := by
      rw [← hsplit]
      exact pairwise_clear hd p.segments
    have hafter := (List.pairwise_cons.1 (List.pairwise_append.1 hclear).2.1).1
    rw [get?_eraseEach_of_clear fun m hm => hafter m (List.mem_reverse.1 hm)]
    exact ((mem_resolveSegments_iff hd).1 hl).2

/-- The first items of three arrays, one of which is empty: two nodes are counted and gone, and `[]` has none. -/
theorem apply_delete_locate_firsts :
    ∃ d d', Document.read Settings.builtIn "[[1, 2], [], [[3], 4, 5]]" = .ok d
      ∧ delete.apply (d.locate ⟨[.wildcard, .index 0]⟩) d = (d', .ok 2) ∧ d'.text = .ok "[[2],[],[4,5]]"
      ∧ ∀ before l after, d.locate ⟨[.wildcard, .index 0]⟩ = before ++ l :: after →
          (eraseEach after.reverse d.root).1.get? l.position = some l.value := by
  have hfound : (Document.read Settings.builtIn "[[1, 2], [], [[3], 4, 5]]").toOption.map
      (fun d => ((d.locate ⟨[.wildcard, .index 0]⟩).length,
        (delete.apply (d.locate ⟨[.wildcard, .index 0]⟩) d).1.text.toOption))
      = some (2, some ("[[2],[],[4,5]]" : Text)) := by
    decide +kernel
  obtain ⟨d, hd, hpair⟩ := Option.map_eq_some_iff.1 hfound
  have hlength := congrArg Prod.fst hpair
  have htext := congrArg Prod.snd hpair
  have hread := Json.eq_ok_of_toOption hd
  have hregular := Json.regular_of_read (Document.read_eq_ok_iff.1 hread).1
  have hbelow : (⟨[.wildcard, .index 0]⟩ : Path).isRoot = false := by decide
  obtain ⟨happly, hturn⟩ := apply_delete_locate hbelow hregular
  have hcount : (delete.apply (d.locate ⟨[.wildcard, .index 0]⟩) d).2 = .ok 2 := by
    rw [happly]
    exact congrArg Except.ok hlength
  exact ⟨d, (delete.apply (d.locate ⟨[.wildcard, .index 0]⟩) d).1, hread, Prod.ext rfl hcount,
    Json.eq_ok_of_toOption htext, hturn⟩

end Operation

end BodyScrub
