import BodyScrub.Proofs.Json.Modify

/-!
# Nodes taken out at once

`without` takes all marked nodes out of a value in one pass over it, each marked by the position that it has before
anything is taken out. What stays keeps its order, and items move together. It is the plain meaning of a removal, with
which removals one after another can be compared: these have to see to it that a node is still at its position when its
turn comes, which it is as long as what was taken out before stands clear of it (`get?_erase_of_clear`).

* **`Value.without`**: a value without the marked nodes.
* **`Value.rebuild`**: one level of it, as a map over the children.
* **`Position.Clear`**: the positions at which a removal does not move the node at another position.
-/

namespace BodyScrub.Json

namespace Value

/-! ## Without the marked nodes -/

mutual

/-- A value without the nodes below it that are marked by their positions. -/
def without (gone : Position → Bool) : Value → Value
  | array items => array (itemsWithout gone 0 items)
  | object members => object (membersWithout gone members)
  | v => v

/-- Items, the first of which has the index `start`, without those that are marked. -/
def itemsWithout (gone : Position → Bool) : (start : Nat) → List Value → List Value
  | _, [] => []
  | start, v :: vs =>
    if gone [.index start] then itemsWithout gone (start + 1) vs
    else without (fun p => gone (.index start :: p)) v :: itemsWithout gone (start + 1) vs

/-- Members without those that are marked. -/
def membersWithout (gone : Position → Bool) : List (Text × Value) → List (Text × Value)
  | [] => []
  | (n, v) :: ms =>
    if gone [.name n] then membersWithout gone ms
    else (n, without (fun p => gone (.name n :: p)) v) :: membersWithout gone ms

end

/-! ## One level -/

/-- A value of which each child is changed, by the step to it, or taken out. -/
def rebuild (F : Step → Value → Option Value) : Value → Value
  | array items => array (items.zipIdx.filterMap fun x => F (.index x.2) x.1)
  | object members => object (members.filterMap fun m => (F (.name m.1) m.2).map fun v => (m.1, v))
  | v => v

theorem rebuild_of_isScalar {v : Value} (h : v.isScalar = true) (F : Step → Value → Option Value) :
    v.rebuild F = v := by
  cases v <;> simp [rebuild, isScalar] at h ⊢

/-- Only the children that are there count. Two ways to change children are compared child by child this way, and so
are a removal in one go and removals one after another. -/
theorem rebuild_congr {okName : Text → Prop} {depth : Nat} {v : Value} (hv : v.Regular okName depth)
    {F G : Step → Value → Option Value} (h : ∀ t c, v.child? t = some c → F t c = G t c) :
    v.rebuild F = v.rebuild G := by
  cases hv with
  | scalar hscalar => rw [rebuild_of_isScalar hscalar, rebuild_of_isScalar hscalar]
  | @array depth items _ =>
    refine congrArg array (List.filterMap_congr fun x hx => ?_)
    exact h (.index x.2) x.1 (List.mem_zipIdx_iff_getElem?.1 hx)
  | @object depth members distinct _ _ =>
    refine congrArg object (List.filterMap_congr fun m hm => ?_)
    have hchild : (object members).child? (.name m.1) = some m.2 := (Entries.get?_eq_some_iff distinct).2 hm
    simp [h _ _ hchild]

theorem rebuild_some (v : Value) : v.rebuild (fun _ c => some c) = v := by
  cases v with
  | array items =>
    have hitems : items.zipIdx.filterMap (fun x => some x.1) = items := by
      rw [List.filterMap_eq_map', List.zipIdx_map_fst]
    simp [rebuild, hitems]
  | object members => simp [rebuild]
  | _ => rfl

/-- A change of the item at an index is a map over all items with their indices, counted from any start. -/
theorem alterItem_eq_filterMap (f : Value → Option Value) (j start : Nat) (items : List Value) :
    alterItem f j items = (items.zipIdx start).filterMap fun x => if x.2 = start + j then f x.1 else some x.1 := by
  induction items generalizing j start with
  | nil => simp [alterItem]
  | cons v vs ih =>
    rw [List.zipIdx_cons, List.filterMap_cons]
    cases j with
    | zero =>
      -- behind the changed item all indices are greater, so the rest stays
      have hrest : (vs.zipIdx (start + 1)).filterMap (fun x => if x.2 = start + 0 then f x.1 else some x.1) = vs := by
        have hstay : ∀ x ∈ vs.zipIdx (start + 1), (if x.2 = start + 0 then f x.1 else some x.1) = some x.1 := by
          intro x hx
          have hle := List.le_snd_of_mem_zipIdx hx
          exact if_neg (by omega)
        rw [List.filterMap_congr hstay, List.filterMap_eq_map', List.zipIdx_map_fst]
      rw [hrest, alterItem, Nat.add_zero, if_pos rfl]
      cases f v <;> rfl
    | succ j =>
      -- the index is counted down while the start is counted up
      have hshift : start + (j + 1) = start + 1 + j := by omega
      have hne : start ≠ start + 1 + j := by omega
      rw [alterItem, hshift, if_neg hne, ih]

/-- The removal of items is such a map too. Here all indices are those before the removal. -/
theorem itemsWithout_eq_filterMap (gone : Position → Bool) (start : Nat) (items : List Value) :
    itemsWithout gone start items = (items.zipIdx start).filterMap fun x =>
      if gone [.index x.2] then none else some (without (fun p => gone (.index x.2 :: p)) x.1) := by
  induction items generalizing start with
  | nil => simp [itemsWithout]
  | cons v vs ih =>
    rw [itemsWithout, List.zipIdx_cons, List.filterMap_cons, ih]
    cases gone [.index start] <;> simp

theorem membersWithout_eq_filterMap (gone : Position → Bool) (members : Entries Value) :
    membersWithout gone members = members.filterMap fun m =>
      (if gone [.name m.1] then none else some (without (fun p => gone (.name m.1 :: p)) m.2)).map fun v => (m.1, v) := by
  induction members with
  | nil => simp [membersWithout]
  | cons m ms ih =>
    rw [membersWithout, List.filterMap_cons, ih]
    cases gone [.name m.1] <;> simp

/-- A value without the marked nodes, one level at a time: a marked child goes, and of another one the marked nodes
below it. -/
theorem without_eq_rebuild (gone : Position → Bool) (v : Value) :
    v.without gone = v.rebuild fun t c => if gone [t] then none else some (c.without fun p => gone (t :: p)) := by
  cases v with
  | array items => rw [without, itemsWithout_eq_filterMap, rebuild]
  | object members => rw [without, membersWithout_eq_filterMap, rebuild]
  | _ => simp [without, rebuild]

theorem without_false {okName : Text → Prop} {depth : Nat} {v : Value} (hv : v.Regular okName depth) :
    v.without (fun _ => false) = v := by
  induction hv with
  | scalar hscalar => rw [without_eq_rebuild, rebuild_of_isScalar hscalar]
  | @array depth items hitems ih =>
    rw [without_eq_rebuild]
    refine (rebuild_congr (.array hitems) fun t c hc => ?_).trans (rebuild_some _)
    cases t with
    -- an array has no child under a name
    | name key => simp [child?] at hc
    | index i => simp [ih c (List.mem_of_getElem? hc)]
  | @object depth members distinct names hmembers ih =>
    rw [without_eq_rebuild]
    refine (rebuild_congr (.object distinct names hmembers) fun t c hc => ?_).trans (rebuild_some _)
    cases t with
    | index i => simp [child?] at hc
    | name key => simp [ih (key, c) (Entries.mem_of_get? hc)]

end Value

/-! ## Removals that do not move a node -/

/-- A change at the second position, even a removal, leaves the node at the first where it is: where the two ways part,
they go on to different members, or the first goes on to the item with the lower index. -/
inductive Position.Clear : Position → Position → Prop where
  | name {m n : Text} (h : m ≠ n) (p q : Position) : Clear (.name m :: p) (.name n :: q)
  | index {i j : Nat} (h : i < j) (p q : Position) : Clear (.index i :: p) (.index j :: q)
  | cons (t : Step) {p q : Position} (h : Clear p q) : Clear (t :: p) (t :: q)

/-- An item before the one that changes is where it was, also if that one is taken out. Removals from the end
towards the front rest on this: no index that is still to come is shifted. -/
theorem getElem?_alterItem_of_lt {α : Type} {i j : Nat} (h : i < j) (f : α → Option α) (as : List α) :
    (alterItem f j as)[i]? = as[i]? := by
  induction as generalizing i j with
  | nil => simp [alterItem]
  | cons a as ih =>
    obtain ⟨k, rfl⟩ : ∃ k, j = k + 1 := ⟨j - 1, by omega⟩
    rw [alterItem]
    cases i with
    | zero => simp
    | succ i =>
      have hik : i < k := by omega
      simpa using ih hik

/-- Nothing is clear of a removal of the root, which leaves no value at all. -/
theorem Position.Clear.ne_nil {p q : Position} (h : p.Clear q) : q ≠ [] := by
  cases h <;> simp

namespace Value

/-- A change that is clear of a node leaves it where it is, even if it takes its own node out of an array. The
induction is on the position at which the ways part. -/
theorem get?_alter_of_clear {p q : Position} (h : p.Clear q) (f : Value → Option Value) (v : Value) :
    ((alter f q v).getD v).get? p = v.get? p := by
  induction h generalizing v with
  | @name m n hmn p q =>
    -- different members of one object
    rw [alter_cons, Option.getD_some, get?, get?]
    cases v with
    | object members => simp [alterChild, child?, Entries.get?_alter_of_ne hmn]
    | _ => rfl
  | @index i j hij p q =>
    -- an item with a lower index does not move
    rw [alter_cons, Option.getD_some, get?, get?]
    cases v with
    | array items => simp [alterChild, child?, getElem?_alterItem_of_lt hij]
    | _ => rfl
  | @cons t p q hpq ih =>
    -- below the child the change never takes the child itself out
    have hbelow : alter f q = fun c => some ((alter f q c).getD c) := by
      obtain ⟨u, r, rfl⟩ := List.exists_cons_of_ne_nil hpq.ne_nil
      funext c
      simp [alter_cons]
    rw [alter_cons, Option.getD_some, hbelow]
    show ((modifyChild (fun c => (alter f q c).getD c) t v).child? t).bind (get? p) = (v.child? t).bind (get? p)
    rw [child?_modifyChild_self]
    cases v.child? t with
    | none => rfl
    | some c => exact ih c

/-- A removal that is clear of a node leaves it where it is. Erasing from the last node to the first keeps every
node still to come clear. -/
theorem get?_erase_of_clear {p q : Position} (h : p.Clear q) (v : Value) : (v.erase q).get? p = v.get? p :=
  get?_alter_of_clear h (fun _ => none) v

end Value

end BodyScrub.Json
