import BodyScrub.Proofs.Json.Modify
import BodyScrub.Proofs.Path.Resolution
import Mathlib.Data.List.Perm.Basic

/-!
# All addressed nodes changed at once

The nodes that a path addresses can be changed, or taken out, by one walk down the segments (`alterSegments`): every
child that a segment selects is replaced by what the segments below make of it. The same value comes out when the
addressed nodes are changed one after another from the last to the first, each at its position
(`alterInTurn_resolve`), since what was changed before lies behind. If nothing is taken out, any order will do
(`alterInTurn_reverse`).

* **`alterSegments`**, **`mapSegments`**: the walk, and the walk that takes nothing out.
* **`resolve_mapSegments`**: a path addresses the same positions after such a change, each with its new value.
* **`nodup_positions`**, **`length_position`**: different addressed nodes part ways somewhere above them.
-/

namespace BodyScrub

open Json (Value Step Position)

namespace Segment

/-! ## The children of one node -/

/-- Changes the children that a segment selects, or takes them out. -/
def alterChildren (f : Value → Option Value) : Segment → Value → Value
  | .field name, .object members => .object (Entries.alter name f members)
  | .index i, .array items =>
    match itemIndex i items.length with
    | some j => .array (Json.alterItem f j items)
    | none => .array items
  | .wildcard, .object members => .object (members.filterMap fun m => (f m.2).map fun v => (m.1, v))
  | .wildcard, .array items => .array (items.filterMap f)
  | _, v => v

theorem alterChildren_of_isScalar {v : Value} (h : v.isScalar = true) (f : Value → Option Value) (s : Segment) :
    s.alterChildren f v = v := by
  cases v with
  | array items => cases h
  | object members => cases h
  | _ => cases s <;> rfl

/-- In an array an index selects the item that it counts to, if there is one. A negative index has been counted from
the end before. -/
theorem children_index {i : Int} {items : List Value} {j : Nat} (hj : itemIndex i items.length = some j) :
    (index i).children (.array items) = (items[j]?.map fun v => (Step.index j, v)).toList := by
  rw [children, hj]

theorem itemIndex_lt {i : Int} {count j : Nat} (h : itemIndex i count = some j) : j < count := by
  unfold itemIndex at h
  dsimp only at h
  generalize (if i < 0 then i + (count : Int) else i) = k at h
  split at h
  · next hk =>
    simp only [Bool.and_eq_true, decide_eq_true_eq] at hk
    have hj : k.toNat = j := Option.some.inj h
    omega
  · cases h

section InTurn

variable {φ : Step × Value → Value → Value} {f : Value → Option Value}

/-- Items are changed from the last to the first, so that the index of an item is still its place when its turn
comes. The induction is on the items still to come, with those before them (`done`) as they were. -/
theorem foldr_itemChildren {done items : List Value}
    (hφ : ∀ x ∈ itemChildren items done.length, ∀ w : Value, w.child? x.1 = some x.2 →
      φ x w = w.alterChild (fun _ => f x.2) x.1) :
    (itemChildren items done.length).foldr φ (.array (done ++ items)) = .array (done ++ items.filterMap f) := by
  induction items generalizing done with
  | nil => rfl
  | cons a items ih =>
    have hsplit : itemChildren (a :: items) done.length
        = (.index done.length, a) :: itemChildren items (done ++ [a]).length := by
      rw [List.length_append]
      rfl
    rw [hsplit] at hφ ⊢
    have hrest := ih fun x hx => hφ x (List.mem_cons_of_mem _ hx)
    rw [List.append_assoc, List.singleton_append, List.append_assoc, List.singleton_append] at hrest
    -- the items behind are done, and this one is still in its place
    have hchild : (Value.array (done ++ a :: items.filterMap f)).child? (.index done.length) = some a := by
      show (done ++ a :: items.filterMap f)[done.length]? = some a
      simp
    rw [List.foldr_cons, hrest, hφ _ List.mem_cons_self _ hchild]
    show Value.array (Json.alterItem (fun _ => f a) done.length (done ++ a :: items.filterMap f)) = _
    rw [Json.alterItem_append, List.filterMap_cons]
    cases f a <;> rfl

/-- Members are changed from the last to the first as well, although any order would do. `φ` is asked to change a
child only where the child still has its value. -/
theorem foldr_memberChildren {done members : Entries Value} (distinct : (Entries.names (done ++ members)).Nodup)
    (hφ : ∀ x ∈ memberChildren members, ∀ w : Value, w.child? x.1 = some x.2 →
      φ x w = w.alterChild (fun _ => f x.2) x.1) :
    (memberChildren members).foldr φ (.object (done ++ members))
      = .object (done ++ members.filterMap fun m => (f m.2).map fun v => (m.1, v)) := by
  induction members generalizing done with
  | nil => rfl
  | cons m members ih =>
    obtain ⟨n, a⟩ := m
    have hfresh : n ∉ Entries.names done := Entries.not_mem_names_of_nodup distinct
    have hassoc : done ++ (n, a) :: members = done ++ [(n, a)] ++ members := by
      rw [List.append_assoc, List.singleton_append]
    rw [hassoc] at distinct
    have hrest := ih distinct fun x hx => hφ x (List.mem_cons_of_mem _ hx)
    rw [← hassoc, List.append_assoc, List.singleton_append] at hrest
    generalize hkept : members.filterMap (fun m => (f m.2).map fun v => (m.1, v)) = kept at hrest
    have hchild : (Value.object (done ++ (n, a) :: kept)).child? (.name n) = some a := Entries.get?_append hfresh a kept
    show φ (.name n, a) ((memberChildren members).foldr φ _) = _
    rw [hrest, hφ _ List.mem_cons_self _ hchild]
    show Value.object (Entries.alter n (fun _ => f a) (done ++ (n, a) :: kept)) = _
    rw [Entries.alter_append hfresh, List.filterMap_cons, hkept]
    cases f a <;> rfl

/-- Changing the selected children in turn, from the last to the first, changes them all at once. A change is a
function `φ` of the object or array, which needs to change the child at its step where that child still has its
value. -/
theorem foldr_children {okName : Text → Prop} {depth : Nat} {v : Value} (hv : v.Regular okName depth) {s : Segment}
    (hφ : ∀ x ∈ s.children v, ∀ w : Value, w.child? x.1 = some x.2 → φ x w = w.alterChild (fun _ => f x.2) x.1) :
    (s.children v).foldr φ v = s.alterChildren f v := by
  cases hv with
  | scalar h => rw [children_of_isScalar h, alterChildren_of_isScalar h, List.foldr_nil]
  | @array depth items _ =>
    cases s with
    | field name => rfl
    | wildcard => exact @foldr_itemChildren φ f [] items hφ
    | index i =>
      cases hj : itemIndex i items.length with
      | none =>
        rw [children, alterChildren, hj]
        rfl
      | some j =>
        obtain ⟨a, ha⟩ : ∃ a, items[j]? = some a := ⟨_, List.getElem?_eq_getElem (itemIndex_lt hj)⟩
        have hchild : (Value.array items).child? (.index j) = some a := ha
        have hchildren : (index i).children (.array items) = [(.index j, a)] := by
          rw [children_index hj, ha]
          rfl
        rw [hchildren] at hφ ⊢
        rw [List.foldr_cons, List.foldr_nil, hφ _ List.mem_cons_self _ hchild, ← Value.alterChild_eq_of_child? hchild,
          alterChildren, hj]
        rfl
  | @object depth members distinct _ _ =>
    cases s with
    | index i => rfl
    | wildcard => exact @foldr_memberChildren φ f [] members distinct hφ
    | field name =>
      -- there is one member of the name at most
      rw [children_field] at hφ ⊢
      cases ha : Entries.get? name members with
      | none =>
        show Value.object members = .object (Entries.alter name f members)
        rw [Entries.alter_of_get?_eq_none ha]
      | some a =>
        rw [ha] at hφ
        have hchild : (Value.object members).child? (.name name) = some a := ha
        have hφa := hφ (.name name, a) List.mem_cons_self _ hchild
        show φ (.name name, a) (.object members) = .object (Entries.alter name f members)
        rw [hφa, ← Value.alterChild_eq_of_child? hchild]
        rfl

end InTurn

/-! ### Children that stay -/

/-- Changes the children that a segment selects. -/
def mapChildren (g : Value → Value) (s : Segment) (v : Value) : Value := s.alterChildren (fun c => some (g c)) v

variable {g h : Value → Value}

theorem mapChildren_wildcard_array (g : Value → Value) (items : List Value) :
    wildcard.mapChildren g (.array items) = .array (items.map g) :=
  congrArg Value.array (congrFun List.filterMap_eq_map items)

theorem mapChildren_wildcard_object (g : Value → Value) (members : Entries Value) :
    wildcard.mapChildren g (.object members) = .object (members.map fun m => (m.1, g m.2)) :=
  congrArg Value.object (congrFun (List.filterMap_eq_map (f := fun m : Text × Value => (m.1, g m.2))) members)

theorem mapChildren_index {i : Int} {items : List Value} {j : Nat} (hj : itemIndex i items.length = some j)
    (g : Value → Value) : (index i).mapChildren g (.array items) = .array (items.modify j g) := by
  unfold mapChildren
  rw [alterChildren, hj]
  exact congrArg Value.array (Json.alterItem_some_eq_modify g j items)

theorem mapChildren_index_of_none {i : Int} {items : List Value} (hj : itemIndex i items.length = none)
    (g : Value → Value) : (index i).mapChildren g (.array items) = .array items := by
  unfold mapChildren
  rw [alterChildren, hj]

theorem mapChildren_field (name : Text) (g : Value → Value) (members : Entries Value) :
    (field name).mapChildren g (.object members) = .object (Entries.alter name (fun c => some (g c)) members) := rfl

/-- The same children are selected after a change, each with its new value: nothing moves, so an index counts to the
same item. -/
theorem children_mapChildren (g : Value → Value) (s : Segment) (v : Value) :
    s.children (s.mapChildren g v) = (s.children v).map fun x => (x.1, g x.2) := by
  cases v with
  | array items =>
    cases s with
    | field name => rfl
    | wildcard =>
      rw [mapChildren_wildcard_array]
      show itemChildren (items.map g) 0 = (itemChildren items 0).map _
      unfold itemChildren
      rw [List.zipIdx_map, List.map_map, List.map_map]
      rfl
    | index i =>
      cases hj : itemIndex i items.length with
      | none =>
        rw [mapChildren_index_of_none hj, children, hj]
        rfl
      | some j =>
        have hj' : itemIndex i (items.modify j g).length = some j := by
          rw [List.length_modify]
          exact hj
        rw [mapChildren_index hj, children_index hj, children_index hj', List.getElem?_modify]
        cases items[j]? with
        | none => rfl
        | some a => simp
  | object members =>
    cases s with
    | index i => rfl
    | wildcard =>
      rw [mapChildren_wildcard_object]
      show memberChildren (members.map _) = (memberChildren members).map _
      unfold memberChildren
      rw [List.map_map, List.map_map]
      rfl
    | field name =>
      rw [mapChildren_field, children_field, children_field, Entries.get?_alter_some]
      cases Entries.get? name members <;> rfl
  | _ => cases s <;> rfl

/-- Two changes of the selected children are one change by both. -/
theorem mapChildren_mapChildren (g h : Value → Value) (s : Segment) (v : Value) :
    s.mapChildren g (s.mapChildren h v) = s.mapChildren (fun c => g (h c)) v := by
  cases v with
  | array items =>
    cases s with
    | field name => rfl
    | wildcard =>
      rw [mapChildren_wildcard_array, mapChildren_wildcard_array, mapChildren_wildcard_array, List.map_map]
      rfl
    | index i =>
      cases hj : itemIndex i items.length with
      | none => rw [mapChildren_index_of_none hj, mapChildren_index_of_none hj, mapChildren_index_of_none hj]
      | some j =>
        have hj' : itemIndex i (items.modify j h).length = some j := by
          rw [List.length_modify]
          exact hj
        rw [mapChildren_index hj, mapChildren_index hj, mapChildren_index hj', List.modify_modify_eq]
        rfl
  | object members =>
    cases s with
    | index i => rfl
    | wildcard =>
      rw [mapChildren_wildcard_object, mapChildren_wildcard_object, mapChildren_wildcard_object, List.map_map]
      rfl
    | field name =>
      rw [mapChildren_field, mapChildren_field, mapChildren_field, Entries.alter_alter_some]
  | _ => cases s <;> rfl

end Segment

/-! ## All addressed nodes -/

/-- Changes the nodes that segments address, all at once, or takes them out. `none` means that the root itself was
taken out. -/
def alterSegments (f : Value → Option Value) : List Segment → Value → Option Value
  | [], v => f v
  | s :: rest, v => some (s.alterChildren (alterSegments f rest) v)

/-- Changes the nodes that segments address, all at once. -/
def mapSegments (g : Value → Value) : List Segment → Value → Value
  | [], v => g v
  | s :: rest, v => s.mapChildren (mapSegments g rest) v

/-- A walk that takes nothing out leaves a value in every case, that of `mapSegments`. Replacements and functions
are walks of this kind, and only deletions are not. -/
theorem alterSegments_some (g : Value → Value) (segments : List Segment) (v : Value) :
    alterSegments (fun u => some (g u)) segments v = some (mapSegments g segments v) := by
  induction segments generalizing v with
  | nil => rfl
  | cons s rest ih =>
    rw [alterSegments, funext ih]
    rfl

/-- A walk down two rows of segments is a walk down the first one, with the second one at its end. Paths that part
at some segment are cut there by this. -/
theorem alterSegments_append (f : Value → Option Value) (above below : List Segment) (v : Value) :
    alterSegments f (above ++ below) v = alterSegments (alterSegments f below) above v := by
  induction above generalizing v with
  | nil => rfl
  | cons s above ih =>
    rw [List.cons_append, alterSegments, alterSegments, funext ih]

/-- What is done below a segment takes nothing out above it. So a path that goes on below another one changes the
nodes of that one and keeps them. -/
theorem alterSegments_append_cons (f : Value → Option Value) (above : List Segment) (s : Segment) (below : List Segment)
    (v : Value) :
    alterSegments f (above ++ s :: below) v = some (mapSegments (s.alterChildren (alterSegments f below)) above v) := by
  rw [alterSegments_append]
  exact alterSegments_some _ above v

/-- Two changes of the addressed nodes are one change by both, as the second one finds the same nodes. It is about
every path, since a change of an addressed node never changes what is selected above it. -/
theorem mapSegments_mapSegments (g h : Value → Value) (segments : List Segment) (v : Value) :
    mapSegments g segments (mapSegments h segments v) = mapSegments (fun u => g (h u)) segments v := by
  induction segments generalizing v with
  | nil => rfl
  | cons s rest ih =>
    rw [mapSegments, mapSegments, mapSegments, Segment.mapChildren_mapChildren, funext ih]

/-! ## What is addressed afterwards -/

/-- A walk down two rows of segments finds what the second one finds below each node that the first one finds, in
the same order. -/
theorem resolveSegments_append (above below : List Segment) (v : Value) :
    resolveSegments (above ++ below) v
      = (resolveSegments above v).flatMap fun l =>
          (resolveSegments below l.value).map fun m => ⟨l.position ++ m.position, m.value⟩ := by
  induction above generalizing v with
  | nil =>
    show resolveSegments below v = [(⟨[], v⟩ : Location)].flatMap _
    rw [List.flatMap_singleton]
    exact (List.map_id _).symm
  | cons s above ih =>
    rw [List.cons_append, resolveSegments_cons, resolveSegments_cons, List.flatMap_assoc]
    congr 1
    funext x
    rw [ih, List.map_flatMap, List.flatMap_map]
    congr 1
    funext l
    rw [List.map_map]
    rfl

/-- After a change without removals a path addresses the same positions, with the new values. So it can be applied
again and finds what it has put there. -/
theorem resolve_mapSegments (g : Value → Value) (segments : List Segment) (v : Value) :
    resolveSegments segments (mapSegments g segments v)
      = (resolveSegments segments v).map fun l => ⟨l.position, g l.value⟩ := by
  induction segments generalizing v with
  | nil => rfl
  | cons s rest ih =>
    rw [mapSegments, resolveSegments_cons, resolveSegments_cons, Segment.children_mapChildren, List.flatMap_map,
      List.map_flatMap]
    congr 1
    funext x
    rw [ih, List.map_map, List.map_map]
    rfl

/-! ## Positions -/

/-- The position of an addressed node has one step for each segment. So no two addressed nodes lie one above the
other. -/
theorem length_position {segments : List Segment} {v : Value} {l : Location} (h : l ∈ resolveSegments segments v) :
    l.position.length = segments.length := by
  induction segments generalizing v l with
  | nil =>
    obtain rfl := List.mem_singleton.1 h
    rfl
  | cons s rest ih =>
    rw [resolveSegments_cons, List.mem_flatMap] at h
    obtain ⟨x, -, hl⟩ := h
    obtain ⟨below, hbelow, rfl⟩ := List.mem_map.1 hl
    exact congrArg (· + 1) (ih hbelow)

/-- No two selected children are at the same step, as items have different numbers and members different names. A
name occurs only once in a well-formed object. -/
theorem Segment.nodup_steps {okName : Text → Prop} {depth : Nat} {v : Value} (hv : v.Regular okName depth)
    (s : Segment) : ((s.children v).map Prod.fst).Nodup := by
  cases hv with
  | scalar h =>
    rw [children_of_isScalar h]
    exact List.nodup_nil
  | @array depth items _ =>
    cases s with
    | field name => exact List.nodup_nil
    | wildcard =>
      show ((itemChildren items 0).map Prod.fst).Nodup
      unfold itemChildren
      rw [List.map_map]
      have hindices : (items.zipIdx.map Prod.snd).Nodup := by
        rw [List.zipIdx_map_snd]
        exact List.nodup_range'
      have hinjective : Function.Injective Step.index := fun _ _ h => Step.index.inj h
      have hmapped := hindices.map hinjective
      rw [List.map_map] at hmapped
      exact hmapped
    | index i =>
      cases hj : itemIndex i items.length with
      | none =>
        rw [children, hj]
        exact List.nodup_nil
      | some j =>
        rw [children_index hj]
        cases items[j]? with
        | none => exact List.nodup_nil
        | some a => exact List.nodup_singleton _
  | @object depth members distinct _ _ =>
    cases s with
    | index i => exact List.nodup_nil
    | wildcard =>
      show ((memberChildren members).map Prod.fst).Nodup
      unfold memberChildren
      rw [List.map_map]
      have hinjective : Function.Injective Step.name := fun _ _ h => Step.name.inj h
      have hmapped := distinct.map hinjective
      unfold Entries.names at hmapped
      rw [List.map_map] at hmapped
      exact hmapped
    | field name =>
      rw [children_field]
      cases Entries.get? name members with
      | none => exact List.nodup_nil
      | some a => exact List.nodup_singleton _

/-- No position is addressed twice. Positions below one child are different by induction, and those below two
children begin with different steps. -/
theorem nodup_positions {okName : Text → Prop} {segments : List Segment} {depth : Nat} {v : Value}
    (hv : v.Regular okName depth) : ((resolveSegments segments v).map Location.position).Nodup := by
  induction segments generalizing depth v with
  | nil => exact List.nodup_singleton _
  | cons s rest ih =>
    rw [resolveSegments_cons, List.map_flatMap, List.nodup_flatMap]
    constructor
    · intro x hx
      obtain ⟨d, hchild⟩ := Segment.regular_of_mem_children hv hx
      have hinjective : Function.Injective fun p : Position => x.1 :: p := fun _ _ h => (List.cons.inj h).2
      rw [map_position_below]
      exact (ih hchild).map hinjective
    · -- below different children the positions begin with different steps
      have hsteps := List.pairwise_map.1 (s.nodup_steps hv)
      refine hsteps.imp fun {x y} hxy => ?_
      intro p hpx hpy
      dsimp only at hpx hpy
      rw [map_position_below] at hpx hpy
      obtain ⟨p', -, rfl⟩ := List.mem_map.1 hpx
      obtain ⟨q', -, hq⟩ := List.mem_map.1 hpy
      exact hxy (List.cons.inj hq).1.symm

/-! ## One after another -/

/-- Changes nodes one after another, from the last to the first, or takes them out. -/
def alterInTurn (f : Location → Value → Option Value) (ls : List Location) (v : Value) : Value :=
  ls.foldr (fun l w => (Value.alter (f l) l.position w).getD w) v

/-- Changes below a child, one after another, are one change of this child. None of them may be at the child itself,
which could be taken out. -/
theorem alterInTurn_below {f : Location → Value → Option Value} {ls : List Location} (hls : ∀ l ∈ ls, l.position ≠ [])
    (step : Step) (v : Value) :
    alterInTurn f (ls.map (Location.below step)) v
      = v.modifyChild (alterInTurn (fun l => f (l.below step)) ls) step := by
  induction ls with
  | nil => exact (Value.modifyChild_id step v).symm
  | cons l ls ih =>
    have hposition := hls l List.mem_cons_self
    -- below the root of the child nothing can take the child itself out
    have hstays : Value.alter (f (l.below step)) l.position
        = fun c => some ((Value.alter (f (l.below step)) l.position c).getD c) := by
      obtain ⟨t, p, hp⟩ := List.exists_cons_of_ne_nil hposition
      funext c
      rw [hp, Value.alter_cons]
      rfl
    have hrest := ih fun m hm => hls m (List.mem_cons_of_mem _ hm)
    show (Value.alter (f (l.below step)) (step :: l.position)
      (alterInTurn f (ls.map (Location.below step)) v)).getD _ = _
    rw [hrest, Value.alter_cons, hstays]
    exact Value.modifyChild_modifyChild _ _ step v

/-- Changing the addressed nodes one after another, from the last to the first, changes them all at once. What a
node is changed to may depend on where it is, as long as this is what its value is changed to. -/
theorem alterInTurn_resolve {okName : Text → Prop} {segments : List Segment} {depth : Nat} {v : Value}
    (hv : v.Regular okName depth) {f : Location → Value → Option Value} {g : Value → Option Value}
    (hfg : ∀ l ∈ resolveSegments segments v, f l l.value = g l.value) :
    alterInTurn f (resolveSegments segments v) v = (alterSegments g segments v).getD v := by
  induction segments generalizing depth v f with
  | nil =>
    show (f ⟨[], v⟩ v).getD v = (g v).getD v
    rw [hfg ⟨[], v⟩ List.mem_cons_self]
  | cons s rest ih =>
    rw [resolveSegments_cons] at hfg ⊢
    unfold alterInTurn
    rw [List.foldr_flatMap]
    refine Segment.foldr_children hv fun x hx w hw => ?_
    obtain ⟨d, hchild⟩ := Segment.regular_of_mem_children hv hx
    have hfg' : ∀ l ∈ resolveSegments rest x.2, f (l.below x.1) l.value = g l.value := fun l hl =>
      hfg (l.below x.1) (List.mem_flatMap.2 ⟨x, hx, List.mem_map_of_mem hl⟩)
    show alterInTurn f ((resolveSegments rest x.2).map (Location.below x.1)) w = _
    cases rest with
    | nil =>
      -- the child is addressed itself, and may be taken out
      have hroot : f ⟨[x.1], x.2⟩ x.2 = g x.2 := hfg' ⟨[], x.2⟩ List.mem_cons_self
      show (Value.alter (f ⟨[x.1], x.2⟩) [x.1] w).getD w = _
      rw [Value.alter_cons, Option.getD_some, Value.alterChild_eq_of_child? hw]
      show w.alterChild (fun _ => f ⟨[x.1], x.2⟩ x.2) x.1 = w.alterChild (fun _ => g x.2) x.1
      rw [hroot]
    | cons r rest =>
      rw [alterInTurn_below (fun l hl => position_ne_nil hl)]
      unfold Value.modifyChild
      rw [Value.alterChild_eq_of_child? hw, ih hchild hfg']
      rfl

/-- Where nothing is taken out, the first can go first as well: two addressed nodes part ways above both, and such
changes can change places. -/
theorem alterInTurn_reverse {okName : Text → Prop} {segments : List Segment} {depth : Nat} {v : Value}
    (hv : v.Regular okName depth) (g : Location → Value → Value) (w : Value) :
    alterInTurn (fun l u => some (g l u)) (resolveSegments segments v).reverse w
      = alterInTurn (fun l u => some (g l u)) (resolveSegments segments v) w := by
  refine List.Perm.foldr_eq' (List.reverse_perm _) (fun l hl m hm u => ?_) w
  rw [List.mem_reverse] at hl hm
  by_cases hlm : l = m
  · rw [hlm]
  -- different nodes are at different positions, none of which is above the other
  · have hpositions : m.position ≠ l.position := fun heq =>
      hlm (List.inj_on_of_nodup_map (nodup_positions hv) hm hl heq).symm
    exact Value.modify_comm hpositions ((length_position hm).trans (length_position hl).symm) (g m) (g l) u

end BodyScrub
