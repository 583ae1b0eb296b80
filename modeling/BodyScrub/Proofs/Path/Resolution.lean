import BodyScrub.Path.Match
import BodyScrub.Proofs.Json.RoundTrip

/-!
# What a path addresses in a changed value

For paths of names and wildcards only. A change of one child shows among the children of its parent in one place
(`children_alterChild`), since names are distinct and a wildcard takes every item. So the last node that a path
addresses can be taken out and the others stay where they are (`positions_resolve_erase`), and a path that addresses
nothing addresses nothing after a change (`resolve_alter_eq_nil`).
-/

namespace BodyScrub

open Json (Value Step Position)

/-- Addresses an item by its index. -/
def Segment.isIndex : Segment → Bool
  | .index _ => true
  | _ => false

/-! ## Children -/

namespace Segment

theorem children_of_isScalar {v : Value} (h : v.isScalar = true) (s : Segment) : s.children v = [] := by
  cases v with
  | array items => cases h
  | object members => cases h
  | _ => cases s <;> rfl

/-- The children of an array that a wildcard selects. -/
def itemChildren (items : List Value) (start : Nat) : List (Step × Value) :=
  (items.zipIdx start).map fun (v, i) => (.index i, v)

/-- The items of two rows are numbered one after another, the second row from where the first one ends. -/
theorem itemChildren_append (as bs : List Value) (start : Nat) :
    itemChildren (as ++ bs) start = itemChildren as start ++ itemChildren bs (start + as.length) := by
  unfold itemChildren
  rw [List.zipIdx_append, List.map_append]

/-- An item among all the children is one with items before it and behind it, and its number is that of the items
before it. -/
theorem itemChildren_eq_append {items : List Value} {pre post : List (Step × Value)} {x : Step × Value}
    (h : itemChildren items 0 = pre ++ x :: post) :
    ∃ as bs, items = as ++ x.2 :: bs ∧ x.1 = .index as.length ∧ pre = itemChildren as 0
      ∧ post = itemChildren bs (as.length + 1) := by
  obtain ⟨l₁, l₂, hl, hpre, hpost⟩ := List.map_eq_append_iff.1 h
  obtain ⟨as, cs, rfl, rfl, rfl⟩ := List.zipIdx_eq_append_iff.1 hl
  cases cs with
  | nil => exact absurd hpost (by simp)
  | cons c bs =>
    rw [List.zipIdx_cons, List.map_cons, Nat.zero_add] at hpost
    obtain ⟨rfl, rfl⟩ := List.cons.inj hpost
    exact ⟨as, bs, rfl, rfl, hpre.symm, rfl⟩

theorem mem_of_mem_itemChildren {items : List Value} {start : Nat} {x : Step × Value}
    (h : x ∈ itemChildren items start) : x.2 ∈ items := by
  obtain ⟨⟨v, i⟩, hmem, rfl⟩ := List.mem_map.1 h
  exact List.fst_mem_of_mem_zipIdx hmem

/-- Every item is numbered, so a wildcard selects it. The numbers begin with zero and leave none out. -/
theorem exists_mem_itemChildren {items : List Value} {v : Value} (h : v ∈ items) :
    ∃ y ∈ itemChildren items 0, y.2 = v := by
  obtain ⟨as, bs, rfl⟩ := List.append_of_mem h
  refine ⟨(.index as.length, v), ?_, rfl⟩
  rw [itemChildren_append, Nat.zero_add]
  exact List.mem_append_right _ List.mem_cons_self

/-- The children of an object that a wildcard selects. -/
def memberChildren (members : Entries Value) : List (Step × Value) := members.map fun (n, v) => (.name n, v)

/-- A member among all the children is one with members before it and behind it. -/
theorem memberChildren_eq_append {members : Entries Value} {pre post : List (Step × Value)} {x : Step × Value}
    (h : memberChildren members = pre ++ x :: post) :
    ∃ as n bs, members = as ++ (n, x.2) :: bs ∧ x.1 = .name n ∧ pre = memberChildren as ∧ post = memberChildren bs := by
  obtain ⟨as, cs, rfl, hpre, hpost⟩ := List.map_eq_append_iff.1 h
  cases cs with
  | nil => exact absurd hpost (by simp)
  | cons c bs =>
    obtain ⟨rfl, rfl⟩ := List.cons.inj hpost
    exact ⟨as, c.1, bs, rfl, rfl, hpre.symm, rfl⟩

/-- The child under a name. -/
def fieldChildren (name : Text) (child : Option Value) : List (Step × Value) :=
  (child.map fun v => (Step.name name, v)).toList

theorem children_field (name : Text) (members : Entries Value) :
    (field name).children (.object members) = fieldChildren name (Entries.get? name members) := by
  rw [children]
  cases Entries.get? name members with
  | none => rfl
  | some v => rfl

theorem mem_fieldChildren {name : Text} {found : Option Value} {x : Step × Value} :
    x ∈ fieldChildren name found ↔ ∃ v, found = some v ∧ (.name name, v) = x := by
  unfold fieldChildren
  rw [Option.mem_toList, Option.map_eq_some_iff]

/-- The child under a name has no others beside it. The case is needed where all selected children are cut in front
of one of them. -/
theorem fieldChildren_eq_append {name : Text} {found : Option Value} {pre post : List (Step × Value)} {step : Step}
    {child : Value} (h : fieldChildren name found = pre ++ (step, child) :: post) :
    pre = [] ∧ step = .name name ∧ found = some child ∧ post = [] := by
  cases found with
  | none => exact absurd h.symm (List.append_ne_nil_of_right_ne_nil _ (List.cons_ne_nil _ _))
  | some v =>
    cases pre with
    | nil =>
      obtain ⟨hhead, htail⟩ := List.cons.inj h
      obtain ⟨rfl, rfl⟩ := Prod.mk.inj hhead
      exact ⟨rfl, rfl, rfl, htail.symm⟩
    | cons x pre =>
      have htail := (List.cons.inj h).2
      exact absurd htail.symm (List.append_ne_nil_of_right_ne_nil _ (List.cons_ne_nil _ _))

/-- A change of one child shows in one place. One that is taken out has to be the last, or items move up and have
other numbers. Names have to be distinct: a second member of one name would come forward in place of the first. -/
theorem children_alterChild {s : Segment} (hs : s.isIndex = false) {okName : Text → Prop} {depth : Nat} {v : Value}
    (hv : v.Regular okName depth) {pre post : List (Step × Value)} {step : Step} {child : Value}
    (h : s.children v = pre ++ (step, child) :: post) {f : Value → Option Value}
    (hlast : f child = none → post = []) :
    s.children (Value.alterChild f step v)
      = pre ++ match f child with
        | some w => (step, w) :: post
        | none => [] := by
  cases hv with
  | scalar hscalar =>
    -- a scalar has no children, so none of them was among those selected
    rw [children_of_isScalar hscalar] at h
    exact absurd h.symm (List.append_ne_nil_of_right_ne_nil _ (List.cons_ne_nil _ _))
  | array hitems =>
    cases s with
    | index i => cases hs
    | field name => exact absurd h.symm (List.append_ne_nil_of_right_ne_nil _ (List.cons_ne_nil _ _))
    | wildcard =>
      obtain ⟨as, bs, rfl, hstep, rfl, rfl⟩ := itemChildren_eq_append h
      dsimp only at hstep hlast ⊢
      subst hstep
      show itemChildren (Json.alterItem f as.length (as ++ child :: bs)) 0 = _
      rw [Json.alterItem_append, itemChildren_append, Nat.zero_add]
      congr 1
      cases hf : f child with
      | some w => rfl
      | none =>
        -- taking an item out moves those behind it up, but there are none
        have hbs : bs = [] := by
          cases bs with
          | nil => rfl
          | cons b bs => exact absurd (hlast hf) (List.cons_ne_nil _ _)
        rw [hbs]
        rfl
  | object distinct hnames hmembers =>
    cases s with
    | index i => cases hs
    | field name =>
      rw [children_field] at h
      obtain ⟨rfl, rfl, hget, rfl⟩ := fieldChildren_eq_append h
      show (field name).children (.object (Entries.alter name f _)) = _
      rw [children_field, Entries.get?_alter_self distinct, hget, Option.bind_some]
      cases f child with
      | none => rfl
      | some w => rfl
    | wildcard =>
      obtain ⟨as, n, bs, rfl, hstep, rfl, rfl⟩ := memberChildren_eq_append h
      dsimp only at hstep hlast ⊢
      subst hstep
      show memberChildren (Entries.alter n f (as ++ (n, child) :: bs)) = _
      rw [Entries.alter_append (Entries.not_mem_names_of_nodup distinct)]
      unfold memberChildren at hlast ⊢
      rw [List.map_append]
      congr 1
      cases hf : f child with
      | some w => rfl
      | none => exact hlast hf

/-- What a segment selects of a well-formed value is well formed, one level further down. The inductions over
segments go on below with this. -/
theorem regular_of_mem_children {s : Segment} {okName : Text → Prop} {depth : Nat} {v : Value}
    (hv : v.Regular okName depth) {x : Step × Value} (hx : x ∈ s.children v) :
    ∃ depth, x.2.Regular okName depth := by
  cases hv with
  | scalar hscalar =>
    rw [children_of_isScalar hscalar] at hx
    exact absurd hx List.not_mem_nil
  | @array depth items hitems =>
    refine ⟨depth, hitems x.2 ?_⟩
    cases s with
    | field name => exact absurd hx List.not_mem_nil
    | wildcard => exact mem_of_mem_itemChildren hx
    | index i =>
      rw [children] at hx
      split at hx
      · obtain ⟨u, hu, rfl⟩ := Option.map_eq_some_iff.1 (Option.mem_toList.1 hx)
        exact List.mem_of_getElem? hu
      · exact absurd hx List.not_mem_nil
  | @object depth members distinct hnames hmembers =>
    cases s with
    | index i => exact absurd hx List.not_mem_nil
    | field name =>
      rw [children_field] at hx
      obtain ⟨u, hu, rfl⟩ := mem_fieldChildren.1 hx
      exact ⟨depth, hmembers _ (Entries.mem_of_get? hu)⟩
    | wildcard =>
      obtain ⟨m, hm, rfl⟩ := List.mem_map.1 hx
      exact ⟨depth, hmembers m hm⟩

/-- After a change every child that a segment selects was selected before, or was changed from one that was. Nothing
is said here of how many there are, or of their steps. -/
theorem exists_of_mem_children_alterChild {s : Segment} (hs : s.isIndex = false) {okName : Text → Prop} {depth : Nat}
    {v : Value} (hv : v.Regular okName depth) {f : Value → Option Value} {step : Step} {x : Step × Value}
    (hx : x ∈ s.children (Value.alterChild f step v)) :
    ∃ y ∈ s.children v, y.2 = x.2 ∨ f y.2 = some x.2 := by
  cases hv with
  | scalar hscalar =>
    rw [Value.alterChild_of_isScalar hscalar] at hx
    exact ⟨x, hx, Or.inl rfl⟩
  | array hitems =>
    cases step with
    | name key => exact ⟨x, hx, Or.inl rfl⟩
    | index i =>
      cases s with
      | index i => cases hs
      | field name => exact absurd hx List.not_mem_nil
      | wildcard =>
        rcases Json.mem_of_mem_alterItem (mem_of_mem_itemChildren hx) with hmem | ⟨a, hmem, ha⟩
        · obtain ⟨y, hy, hyx⟩ := exists_mem_itemChildren hmem
          exact ⟨y, hy, Or.inl hyx⟩
        · obtain ⟨y, hy, rfl⟩ := exists_mem_itemChildren hmem
          exact ⟨y, hy, Or.inr ha⟩
  | object distinct hnames hmembers =>
    cases step with
    | index i => exact ⟨x, hx, Or.inl rfl⟩
    | name key =>
      cases s with
      | index i => cases hs
      | field name =>
        replace hx : x ∈ (field name).children (.object (Entries.alter key f _)) := hx
        rw [children_field] at hx ⊢
        obtain ⟨w, hw, rfl⟩ := mem_fieldChildren.1 hx
        -- the segment sees the change only under its own name
        by_cases hkey : name = key
        · rw [hkey, Entries.get?_alter_self distinct] at hw
          obtain ⟨u, hu, hfu⟩ := Option.bind_eq_some_iff.1 hw
          exact ⟨(.name name, u), mem_fieldChildren.2 ⟨u, by rw [hkey]; exact hu, rfl⟩, Or.inr hfu⟩
        · rw [Entries.get?_alter_of_ne hkey] at hw
          exact ⟨(.name name, w), mem_fieldChildren.2 ⟨w, hw, rfl⟩, Or.inl rfl⟩
      | wildcard =>
        obtain ⟨m, hm, rfl⟩ := List.mem_map.1 hx
        rcases Entries.mem_of_mem_alter hm with hm | ⟨a, b, ha, hb, rfl⟩
        · exact ⟨(.name m.1, m.2), List.mem_map.2 ⟨m, hm, rfl⟩, Or.inl rfl⟩
        · exact ⟨(.name key, a), List.mem_map.2 ⟨(key, a), ha, rfl⟩, Or.inr hb⟩

end Segment

/-! ## Nodes -/

/-- The last of all results comes from one argument, and those behind it have none. This is how the last addressed
node is found below one child. -/
theorem exists_of_flatMap_eq_concat {α β : Type} {f : α → List β} {as : List α} {bs : List β} {b : β}
    (h : as.flatMap f = bs ++ [b]) :
    ∃ pre a post cs, as = pre ++ a :: post ∧ (∀ x ∈ post, f x = []) ∧ f a = cs ++ [b] ∧ bs = pre.flatMap f ++ cs := by
  induction as using List.reverseRecOn generalizing bs with
  | nil => exact absurd h.symm (List.append_ne_nil_of_right_ne_nil _ (List.cons_ne_nil _ _))
  | append_singleton as a ih =>
    rw [List.flatMap_append, List.flatMap_singleton] at h
    -- what `f` gives for the last of them is empty or ends with `b`
    rcases List.eq_nil_or_concat (f a) with hnil | ⟨cs, c, hcs⟩
    · rw [hnil, List.append_nil] at h
      obtain ⟨pre, a', post, cs, rfl, hpost, hlast, hbs⟩ := ih h
      refine ⟨pre, a', post ++ [a], cs, by rw [List.append_assoc]; rfl, ?_, hlast, hbs⟩
      intro x hx
      rcases List.mem_append.1 hx with hx | hx
      · exact hpost x hx
      · rw [List.mem_singleton.1 hx]
        exact hnil
    · rw [List.concat_eq_append] at hcs
      rw [hcs, ← List.append_assoc] at h
      obtain ⟨hbs, hb⟩ := List.append_inj' h rfl
      obtain rfl : c = b := (List.cons.inj hb).1
      exact ⟨as, a, [], cs, rfl, fun x hx => absurd hx List.not_mem_nil, hcs, hbs.symm⟩

/-- The node that a step leads to, seen from above the step. -/
def Location.below (step : Step) (l : Location) : Location := ⟨step :: l.position, l.value⟩

/-- The walk goes on below each of the selected children, and puts the step in front of what it finds there. Proofs
about a walk are inductions with this equation for their step. -/
theorem resolveSegments_cons (s : Segment) (rest : List Segment) (v : Value) :
    resolveSegments (s :: rest) v
      = (s.children v).flatMap fun x => (resolveSegments rest x.2).map (Location.below x.1) := rfl

/-- Nothing is addressed if and only if nothing is addressed below any selected child. -/
theorem resolveSegments_cons_eq_nil_iff {s : Segment} {rest : List Segment} {v : Value} :
    resolveSegments (s :: rest) v = [] ↔ ∀ x ∈ s.children v, resolveSegments rest x.2 = [] := by
  rw [resolveSegments_cons, List.flatMap_eq_nil_iff]
  constructor
  · exact fun h x hx => List.map_eq_nil_iff.1 (h x hx)
  · exact fun h x hx => List.map_eq_nil_iff.2 (h x hx)

theorem position_ne_nil {s : Segment} {rest : List Segment} {v : Value} {l : Location}
    (h : l ∈ resolveSegments (s :: rest) v) : l.position ≠ [] := by
  rw [resolveSegments_cons, List.mem_flatMap] at h
  obtain ⟨x, -, hl⟩ := h
  obtain ⟨below, -, rfl⟩ := List.mem_map.1 hl
  exact List.cons_ne_nil _ _

theorem map_position_below (step : Step) (ls : List Location) :
    (ls.map (Location.below step)).map Location.position = (ls.map Location.position).map (step :: ·) := by
  rw [List.map_map, List.map_map]
  rfl

/-- Taking out the last node that a path addresses leaves the others where they are. Indices that count from the end
would move even so, which is why there are none here. -/
theorem positions_resolve_erase {segments : List Segment} (hsegments : ∀ s ∈ segments, s.isIndex = false)
    {okName : Text → Prop} {depth : Nat} {v w : Value} (hv : v.Regular okName depth) {ls : List Location} {l : Location}
    (h : resolveSegments segments v = ls ++ [l]) (hw : Value.alter (fun _ => none) l.position v = some w) :
    (resolveSegments segments w).map Location.position = ls.map Location.position := by
  induction segments generalizing depth v w ls l with
  | nil =>
    -- the root itself is never taken out
    have hlone : [] ++ [⟨[], v⟩] = ls ++ [l] := h
    obtain ⟨rfl, hl⟩ := List.append_inj' hlone rfl
    rw [← (List.cons.inj hl).1] at hw
    cases hw
  | cons s rest ih =>
    have hs := hsegments s List.mem_cons_self
    have hrest : ∀ r ∈ rest, r.isIndex = false := fun r hr => hsegments r (List.mem_cons_of_mem _ hr)
    rw [resolveSegments_cons] at h
    obtain ⟨pre, ⟨step, child⟩, post, cs, hchildren, hpost, hlast, rfl⟩ := exists_of_flatMap_eq_concat h
    obtain ⟨below, lasts, hbelow, rfl, hl⟩ := List.map_eq_append_iff.1 hlast
    obtain ⟨last, rfl, rfl⟩ := List.map_eq_singleton_iff.1 hl
    have hmem : (step, child) ∈ s.children v := by
      rw [hchildren]
      exact List.mem_append_right _ List.mem_cons_self
    obtain ⟨d, hchild⟩ := Segment.regular_of_mem_children hv hmem
    -- a child is taken out whole only if no segment is left, and then it is the last child
    have hnone : Value.alter (fun _ => none) last.position child = none → rest = [] := by
      intro halter
      have hlast : last ∈ resolveSegments rest child := by
        rw [hbelow]
        exact List.mem_append_right _ List.mem_cons_self
      cases rest with
      | nil => rfl
      | cons r rest =>
        cases hp : last.position with
        | nil => exact absurd hp (position_ne_nil hlast)
        | cons q p =>
          rw [hp, Value.alter_cons] at halter
          exact absurd halter (by simp)
    have hall : rest = [] → post = [] := by
      intro hnil
      cases post with
      | nil => rfl
      | cons x post =>
        have hx := hpost x List.mem_cons_self
        rw [hnil] at hx
        cases hx
    have halter := Segment.children_alterChild hs hv hchildren fun hn => hall (hnone hn)
    change Value.alter _ (step :: last.position) v = some w at hw
    rw [Value.alter_cons] at hw
    obtain rfl := Option.some.inj hw
    rw [resolveSegments_cons, halter, List.flatMap_append, List.map_append, List.map_append]
    congr 1
    cases hf : Value.alter (fun _ => none) last.position child with
    | none =>
      rw [hnone hf] at hbelow
      have hlone : [] ++ [⟨[], child⟩] = below ++ [last] := hbelow
      obtain ⟨hempty, -⟩ := List.append_inj' hlone rfl
      rw [← hempty]
      rfl
    | some c =>
      -- the child stays, and the rest of the path addresses one node less in it
      have hpositions := ih hrest hchild hbelow hf
      show ((resolveSegments rest c).map (Location.below step) ++ post.flatMap _).map Location.position = _
      rw [List.flatMap_eq_nil_iff.2 hpost, List.append_nil, map_position_below, map_position_below, hpositions]

/-- A path that addresses nothing addresses nothing after a change, as long as what is put in place has no children
of its own. -/
theorem resolve_alter_eq_nil {segments : List Segment} (hsegments : ∀ s ∈ segments, s.isIndex = false)
    {okName : Text → Prop} {depth : Nat} {v w : Value} (hv : v.Regular okName depth) {f : Value → Option Value}
    (hf : ∀ u u', f u = some u' → u'.isScalar = true) {p : Position} (h : resolveSegments segments v = [])
    (hw : Value.alter f p v = some w) : resolveSegments segments w = [] := by
  induction p generalizing segments depth v w with
  | nil =>
    cases segments with
    | nil => cases h
    | cons s rest =>
      -- a scalar has no children
      rw [resolveSegments_cons_eq_nil_iff, Segment.children_of_isScalar (hf v w hw)]
      exact fun x hx => absurd hx List.not_mem_nil
  | cons step p ih =>
    cases segments with
    | nil => cases h
    | cons s rest =>
      have hs := hsegments s List.mem_cons_self
      have hrest : ∀ r ∈ rest, r.isIndex = false := fun r hr => hsegments r (List.mem_cons_of_mem _ hr)
      rw [Value.alter_cons] at hw
      obtain rfl := Option.some.inj hw
      rw [resolveSegments_cons_eq_nil_iff] at h ⊢
      intro x hx
      obtain ⟨y, hy, hyx⟩ := Segment.exists_of_mem_children_alterChild hs hv hx
      -- a child that stays addresses nothing as before; one that was changed, by induction
      rcases hyx with hyx | hyx
      · rw [← hyx]
        exact h y hy
      · obtain ⟨d, hreg⟩ := Segment.regular_of_mem_children hv hy
        exact ih hrest hreg (h y hy) hyx


/-! ## Rewritten strings -/

/-- Rewriting strings keeps the children in their places, rewritten. It keeps names and the number of items, which
is all that a segment looks at. -/
theorem Segment.children_mapStrings (s : Segment) (f : Text → Text) (v : Value) :
    s.children (v.mapStrings f) = (s.children v).map fun x => (x.1, x.2.mapStrings f) := by
  cases v with
  | array items =>
    rw [Value.mapStrings, Value.mapItems_eq_map]
    cases s with
    | field name => rfl
    | index i =>
      rw [children, children, List.length_map]
      cases itemIndex i items.length with
      | none => rfl
      | some j =>
        dsimp only
        rw [List.getElem?_map]
        cases items[j]? with
        | none => rfl
        | some u => rfl
    | wildcard =>
      show itemChildren (items.map _) 0 = (itemChildren items 0).map _
      unfold itemChildren
      rw [List.zipIdx_map, List.map_map, List.map_map]
      rfl
  | object members =>
    rw [Value.mapStrings, Value.mapMembers_eq_map]
    cases s with
    | index i => rfl
    | field name =>
      rw [children_field, children_field, Entries.get?_map fun e : Text × Value => e.2.mapStrings f]
      cases Entries.get? name members with
      | none => rfl
      | some u => rfl
    | wildcard =>
      show memberChildren (members.map _) = (memberChildren members).map _
      unfold memberChildren
      rw [List.map_map, List.map_map]
      rfl
  | _ => cases s <;> rfl

/-- A path that addresses nothing addresses nothing when strings change. Only the values of strings change here, and
names that change on being written are ruled out before. -/
theorem resolve_mapStrings_eq_nil {segments : List Segment} {f : Text → Text} {v : Value}
    (h : resolveSegments segments v = []) : resolveSegments segments (v.mapStrings f) = [] := by
  induction segments generalizing v with
  | nil => cases h
  | cons s rest ih =>
    rw [resolveSegments_cons_eq_nil_iff] at h ⊢
    intro x hx
    rw [Segment.children_mapStrings] at hx
    obtain ⟨y, hy, rfl⟩ := List.mem_map.1 hx
    exact ih (h y hy)

end BodyScrub
