import BodyScrub.Proofs.Document
import BodyScrub.Proofs.Path.Simultaneous

/-!
# What a path addresses, and in which order

A path addresses the nodes whose position fits its segments one by one (`Fits`), and it addresses them in document order
(`Value.Before`): where two ways part, the member that was inserted first or the item with the lower index comes first.
The walk that resolves a path is not mentioned in either. All this holds of a value in which no object has a name twice
(`Value.Regular`), as every value that was read.

* **`Segment.Selects`**, **`Path.Fits`**: the steps that a segment stands for, and the positions that segments fit.
* **`Value.Precedes`**, **`Value.Before`**: the order of children and the order of positions.
* **`mem_resolveSegments_iff`**, **`pairwise_before`**: the walk finds these nodes, in this order.
* **`locate_spec`**: both for documents, with the node above each node, and that no addressed node is above another.
-/

namespace BodyScrub

open Json (Value Step Position)

/-! ## Steps that a segment stands for -/

/-- An index counts to an item from the beginning, or from the end if it is negative, and to none beyond either end. -/
theorem itemIndex_eq_some_iff {i : Int} {count j : Nat} :
    itemIndex i count = some j ↔ j < count ∧ (i = j ∨ i < 0 ∧ i + count = j) := by
  unfold itemIndex
  dsimp only
  split
  · next hneg =>
    simp only [Bool.and_eq_true, decide_eq_true_eq, Option.ite_none_right_eq_some, Option.some.injEq]
    omega
  · next hneg =>
    simp only [Bool.and_eq_true, decide_eq_true_eq, Option.ite_none_right_eq_some, Option.some.injEq]
    omega

namespace Segment

/-- The steps from a node that a segment stands for: a name stands for the member of an object, an index for the item
of an array that it counts to, from the beginning or from the end, and a wildcard for every child. -/
inductive Selects : Segment → Value → Step → Prop where
  | field (name : Text) (members : Entries Value) : Selects (.field name) (.object members) (.name name)
  | fromStart {i : Int} {j : Nat} (items : List Value) (h : i = j) : Selects (.index i) (.array items) (.index j)
  | fromEnd {i : Int} {j : Nat} {items : List Value} (neg : i < 0) (h : i + items.length = j) :
    Selects (.index i) (.array items) (.index j)
  | wildcard (v : Value) (t : Step) : Selects .wildcard v t

variable {okName : Text → Prop} {depth : Nat} {v c : Value} {s : Segment} {t : Step}

/-- In an array an index selects the one item that it counts to. This is the case of `mem_children_iff` in which the
number of items matters. -/
theorem mem_children_index {i : Int} {items : List Value} :
    (t, c) ∈ (index i).children (.array items)
      ↔ (index i).Selects (.array items) t ∧ (Value.array items).child? t = some c := by
  constructor
  · intro h
    cases hj : itemIndex i items.length with
    | none => simp [children, hj] at h
    | some j =>
      obtain ⟨-, hcount⟩ := itemIndex_eq_some_iff.1 hj
      rw [children_index hj] at h
      obtain ⟨a, ha, hpair⟩ := Option.map_eq_some_iff.1 (Option.mem_toList.1 h)
      obtain ⟨rfl, rfl⟩ := Prod.mk.inj hpair
      refine ⟨?_, ha⟩
      rcases hcount with hstart | ⟨hneg, hend⟩
      · exact .fromStart items hstart
      · exact .fromEnd hneg hend
  · rintro ⟨hselects, hchild⟩
    have hcounted : ∀ j : Nat, items[j]? = some c → (i = j ∨ i < 0 ∧ i + items.length = j) →
        (Step.index j, c) ∈ (index i).children (.array items) := by
      intro j hitem hcount
      have hj : j < items.length := (List.getElem?_eq_some_iff.1 hitem).1
      simp [children_index (itemIndex_eq_some_iff.2 ⟨hj, hcount⟩), hitem]
    cases hselects with
    | fromStart _ h => exact hcounted _ hchild (Or.inl h)
    | fromEnd neg h => exact hcounted _ hchild (Or.inr ⟨neg, h⟩)

/-- The children that a segment selects are those at the steps it stands for. That no name occurs twice is needed
for objects: of two members with one name a wildcard would select both, and a step leads to one. -/
theorem mem_children_iff (hv : v.Regular okName depth) :
    (t, c) ∈ s.children v ↔ s.Selects v t ∧ v.child? t = some c := by
  cases hv with
  | scalar hscalar =>
    -- a scalar has no children, and no step leads on from it
    have hnone : v.child? t = none := by cases v <;> cases t <;> simp_all [Value.child?, Value.isScalar]
    simp [children_of_isScalar hscalar, hnone]
  | @array depth items _ =>
    cases s with
    | field name =>
      refine ⟨fun h => absurd h List.not_mem_nil, fun h => ?_⟩
      cases h.1
    | index i => exact mem_children_index
    | wildcard =>
      have hmem : (t, c) ∈ itemChildren items 0 ↔ (Value.array items).child? t = some c := by
        unfold itemChildren
        cases t with
        | name key => simp [Value.child?]
        | index j => simp [Value.child?, List.mem_zipIdx_iff_getElem?]
      exact hmem.trans ⟨fun h => ⟨.wildcard _ t, h⟩, fun h => h.2⟩
  | @object depth members distinct _ _ =>
    cases s with
    | index i =>
      refine ⟨fun h => absurd h List.not_mem_nil, fun h => ?_⟩
      cases h.1
    | field name =>
      rw [children_field, mem_fieldChildren]
      constructor
      · rintro ⟨a, ha, hpair⟩
        obtain ⟨rfl, rfl⟩ := Prod.mk.inj hpair
        exact ⟨.field name members, ha⟩
      · rintro ⟨hselects, hchild⟩
        cases hselects with
        | field _ _ => exact ⟨c, hchild, rfl⟩
    | wildcard =>
      have hmem : (t, c) ∈ memberChildren members ↔ (Value.object members).child? t = some c := by
        unfold memberChildren
        cases t with
        | index j => simp [Value.child?]
        | name key => simp [Value.child?, Entries.get?_eq_some_iff distinct]
      exact hmem.trans ⟨fun h => ⟨.wildcard _ t, h⟩, fun h => h.2⟩

end Segment

/-! ## Positions that segments fit -/

/-- A position fits segments below a node if each of its steps is one that the segment in its place stands for. -/
inductive Path.Fits : List Segment → Value → Position → Prop where
  | nil (v : Value) : Fits [] v []
  | cons {s : Segment} {rest : List Segment} {v c : Value} {t : Step} {p : Position} (selects : s.Selects v t)
    (child : v.child? t = some c) (below : Fits rest c p) : Fits (s :: rest) v (t :: p)

section

variable {okName : Text → Prop} {depth : Nat} {v : Value} {segments : List Segment} {l : Location}

/-- The walk finds exactly the nodes at the positions that the segments fit, each with its value. The induction is
on the segments, over all nodes, since the rest of them is about a child. -/
theorem mem_resolveSegments_iff (hv : v.Regular okName depth) :
    l ∈ resolveSegments segments v ↔ Path.Fits segments v l.position ∧ v.get? l.position = some l.value := by
  induction segments generalizing depth v l with
  | nil =>
    constructor
    · intro h
      rw [List.mem_singleton.1 h]
      exact ⟨.nil v, rfl⟩
    · rintro ⟨hfits, hnode⟩
      obtain ⟨p, u⟩ := l
      cases hfits
      have hvalue : v = u := Option.some.inj hnode
      simp [resolveSegments, hvalue]
  | cons s rest ih =>
    rw [resolveSegments_cons, List.mem_flatMap]
    constructor
    -- a node that was found is one that was found below a selected child
    · rintro ⟨⟨t, c⟩, hmem, hl⟩
      obtain ⟨below, hbelow, rfl⟩ := List.mem_map.1 hl
      obtain ⟨d, hchild⟩ := Segment.regular_of_mem_children hv hmem
      obtain ⟨hselects, hc⟩ := (Segment.mem_children_iff hv).1 hmem
      obtain ⟨hfits, hnode⟩ := (ih hchild).1 hbelow
      refine ⟨.cons hselects hc hfits, ?_⟩
      simpa [Location.below, Value.get?, hc] using hnode
    · rintro ⟨hfits, hnode⟩
      obtain ⟨p, u⟩ := l
      cases hfits with
      | @cons _ _ _ c t p hselects hc hbelow =>
        have hmem : (t, c) ∈ s.children v := (Segment.mem_children_iff hv).2 ⟨hselects, hc⟩
        obtain ⟨d, hchild⟩ := Segment.regular_of_mem_children hv hmem
        have hrest : c.get? p = some u := by simpa [Value.get?, hc] using hnode
        exact ⟨(t, c), hmem, List.mem_map.2 ⟨⟨p, u⟩, (ih hchild).2 ⟨hbelow, hrest⟩, rfl⟩⟩

end

/-! ## Document order -/

namespace Json.Value

/-- One child of a node comes before another: members in the order in which they were inserted, items by index. -/
inductive Precedes : Value → Step → Step → Prop where
  | members {ms : Entries Value} {m n : Text} (h : [m, n].Sublist (Entries.names ms)) :
    Precedes (.object ms) (.name m) (.name n)
  | items (vs : List Value) {i j : Nat} (h : i < j) : Precedes (.array vs) (.index i) (.index j)

/-- One position in a value comes before another: the position of a node before those below it, and of two others that
one which, where they part, goes on to the child that comes first. -/
inductive Before : Value → Position → Position → Prop where
  | above (v : Value) (t : Step) (q : Position) : Before v [] (t :: q)
  | part {v : Value} {s t : Step} (h : v.Precedes s t) (p q : Position) : Before v (s :: p) (t :: q)
  | within {v c : Value} {t : Step} (child : v.child? t = some c) {p q : Position} (h : Before c p q) :
    Before v (t :: p) (t :: q)

theorem Regular.of_child? {okName : Text → Prop} {depth : Nat} {v c : Value} {t : Step} (hv : v.Regular okName depth)
    (h : v.child? t = some c) : ∃ d, c.Regular okName d := by
  have hmem : (t, c) ∈ Segment.wildcard.children v := (Segment.mem_children_iff hv).2 ⟨.wildcard v t, h⟩
  exact Segment.regular_of_mem_children hv hmem

end Json.Value

section

variable {okName : Text → Prop} {depth : Nat} {v : Value} {segments : List Segment} {l m : Location}

/-- A segment selects children in their order: members as they were inserted, items by index. Only a wildcard
selects more than one. -/
theorem Segment.precedes_children (s : Segment) (v : Value) :
    (s.children v).Pairwise fun x y => v.Precedes x.1 y.1 := by
  cases v with
  | array items =>
    cases s with
    | field name => exact List.Pairwise.nil
    | index i =>
      rw [children]
      cases itemIndex i items.length with
      | none => exact List.Pairwise.nil
      | some j => cases items[j]? <;> simp
    | wildcard =>
      -- the indices go up as the items are numbered
      have hindices : (items.zipIdx.map Prod.snd).Pairwise (· < ·) := by
        rw [List.zipIdx_map_snd]
        exact List.pairwise_lt_range'
      show (itemChildren items 0).Pairwise _
      unfold itemChildren
      rw [List.pairwise_map] at hindices ⊢
      exact hindices.imp fun h => .items items h
  | object members =>
    cases s with
    | index i => exact List.Pairwise.nil
    | field name =>
      rw [children_field]
      cases Entries.get? name members <;> simp [fieldChildren]
    | wildcard =>
      -- two names in the order of insertion are a sublist of all names
      have hnames : (Entries.names members).Pairwise fun a b => [a, b].Sublist (Entries.names members) :=
        List.pairwise_iff_forall_sublist.2 fun h => h
      unfold Entries.names at hnames
      show (memberChildren members).Pairwise _
      unfold memberChildren
      rw [List.pairwise_map] at hnames ⊢
      exact hnames.imp fun h => .members h
  | _ => cases s <;> exact List.Pairwise.nil

/-- The walk finds nodes in document order. Two nodes below one child are in order by induction, and two below
different children are as these children are. -/
theorem pairwise_before (hv : v.Regular okName depth) (segments : List Segment) :
    (resolveSegments segments v).Pairwise fun l m => v.Before l.position m.position := by
  induction segments generalizing depth v with
  | nil => exact List.pairwise_singleton _ _
  | cons s rest ih =>
    rw [resolveSegments_cons, List.pairwise_flatMap]
    constructor
    · rintro ⟨t, c⟩ hmem
      obtain ⟨d, hchild⟩ := Segment.regular_of_mem_children hv hmem
      have hc := ((Segment.mem_children_iff hv).1 hmem).2
      rw [List.pairwise_map]
      exact (ih hchild).imp fun h => .within hc h
    · -- below different children the order is that of the children
      refine (s.precedes_children v).imp fun hxy => ?_
      intro l hl m hm
      obtain ⟨l', -, rfl⟩ := List.mem_map.1 hl
      obtain ⟨m', -, rfl⟩ := List.mem_map.1 hm
      exact .part hxy l'.position m'.position

/-- No addressed node is at, above or below another one. All positions are of the length of the path, so that one
above another would be the same, and no position is found twice. -/
theorem pairwise_apart (hv : v.Regular okName depth) (segments : List Segment) :
    (resolveSegments segments v).Pairwise fun l m => ¬l.position <+: m.position ∧ ¬m.position <+: l.position := by
  have hne : (resolveSegments segments v).Pairwise fun l m => l.position ≠ m.position :=
    List.pairwise_map.1 (nodup_positions hv)
  refine hne.imp_of_mem fun {l m} hl hm hlm => ?_
  have hlength : l.position.length = m.position.length := (length_position hl).trans (length_position hm).symm
  exact ⟨fun h => hlm (h.eq_of_length hlength), fun h => hlm (h.eq_of_length hlength.symm).symm⟩

end

/-! ## The node above -/

/-- A position in two parts leads first to the node at the first part, and from there on. Nothing is found below a
part that leads nowhere. -/
theorem Json.Value.get?_append (v : Value) (p q : Position) : v.get? (p ++ q) = (v.get? p).bind (Value.get? q) := by
  induction p generalizing v with
  | nil => simp [Value.get?]
  | cons t p ih =>
    rw [List.cons_append, Value.get?, Value.get?, Option.bind_assoc]
    congr 1
    funext c
    exact ih c

/-- The last step of a position leads from the node above to the node. The node above is there whenever the node is. -/
theorem Json.Value.exists_parent {v u : Value} {p : Position} {t : Step} (h : v.get? (p ++ [t]) = some u) :
    ∃ parent, v.get? p = some parent ∧ parent.child? t = some u := by
  rw [get?_append] at h
  obtain ⟨parent, hparent, hchild⟩ := Option.bind_eq_some_iff.1 h
  exact ⟨parent, hparent, by simpa [Value.get?] using hchild⟩

/-- A path addresses exactly the nodes at the positions that its segments fit, each with its value and so with its kind,
in document order. No addressed node is another one, nor above or below another one. The root has no key, and every other
node is the child under its key of the node above it. -/
theorem Document.locate_spec (p : Path) {d : Document} {okName : Text → Prop} {depth : Nat}
    (hd : d.root.Regular okName depth) :
    (∀ l, l ∈ d.locate p ↔ Path.Fits p.segments d.root l.position ∧ d.root.get? l.position = some l.value)
      ∧ (d.locate p).Pairwise (fun l m => d.root.Before l.position m.position)
      ∧ (d.locate p).Pairwise (fun l m => ¬l.position <+: m.position ∧ ¬m.position <+: l.position)
      ∧ ∀ l ∈ d.locate p, l.isRoot = true ∧ l.key? = none ∨ ∃ key parent, l.key? = some key
          ∧ d.root.get? l.position.dropLast = some parent ∧ parent.child? key = some l.value := by
  refine ⟨fun l => mem_resolveSegments_iff hd, pairwise_before hd p.segments, pairwise_apart hd p.segments, ?_⟩
  intro l hl
  have hnode := ((mem_resolveSegments_iff hd).1 hl).2
  -- a position is that of the root, or it has a last step
  rcases List.eq_nil_or_concat l.position with hnil | ⟨q, key, hq⟩
  · left
    simp [Location.isRoot, Location.key?, hnil]
  · right
    rw [List.concat_eq_append] at hq
    rw [hq] at hnode
    obtain ⟨parent, hparent, hchild⟩ := Value.exists_parent hnode
    refine ⟨key, parent, ?_, ?_, hchild⟩
    · simp [Location.key?, hq]
    · simpa [hq] using hparent

/-- The last items of all arrays in an object, of which one is empty: `b` comes before `a`, as in the text. -/
theorem Document.locate_spec_last :
    ∃ d, Document.read Settings.builtIn "\x7b\"b\": [1, 2], \"c\": [], \"a\": [[]]\x7d" = .ok d
      ∧ (d.locate ⟨[.wildcard, .index (-1)]⟩).map Location.position = [[.name "b", .index 1], [.name "a", .index 0]]
      ∧ (d.locate ⟨[.wildcard, .index (-1)]⟩).Pairwise fun l m => d.root.Before l.position m.position := by
  have hfound : (Document.read Settings.builtIn "\x7b\"b\": [1, 2], \"c\": [], \"a\": [[]]\x7d").toOption.map
      (fun d => (d.locate ⟨[.wildcard, .index (-1)]⟩).map Location.position)
      = some [[.name "b", .index 1], [.name "a", .index 0]] := by
    decide +kernel
  obtain ⟨d, hd, hpositions⟩ := Option.map_eq_some_iff.1 hfound
  have hread := Json.eq_ok_of_toOption hd
  have hregular := Json.regular_of_read (Document.read_eq_ok_iff.1 hread).1
  obtain ⟨-, horder, -⟩ := Document.locate_spec ⟨[.wildcard, .index (-1)]⟩ hregular
  exact ⟨d, hread, hpositions, horder⟩

end BodyScrub
