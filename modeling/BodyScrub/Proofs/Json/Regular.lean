import BodyScrub.Json.Position
import BodyScrub.Proofs.Entries
import BodyScrub.Proofs.Json.Reading

/-!
# Regular values

What all values that were read have in common: the names of an object are distinct, and containers are nested only so
deep. Changing nodes into scalars or taking them out keeps a value regular.

* **`Value.Regular`**: the invariant, with a condition on names as a parameter.
* **`regular_of_read`**: what is read is regular.
* **`Regular.alter`**: a change of one node keeps a value regular.
-/

namespace BodyScrub.Json

namespace Value

/-- Neither an array nor an object. -/
def isScalar : Value → Bool
  | array _ => false
  | object _ => false
  | _ => true

/-- A value with containers at most `depth` deep, with distinct names in each object, all of which satisfy `okName`. -/
inductive Regular (okName : Text → Prop) : (depth : Nat) → Value → Prop where
  | scalar {depth : Nat} {v : Value} (h : v.isScalar = true) : Regular okName depth v
  | array {depth : Nat} {items : List Value} (h : ∀ v ∈ items, Regular okName depth v) :
    Regular okName (depth + 1) (.array items)
  | object {depth : Nat} {members : Entries Value} (distinct : (Entries.names members).Nodup)
    (names : ∀ m ∈ members, okName m.1) (h : ∀ m ∈ members, Regular okName depth m.2) :
    Regular okName (depth + 1) (.object members)

end Value

/-! ## Values that are read -/

open Value (Regular)

theorem Numeral.integer_or_real_of_eval {n : Numeral} {v : Value} (h : n.eval = some v) :
    (∃ i, v = .integer i) ∨ ∃ x, v = .real x := by
  have hnumber := eq_ok_of_toOption h
  unfold numberOf at hnumber
  split at hnumber
  · split at hnumber
    · exact Or.inl ⟨_, (Except.ok.inj hnumber).symm⟩
    · cases hnumber
  · exact Or.inr ⟨_, (Except.ok.inj hnumber).symm⟩

/-- Atoms are read as scalars. Only brackets make containers, so the inductions over spellings are done with an atom
at once. -/
theorem isScalar_of_atom {allowNonFinite : Bool} {a : Atom} {v : Value} (h : a.eval allowNonFinite = some v) :
    v.isScalar = true := by
  cases a with
  | word w u hmem =>
    obtain rfl : u = v := Option.some.inj h
    rcases mem_wordValues.1 hmem with ⟨-, rfl⟩ | ⟨-, rfl⟩ | ⟨-, rfl⟩
    · rfl
    · rfl
    · rfl
  | nonFinite w x hmem =>
    rw [Atom.eval] at h
    split at h
    · rw [← Option.some.inj h]
      rfl
    · exact absurd h (by simp)
  | number n =>
    rcases Numeral.integer_or_real_of_eval h with ⟨i, rfl⟩ | ⟨x, rfl⟩
    · rfl
    · rfl
  | string gs =>
    rw [← Option.some.inj h]
    rfl

mutual

/-- What a spelling comes to is regular: the depth was counted down at each bracket, and the members of an object
were put together by name. -/
theorem Spelling.regular_of_eval {okName : Text → Prop} {allowNonFinite : Bool} {depth : Nat} {v : Value}
    (s : Spelling) (h : s.eval allowNonFinite depth = some v) (hnames : ∀ n ∈ s.names, okName (Glyph.decode n)) :
    v.Regular okName depth := by
  cases s with
  | atom a =>
    rw [Spelling.eval] at h
    exact .scalar (isScalar_of_atom h)
  | emptyArray b =>
    obtain ⟨depth, rfl, rfl⟩ := Spelling.eval_emptyArray.1 h
    exact .array fun _ hv => absurd hv List.not_mem_nil
  | emptyObject b =>
    obtain ⟨depth, rfl, rfl⟩ := Spelling.eval_emptyObject.1 h
    exact .object List.nodup_nil (fun _ hm => absurd hm List.not_mem_nil) fun _ hm => absurd hm List.not_mem_nil
  | array items =>
    -- the bracket took one off the depth, which the items are read with
    obtain ⟨depth, vs, rfl, hvs, rfl⟩ := Spelling.eval_array.1 h
    exact .array (items.regular_of_eval hvs hnames)
  | object members =>
    obtain ⟨depth, ms, rfl, hms, rfl⟩ := Spelling.eval_object.1 h
    have hmembers := members.regular_of_eval hms hnames
    -- a repeated name keeps one of its values, so that every entry comes from some member
    have hmem : ∀ m ∈ Entries.insertAll ms [], m ∈ ms := fun m hm =>
      (Entries.mem_of_mem_insertAll hm).resolve_right List.not_mem_nil
    have hnone : (Entries.names ([] : Entries Value)).Nodup := List.nodup_nil
    exact .object (Entries.nodup_insertAll hnone ms) (fun m hm => (hmembers m (hmem m hm)).1)
      fun m hm => (hmembers m (hmem m hm)).2

theorem Items.regular_of_eval {okName : Text → Prop} {allowNonFinite : Bool} {depth : Nat} {vs : List Value}
    (items : Items) (h : items.eval allowNonFinite depth = some vs)
    (hnames : ∀ n ∈ items.names, okName (Glyph.decode n)) : ∀ v ∈ vs, v.Regular okName depth := by
  cases items with
  | last before s after =>
    obtain ⟨v, hv, rfl⟩ := Items.eval_last.1 h
    intro w hw
    rw [List.mem_singleton.1 hw]
    exact s.regular_of_eval hv hnames
  | cons before s after rest =>
    obtain ⟨v, ws, hv, hws, rfl⟩ := Items.eval_cons.1 h
    intro w hw
    rcases List.mem_cons.1 hw with rfl | hw
    · exact s.regular_of_eval hv fun n hn => hnames n (List.mem_append_left _ hn)
    · exact rest.regular_of_eval hws (fun n hn => hnames n (List.mem_append_right _ hn)) w hw

/-- The members of an object have regular values and names as wanted, before they are put together. Which of two
members of one name counts does not matter for this. -/
theorem Members.regular_of_eval {okName : Text → Prop} {allowNonFinite : Bool} {depth : Nat}
    {ms : List (Text × Value)} (members : Members) (h : members.eval allowNonFinite depth = some ms)
    (hnames : ∀ n ∈ members.names, okName (Glyph.decode n)) :
    ∀ m ∈ ms, okName m.1 ∧ m.2.Regular okName depth := by
  cases members with
  | last lead s after =>
    obtain ⟨v, hv, rfl⟩ := Members.eval_last.1 h
    intro m hm
    rw [List.mem_singleton.1 hm]
    exact ⟨hnames _ List.mem_cons_self, s.regular_of_eval hv fun n hn => hnames n (List.mem_cons_of_mem _ hn)⟩
  | cons lead s after rest =>
    obtain ⟨v, ws, hv, hws, rfl⟩ := Members.eval_cons.1 h
    intro m hm
    rcases List.mem_cons.1 hm with rfl | hm
    · exact ⟨hnames _ List.mem_cons_self,
        s.regular_of_eval hv fun n hn => hnames n (List.mem_cons_of_mem _ (List.mem_append_left _ hn))⟩
    · exact rest.regular_of_eval hws
        (fun n hn => hnames n (List.mem_cons_of_mem _ (List.mem_append_right _ hn))) m hm

end

/-- What is read is regular, at the depth at which the reader starts. Nothing is asked of the names here, and the
bound on the depth is what the writer needs. -/
theorem regular_of_read {allowNonFinite : Bool} {body : Text} {v : Value} (h : read allowNonFinite body = .ok v) :
    v.Regular (fun _ => True) maxDepth := by
  obtain ⟨src, -, heval⟩ := read_eq_ok_iff.1 h
  exact src.root.regular_of_eval heval fun _ _ => trivial

mutual

/-- The names in a text are parts of it. Conditions on the code points of a body hold of its names by this. -/
theorem Spelling.mem_text_of_mem_names (s : Spelling) {n : List Glyph} (hn : n ∈ s.names) {c : CodePoint}
    (hc : c ∈ Glyph.textOf n) : c ∈ s.text := by
  cases s with
  | array items =>
    exact List.mem_append_left _ (List.mem_cons_of_mem _ (items.mem_text_of_mem_names hn hc))
  | object members =>
    exact List.mem_append_left _ (List.mem_cons_of_mem _ (members.mem_text_of_mem_names hn hc))
  | _ => exact absurd hn List.not_mem_nil

theorem Items.mem_text_of_mem_names (items : Items) {n : List Glyph} (hn : n ∈ items.names) {c : CodePoint}
    (hc : c ∈ Glyph.textOf n) : c ∈ items.text := by
  cases items with
  | last before s after =>
    exact List.mem_append_left _ (List.mem_append_right _ (s.mem_text_of_mem_names hn hc))
  | cons before s after rest =>
    rcases List.mem_append.1 hn with hn | hn
    · exact List.mem_append_left _ (List.mem_append_left _ (List.mem_append_right _ (s.mem_text_of_mem_names hn hc)))
    · exact List.mem_append_right _ (List.mem_cons_of_mem _ (rest.mem_text_of_mem_names hn hc))

theorem Members.mem_text_of_mem_names (members : Members) {n : List Glyph} (hn : n ∈ members.names) {c : CodePoint}
    (hc : c ∈ Glyph.textOf n) : c ∈ members.text := by
  have hlead : ∀ lead : Lead, c ∈ Glyph.textOf lead.name → c ∈ lead.text := by
    intro lead hname
    exact List.mem_append_left _ (List.mem_append_right _ (List.mem_cons_of_mem _ hname))
  cases members with
  | last lead s after =>
    rcases List.mem_cons.1 hn with rfl | hn
    · exact List.mem_append_left _ (List.mem_append_left _ (hlead lead hc))
    · exact List.mem_append_left _ (List.mem_append_right _ (s.mem_text_of_mem_names hn hc))
  | cons lead s after rest =>
    rcases List.mem_cons.1 hn with rfl | hn
    · exact List.mem_append_left _ (List.mem_append_left _ (List.mem_append_left _ (hlead lead hc)))
    · rcases List.mem_append.1 hn with hn | hn
      · exact List.mem_append_left _ (List.mem_append_left _ (List.mem_append_right _ (s.mem_text_of_mem_names hn hc)))
      · exact List.mem_append_right _ (List.mem_cons_of_mem _ (rest.mem_text_of_mem_names hn hc))

end

/-! ## Changing one node -/

/-- A change at an index reaches one item, with what stands before and behind it untouched. -/
theorem alterItem_append {α : Type} (f : α → Option α) (pre : List α) (a : α) (post : List α) :
    alterItem f pre.length (pre ++ a :: post)
      = pre ++ match f a with
        | some b => b :: post
        | none => post := by
  induction pre with
  | nil =>
    cases h : f a with
    | none => simp [alterItem, h]
    | some b => simp [alterItem, h]
  | cons d pre ih => rw [List.length_cons, List.cons_append, alterItem, ih, List.cons_append]

/-- What is in the result was there before, or is what one item was changed into. Conditions on all items are
carried over a change by this. -/
theorem mem_of_mem_alterItem {α : Type} {f : α → Option α} {i : Nat} {as : List α} {b : α}
    (h : b ∈ alterItem f i as) : b ∈ as ∨ ∃ a ∈ as, f a = some b := by
  induction as generalizing i with
  | nil => exact Or.inl (by rw [alterItem] at h; exact h)
  | cons a as ih =>
    cases i with
    | zero =>
      -- the item at the index is changed or taken out
      rw [alterItem] at h
      split at h
      · next c hc =>
        rcases List.mem_cons.1 h with rfl | h
        · exact Or.inr ⟨a, List.mem_cons_self, hc⟩
        · exact Or.inl (List.mem_cons_of_mem _ h)
      · exact Or.inl (List.mem_cons_of_mem _ h)
    | succ i =>
      rw [alterItem] at h
      rcases List.mem_cons.1 h with rfl | h
      · exact Or.inl List.mem_cons_self
      · rcases ih h with h | ⟨c, hc, hb⟩
        · exact Or.inl (List.mem_cons_of_mem _ h)
        · exact Or.inr ⟨c, List.mem_cons_of_mem _ hc, hb⟩

namespace Value

/-- Changes the child one step down, or takes it out. -/
def alterChild (f : Value → Option Value) : Step → Value → Value
  | .name key, object members => object (Entries.alter key f members)
  | .index i, array items => array (alterItem f i items)
  | _, v => v

/-- A change further down is a change of the child, which stays in its place unless it is taken out itself. -/
theorem alter_cons (f : Value → Option Value) (s : Step) (p : Position) (v : Value) :
    alter f (s :: p) v = some (alterChild (alter f p) s v) := by
  cases s <;> cases v <;> rfl

theorem alterChild_of_isScalar {f : Value → Option Value} {v : Value} (h : v.isScalar = true) (s : Step) :
    alterChild f s v = v := by
  cases v with
  | array items => cases h
  | object members => cases h
  | _ => cases s <;> rfl

/-- Changing a child keeps a value regular, if the change does so one level further down. It is the step of the
induction over positions for every operation. -/
theorem Regular.alterChild {okName : Text → Prop} {depth : Nat} {v : Value} {f : Value → Option Value}
    (hv : Regular okName (depth + 1) v)
    (hf : ∀ w w', Regular okName depth w → f w = some w' → Regular okName depth w') (s : Step) :
    Regular okName (depth + 1) (alterChild f s v) := by
  cases hv with
  | scalar h =>
    rw [alterChild_of_isScalar h]
    exact .scalar h
  | array h =>
    -- an item is one that was there or the changed one
    cases s with
    | name key => exact .array h
    | index i =>
      refine .array fun w hw => ?_
      rcases mem_of_mem_alterItem hw with hw | ⟨u, hu, hfu⟩
      · exact h w hw
      · exact hf u w (h u hu) hfu
  | object distinct names h =>
    cases s with
    | index i => exact .object distinct names h
    | name key =>
      -- names stay distinct under a change of one member
      refine .object (Entries.nodup_alter distinct key f) (fun m hm => ?_) fun m hm => ?_
      · rcases Entries.mem_of_mem_alter hm with hm | ⟨a, b, ha, hb, rfl⟩
        · exact names m hm
        · exact names (key, a) ha
      · rcases Entries.mem_of_mem_alter hm with hm | ⟨a, b, ha, hb, rfl⟩
        · exact h m hm
        · exact hf a b (h _ ha) hb

/-- A change of one node into a scalar, or taking it out, keeps a value regular. A container in its place might be
too deep. -/
theorem Regular.alter {okName : Text → Prop} {f : Value → Option Value}
    (hf : ∀ v w, f v = some w → w.isScalar = true) {p : Position} {depth : Nat} {v w : Value}
    (hv : Regular okName depth v) (h : alter f p v = some w) : Regular okName depth w := by
  induction p generalizing depth v w with
  -- the node itself becomes a scalar, which is regular at every depth
  | nil => exact .scalar (hf v w h)
  | cons s p ih =>
    rw [alter_cons] at h
    obtain rfl := Option.some.inj h
    -- no container fits at depth zero, so there is nothing below to change
    cases depth with
    | zero =>
      cases hv with
      | scalar hscalar =>
        rw [alterChild_of_isScalar hscalar]
        exact .scalar hscalar
    | succ depth => exact hv.alterChild (fun u u' hu hfu => ih hu hfu) s

end Value

end BodyScrub.Json
