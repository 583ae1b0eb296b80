import BodyScrub.Proofs.Json.RoundTrip

/-!
# What the parts of a value have in common

A condition on names and scalars that holds everywhere in a value. What is read satisfies whatever its names and atoms
satisfy as they are spelled, and taking nodes out takes nothing from it.

* **`Value.Everywhere`**: the condition, with what names and scalars have to be as parameters.
* **`Spelling.everywhere_of_eval`**: it is told by the atoms and names of the text.
* **`pairFree_of_read`**: strings of a text without raw surrogates hold no pair that is escaped.
-/

namespace BodyScrub.Json

namespace Value

/-- Every name in a value satisfies `okName`, and every scalar in it `okScalar`. -/
inductive Everywhere (okName : Text → Prop) (okScalar : Value → Prop) : Value → Prop where
  | scalar {v : Value} (h : v.isScalar = true) (ok : okScalar v) : Everywhere okName okScalar v
  | array {items : List Value} (h : ∀ v ∈ items, Everywhere okName okScalar v) :
    Everywhere okName okScalar (.array items)
  | object {members : Entries Value} (names : ∀ m ∈ members, okName m.1)
    (h : ∀ m ∈ members, Everywhere okName okScalar m.2) : Everywhere okName okScalar (.object members)

theorem mem_of_mem_itemStrings {t : Text} {vs : List Value} (h : t ∈ itemStrings vs) : ∃ v ∈ vs, t ∈ v.strings := by
  induction vs with
  | nil => exact absurd h List.not_mem_nil
  | cons v vs ih =>
    rw [itemStrings] at h
    rcases List.mem_append.1 h with h | h
    · exact ⟨v, List.mem_cons_self, h⟩
    · obtain ⟨w, hw, ht⟩ := ih h
      exact ⟨w, List.mem_cons_of_mem _ hw, ht⟩

theorem mem_of_mem_memberStrings {t : Text} {ms : Entries Value} (h : t ∈ memberStrings ms) :
    ∃ m ∈ ms, t = m.1 ∨ t ∈ m.2.strings := by
  induction ms with
  | nil => exact absurd h List.not_mem_nil
  | cons m ms ih =>
    rw [memberStrings] at h
    rcases List.mem_cons.1 h with h | h
    · exact ⟨m, List.mem_cons_self, Or.inl h⟩
    · rcases List.mem_append.1 h with h | h
      · exact ⟨m, List.mem_cons_self, Or.inr h⟩
      · obtain ⟨e, he, ht⟩ := ih h
        exact ⟨e, List.mem_cons_of_mem _ he, ht⟩

namespace Everywhere

variable {okName : Text → Prop} {okScalar : Value → Prop} {v : Value}

theorem of_mem_items {items : List Value} (h : Everywhere okName okScalar (.array items)) {w : Value}
    (hw : w ∈ items) : Everywhere okName okScalar w := by
  cases h with
  | scalar hscalar => cases hscalar
  | array hitems => exact hitems w hw

theorem of_mem_members {members : Entries Value} (h : Everywhere okName okScalar (.object members))
    {m : Text × Value} (hm : m ∈ members) : Everywhere okName okScalar m.2 := by
  cases h with
  | scalar hscalar => cases hscalar
  | object _ hmembers => exact hmembers m hm

/-- On a scalar the condition is the one on scalars, so it can be read off once the kind of a value is known. -/
theorem of_isScalar (h : Everywhere okName okScalar v) (hv : v.isScalar = true) : okScalar v := by
  cases h with
  | scalar _ ok => exact ok
  | array _ => cases hv
  | object _ _ => cases hv

/-- What holds of all names and of all strings among the scalars, holds of all strings. The writer escapes names and
strings alike, so it is asked of both. -/
theorem of_mem_strings {p : Text → Prop} (h : Everywhere p (fun w => ∀ t, w = .string t → p t) v) {t : Text}
    (ht : t ∈ v.strings) : p t := by
  induction h with
  | @scalar v h ok =>
    cases v with
    | string s =>
      rw [List.mem_singleton.1 ht]
      exact ok s rfl
    | array items => cases h
    | object members => cases h
    | _ => exact absurd ht List.not_mem_nil
  | array _ ih =>
    obtain ⟨v, hv, ht⟩ := mem_of_mem_itemStrings ht
    exact ih v hv ht
  | object names _ ih =>
    obtain ⟨m, hm, rfl | ht⟩ := mem_of_mem_memberStrings ht
    · exact names m hm
    · exact ih m hm ht

/-- Taking nodes out leaves a value with what it had, and so do changes into such scalars. All operations on
documents are changes of these two kinds. -/
theorem alter {f : Value → Option Value} (hf : ∀ v w, f v = some w → w.isScalar = true ∧ okScalar w) {p : Position}
    {w : Value} (hv : Everywhere okName okScalar v) (h : Value.alter f p v = some w) :
    Everywhere okName okScalar w := by
  induction p generalizing v w with
  | nil =>
    -- the node itself is changed, and nothing of it is left
    obtain ⟨hscalar, hok⟩ := hf v w h
    exact .scalar hscalar hok
  | cons s p ih =>
    rw [alter_cons] at h
    obtain rfl := Option.some.inj h
    cases hv with
    | scalar hscalar ok =>
      rw [alterChild_of_isScalar hscalar]
      exact .scalar hscalar ok
    | array hitems =>
      cases s with
      | name key => exact .array hitems
      | index i =>
        -- the items are those that were there, but for one that was changed further down
        refine .array fun w hw => ?_
        rcases mem_of_mem_alterItem hw with hw | ⟨u, hu, hfu⟩
        · exact hitems w hw
        · exact ih (hitems u hu) hfu
    | object names hmembers =>
      cases s with
      | index i => exact .object names hmembers
      | name key =>
        refine .object (fun m hm => ?_) fun m hm => ?_
        -- the changed member keeps its name
        · rcases Entries.mem_of_mem_alter hm with hm | ⟨a, b, ha, -, rfl⟩
          · exact names m hm
          · exact names (key, a) ha
        · rcases Entries.mem_of_mem_alter hm with hm | ⟨a, b, ha, hb, rfl⟩
          · exact hmembers m hm
          · exact ih (hmembers _ ha) hb

end Everywhere

end Value

/-! ## Values that are read -/

mutual

/-- The words, numbers and strings of a spelling, names apart. -/
def Spelling.atoms : Spelling → List Atom
  | .atom a => [a]
  | .array items => items.atoms
  | .object members => members.atoms
  | _ => []

def Items.atoms : Items → List Atom
  | .last _ s _ => s.atoms
  | .cons _ s _ rest => s.atoms ++ rest.atoms

def Members.atoms : Members → List Atom
  | .last _ s _ => s.atoms
  | .cons _ s _ rest => s.atoms ++ rest.atoms

end

open Value (Everywhere)

mutual

/-- What the atoms of a spelling come to is all that its value is made of. So a condition on a value that is read
may be checked on the text it is read from. -/
theorem Spelling.everywhere_of_eval {okName : Text → Prop} {okScalar : Value → Prop} {allowNonFinite : Bool}
    {depth : Nat} {v : Value} (s : Spelling) (h : s.eval allowNonFinite depth = some v)
    (hnames : ∀ n ∈ s.names, okName (Glyph.decode n))
    (hatoms : ∀ a ∈ s.atoms, ∀ w, a.eval allowNonFinite = some w → okScalar w) : v.Everywhere okName okScalar := by
  cases s with
  | atom a =>
    rw [Spelling.eval] at h
    exact .scalar (isScalar_of_atom h) (hatoms a List.mem_cons_self v h)
  | emptyArray b =>
    obtain ⟨depth, rfl, rfl⟩ := Spelling.eval_emptyArray.1 h
    exact .array fun _ hv => absurd hv List.not_mem_nil
  | emptyObject b =>
    obtain ⟨depth, rfl, rfl⟩ := Spelling.eval_emptyObject.1 h
    exact .object (fun _ hm => absurd hm List.not_mem_nil) fun _ hm => absurd hm List.not_mem_nil
  | array items =>
    obtain ⟨depth, vs, rfl, hvs, rfl⟩ := Spelling.eval_array.1 h
    exact .array (items.everywhere_of_eval hvs hnames hatoms)
  | object members =>
    obtain ⟨depth, ms, rfl, hms, rfl⟩ := Spelling.eval_object.1 h
    -- members of one name are put together, which leaves only entries that were there
    have hmembers := members.everywhere_of_eval hms hnames hatoms
    have hmem : ∀ m ∈ Entries.insertAll ms [], m ∈ ms := fun m hm =>
      (Entries.mem_of_mem_insertAll hm).resolve_right List.not_mem_nil
    exact .object (fun m hm => (hmembers m (hmem m hm)).1) fun m hm => (hmembers m (hmem m hm)).2

/-- The items of an array have what the names and atoms of their texts have, each by its own part of the text. -/
theorem Items.everywhere_of_eval {okName : Text → Prop} {okScalar : Value → Prop} {allowNonFinite : Bool}
    {depth : Nat} {vs : List Value} (items : Items) (h : items.eval allowNonFinite depth = some vs)
    (hnames : ∀ n ∈ items.names, okName (Glyph.decode n))
    (hatoms : ∀ a ∈ items.atoms, ∀ w, a.eval allowNonFinite = some w → okScalar w) :
    ∀ v ∈ vs, v.Everywhere okName okScalar := by
  cases items with
  | last before s after =>
    obtain ⟨v, hv, rfl⟩ := Items.eval_last.1 h
    intro w hw
    rw [List.mem_singleton.1 hw]
    exact s.everywhere_of_eval hv hnames hatoms
  | cons before s after rest =>
    obtain ⟨v, ws, hv, hws, rfl⟩ := Items.eval_cons.1 h
    intro w hw
    rcases List.mem_cons.1 hw with rfl | hw
    · exact s.everywhere_of_eval hv (fun n hn => hnames n (List.mem_append_left _ hn))
        fun a ha => hatoms a (List.mem_append_left _ ha)
    · exact rest.everywhere_of_eval hws (fun n hn => hnames n (List.mem_append_right _ hn))
        (fun a ha => hatoms a (List.mem_append_right _ ha)) w hw

/-- The same for the members of an object. A name that is given twice is checked twice, though only one of its
values is kept. -/
theorem Members.everywhere_of_eval {okName : Text → Prop} {okScalar : Value → Prop} {allowNonFinite : Bool}
    {depth : Nat} {ms : List (Text × Value)} (members : Members)
    (h : members.eval allowNonFinite depth = some ms) (hnames : ∀ n ∈ members.names, okName (Glyph.decode n))
    (hatoms : ∀ a ∈ members.atoms, ∀ w, a.eval allowNonFinite = some w → okScalar w) :
    ∀ m ∈ ms, okName m.1 ∧ m.2.Everywhere okName okScalar := by
  cases members with
  | last lead s after =>
    obtain ⟨v, hv, rfl⟩ := Members.eval_last.1 h
    intro m hm
    rw [List.mem_singleton.1 hm]
    exact ⟨hnames _ List.mem_cons_self,
      s.everywhere_of_eval hv (fun n hn => hnames n (List.mem_cons_of_mem _ hn)) hatoms⟩
  | cons lead s after rest =>
    obtain ⟨v, ws, hv, hws, rfl⟩ := Members.eval_cons.1 h
    intro m hm
    rcases List.mem_cons.1 hm with rfl | hm
    · exact ⟨hnames _ List.mem_cons_self,
        s.everywhere_of_eval hv (fun n hn => hnames n (List.mem_cons_of_mem _ (List.mem_append_left _ hn)))
          fun a ha => hatoms a (List.mem_append_left _ ha)⟩
    · exact rest.everywhere_of_eval hws
        (fun n hn => hnames n (List.mem_cons_of_mem _ (List.mem_append_right _ hn)))
        (fun a ha => hatoms a (List.mem_append_right _ ha)) m hm

end

/-! ## Atoms as parts of the text -/

mutual

/-- The atoms of a spelling are parts of its text, each in one piece. A condition on the parts of a body, such as
its length or a letter that it lacks, is handed down to its atoms this way. -/
theorem Spelling.isInfix_of_mem_atoms (s : Spelling) {a : Atom} (ha : a ∈ s.atoms) : a.text <:+: s.text := by
  cases s with
  | atom b =>
    rw [List.mem_singleton.1 ha]
    exact List.infix_rfl
  | array items =>
    exact (items.isInfix_of_mem_atoms ha).trans (List.infix_append [_] _ _)
  | object members =>
    exact (members.isInfix_of_mem_atoms ha).trans (List.infix_append [_] _ _)
  | _ => exact absurd ha List.not_mem_nil

theorem Items.isInfix_of_mem_atoms (items : Items) {a : Atom} (ha : a ∈ items.atoms) : a.text <:+: items.text := by
  cases items with
  | last before s after => exact (s.isInfix_of_mem_atoms ha).trans (List.infix_append _ _ _)
  | cons before s after rest =>
    rcases List.mem_append.1 ha with ha | ha
    · refine ((s.isInfix_of_mem_atoms ha).trans (List.infix_append before.text _ after.text)).trans ?_
      exact (List.prefix_append _ _).isInfix
    · exact (rest.isInfix_of_mem_atoms ha).trans ((List.suffix_cons _ _).trans (List.suffix_append _ _)).isInfix

theorem Members.isInfix_of_mem_atoms (members : Members) {a : Atom} (ha : a ∈ members.atoms) :
    a.text <:+: members.text := by
  cases members with
  | last lead s after => exact (s.isInfix_of_mem_atoms ha).trans (List.infix_append _ _ _)
  | cons lead s after rest =>
    rcases List.mem_append.1 ha with ha | ha
    · refine ((s.isInfix_of_mem_atoms ha).trans (List.infix_append lead.text _ after.text)).trans ?_
      exact (List.prefix_append _ _).isInfix
    · exact (rest.isInfix_of_mem_atoms ha).trans ((List.suffix_cons _ _).trans (List.suffix_append _ _)).isInfix

end

theorem Source.isInfix_of_mem_atoms (src : Source) {a : Atom} (ha : a ∈ src.root.atoms) : a.text <:+: src.text :=
  (src.root.isInfix_of_mem_atoms ha).trans (List.infix_append _ _ _)

/-! ## Which atoms have which values -/

theorem Atom.exists_of_eval_string {allowNonFinite : Bool} {a : Atom} {t : Text}
    (h : a.eval allowNonFinite = some (.string t)) : ∃ gs, a = .string gs ∧ Glyph.decode gs = t := by
  cases a with
  | string gs => exact ⟨gs, rfl, Value.string.inj (Option.some.inj h)⟩
  | word w v hmem =>
    obtain rfl : v = .string t := Option.some.inj h
    rcases mem_wordValues.1 hmem with ⟨-, hv⟩ | ⟨-, hv⟩ | ⟨-, hv⟩
    · cases hv
    · cases hv
    · cases hv
  | nonFinite w x hmem =>
    rw [Atom.eval] at h
    split at h
    · cases h
    · cases h
  | number n =>
    rcases Numeral.integer_or_real_of_eval h with ⟨i, hi⟩ | ⟨x, hx⟩
    · cases hi
    · cases hx

/-- A number comes from a numeral, or from a word that is allowed. Where such words are refused, all doubles of a
body are spelled by numerals. -/
theorem Atom.exists_of_eval_number {allowNonFinite : Bool} {a : Atom} {v : Value}
    (h : a.eval allowNonFinite = some v) (hv : v.kind = .number) :
    allowNonFinite = true ∧ (∃ x, v = .real x) ∨ ∃ n, a = .number n ∧ n.eval = some v := by
  cases a with
  | number n => exact Or.inr ⟨n, rfl, h⟩
  | string gs =>
    obtain rfl := Option.some.inj h
    cases hv
  | word w u hmem =>
    obtain rfl : u = v := Option.some.inj h
    rcases mem_wordValues.1 hmem with ⟨-, rfl⟩ | ⟨-, rfl⟩ | ⟨-, rfl⟩
    · cases hv
    · cases hv
    · cases hv
  | nonFinite w x hmem =>
    rw [Atom.eval] at h
    split at h
    · next hallow => exact Or.inl ⟨hallow, x, (Option.some.inj h).symm⟩
    · cases h

/-! ## Strings -/

/-- What is read from a text without raw surrogates holds no pair that is escaped, in names or elsewhere: an escaped
high surrogate before an escaped low one is read as the one code point that they write. -/
theorem everywhere_pairFree_of_read {allowNonFinite : Bool} {body : Text} (hbody : ∀ c ∈ body, c.isSurrogate = false)
    {v : Value} (h : read allowNonFinite body = .ok v) :
    v.Everywhere PairFree fun w => ∀ t, w = .string t → PairFree t := by
  obtain ⟨src, rfl, heval⟩ := read_eq_ok_iff.1 h
  have hroot : ∀ c ∈ src.root.text, c.isSurrogate = false := fun c hc =>
    hbody c (List.mem_append_left _ (List.mem_append_right _ hc))
  refine src.root.everywhere_of_eval heval (fun n hn => pairFree_decode fun c hc => ?_) ?_
  · exact hroot c (src.root.mem_text_of_mem_names hn hc)
  -- a string atom stands in the text with its quotes, so its glyphs hold no raw surrogate
  · rintro a ha w hw t rfl
    obtain ⟨gs, rfl, rfl⟩ := Atom.exists_of_eval_string hw
    refine pairFree_decode fun c hc => hroot c ((src.root.isInfix_of_mem_atoms ha).subset ?_)
    exact List.mem_append_left _ (List.mem_cons_of_mem _ hc)

/-- No string of a document that was read from a body without raw surrogates has a pair of them: a pair that is
spelled by escapes was joined by the reader. Reading back asks for this of every string. -/
theorem pairFree_of_read {allowNonFinite : Bool} {body : Text} (hbody : ∀ c ∈ body, c.isSurrogate = false) {v : Value}
    (h : read allowNonFinite body = .ok v) : ∀ t ∈ v.strings, PairFree t :=
  fun _ ht => (everywhere_pairFree_of_read hbody h).of_mem_strings ht

end BodyScrub.Json
