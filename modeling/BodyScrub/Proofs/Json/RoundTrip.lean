import BodyScrub.Proofs.Json.Numbers
import BodyScrub.Proofs.Json.Regular
import BodyScrub.Proofs.Json.Strings

/-!
# What is written is read back

A regular value is written as the text of a spelling, so it is read back (`read_write`). What comes back is the value
itself, up to strings with an escaped pair of single surrogates; numbers come back exactly.
-/

namespace BodyScrub.Json

/-- Items and members are set apart by a comma and a colon with blanks after them. -/
structure Style.Separates (style : Style) : Prop where
  item : ∃ b : Blanks, style.itemSeparator = CodePoint.ofChar ',' :: b.text
  name : ∃ b : Blanks, style.nameSeparator = CodePoint.ofChar ':' :: b.text

/-- One blank. -/
def Blanks.one : Blanks := ⟨[CodePoint.ofChar ' '], by
  intro c hc
  rw [List.mem_singleton.1 hc]
  rfl⟩

namespace Value

mutual

/-- The value with every string in it changed, names apart. -/
def mapStrings (f : Text → Text) : Value → Value
  | string s => string (f s)
  | array items => array (mapItems f items)
  | object members => object (mapMembers f members)
  | v => v

def mapItems (f : Text → Text) : List Value → List Value
  | [] => []
  | v :: vs => v.mapStrings f :: mapItems f vs

def mapMembers (f : Text → Text) : Entries Value → Entries Value
  | [] => []
  | (n, v) :: ms => (n, v.mapStrings f) :: mapMembers f ms

end

/-- Changing the strings of items is a map, so the lemmas of the library on maps apply. -/
theorem mapItems_eq_map (f : Text → Text) (vs : List Value) : mapItems f vs = vs.map (mapStrings f) := by
  induction vs with
  | nil => rfl
  | cons v vs ih => rw [mapItems, ih, List.map_cons]

theorem mapMembers_eq_map (f : Text → Text) (ms : Entries Value) :
    mapMembers f ms = ms.map fun m => (m.1, m.2.mapStrings f) := by
  induction ms with
  | nil => rfl
  | cons m ms ih => rw [mapMembers, ih, List.map_cons]

mutual

/-- The strings in a value, names included. -/
def strings : Value → List Text
  | string s => [s]
  | array items => itemStrings items
  | object members => memberStrings members
  | _ => []

def itemStrings : List Value → List Text
  | [] => []
  | v :: vs => v.strings ++ itemStrings vs

def memberStrings : Entries Value → List Text
  | [] => []
  | (n, v) :: ms => n :: (v.strings ++ memberStrings ms)

end

theorem mem_itemStrings {t : Text} {vs : List Value} {v : Value} (hv : v ∈ vs) (ht : t ∈ v.strings) :
    t ∈ itemStrings vs := by
  induction vs with
  | nil => exact absurd hv List.not_mem_nil
  | cons w vs ih =>
    rw [itemStrings]
    rcases List.mem_cons.1 hv with rfl | hv
    · exact List.mem_append_left _ ht
    · exact List.mem_append_right _ (ih hv)

theorem mem_memberStrings {t : Text} {ms : Entries Value} {m : Text × Value} (hm : m ∈ ms)
    (ht : t = m.1 ∨ t ∈ m.2.strings) : t ∈ memberStrings ms := by
  induction ms with
  | nil => exact absurd hm List.not_mem_nil
  | cons e ms ih =>
    rw [memberStrings]
    rcases List.mem_cons.1 hm with rfl | hm
    · rcases ht with rfl | ht
      · exact List.mem_cons_self
      · exact List.mem_cons_of_mem _ (List.mem_append_left _ ht)
    · exact List.mem_cons_of_mem _ (List.mem_append_right _ (ih hm))

/-- A condition on all strings holds for the names, so the condition on names that comes with `Regular` can be
changed into it. -/
theorem Regular.of_strings {okName p : Text → Prop} {depth : Nat} {v : Value} (h : Regular okName depth v)
    (hp : ∀ t ∈ v.strings, p t) : Regular p depth v := by
  induction h with
  | scalar h => exact .scalar h
  | array _ ih => exact .array fun v hv => ih v hv fun t ht => hp t (mem_itemStrings hv ht)
  | object distinct _ _ ih =>
    exact .object distinct (fun m hm => hp _ (mem_memberStrings hm (Or.inl rfl)))
      fun m hm => ih m hm fun t ht => hp t (mem_memberStrings hm (Or.inr ht))

/-- A change that leaves every string alone leaves the value alone. What comes back from a text is the value with
its strings rewritten, so this turns it into the value itself. -/
theorem Regular.mapStrings_eq_self {okName : Text → Prop} {depth : Nat} {v : Value} (h : Regular okName depth v)
    {f : Text → Text} (hf : ∀ t ∈ v.strings, f t = t) : v.mapStrings f = v := by
  induction h with
  | @scalar _ v h =>
    cases v with
    | string s => exact congrArg string (hf s List.mem_cons_self)
    | array items => cases h
    | object members => cases h
    | _ => rfl
  | @array _ items _ ih =>
    rw [mapStrings, mapItems_eq_map]
    congr 1
    refine (List.map_congr_left fun v hv => ?_).trans (List.map_id' items)
    exact ih v hv fun t ht => hf t (mem_itemStrings hv ht)
  | @object _ members _ _ _ ih =>
    -- names are not changed in the first place
    rw [mapStrings, mapMembers_eq_map]
    congr 1
    refine (List.map_congr_left fun m hm => ?_).trans (List.map_id' members)
    rw [ih m hm fun t ht => hf t (mem_memberStrings hm (Or.inr ht))]

end Value

/-! ## Written values -/

section Written

variable {style : Style} {allowNonFinite : Bool} {depth : Nat}

/-- The text of a value is that of a spelling with the value that comes back. -/
def Returns (style : Style) (allowNonFinite : Bool) (depth : Nat) (v : Value) : Prop :=
  ∃ s : Spelling, s.text = v.write style
    ∧ s.eval allowNonFinite depth = some (v.mapStrings (rewritten style.asciiOnly))

/-- A scalar without a fault is written as one atom, and that atom is read as the scalar: integers and doubles
exactly, strings up to escaped pairs. -/
theorem returns_scalar {v : Value} (hv : v.isScalar = true) (hfault : v.writeFault? allowNonFinite = none) :
    Returns style allowNonFinite depth v := by
  -- every scalar is written as one atom
  have hatom : ∀ {a : Atom} {w : Value}, a.text = w.write style
      → a.eval allowNonFinite = some (w.mapStrings (rewritten style.asciiOnly))
      → Returns style allowNonFinite depth w := by
    intro a w htext heval
    refine ⟨.atom a, htext, ?_⟩
    rw [Spelling.eval]
    exact heval
  cases v with
  | null => exact hatom (a := .word "null" .null (by simp [wordValues])) rfl rfl
  | bool b =>
    cases b with
    | false => exact hatom (a := .word "false" (.bool false) (by simp [wordValues])) rfl rfl
    | true => exact hatom (a := .word "true" (.bool true) (by simp [wordValues])) rfl rfl
  | integer i =>
    -- an integer that the writer lets through has not too many digits for the reader
    have hlen : (Text.ofNat i.natAbs).length ≤ maxIntegerDigits := by
      rw [Value.writeFault?] at hfault
      split at hfault
      · next hlen => exact hlen
      · exact absurd hfault (by simp)
    exact hatom (a := .number (Numeral.ofInt i)) (Numeral.text_ofInt i) (Numeral.eval_ofInt hlen)
  | real x =>
    -- the shortest decimal of a double is read as that double
    have hfinite : (allowNonFinite || x.isFinite) = true := by
      rw [Value.writeFault?] at hfault
      split at hfault
      · next hfinite => exact hfinite
      · exact absurd hfault (by simp)
    obtain ⟨a, htext, heval⟩ := exists_atom_of_real hfinite
    exact hatom htext heval
  | string s =>
    refine hatom (a := .string (Glyph.written style.asciiOnly s)) ?_ rfl
    rw [Atom.text, Glyph.textOf_written]
    rfl
  | array items => cases hv
  | object members => cases hv

/-- Items that return, each after a separator. The blanks before the first item are those that its separator left,
so the induction is over all blanks that may stand there. -/
theorem exists_items_of_write (hstyle : style.Separates) {vs : List Value} {v : Value}
    (h : ∀ w ∈ v :: vs, Returns style allowNonFinite depth w) (before : Blanks) :
    ∃ items : Items, items.text = before.text ++ v.write style ++ Value.writeItems style vs
      ∧ items.eval allowNonFinite depth = some ((v :: vs).map (Value.mapStrings (rewritten style.asciiOnly))) := by
  obtain ⟨b, hb⟩ := hstyle.item
  induction vs generalizing v before with
  | nil =>
    obtain ⟨s, htext, heval⟩ := h v List.mem_cons_self
    refine ⟨.last before s Blanks.empty, ?_, Items.eval_last.2 ⟨_, heval, rfl⟩⟩
    rw [Items.text, htext]
    rfl
  | cons w vs ih =>
    -- the blank after the comma, if there is one, stands before the next item
    obtain ⟨s, htext, heval⟩ := h v List.mem_cons_self
    obtain ⟨rest, hrest, hevals⟩ := ih (fun u hu => h u (List.mem_cons_of_mem _ hu)) b
    refine ⟨.cons before s Blanks.empty rest, ?_, Items.eval_cons.2 ⟨_, _, heval, hevals, rfl⟩⟩
    rw [Items.text, htext, hrest, Value.writeItems, hb]
    simp [Blanks.empty]

/-- Members whose values return and whose names come back unchanged, each after a separator. Two names that were
different stay different this way, so no member is lost when they are put together. -/
theorem exists_members_of_write (hstyle : style.Separates) {ms : Entries Value} {m : Text × Value}
    (h : ∀ e ∈ m :: ms, Returns style allowNonFinite depth e.2)
    (hnames : ∀ e ∈ m :: ms, rewritten style.asciiOnly e.1 = e.1) (before : Blanks) :
    ∃ members : Members,
      members.text = before.text ++ writeString style.asciiOnly m.1 ++ style.nameSeparator ++ m.2.write style
        ++ Value.writeMembers style ms
      ∧ members.eval allowNonFinite depth
        = some ((m :: ms).map fun e => (e.1, e.2.mapStrings (rewritten style.asciiOnly))) := by
  obtain ⟨b, hb⟩ := hstyle.item
  obtain ⟨colon, hcolon⟩ := hstyle.name
  -- the name is written with its quotes, and the separator is a colon with blanks
  have hlead : ∀ (before : Blanks) (n : Text),
      (Lead.mk before (Glyph.written style.asciiOnly n) Blanks.empty colon).text
        = before.text ++ writeString style.asciiOnly n ++ style.nameSeparator := by
    intro before n
    unfold Lead.text Lead.colonText writeString
    rw [Glyph.textOf_written, hcolon]
    simp [Blanks.empty]
  induction ms generalizing m before with
  | nil =>
    obtain ⟨s, htext, heval⟩ := h m List.mem_cons_self
    refine ⟨.last ⟨before, Glyph.written style.asciiOnly m.1, Blanks.empty, colon⟩ s Blanks.empty, ?_,
      Members.eval_last.2 ⟨_, heval, ?_⟩⟩
    · rw [Members.text, htext, hlead]
      rfl
    · show _ = [(rewritten style.asciiOnly m.1, _)]
      rw [hnames m List.mem_cons_self]
      rfl
  | cons e ms ih =>
    obtain ⟨s, htext, heval⟩ := h m List.mem_cons_self
    obtain ⟨rest, hrest, hevals⟩ := ih (fun u hu => h u (List.mem_cons_of_mem _ hu))
      (fun u hu => hnames u (List.mem_cons_of_mem _ hu)) b
    refine ⟨.cons ⟨before, Glyph.written style.asciiOnly m.1, Blanks.empty, colon⟩ s Blanks.empty rest, ?_,
      Members.eval_cons.2 ⟨_, _, heval, hevals, ?_⟩⟩
    · rw [Members.text, htext, hrest, hlead, Value.writeMembers, hb]
      simp [Blanks.empty]
    · show _ = (rewritten style.asciiOnly m.1, _) :: _
      rw [hnames m List.mem_cons_self]
      rfl

end Written

/-- The fault of items is that of the first item with one. Without a fault, then, no item has one. -/
theorem itemsFault?_eq_findSome? (allowNonFinite : Bool) (vs : List Value) :
    Value.itemsFault? allowNonFinite vs = vs.findSome? (Value.writeFault? allowNonFinite) := by
  induction vs with
  | nil => rfl
  | cons v vs ih =>
    rw [Value.itemsFault?, ih, List.findSome?_cons]
    cases v.writeFault? allowNonFinite <;> rfl

theorem membersFault?_eq_findSome? (allowNonFinite : Bool) (ms : Entries Value) :
    Value.membersFault? allowNonFinite ms = ms.findSome? fun m => m.2.writeFault? allowNonFinite := by
  induction ms with
  | nil => rfl
  | cons m ms ih =>
    rw [Value.membersFault?, ih, List.findSome?_cons]
    cases m.2.writeFault? allowNonFinite <;> rfl

/-- The text of a regular value is that of a spelling. Names have to come back unchanged, or two of them might
become one. -/
theorem returns_of_regular {style : Style} (hstyle : style.Separates) {allowNonFinite : Bool}
    {okName : Text → Prop} (hnames : ∀ n, okName n → rewritten style.asciiOnly n = n) {depth : Nat} {v : Value}
    (h : v.Regular okName depth) (hfault : v.writeFault? allowNonFinite = none) :
    Returns style allowNonFinite depth v := by
  induction h with
  | scalar h => exact returns_scalar h hfault
  | @array depth items _ ih =>
    rw [Value.writeFault?, itemsFault?_eq_findSome?, List.findSome?_eq_none_iff] at hfault
    cases items with
    -- an empty array has a spelling of its own
    | nil => exact ⟨.emptyArray Blanks.empty, rfl, rfl⟩
    | cons v vs =>
      obtain ⟨items, htext, heval⟩ :=
        exists_items_of_write hstyle (fun w hw => ih w hw (hfault w hw)) Blanks.empty
      refine ⟨.array items, ?_, Spelling.eval_array.2 ⟨_, _, rfl, heval, ?_⟩⟩
      · rw [Spelling.text, htext, Value.write]
        simp [Blanks.empty]
      · rw [Value.mapStrings, Value.mapItems_eq_map]
  | @object depth members distinct names _ ih =>
    rw [Value.writeFault?, membersFault?_eq_findSome?, List.findSome?_eq_none_iff] at hfault
    cases members with
    | nil => exact ⟨.emptyObject Blanks.empty, rfl, rfl⟩
    | cons m ms =>
      obtain ⟨members, htext, heval⟩ :=
        exists_members_of_write hstyle (fun e he => ih e he (hfault e he)) (fun e he => hnames _ (names e he))
          Blanks.empty
      refine ⟨.object members, ?_, Spelling.eval_object.2 ⟨_, _, rfl, heval, ?_⟩⟩
      · rw [Spelling.text, htext, Value.write]
        simp [Blanks.empty]
      · -- the names are still distinct, so no member that is read back takes the place of another
        have hnodup := distinct
        rw [← Entries.names_map (fun e => e.2.mapStrings (rewritten style.asciiOnly))] at hnodup
        rw [Value.mapStrings, Value.mapMembers_eq_map]
        exact Eq.symm (congrArg Value.object (Entries.insertAll_of_nodup hnodup))

/-- What is read from a text without raw surrogates has names that come back unchanged however they are written,
with escapes or without. -/
theorem regular_of_read_pairFree {allowNonFinite : Bool} {body : Text} (hbody : ∀ c ∈ body, c.isSurrogate = false)
    {v : Value} (h : read allowNonFinite body = .ok v) : v.Regular PairFree maxDepth := by
  obtain ⟨src, rfl, heval⟩ := read_eq_ok_iff.1 h
  refine src.root.regular_of_eval heval fun n hn => pairFree_decode fun c hc => hbody c ?_
  exact List.mem_append_left _ (List.mem_append_right _ (src.root.mem_text_of_mem_names hn hc))

/-- A regular value that is written is read back, with the strings that come back. All round trips of documents are
cases of this. -/
theorem read_write {style : Style} (hstyle : style.Separates) {allowNonFinite : Bool} {okName : Text → Prop}
    (hnames : ∀ n, okName n → rewritten style.asciiOnly n = n) {v : Value} (h : v.Regular okName maxDepth)
    (hfault : v.writeFault? allowNonFinite = none) :
    read allowNonFinite (v.write style) = .ok (v.mapStrings (rewritten style.asciiOnly)) := by
  obtain ⟨s, htext, heval⟩ := returns_of_regular hstyle hnames h hfault
  refine read_eq_ok_iff.2 ⟨⟨Blanks.empty, s, Blanks.empty⟩, ?_, heval⟩
  rw [Source.text, htext]
  exact List.append_nil _

end BodyScrub.Json
