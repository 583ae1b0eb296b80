import BodyScrub.Proofs.Document
import BodyScrub.Proofs.PropertyFilter.Masking

/-!
# What property filters leave unmasked

A property filter knows the names of a body as they are spelled. So a name that is spelled with an escape escapes it,
and a name of the filter that looks like a piece of JSON leads it astray (`apply_property_unmasked`). Apart from that
nothing is left: under anchored names, each spelled as it is read wherever the body uses it, every string member under
one of the names is masked, at every depth (`get?_apply_property`). Other names of the body may hold any escapes.
-/

namespace BodyScrub

open Json

/-! ## Masked documents -/

/-- Every string under one of the names is the replacement, at every depth. -/
inductive Json.Value.Masked (names : List Text) (replacement : Text) : Value → Prop where
  | scalar {v : Value} (h : v.isScalar = true) : Masked names replacement v
  | array {items : List Value} (h : ∀ v ∈ items, Masked names replacement v) : Masked names replacement (.array items)
  | object {members : Entries Value}
    (named : ∀ m ∈ members, m.1 ∈ names → ∀ t, m.2 = .string t → t = replacement)
    (h : ∀ m ∈ members, Masked names replacement m.2) : Masked names replacement (.object members)

namespace Json.Value.Masked

variable {names : List Text} {replacement : Text}

theorem of_child? {v w : Value} (h : v.Masked names replacement) {s : Step} (hw : v.child? s = some w) :
    w.Masked names replacement := by
  cases h with
  | scalar h =>
    cases v with
    | array items => cases h
    | object members => cases h
    | _ => cases s <;> cases hw
  | array h =>
    cases s with
    | name key => cases hw
    | index i => exact h w (List.mem_of_getElem? hw)
  | object named h =>
    cases s with
    | name key => exact h _ (Entries.mem_of_get? hw)
    | index i => cases hw

/-- The string at a position that ends in one of the names is the replacement. The induction is along the position,
down to the object that has the member. -/
theorem eq_replacement {v : Value} (h : v.Masked names replacement) {position : Position} {key t : Text}
    (hget : v.get? (position ++ [.name key]) = some (.string t)) (hkey : key ∈ names) : t = replacement := by
  induction position generalizing v with
  | nil =>
    rw [List.nil_append, Value.get?, Option.bind_eq_some_iff] at hget
    obtain ⟨w, hw, hself⟩ := hget
    obtain rfl := Option.some.inj hself
    cases h with
    | scalar h =>
      cases v with
      | array items => cases h
      | object members => cases h
      | _ => cases hw
    | array h => cases hw
    | object named h => exact named _ (Entries.mem_of_get? hw) hkey t rfl
  | cons s position ih =>
    rw [List.cons_append, Value.get?, Option.bind_eq_some_iff] at hget
    obtain ⟨w, hw, hget⟩ := hget
    exact ih (h.of_child? hw) hget

end Json.Value.Masked

/-! ## Reading masked trees -/

namespace PropertyFilter

/-- Masking looks into a value and leaves its kind: an array stays one, and a string by itself is not replaced. What
a second filter takes is thus known before the first one has run. -/
theorem takes_maskSpelling (kind : Kind) (f : PropertyFilter) (s : Spelling) :
    kind.takes (f.maskSpelling s) = kind.takes s := by
  cases s with
  | _ => rfl

section Reading

variable {f : PropertyFilter} {names : List Text}

/-- A member is masked or not a string, if its name fits whenever it is one of the names. Names that fit without
being one of them do no harm here. -/
theorem exists_eval_maskMember {lead : Lead} {s : Spelling} {depth : Nat} {v : Value} (hkind : f.kind = .string)
    (hfits : Glyph.decode lead.name ∈ names → fits f.names lead.name = true)
    (hv : (f.maskSpelling s).eval false depth = some v) (hmasked : v.Masked names f.replacement) :
    ∃ w, (if fits f.names lead.name && f.kind.takes s then f.masked else f.maskSpelling s).eval false depth = some w
      ∧ (Glyph.decode lead.name ∈ names → ∀ t, w = .string t → t = f.replacement) ∧ w.Masked names f.replacement := by
  -- the member is masked, or else its value is no string under the names
  split
  · refine ⟨_, eval_masked f false depth, ?_, .scalar rfl⟩
    intro hname t ht
    exact (Value.string.inj ht).symm
  · next hnot =>
    refine ⟨v, hv, ?_, hmasked⟩
    rintro hname t rfl
    -- a string that was not masked would have had a name that does not fit
    have hcovers : Kind.string.covers (.string t) = Kind.string.takes (f.maskSpelling s) := covers_of_eval hv
    rw [takes_maskSpelling] at hcovers
    rw [hfits hname, hkind, ← hcovers] at hnot
    exact absurd rfl hnot

mutual

/-- A masked tree is read, and its document has no string left under one of the names. What else it holds is not
told, as names with escapes may fit that are not meant. -/
theorem exists_eval_maskSpelling (hkind : f.kind = .string) (s : Spelling)
    (hfits : ∀ n ∈ s.names, Glyph.decode n ∈ names → fits f.names n = true) {depth : Nat} {v : Value}
    (hv : s.eval false depth = some v) :
    ∃ w, (f.maskSpelling s).eval false depth = some w ∧ w.Masked names f.replacement := by
  cases s with
  | atom a =>
    refine ⟨v, hv, .scalar ?_⟩
    rw [Spelling.eval] at hv
    exact isScalar_of_atom hv
  | emptyArray b =>
    obtain ⟨d, rfl, rfl⟩ := Spelling.eval_emptyArray.1 hv
    exact ⟨.array [], rfl, .array fun _ hmem => absurd hmem List.not_mem_nil⟩
  | emptyObject b =>
    obtain ⟨d, rfl, rfl⟩ := Spelling.eval_emptyObject.1 hv
    exact ⟨.object [], rfl, .object (fun _ hmem => absurd hmem List.not_mem_nil)
      fun _ hmem => absurd hmem List.not_mem_nil⟩
  | array items =>
    obtain ⟨d, vs, rfl, hvs, rfl⟩ := Spelling.eval_array.1 hv
    obtain ⟨ws, hws, hmasked⟩ := exists_eval_maskItems hkind items hfits hvs
    exact ⟨.array ws, Spelling.eval_array.2 ⟨d, ws, rfl, hws, rfl⟩, .array hmasked⟩
  | object members =>
    obtain ⟨d, ms, rfl, hms, rfl⟩ := Spelling.eval_object.1 hv
    obtain ⟨ws, hws, hmasked⟩ := exists_eval_maskMembers hkind members hfits hms
    -- a repeated name keeps one of its values, and each of them is masked
    have hmem : ∀ m ∈ Entries.insertAll ws [], m ∈ ws := fun m hm =>
      (Entries.mem_of_mem_insertAll hm).resolve_right List.not_mem_nil
    exact ⟨.object (Entries.insertAll ws []), Spelling.eval_object.2 ⟨d, ws, rfl, hws, rfl⟩,
      .object (fun m hm => (hmasked m (hmem m hm)).1) fun m hm => (hmasked m (hmem m hm)).2⟩

theorem exists_eval_maskItems (hkind : f.kind = .string) (items : Items)
    (hfits : ∀ n ∈ items.names, Glyph.decode n ∈ names → fits f.names n = true) {depth : Nat} {vs : List Value}
    (hvs : items.eval false depth = some vs) :
    ∃ ws, (f.maskItems items).eval false depth = some ws ∧ ∀ w ∈ ws, w.Masked names f.replacement := by
  cases items with
  | last before s after =>
    obtain ⟨v, hv, rfl⟩ := Items.eval_last.1 hvs
    obtain ⟨w, hw, hmasked⟩ := exists_eval_maskSpelling hkind s hfits hv
    refine ⟨[w], Items.eval_last.2 ⟨w, hw, rfl⟩, fun u hu => ?_⟩
    rw [List.mem_singleton.1 hu]
    exact hmasked
  | cons before s after rest =>
    obtain ⟨v, us, hv, hus, rfl⟩ := Items.eval_cons.1 hvs
    obtain ⟨w, hw, hmasked⟩ := exists_eval_maskSpelling hkind s (fun n hn => hfits n (List.mem_append_left _ hn)) hv
    obtain ⟨ws, hws, hlater⟩ := exists_eval_maskItems hkind rest (fun n hn => hfits n (List.mem_append_right _ hn)) hus
    exact ⟨w :: ws, Items.eval_cons.2 ⟨w, ws, hw, hws, rfl⟩, List.forall_mem_cons.2 ⟨hmasked, hlater⟩⟩

theorem exists_eval_maskMembers (hkind : f.kind = .string) (members : Members)
    (hfits : ∀ n ∈ members.names, Glyph.decode n ∈ names → fits f.names n = true) {depth : Nat}
    {ms : List (Text × Value)} (hms : members.eval false depth = some ms) :
    ∃ ws, (f.maskMembers members).eval false depth = some ws
      ∧ ∀ m ∈ ws, (m.1 ∈ names → ∀ t, m.2 = .string t → t = f.replacement) ∧ m.2.Masked names f.replacement := by
  cases members with
  | last lead s after =>
    obtain ⟨v, hv, rfl⟩ := Members.eval_last.1 hms
    obtain ⟨u, hu, hmasked⟩ := exists_eval_maskSpelling hkind s (fun n hn => hfits n (List.mem_cons_of_mem _ hn)) hv
    obtain ⟨w, hw, hmember⟩ := exists_eval_maskMember hkind (hfits _ List.mem_cons_self) hu hmasked
    refine ⟨[(Glyph.decode lead.name, w)], Members.eval_last.2 ⟨w, hw, rfl⟩, fun m hm => ?_⟩
    rw [List.mem_singleton.1 hm]
    exact hmember
  | cons lead s after rest =>
    obtain ⟨v, us, hv, hus, rfl⟩ := Members.eval_cons.1 hms
    obtain ⟨u, hu, hmasked⟩ := exists_eval_maskSpelling hkind s
      (fun n hn => hfits n (List.mem_cons_of_mem _ (List.mem_append_left _ hn))) hv
    obtain ⟨w, hw, hmember⟩ := exists_eval_maskMember hkind (hfits _ List.mem_cons_self) hu hmasked
    obtain ⟨ws, hws, hlater⟩ := exists_eval_maskMembers hkind rest
      (fun n hn => hfits n (List.mem_cons_of_mem _ (List.mem_append_right _ hn))) hus
    exact ⟨(Glyph.decode lead.name, w) :: ws, Members.eval_cons.2 ⟨w, ws, hw, hws, rfl⟩,
      List.forall_mem_cons.2 ⟨hmember, hlater⟩⟩

end

end Reading

/-- Names in order, each once, stay as they are. -/
theorem ofNames_of_sorted {names : List Text} (hsorted : names.Pairwise fun a b => Text.le a b = true)
    (honce : names.eraseDups = names) (kind : Kind) (replacement : Text) :
    ofNames kind names replacement = ⟨kind, names, replacement⟩ := by
  unfold ofNames normalNames
  rw [List.mergeSort_of_pairwise hsorted, honce]

/-- A name that is spelled as it is read fits. Names with escapes may be missed, as the scan compares texts. -/
theorem fits_of_mem {names : List Text} {gs : List Glyph} (h : Glyph.textOf gs ∈ names) :
    fits (normalNames names) gs = true := by
  rw [fits, contains_normalNames, List.contains_iff_mem.2 h]
  rfl

end PropertyFilter

/-! ## What is left, and what is not -/

theorem exists_of_isOk {ε α : Type} {x : Except ε α} (h : x.isOk = true) : ∃ a, x = .ok a := by
  cases x with
  | error e => cases h
  | ok a => exact ⟨a, rfl⟩

/-- The string that a node is. -/
def Json.Value.string? : Value → Option Text
  | .string t => some t
  | _ => none

theorem exists_string_of {ε : Type} {x : Except ε Document} {p : Position} {t : Text}
    (h : (x.toOption.bind fun d => (d.root.get? p).bind Value.string?) = some t) :
    ∃ d, x = .ok d ∧ d.root.get? p = some (.string t) := by
  obtain ⟨d, hd, hstring⟩ := Option.bind_eq_some_iff.1 h
  obtain ⟨v, hv, ht⟩ := Option.bind_eq_some_iff.1 hstring
  refine ⟨d, eq_ok_of_toOption hd, ?_⟩
  cases v with
  | string s =>
    rw [hv, Option.some.inj ht]
  | _ => cases ht

namespace Filter

/-- Under anchored names, each spelled as it is read wherever the body uses it, no string of the document is left
unmasked. Other names of the body may be spelled in any way. -/
theorem get?_apply_property {names : List Text} (hnames : ∀ n ∈ names, PropertyFilter.Anchored n) (replacement : Text)
    {mediaType : Option Text} (hjson : MediaType.isJson mediaType = true) {body : Text} {d : Document}
    (hread : Document.read Settings.builtIn body = .ok d)
    (hkeys : SpellsNames (fun gs => Glyph.decode gs ∈ names → Glyph.textOf gs = Glyph.decode gs) body) :
    ∃ out d', (Filter.property (.ofNames .string names replacement)).apply mediaType body = .ok out
      ∧ Document.read Settings.builtIn out = .ok d'
      ∧ ∀ position key t, d'.root.get? (position ++ [.name key]) = some (.string t) → key ∈ names →
        t = replacement := by
  have hanchored : ∀ n ∈ (PropertyFilter.ofNames .string names replacement).names, PropertyFilter.Anchored n :=
    fun n hn => hnames n (PropertyFilter.mem_normalNames.1 hn)
  obtain ⟨src, rfl, heval⟩ := read_eq_ok_iff.1 (Document.read_eq_ok_iff.1 hread).1
  -- a name of the body that is meant is spelled as it is read, so the scan finds it
  have hfits : ∀ n ∈ src.root.names, Glyph.decode n ∈ names →
      PropertyFilter.fits (PropertyFilter.ofNames .string names replacement).names n = true := by
    intro n hn hmem
    refine PropertyFilter.fits_of_mem ?_
    rw [hkeys src rfl n hn hmem]
    exact hmem
  obtain ⟨w, hw, hmasked⟩ := PropertyFilter.exists_eval_maskSpelling
    (f := PropertyFilter.ofNames .string names replacement) rfl src.root hfits heval
  refine ⟨_, ⟨w, Settings.builtIn⟩, apply_property hjson _ src.text, ?_, ?_⟩
  · rw [PropertyFilter.mask_text hanchored src]
    exact Document.read_eq_ok_iff.2 ⟨read_eq_ok_iff.2 ⟨_, rfl, hw⟩, rfl⟩
  · intro position key t hget hkey
    exact hmasked.eq_replacement hget hkey

theorem get?_apply_property_token :
    ∃ out d', (Filter.property (.ofNames .string ["token"] "XXX")).apply (some "application/json")
        "[\x7b\"token\" : \"a\", \"x\": [\x7b\"token\":\"b\"\x7d]\x7d]" = .ok out
      ∧ Document.read Settings.builtIn out = .ok d'
      ∧ ∀ position key t, d'.root.get? (position ++ [.name key]) = some (.string t) → key ∈ [("token" : Text)] →
        t = "XXX" := by
  have hisOk : (Document.read Settings.builtIn "[\x7b\"token\" : \"a\", \"x\": [\x7b\"token\":\"b\"\x7d]\x7d]").isOk
      = true := by
    decide +kernel
  obtain ⟨d, hread⟩ := exists_of_isOk hisOk
  have hfree := spellsNames_of_not_mem (show CodePoint.backslash
    ∉ ("[\x7b\"token\" : \"a\", \"x\": [\x7b\"token\":\"b\"\x7d]\x7d]" : Text) from by decide)
  exact get?_apply_property (fun n hn => PropertyFilter.anchored_of_isNamePart (by revert n; decide)) "XXX" (by decide)
    hread fun src hsrc n hn _ => (PropertyFilter.decode_of_not_mem (hfree src hsrc n hn)).symm

/-- What is left: a name that is spelled with an escape, and a name within one that spans several tokens. A name that
looks like what stands between two strings, and one that ends in a backslash, spoil the text. -/
theorem apply_property_unmasked :
    ((Filter.property (.ofNames .string ["token"] "XXX")).apply (some "application/json")
        "\x7b\"\\u0074oken\":\"secret\"\x7d" = .ok "\x7b\"\\u0074oken\":\"secret\"\x7d"
      ∧ ∃ d, Document.read Settings.builtIn "\x7b\"\\u0074oken\":\"secret\"\x7d" = .ok d
        ∧ d.root.get? [.name "token"] = some (.string "secret"))
    ∧ ((Document.read Settings.builtIn "\x7b\"a\":\"1\",\"token\":\"s\",\"b\":\"z\"\x7d").isOk = true
      ∧ (Filter.property (.ofNames .string ["a\":\"1\",\"token\":\"s\",\"b", "token"] "XXX")).apply
        (some "application/json") "\x7b\"a\":\"1\",\"token\":\"s\",\"b\":\"z\"\x7d"
        = .ok "\x7b\"a\":\"1\",\"token\":\"s\",\"b\":\"XXX\"\x7d"
      ∧ ∃ d, Document.read Settings.builtIn "\x7b\"a\":\"1\",\"token\":\"s\",\"b\":\"XXX\"\x7d" = .ok d
        ∧ d.root.get? [.name "token"] = some (.string "s"))
    ∧ ((Document.read Settings.builtIn "\x7b\"a\":\"b\",\":\":\"c\"\x7d").isOk = true
      ∧ (Filter.property (.ofNames .string [","] "XXX")).apply (some "application/json")
        "\x7b\"a\":\"b\",\":\":\"c\"\x7d" = .ok "\x7b\"a\":\"b\",\":\"XXX\"c\"\x7d"
      ∧ (Document.read Settings.builtIn "\x7b\"a\":\"b\",\":\"XXX\"c\"\x7d").isOk = false)
    ∧ ((Document.read Settings.builtIn "\x7b\"a\\\": \":\"b\"\x7d").isOk = true
      ∧ (Filter.property (.ofNames .string ["a\\"] "XXX")).apply (some "application/json")
        "\x7b\"a\\\": \":\"b\"\x7d" = .ok "\x7b\"a\\\": \"XXX\"b\"\x7d"
      ∧ (Document.read Settings.builtIn "\x7b\"a\\\": \"XXX\"b\"\x7d").isOk = false) := by
  refine ⟨⟨?_, ?_⟩, ⟨?_, ?_, ?_⟩, ⟨?_, ?_, ?_⟩, ?_, ?_, ?_⟩
  · exact eq_ok_of_toOption (by decide +kernel)
  · exact exists_string_of (by decide +kernel)
  · decide +kernel
  · rw [PropertyFilter.ofNames_of_sorted (by decide +kernel) (by decide +kernel)]
    exact eq_ok_of_toOption (by decide +kernel)
  · exact exists_string_of (by decide +kernel)
  · decide +kernel
  · exact eq_ok_of_toOption (by decide +kernel)
  · decide +kernel
  · decide +kernel
  · exact eq_ok_of_toOption (by decide +kernel)
  · decide +kernel

end Filter

end BodyScrub
