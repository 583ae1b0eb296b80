import BodyScrub.Filter
import BodyScrub.Proofs.Json.Regular
import BodyScrub.Proofs.PropertyFilter.Trees

/-!
# Property filters and the documents that are read

Where no name of a body holds an escape, its names are read as they are spelled, and a property filter changes the
document exactly as it says: every value of its kind under one of its names becomes the replacement, at every depth,
and nothing else changes (`read_apply_property`). Members under a repeated name are masked one by one before the last
of them counts.

* **`maskValue`**: a document with members masked.
* **`eval_maskSpelling`**: reading a masked tree gives the masked document.
-/

namespace BodyScrub

open Json

/-! ## Strict bodies -/

mutual

/-- A tree that is read without the words for numbers that are not finite has none of them. This is the case of
values; items and members follow. -/
theorem Json.Spelling.isStrict_of_eval (s : Spelling) {depth : Nat} {v : Value} (h : s.eval false depth = some v) :
    s.isStrict = true := by
  cases s with
  | atom a =>
    cases a with
    | nonFinite w x hmem =>
      rw [Spelling.eval, Atom.eval, if_neg (by decide)] at h
      cases h
    | _ => rfl
  | emptyArray b => rfl
  | emptyObject b => rfl
  | array items =>
    obtain ⟨_, vs, -, hvs, -⟩ := Spelling.eval_array.1 h
    exact items.isStrict_of_eval hvs
  | object members =>
    obtain ⟨_, ms, -, hms, -⟩ := Spelling.eval_object.1 h
    exact members.isStrict_of_eval hms

theorem Json.Items.isStrict_of_eval (items : Items) {depth : Nat} {vs : List Value}
    (h : items.eval false depth = some vs) : items.isStrict = true := by
  cases items with
  | last before s after =>
    obtain ⟨v, hv, -⟩ := Items.eval_last.1 h
    exact s.isStrict_of_eval hv
  | cons before s after rest =>
    obtain ⟨v, ws, hv, hws, -⟩ := Items.eval_cons.1 h
    rw [Items.isStrict, s.isStrict_of_eval hv, rest.isStrict_of_eval hws]
    rfl

theorem Json.Members.isStrict_of_eval (members : Members) {depth : Nat} {ms : List (Text × Value)}
    (h : members.eval false depth = some ms) : members.isStrict = true := by
  cases members with
  | last lead s after =>
    obtain ⟨v, hv, -⟩ := Members.eval_last.1 h
    exact s.isStrict_of_eval hv
  | cons lead s after rest =>
    obtain ⟨v, ws, hv, hws, -⟩ := Members.eval_cons.1 h
    rw [Members.isStrict, s.isStrict_of_eval hv, rest.isStrict_of_eval hws]
    rfl

end

/-- What is read without the words for numbers that are not finite is strict. So a body is shown to be strict by
running the reader. -/
theorem Json.isStrict_of_read {body : Text} (h : (Json.read false body).isOk = true) : IsStrict body := by
  cases hread : Json.read false body with
  | error e =>
    rw [hread] at h
    cases h
  | ok v =>
    obtain ⟨src, htext, heval⟩ := read_eq_ok_iff.1 hread
    exact ⟨src, htext, src.root.isStrict_of_eval heval⟩

/-- What a body does not hold is not in its names. It is the easiest way to see that no name is spelled with an
escape. -/
theorem Json.spellsNames_of_not_mem {c : CodePoint} {body : Text} (h : c ∉ body) :
    SpellsNames (fun gs => c ∉ Glyph.textOf gs) body := by
  rintro src rfl n hn hc
  have hroot := src.root.mem_text_of_mem_names hn hc
  exact h (List.mem_append_left _ (List.mem_append_right _ hroot))

namespace PropertyFilter

mutual

/-- Masking puts a string in place of a value, so a strict tree stays strict. -/
theorem isStrict_maskSpelling (f : PropertyFilter) (s : Spelling) (h : s.isStrict = true) :
    (f.maskSpelling s).isStrict = true := by
  cases s with
  | atom a => exact h
  | emptyArray b => rfl
  | emptyObject b => rfl
  | array items => exact isStrict_maskItems f items h
  | object members => exact isStrict_maskMembers f members h

theorem isStrict_maskItems (f : PropertyFilter) (items : Items) (h : items.isStrict = true) :
    (f.maskItems items).isStrict = true := by
  cases items with
  | last before s after => exact isStrict_maskSpelling f s h
  | cons before s after rest =>
    rw [Items.isStrict, Bool.and_eq_true] at h
    rw [maskItems, Items.isStrict, isStrict_maskSpelling f s h.1, isStrict_maskItems f rest h.2]
    rfl

theorem isStrict_maskMembers (f : PropertyFilter) (members : Members) (h : members.isStrict = true) :
    (f.maskMembers members).isStrict = true := by
  cases members with
  | last lead s after =>
    rw [maskMembers, Members.isStrict]
    split
    · rfl
    · exact isStrict_maskSpelling f s h
  | cons lead s after rest =>
    rw [Members.isStrict, Bool.and_eq_true] at h
    rw [maskMembers, Members.isStrict, isStrict_maskMembers f rest h.2, Bool.and_true]
    split
    · rfl
    · exact isStrict_maskSpelling f s h.1

end

theorem isStrict_mask {f : PropertyFilter} (hnames : ∀ n ∈ f.names, Anchored n) {body : Text} (h : IsStrict body) :
    IsStrict (f.mask body) := by
  obtain ⟨src, rfl, hstrict⟩ := h
  exact ⟨f.maskSource src, (mask_text hnames src).symm, isStrict_maskSpelling f src.root hstrict⟩

/-! ## Names -/

/-- Putting names in order and taking each once changes nothing in which names there are. Every statement about a
filter can be made for the names as they were given. -/
theorem mem_normalNames {names : List Text} {n : Text} : n ∈ normalNames names ↔ n ∈ names := by
  unfold normalNames
  rw [List.mem_eraseDups, List.mem_mergeSort]

theorem contains_normalNames (names : List Text) (n : Text) : (normalNames names).contains n = names.contains n := by
  rw [Bool.eq_iff_iff, List.contains_iff_mem, List.contains_iff_mem, mem_normalNames]

/-- A string that is spelled without escapes is read as it is spelled. Surrogates are no exception: only those that
are escaped may be joined. -/
theorem decode_of_not_mem {gs : List Glyph} (h : CodePoint.backslash ∉ Glyph.textOf gs) :
    Glyph.decode gs = Glyph.textOf gs := by
  have hfrom : ∀ done, Glyph.decodeFrom false done gs = done.reverse ++ Glyph.textOf gs := by
    induction gs with
    | nil => exact fun done => (List.append_nil _).symm
    | cons g gs ih =>
      intro done
      rw [Glyph.textOf_cons, List.mem_append, not_or] at h
      cases g with
      | plain c hc =>
        rw [Glyph.decodeFrom, ih h.2, List.reverse_cons, List.append_assoc]
        rfl
      | letter e d he => exact absurd List.mem_cons_self h.1
      | number h₁ h₂ h₃ h₄ n hn => exact absurd List.mem_cons_self h.1
  exact hfrom []

/-- A name without escapes has no escaped quote at which another one could begin. -/
theorem tailFits_of_not_mem (names : List Text) {gs : List Glyph} (h : CodePoint.backslash ∉ Glyph.textOf gs) :
    tailFits names gs = false := by
  induction gs with
  | nil => rfl
  | cons g gs ih =>
    rw [Glyph.textOf_cons, List.mem_append, not_or] at h
    -- only a plain glyph has no backslash
    cases g with
    | plain c hc => exact ih h.2
    | letter e d he => exact absurd List.mem_cons_self h.1
    | number h₁ h₂ h₃ h₄ n hn => exact absurd List.mem_cons_self h.1

/-- Names without escapes fit by what they are read as, which is where the scan and the document agree. -/
theorem fits_of_not_mem (names : List Text) {gs : List Glyph} (h : CodePoint.backslash ∉ Glyph.textOf gs) :
    fits names gs = names.contains (Glyph.decode gs) := by
  rw [fits, tailFits_of_not_mem names h, Bool.or_false, decode_of_not_mem h]

/-! ## Kinds -/

/-- Whether a value is of a kind. -/
def Kind.covers : Kind → Value → Bool
  | .string, .string _ => true
  | .primitive, .null => true
  | .primitive, .bool _ => true
  | .primitive, .integer _ => true
  | .primitive, .real _ => true
  | _, _ => false

/-- What is spelled as a string is read as one, and so are numbers and words. The words for doubles that are not
finite are left out, as a strict reader refuses them. -/
theorem covers_of_eval_atom {kind : Kind} {a : Atom} {v : Value} (h : a.eval false = some v) :
    kind.covers v = kind.takesAtom a := by
  cases a with
  | word w u hmem =>
    -- a truth value or null, which are primitive
    obtain rfl : u = v := Option.some.inj h
    rcases mem_wordValues.1 hmem with ⟨-, rfl⟩ | ⟨-, rfl⟩ | ⟨-, rfl⟩
    all_goals
      cases kind
      · rfl
      · rfl
  | nonFinite w x hmem =>
    rw [Atom.eval, if_neg (by decide)] at h
    cases h
  | number n =>
    rcases Numeral.integer_or_real_of_eval h with ⟨i, rfl⟩ | ⟨x, rfl⟩
    all_goals
      cases kind
      · rfl
      · rfl
  | string gs =>
    rw [← Option.some.inj h]
    cases kind with
    | string => rfl
    | primitive => rfl

/-- A value is of a kind if it is spelled so. The scan sees the spelling, and the document the value. -/
theorem covers_of_eval {kind : Kind} {s : Spelling} {depth : Nat} {v : Value} (h : s.eval false depth = some v) :
    kind.covers v = kind.takes s := by
  -- neither kind has containers
  have hcontainer : v.isScalar = false → kind.covers v = false := by
    intro hv
    cases v with
    | array vs => cases kind <;> rfl
    | object ms => cases kind <;> rfl
    | _ => cases hv
  cases s with
  | atom a =>
    rw [Spelling.eval] at h
    exact covers_of_eval_atom h
  | emptyArray b =>
    obtain ⟨-, -, rfl⟩ := Spelling.eval_emptyArray.1 h
    exact hcontainer rfl
  | emptyObject b =>
    obtain ⟨-, -, rfl⟩ := Spelling.eval_emptyObject.1 h
    exact hcontainer rfl
  | array items =>
    obtain ⟨-, vs, -, -, rfl⟩ := Spelling.eval_array.1 h
    exact hcontainer rfl
  | object members =>
    obtain ⟨-, ms, -, -, rfl⟩ := Spelling.eval_object.1 h
    exact hcontainer rfl

/-! ## The function on documents -/

section Documents

variable (kind : Kind) (names : List Text) (replacement : Text)

mutual

/-- A document in which every value of a kind under one of the names is replaced. -/
def maskValue : Value → Value
  | .array vs => .array (maskValues vs)
  | .object ms => .object (maskEntries ms)
  | v => v

def maskValues : List Value → List Value
  | [] => []
  | v :: vs => maskValue v :: maskValues vs

def maskEntries : List (Text × Value) → List (Text × Value)
  | [] => []
  | (name, v) :: ms =>
    (name, if names.contains name && kind.covers v then .string replacement else maskValue v) :: maskEntries ms

end

/-- The members of an object are masked one by one, under their own names. -/
theorem maskEntries_eq_map (ms : List (Text × Value)) :
    maskEntries kind names replacement ms
      = ms.map fun m => (m.1, if names.contains m.1 && kind.covers m.2 then .string replacement
          else maskValue kind names replacement m.2) := by
  induction ms with
  | nil => rfl
  | cons m ms ih => rw [maskEntries, ih, List.map_cons]

/-- Repeated names may be masked before or after the last of them is taken: all members of one name are treated
alike. -/
theorem insertAll_maskEntries (ms : List (Text × Value)) :
    Entries.insertAll (maskEntries kind names replacement ms) []
      = maskEntries kind names replacement (Entries.insertAll ms []) := by
  rw [maskEntries_eq_map, maskEntries_eq_map]
  exact Entries.insertAll_map _ ms []

end Documents

/-! ## Reading masked trees -/

/-- The replacement is read as itself, whatever code points it has, because it is written with the escapes that it
needs. Nothing else in the text has to be known for this. -/
theorem eval_masked (f : PropertyFilter) (allowNonFinite : Bool) (depth : Nat) :
    f.masked.eval allowNonFinite depth = some (.string f.replacement) := by
  have hback : Glyph.decode (Glyph.written false f.replacement) = f.replacement := rewritten_eq_self (Or.inl rfl)
  show some (Value.string (Glyph.decode (Glyph.written false f.replacement))) = _
  rw [hback]

section Reading

variable {f : PropertyFilter} {names : List Text}

/-- The value of one member, when what becomes of it unmasked is known. Name and kind fit in the tree if and only if
they do in the document. -/
theorem eval_maskMember {lead : Lead} {s : Spelling} {depth : Nat} {v : Value}
    (hfits : fits f.names lead.name = names.contains (Glyph.decode lead.name)) (hv : s.eval false depth = some v)
    (hs : (f.maskSpelling s).eval false depth = some (maskValue f.kind names f.replacement v)) :
    (if fits f.names lead.name && f.kind.takes s then f.masked else f.maskSpelling s).eval false depth
      = some (if names.contains (Glyph.decode lead.name) && f.kind.covers v then .string f.replacement
          else maskValue f.kind names f.replacement v) := by
  rw [hfits, covers_of_eval hv]
  split
  · exact eval_masked f false depth
  · exact hs

mutual

/-- Reading a masked tree gives the masked document. The induction is on the tree; the depth that is left is the
same for both. -/
theorem eval_maskSpelling (s : Spelling) (hfits : ∀ n ∈ s.names, fits f.names n = names.contains (Glyph.decode n))
    {depth : Nat} {v : Value} (hv : s.eval false depth = some v) :
    (f.maskSpelling s).eval false depth = some (maskValue f.kind names f.replacement v) := by
  cases s with
  | atom a =>
    have hscalar : v.isScalar = true := by
      rw [Spelling.eval] at hv
      exact isScalar_of_atom hv
    -- a value by itself stays: only a member can be masked
    have hself : maskValue f.kind names f.replacement v = v := by
      cases v with
      | array vs => cases hscalar
      | object ms => cases hscalar
      | _ => rfl
    rw [hself]
    exact hv
  | emptyArray b =>
    obtain ⟨d, rfl, rfl⟩ := Spelling.eval_emptyArray.1 hv
    rfl
  | emptyObject b =>
    obtain ⟨d, rfl, rfl⟩ := Spelling.eval_emptyObject.1 hv
    rfl
  | array items =>
    obtain ⟨d, vs, rfl, hvs, rfl⟩ := Spelling.eval_array.1 hv
    exact Spelling.eval_array.2 ⟨d, _, rfl, eval_maskItems items hfits hvs, rfl⟩
  | object members =>
    obtain ⟨d, ms, rfl, hms, rfl⟩ := Spelling.eval_object.1 hv
    refine Spelling.eval_object.2 ⟨d, _, rfl, eval_maskMembers members hfits hms, ?_⟩
    rw [insertAll_maskEntries, maskValue]

theorem eval_maskItems (items : Items) (hfits : ∀ n ∈ items.names, fits f.names n = names.contains (Glyph.decode n))
    {depth : Nat} {vs : List Value} (hvs : items.eval false depth = some vs) :
    (f.maskItems items).eval false depth = some (maskValues f.kind names f.replacement vs) := by
  cases items with
  | last before s after =>
    obtain ⟨v, hv, rfl⟩ := Items.eval_last.1 hvs
    exact Items.eval_last.2 ⟨_, eval_maskSpelling s hfits hv, rfl⟩
  | cons before s after rest =>
    obtain ⟨v, ws, hv, hws, rfl⟩ := Items.eval_cons.1 hvs
    have hs := eval_maskSpelling s (fun n hn => hfits n (List.mem_append_left _ hn)) hv
    have hrest := eval_maskItems rest (fun n hn => hfits n (List.mem_append_right _ hn)) hws
    exact Items.eval_cons.2 ⟨_, _, hs, hrest, rfl⟩

theorem eval_maskMembers (members : Members)
    (hfits : ∀ n ∈ members.names, fits f.names n = names.contains (Glyph.decode n)) {depth : Nat}
    {ms : List (Text × Value)} (hms : members.eval false depth = some ms) :
    (f.maskMembers members).eval false depth = some (maskEntries f.kind names f.replacement ms) := by
  cases members with
  | last lead s after =>
    obtain ⟨v, hv, rfl⟩ := Members.eval_last.1 hms
    have hs := eval_maskSpelling s (fun n hn => hfits n (List.mem_cons_of_mem _ hn)) hv
    exact Members.eval_last.2 ⟨_, eval_maskMember (hfits _ List.mem_cons_self) hv hs, rfl⟩
  | cons lead s after rest =>
    obtain ⟨v, ws, hv, hws, rfl⟩ := Members.eval_cons.1 hms
    have hs := eval_maskSpelling s (fun n hn => hfits n (List.mem_cons_of_mem _ (List.mem_append_left _ hn))) hv
    have hrest := eval_maskMembers rest (fun n hn => hfits n (List.mem_cons_of_mem _ (List.mem_append_right _ hn))) hws
    exact Members.eval_cons.2 ⟨_, _, eval_maskMember (hfits _ List.mem_cons_self) hv hs, hrest, rfl⟩

end

end Reading

end PropertyFilter

namespace Filter

open PropertyFilter (maskValue)

/-- For a JSON body a property filter gives the masked text, and it never fails. Nothing is read for this, so also a
body that is no JSON text is masked. -/
theorem apply_property {mediaType : Option Text} (hjson : MediaType.isJson mediaType = true) (p : PropertyFilter)
    (body : Text) : (Filter.property p).apply mediaType body = .ok (p.mask body) := by
  simp [apply, run, hjson]

/-- A property filter with plain names keeps a strict body strict, and changes its document by exchanging the values of
its kind under its names, if no name of the body holds an escape. -/
theorem read_apply_property (kind : PropertyFilter.Kind) {names : List Text}
    (hnames : ∀ n ∈ names, ∀ c ∈ n, isNamePart c = true) (replacement : Text) {mediaType : Option Text}
    (hjson : MediaType.isJson mediaType = true) {body : Text} (hstrict : IsStrict body)
    (hkeys : SpellsNames (fun gs => CodePoint.backslash ∉ Glyph.textOf gs) body) :
    ∃ out, (Filter.property (.ofNames kind names replacement)).apply mediaType body = .ok out ∧ IsStrict out
      ∧ ∀ v, Json.read false body = .ok v → Json.read false out = .ok (maskValue kind names replacement v) := by
  have hanchored : ∀ n ∈ (PropertyFilter.ofNames kind names replacement).names, PropertyFilter.Anchored n :=
    fun n hn => PropertyFilter.anchored_of_isNamePart (hnames n (PropertyFilter.mem_normalNames.1 hn))
  refine ⟨_, apply_property hjson _ body, PropertyFilter.isStrict_mask hanchored hstrict, ?_⟩
  intro v hv
  obtain ⟨src, rfl, heval⟩ := read_eq_ok_iff.1 hv
  -- the names of the body are read as they are spelled, so they fit as they are read
  have hfits : ∀ n ∈ src.root.names, PropertyFilter.fits (PropertyFilter.ofNames kind names replacement).names n
      = names.contains (Glyph.decode n) := by
    intro n hn
    exact (PropertyFilter.fits_of_not_mem _ (hkeys src rfl n hn)).trans (PropertyFilter.contains_normalNames names _)
  exact read_eq_ok_iff.2 ⟨_, (PropertyFilter.mask_text hanchored src).symm,
    PropertyFilter.eval_maskSpelling src.root hfits heval⟩

/-- A float, a string and null under one name, of which the first and the last are primitive values. -/
theorem read_apply_property_id :
    ∃ out, (Filter.property (.ofNames .primitive ["id"] "XXX")).apply (some "application/json")
        "[\x7b\"id\" : 1.50\x7d, \x7b\"id\": \"x\", \"id\": null\x7d]" = .ok out
      ∧ IsStrict out
      ∧ ∀ v, Json.read false "[\x7b\"id\" : 1.50\x7d, \x7b\"id\": \"x\", \"id\": null\x7d]" = .ok v →
        Json.read false out = .ok (maskValue .primitive ["id"] "XXX" v) :=
  read_apply_property .primitive (by decide) "XXX" (by decide) (isStrict_of_read (by decide +kernel))
    (spellsNames_of_not_mem (by decide))

end Filter

end BodyScrub
