import BodyScrub.Proofs.Path.DocumentOrder
import BodyScrub.Proofs.Path.NormalText

/-!
# Location paths identify their nodes

The path of a location is put together from the names and the indices on the way to its node, whatever stands in these
names. It leads back: it is read as a path that addresses this node and no other, in the place where it was found. So no
two nodes of a document have the same path.

* **`eq_of_text_append_eq`**: the text of a step ends where that of the next one begins.
* **`Position.text_injective`**: no two positions are written alike.
* **`resolveSegments_steps`**: the segments of a position address the node there alone.
* **`locate_path`**: all of it for the locations that a path finds in a document.

An index is read back if it has no more digits than an integer may have. So the way back asks for arrays of at most
`10 ^ 4300` items (`Value.ItemsWithin`), as in every document that was read from a body of at most so many code points
(`itemsWithin_of_read`). That no two nodes have the same path holds without it.
-/

namespace BodyScrub

open Json (Value Step Position)

/-! ## Texts of steps -/

namespace Json.Step

/-- The segment that stands for a step alone. -/
def segment : Step → Segment
  | name key => .field key
  | index i => .index i

/-- The segment of a step is written as the step is, so the path of a location is the normal text of such segments. -/
theorem text_segment (s : Step) : s.segment.text = s.text := by
  cases s <;> rfl

/-- A step is written as something that may follow a name: it begins with a dot or an opening bracket. -/
theorem opens (s : Step) : ∃ c t, s.text = c :: t ∧ Path.endsName c = true := by
  cases s with
  | name key => exact (Path.writes_fieldText key).opens
  | index i => exact ⟨_, _, rfl, by decide⟩

/-- An index before a text, with the bracket behind it at which the text can be cut. No sign is written, as no step
counts from the end. -/
theorem text_index_append (i : Nat) (r : Text) :
    (index i).text ++ r = ('[' : CodePoint) :: (Text.ofNat i ++ (']' : CodePoint) :: r) := by
  have hdigits : Text.ofInt i = Text.ofNat i := by simp [Text.ofInt]
  show indexText i ++ r = _
  simp [indexText, hdigits]

/-- A name and an index are not written alike: behind the bracket of a name stands its quote, and behind that of an
index a digit. -/
theorem text_name_append_ne (key : Text) (i : Nat) (r r' : Text) : (name key).text ++ r ≠ (index i).text ++ r' := by
  intro h
  rw [text_index_append] at h
  change fieldText key ++ r = _ at h
  unfold fieldText at h
  -- a plain name stands after a dot, and another one after a bracket and a quote
  split at h
  · exact absurd (List.cons.inj h).1 (by decide)
  · cases hdigits : Text.ofNat i with
    | nil => exact Text.ofNat_ne_nil i hdigits
    | cons c t =>
      rw [hdigits] at h
      have hquote : CodePoint.apostrophe = c := (List.cons.inj (List.cons.inj h).2).1
      have hdigit : c.isAsciiDigit = true := Text.allDigits_ofNat i c (by simp [hdigits])
      rw [← hquote] at hdigit
      exact absurd hdigit (by decide)

/-- The text of a step ends where that of the next one begins, so it tells the step. A name is read off by the
reader of paths; an index cannot be, as it may be too long for it. -/
theorem eq_of_text_append_eq {s t : Step} {r r' : Text} (hr : Path.Follows r) (hr' : Path.Follows r')
    (h : s.text ++ r = t.text ++ r') : s = t ∧ r = r' := by
  cases s with
  | name key =>
    cases t with
    | index j => exact absurd h (text_name_append_ne key j r r')
    | name other =>
      -- both texts are read, and the reader takes one name off
      obtain ⟨c, u, htext, -⟩ := (Path.writes_fieldText key).opens
      have hcons : fieldText key ++ r = c :: (u ++ r) := by rw [htext, List.cons_append]
      have hkey := (Path.writes_fieldText key).reads hcons hr
      have hother := (Path.writes_fieldText other).reads (h.symm.trans hcons) hr'
      obtain ⟨hsegment, hrest⟩ := Prod.mk.inj (Except.ok.inj (hkey.symm.trans hother))
      rw [Segment.field.inj hsegment]
      exact ⟨rfl, hrest⟩
  | index i =>
    cases t with
    | name other => exact absurd h.symm (text_name_append_ne other i r' r)
    | index j =>
      -- an index may be too long for the reader, but its digits end at the bracket
      have hfree : ∀ n, (']' : CodePoint) ∉ Text.ofNat n := fun n hmem =>
        absurd (Text.allDigits_ofNat n _ hmem) (by decide)
      rw [text_index_append, text_index_append] at h
      have hcut := Text.cut?_append (hfree i) r
      rw [(List.cons.inj h).2, Text.cut?_append (hfree j) r'] at hcut
      obtain ⟨hdigits, hrest⟩ := Prod.mk.inj (Option.some.inj hcut)
      have hindex := congrArg Path.magnitude hdigits
      rw [Path.magnitude_ofNat, Path.magnitude_ofNat] at hindex
      exact ⟨congrArg index hindex.symm, hrest.symm⟩

end Json.Step

/-! ## Texts of positions -/

theorem follows_steps (p : Position) : Path.Follows (p.flatMap Step.text) := Path.follows_row fun s _ => s.opens

/-- No two positions are written alike, whatever stands in the names: a position is taken apart into its steps in
one way only. -/
theorem Json.Position.text_injective {p q : Position} (h : p.text = q.text) : p = q := by
  replace h : p.flatMap Step.text = q.flatMap Step.text := List.append_cancel_left h
  induction p generalizing q with
  | nil =>
    -- a position that goes on is written with more than nothing
    cases q with
    | nil => rfl
    | cons t q =>
      obtain ⟨c, u, htext, -⟩ := t.opens
      rw [List.flatMap_cons, htext] at h
      cases h
  | cons s p ih =>
    cases q with
    | nil =>
      obtain ⟨c, u, htext, -⟩ := s.opens
      rw [List.flatMap_cons, htext] at h
      cases h
    | cons t q =>
      rw [List.flatMap_cons, List.flatMap_cons] at h
      obtain ⟨rfl, hrest⟩ := Json.Step.eq_of_text_append_eq (follows_steps p) (follows_steps q) h
      rw [ih hrest]

/-- The text of a position is read as the segments of its steps, if none of its indices is too long to be read. What
a path prints for a node is a path again this way. -/
theorem Json.Position.read_text {p : Position} (h : ∀ s ∈ p, s.segment.Fits) {limit : Int}
    (hlimit : p.text.length ≤ limit) : Path.read limit p.text = .ok ⟨p.map Step.segment⟩ := by
  have htext : p.text = Path.text ⟨p.map Step.segment⟩ := by
    show rootText ++ p.flatMap Step.text = rootText ++ (p.map Step.segment).flatMap Segment.text
    rw [List.flatMap_map]
    exact congrArg (rootText ++ ·) (List.flatMap_congr fun s _ => s.text_segment.symm)
  have hfits : ∀ s ∈ p.map Step.segment, s.Fits := List.forall_mem_map.2 h
  rw [htext] at hlimit ⊢
  exact Path.read_text_of_fits hfits hlimit

/-! ## The way back -/

/-- The segment of a step selects the child that the step leads to, and no other. An index is written as a number
from the beginning, so it does not depend on how many items there are. -/
theorem Json.Step.children_segment {s : Step} {v c : Value} (h : v.child? s = some c) :
    s.segment.children v = [(s, c)] := by
  cases s with
  | name key =>
    cases v with
    | object members =>
      replace h : Entries.get? key members = some c := h
      show (Segment.field key).children (.object members) = _
      rw [Segment.children_field, h]
      rfl
    | _ => cases h
  | index i =>
    cases v with
    | array items =>
      replace h : items[i]? = some c := h
      have hi : i < items.length := (List.getElem?_eq_some_iff.1 h).1
      show (Segment.index i).children (.array items) = _
      rw [Segment.children_index (itemIndex_eq_some_iff.2 ⟨hi, Or.inl rfl⟩), h]
      rfl
    | _ => cases h

/-- The segments of a position address the node there alone. No wildcard is among them, so each of them goes on to
one child at most. -/
theorem resolveSegments_steps {v u : Value} {p : Position} (h : v.get? p = some u) :
    resolveSegments (p.map Step.segment) v = [⟨p, u⟩] := by
  induction p generalizing v with
  | nil =>
    obtain rfl : v = u := Option.some.inj h
    rfl
  | cons s p ih =>
    obtain ⟨c, hchild, hbelow⟩ := Option.bind_eq_some_iff.1 h
    rw [List.map_cons, resolveSegments_cons, Json.Step.children_segment hchild]
    simp [ih hbelow, Location.below]

/-! ## Indices that can be read back -/

namespace Json

/-- No array in a value has more than `n` items. -/
inductive Value.ItemsWithin (n : Nat) : Value → Prop where
  | scalar {v : Value} (h : v.isScalar = true) : ItemsWithin n v
  | array {items : List Value} (length_le : items.length ≤ n) (h : ∀ v ∈ items, ItemsWithin n v) :
    ItemsWithin n (.array items)
  | object {members : Entries Value} (h : ∀ m ∈ members, ItemsWithin n m.2) : ItemsWithin n (.object members)

theorem Value.ItemsWithin.mono {m n : Nat} (hmn : m ≤ n) {v : Value} (h : v.ItemsWithin m) : v.ItemsWithin n := by
  induction h with
  | scalar h => exact .scalar h
  | array length_le _ ih => exact .array (length_le.trans hmn) ih
  | object _ ih => exact .object ih

/-- The bound is kept by every child, since it is about all arrays in a value. -/
theorem Value.ItemsWithin.of_child? {n : Nat} {v c : Value} {s : Step} (h : v.ItemsWithin n)
    (hc : v.child? s = some c) : c.ItemsWithin n := by
  cases h with
  | scalar h => cases v <;> cases s <;> simp_all [Value.child?, Value.isScalar]
  | array _ h =>
    cases s with
    | name key => cases hc
    | index i => exact h c (List.mem_of_getElem? hc)
  | object h =>
    cases s with
    | name key => exact h _ (Entries.mem_of_get? hc)
    | index i => cases hc

/-- A step to a child can be read back: an index is below the number of items, so it has no more than 4300 digits. -/
theorem Step.fits_of_child? {v c : Value} {s : Step} (hv : v.ItemsWithin (10 ^ maxIntegerDigits))
    (h : v.child? s = some c) : s.segment.Fits := by
  cases s with
  | name key => trivial
  | index i =>
    cases hv with
    | scalar hscalar => cases v <;> simp_all [Value.child?, Value.isScalar]
    | object => cases h
    | @array items length_le _ =>
      have hi : i < items.length := (List.getElem?_eq_some_iff.1 h).1
      show (Text.ofNat (i : Int).natAbs).length ≤ maxIntegerDigits
      rw [Text.length_ofNat_le_iff (by decide), Int.natAbs_natCast]
      exact hi.trans_le length_le

theorem Position.fits_of_get? {v u : Value} {p : Position} (hv : v.ItemsWithin (10 ^ maxIntegerDigits))
    (h : v.get? p = some u) : ∀ s ∈ p, s.segment.Fits := by
  induction p generalizing v with
  | nil => exact List.forall_mem_nil _
  | cons s p ih =>
    obtain ⟨c, hchild, hbelow⟩ := Option.bind_eq_some_iff.1 h
    exact List.forall_mem_cons.2 ⟨Step.fits_of_child? hv hchild, ih (hv.of_child? hchild) hbelow⟩

mutual

/-- A value has no more items in an array than its text has code points. The induction is on how the value is
spelled, together with its items and members. -/
theorem Spelling.itemsWithin_of_eval {allowNonFinite : Bool} {depth : Nat} {v : Value} (s : Spelling)
    (h : s.eval allowNonFinite depth = some v) : v.ItemsWithin s.text.length := by
  cases s with
  | atom a =>
    rw [Spelling.eval] at h
    exact .scalar (isScalar_of_atom h)
  | emptyArray b =>
    obtain ⟨depth, rfl, rfl⟩ := Spelling.eval_emptyArray.1 h
    exact .array (Nat.zero_le _) fun _ hv => absurd hv List.not_mem_nil
  | emptyObject b =>
    obtain ⟨depth, rfl, rfl⟩ := Spelling.eval_emptyObject.1 h
    exact .object fun _ hm => absurd hm List.not_mem_nil
  | array items =>
    obtain ⟨depth, vs, rfl, hvs, rfl⟩ := Spelling.eval_array.1 h
    obtain ⟨hlength, hitems⟩ := items.itemsWithin_of_eval hvs
    have hle : items.text.length ≤ (Spelling.array items).text.length := by
      simp [Spelling.text]
      omega
    exact .array (hlength.trans hle) fun v hv => (hitems v hv).mono hle
  | object members =>
    obtain ⟨depth, ms, rfl, hms, rfl⟩ := Spelling.eval_object.1 h
    have hmembers := members.itemsWithin_of_eval hms
    have hle : members.text.length ≤ (Spelling.object members).text.length := by
      simp [Spelling.text]
      omega
    refine .object fun m hm => (hmembers m ?_).mono hle
    exact (Entries.mem_of_mem_insertAll hm).resolve_right List.not_mem_nil

/-- Every item takes a code point of its own, so there are no more items than code points, neither here nor further
down. -/
theorem Items.itemsWithin_of_eval {allowNonFinite : Bool} {depth : Nat} {vs : List Value} (items : Items)
    (h : items.eval allowNonFinite depth = some vs) :
    vs.length ≤ items.text.length ∧ ∀ v ∈ vs, v.ItemsWithin items.text.length := by
  cases items with
  | last before s after =>
    obtain ⟨v, hv, rfl⟩ := Items.eval_last.1 h
    -- a value is spelled by one code point at least
    obtain ⟨c, t, htext, -⟩ := s.text_cons
    have hle : s.text.length ≤ (Items.last before s after).text.length := by
      simp [Items.text]
      omega
    refine ⟨?_, ?_⟩
    · simp [Items.text, htext]
      omega
    · intro w hw
      rw [List.mem_singleton.1 hw]
      exact (s.itemsWithin_of_eval hv).mono hle
  | cons before s after rest =>
    obtain ⟨v, ws, hv, hws, rfl⟩ := Items.eval_cons.1 h
    obtain ⟨hlength, hrest⟩ := rest.itemsWithin_of_eval hws
    have htext : (Items.cons before s after rest).text.length
        = before.text.length + s.text.length + after.text.length + (rest.text.length + 1) := by
      simp [Items.text]
      omega
    rw [htext]
    refine ⟨?_, List.forall_mem_cons.2 ⟨(s.itemsWithin_of_eval hv).mono (by omega), fun w hw => ?_⟩⟩
    · rw [List.length_cons]
      omega
    · exact (hrest w hw).mono (by omega)

/-- The members of an object are spelled inside its text, so the bound for each of them is kept by that of the
object. -/
theorem Members.itemsWithin_of_eval {allowNonFinite : Bool} {depth : Nat} {ms : List (Text × Value)}
    (members : Members) (h : members.eval allowNonFinite depth = some ms) :
    ∀ m ∈ ms, m.2.ItemsWithin members.text.length := by
  cases members with
  | last lead s after =>
    obtain ⟨v, hv, rfl⟩ := Members.eval_last.1 h
    intro m hm
    rw [List.mem_singleton.1 hm]
    refine (s.itemsWithin_of_eval hv).mono ?_
    simp [Members.text]
    omega
  | cons lead s after rest =>
    obtain ⟨v, ws, hv, hws, rfl⟩ := Members.eval_cons.1 h
    have htext : (Members.cons lead s after rest).text.length
        = lead.text.length + s.text.length + after.text.length + (rest.text.length + 1) := by
      simp [Members.text]
      omega
    rw [htext]
    refine List.forall_mem_cons.2 ⟨(s.itemsWithin_of_eval hv).mono (by omega), fun m hm => ?_⟩
    exact (rest.itemsWithin_of_eval hws m hm).mono (by omega)

end

/-- What is read has no more items in an array than the body has code points. This is where the bound on the number
of items comes from for the documents that are really there. -/
theorem itemsWithin_of_read {allowNonFinite : Bool} {body : Text} {v : Value} (h : read allowNonFinite body = .ok v) :
    v.ItemsWithin body.length := by
  obtain ⟨src, rfl, heval⟩ := read_eq_ok_iff.1 h
  refine (src.root.itemsWithin_of_eval heval).mono ?_
  simp [Source.text]
  omega

end Json

/-! ## Locations in a document -/

section

variable {okName : Text → Prop} {depth : Nat} {d : Document} {p q : Path} {l m : Location}

/-- A node that a path finds is in the document, at its position and with its value. Two locations with one position
are the same for this reason. -/
theorem Document.get?_of_mem_locate (hd : d.root.Regular okName depth) (hl : l ∈ d.locate p) :
    d.root.get? l.position = some l.value := ((mem_resolveSegments_iff hd).1 hl).2

/-- Locations with the same path are the same, whichever paths found them. The path tells the position, and at one
position there is one value. -/
theorem Document.eq_of_path_eq (hd : d.root.Regular okName depth) (hl : l ∈ d.locate p) (hm : m ∈ d.locate q)
    (h : l.path = m.path) : l = m := by
  have hlvalue := get?_of_mem_locate hd hl
  have hmvalue := get?_of_mem_locate hd hm
  obtain ⟨position, v⟩ := l
  obtain ⟨other, w⟩ := m
  obtain rfl : position = other := Json.Position.text_injective h
  obtain rfl : v = w := Option.some.inj (hlvalue.symm.trans hmvalue)
  rfl

end

/-- The path of a location is read, under every limit that it keeps, as a path that finds this location in the document
and nothing else: the node at the same position, with the same key, value and kind, under the same path. Locations that
any two paths find have the same path only if they are the same, and no path finds a location twice. -/
theorem Document.locate_path {d : Document} {okName : Text → Prop} {depth : Nat} (hd : d.root.Regular okName depth)
    (p : Path) :
    (d.root.ItemsWithin (10 ^ maxIntegerDigits) → ∀ l ∈ d.locate p, ∀ limit : Int, l.path.length ≤ limit →
        ∃ q, Path.read limit l.path = .ok q ∧ d.locate q = [l])
      ∧ (∀ q, ∀ l ∈ d.locate p, ∀ m ∈ d.locate q, l.path = m.path → l = m)
      ∧ (d.locate p).Pairwise fun l m => l.path ≠ m.path := by
  refine ⟨?_, fun q l hl m hm => eq_of_path_eq hd hl hm, ?_⟩
  -- the segments of the position are the path that leads back
  · intro hitems l hl limit hlimit
    have hnode := get?_of_mem_locate hd hl
    exact ⟨⟨l.position.map Step.segment⟩, Json.Position.read_text (Json.Position.fits_of_get? hitems hnode) hlimit,
      resolveSegments_steps hnode⟩
  · have hpositions : (d.locate p).Pairwise fun l m => l.position ≠ m.position :=
      List.pairwise_map.1 (nodup_positions hd)
    exact hpositions.imp fun hne h => hne (Json.Position.text_injective h)

/-- Names with a dot, with an apostrophe and of no code points, each at its place in the paths of two nodes. -/
theorem Document.locate_path_quoted :
    ∃ d, Document.read Settings.builtIn "\x7b\"a.b\": [1], \"it's\": \x7b\"\": 2\x7d\x7d" = .ok d
      ∧ (d.locate ⟨[.wildcard, .wildcard]⟩).map Location.path = [("$['a.b'][0]" : Text), ("$['it\\'s']['']" : Text)]
      ∧ ∀ l ∈ d.locate ⟨[.wildcard, .wildcard]⟩, ∀ limit : Int, l.path.length ≤ limit →
        ∃ q, Path.read limit l.path = .ok q ∧ d.locate q = [l] := by
  have hfound : (Document.read Settings.builtIn "\x7b\"a.b\": [1], \"it's\": \x7b\"\": 2\x7d\x7d").toOption.map
      (fun d => (d.locate ⟨[.wildcard, .wildcard]⟩).map Location.path)
      = some [("$['a.b'][0]" : Text), ("$['it\\'s']['']" : Text)] := by
    decide +kernel
  obtain ⟨d, hd, hpaths⟩ := Option.map_eq_some_iff.1 hfound
  have hread := Json.eq_ok_of_toOption hd
  have hroot := (Document.read_eq_ok_iff.1 hread).1
  have hitems := (Json.itemsWithin_of_read hroot).mono
    (show _ ≤ 10 ^ maxIntegerDigits from (by decide : _ ≤ 10 ^ 2).trans (Nat.pow_le_pow_right (by decide) (by decide)))
  exact ⟨d, hread, hpaths, (Document.locate_path (Json.regular_of_read hroot) _).1 hitems⟩

end BodyScrub
