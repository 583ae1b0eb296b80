import BodyScrub.Proofs.Path.Grammar
import BodyScrub.Proofs.Text.Numerals
import Mathlib.Data.List.Basic

/-!
# The normal text of a path

A path has one normal text. It is read as the same path again, whatever stands in its names and whatever its indices
are, so two paths with one normal text are the same path. An index is the only part of a path that may not be read back:
it may have more digits than an integer may have (`Segment.Fits`). No such path comes from a text.

* **`writes_text`**: the normal text of a segment is read as the segment, wherever it stands.
* **`fits_of_read`**: what is read can be read back.
* **`exists_read_iff`**: both together.
* **`read_normal_text`**: all of it for a path that was read.
-/

namespace BodyScrub

namespace Path

/-- Digits spell a number below the power of ten with as many zeros as there are digits. Code points that are no
digits would only make the number smaller. -/
theorem magnitude_lt (t : Text) : magnitude t < 10 ^ t.length := by
  have hdigits : ∀ d ∈ t.filterMap CodePoint.digit?, d < 10 := by
    intro d hd
    obtain ⟨c, -, hc⟩ := List.mem_filterMap.1 hd
    exact CodePoint.lt_ten_of_digit? hc
  calc magnitude t < 10 ^ (t.filterMap CodePoint.digit?).length := Text.spelled_lt hdigits
    _ ≤ 10 ^ t.length := Nat.pow_le_pow_right (by decide) (List.length_filterMap_le _ _)

/-- A number is written in digits, and it is never written as nothing. -/
theorem isDigits_ofNat (n : Nat) : IsDigits (Text.ofNat n) :=
  ⟨Text.ofNat_ne_nil n, fun c hc => CodePoint.isDigit_of_isAsciiDigit (Text.allDigits_ofNat n c hc)⟩

/-- The digits of a number spell it. The reader takes digits of all scripts, and the writer writes those of ASCII,
for which both values are the same. -/
theorem magnitude_ofNat (n : Nat) : magnitude (Text.ofNat n) = n := by
  have hsame : (Text.ofNat n).filterMap CodePoint.digit? = (Text.ofNat n).filterMap CodePoint.asciiDigit? :=
    List.filterMap_congr fun c hc => CodePoint.digit?_of_isAsciiDigit (Text.allDigits_ofNat n c hc)
  calc magnitude (Text.ofNat n) = Json.digitsNat (Text.ofNat n) := congrArg (Text.spelled 10) hsame
    _ = n := Text.digitsNat_ofNat n

/-- An index is written as a token that spells it, with a hyphen if it counts from the end. -/
theorem spellsToken_ofInt (i : Int) : SpellsToken (Text.ofInt i) (.index i) := by
  have hdigits := isDigits_ofNat i.natAbs
  have hmagnitude := magnitude_ofNat i.natAbs
  unfold Text.ofInt
  -- a negative index is its digits after a hyphen
  split
  · have hi : i = -(magnitude (Text.ofNat i.natAbs) : Int) := by omega
    have htoken := SpellsToken.negative hdigits
    rw [← hi] at htoken
    exact htoken
  · have hi : i = (magnitude (Text.ofNat i.natAbs) : Int) := by omega
    have htoken := SpellsToken.index hdigits
    rw [← hi] at htoken
    exact htoken

end Path

/-! ## Segments that can be read back -/

/-- An index has no more digits than an integer may have. -/
def Segment.Fits : Segment → Prop
  | .index i => (Text.ofNat i.natAbs).length ≤ maxIntegerDigits
  | _ => True

namespace Path

/-- An index that can be read back is read from its own text. -/
theorem indexOf_ofInt {i : Int} (h : (Segment.index i).Fits) : indexOf (Text.ofInt i) = some (.ok i) := by
  have hdigits := isDigits_ofNat i.natAbs
  have hmagnitude := magnitude_ofNat i.natAbs
  unfold Text.ofInt
  split
  · rw [indexOf_negative hdigits h, show -(magnitude (Text.ofNat i.natAbs) : Int) = i by omega]
  · rw [indexOf_digits hdigits h, show (magnitude (Text.ofNat i.natAbs) : Int) = i by omega]

/-- An index that is read can be read back. Zeros in front may make the text that was read longer than the one that
is written, never shorter. -/
theorem fits_of_indexOf {t : Text} {i : Int} (h : indexOf t = some (.ok i)) : (Segment.index i).Fits := by
  -- an index is no greater than its digits can spell
  have hbound : ∀ {digits : Text}, digits.length ≤ maxIntegerDigits →
      (Text.ofNat (magnitude digits)).length ≤ maxIntegerDigits := by
    intro digits hlen
    rw [Text.length_ofNat_le_iff (by decide)]
    exact (magnitude_lt digits).trans_le (Nat.pow_le_pow_right (by decide) hlen)
  cases t with
  | nil => cases h
  | cons c t =>
    unfold indexOf at h
    dsimp only at h
    split at h
    · obtain ⟨x, hx, hi⟩ := Option.map_eq_some_iff.1 h
      obtain ⟨n, hn, rfl⟩ := Option.map_eq_some_iff.1 hx
      obtain ⟨-, rfl⟩ := digitsValue?_eq_some_iff.1 hn
      split at hi
      · next hlen =>
        obtain rfl : -(magnitude t : Int) = i := Except.ok.inj hi
        show (Text.ofNat (-(magnitude t : Int)).natAbs).length ≤ maxIntegerDigits
        rw [Int.natAbs_neg]
        exact hbound hlen
      · cases hi
    · obtain ⟨x, hx, hi⟩ := Option.map_eq_some_iff.1 h
      obtain ⟨n, hn, rfl⟩ := Option.map_eq_some_iff.1 hx
      obtain ⟨-, rfl⟩ := digitsValue?_eq_some_iff.1 hn
      split at hi
      · next hlen =>
        obtain rfl : (magnitude (c :: t) : Int) = i := Except.ok.inj hi
        exact hbound hlen
      · cases hi

theorem fits_of_tokenSegment {left : Nat} {t : Text} {s : Segment} (h : tokenSegment left t = .ok s) : s.Fits := by
  unfold tokenSegment at h
  split at h
  · rw [← Except.ok.inj h]
    trivial
  · split at h
    · cases h
    · next hindex =>
      rw [← Except.ok.inj h]
      exact fits_of_indexOf hindex
    · cases h

/-- What stands between brackets can be read back; a quoted name always can. -/
theorem fits_of_readBracketed {t r : Text} {s : Segment} (h : readBracketed t = .ok (s, r)) : s.Fits := by
  -- a quote begins a name, and everything else is a token
  by_cases hquote : ∃ q ∈ t.head?, q = CodePoint.apostrophe ∨ q = CodePoint.quote
  · obtain ⟨q, hhead, hq⟩ := hquote
    obtain ⟨u, rfl⟩ := List.head?_eq_some_iff.1 hhead
    rw [readBracketed_quote hq] at h
    split at h
    · cases h
    · cases h
    · split at h
      · rw [← (Prod.mk.inj (Except.ok.inj h)).1]
        trivial
      · cases h
  · rw [readBracketed_of_head fun q hq hqq => hquote ⟨q, hq, hqq⟩] at h
    split at h
    · cases h
    · obtain ⟨s', hs', hpair⟩ := exists_of_map_eq_ok h
      rw [← (Prod.mk.inj hpair).1]
      exact fits_of_tokenSegment hs'

/-- Every segment that is read can be read back. A name after a dot always can. -/
theorem fits_of_readSegment {c : CodePoint} {t r : Text} {s : Segment} (h : readSegment c t = .ok (s, r)) : s.Fits := by
  unfold readSegment at h
  split at h
  · unfold readDotted at h
    split at h
    · split at h
      · cases h
      · split at h
        · cases h
        · rw [← (Prod.mk.inj (Except.ok.inj h)).1]
          split <;> trivial
    · cases h
  · split at h
    · exact fits_of_readBracketed h
    · cases h

/-- A row of segments is read segment by segment, so all of them can be read back. The induction is on the fuel, as
the reader goes. -/
theorem fits_of_readSegments {fuel : Nat} {t : Text} {segments : List Segment}
    (h : readSegments fuel t = .ok segments) : ∀ s ∈ segments, s.Fits := by
  induction fuel generalizing t segments with
  | zero =>
    cases t with
    | nil =>
      rw [← Except.ok.inj h]
      exact List.forall_mem_nil _
    | cons c t => cases h
  | succ fuel ih =>
    cases t with
    | nil =>
      rw [← Except.ok.inj h]
      exact List.forall_mem_nil _
    | cons c t =>
      rw [readSegments_cons] at h
      obtain ⟨⟨s, r⟩, hs, hmap⟩ := exists_of_bind_eq_ok h
      obtain ⟨rest, hrest, rfl⟩ := exists_of_map_eq_ok hmap
      exact List.forall_mem_cons.2 ⟨fits_of_readSegment hs, ih hrest⟩

/-- What is read can be read back, under whatever limit it was read. It is the condition under which
`read_text_of_fits` gives the path again. -/
theorem fits_of_read {limit : Int} {t : Text} {p : Path} (h : Path.read limit t = .ok p) :
    ∀ s ∈ p.segments, s.Fits := by
  unfold Path.read at h
  split at h
  · cases h
  · unfold readText at h
    split at h
    · cases h
    · split at h
      · next hsegments =>
        rw [← Except.ok.inj h]
        exact fits_of_readSegments hsegments
      · cases h
      · cases h

/-! ## The normal text of a segment -/

/-- A code point of a plain name neither ends the name nor makes it a wildcard. -/
theorem ne_of_isNamePart {c : CodePoint} (h : isNamePart c = true) : c ≠ '.' ∧ c ≠ '[' ∧ c ≠ '*' := by
  refine ⟨?_, ?_, ?_⟩ <;> (rintro rfl; exact absurd h (by decide))

/-- A plain name may stand after a dot. The check does not look at a line feed at the end of a name, and it does no
harm there. -/
theorem isPlainName_spec {name : Text} (h : isPlainName name = true) :
    name ≠ [] ∧ ∀ c ∈ name, c ≠ '.' ∧ c ≠ '[' ∧ c ≠ '*' := by
  have hnewline : CodePoint.newline ≠ '.' ∧ CodePoint.newline ≠ '[' ∧ CodePoint.newline ≠ '*' := by decide
  -- all code points that the check looks at may stand in a plain name
  have hpart : ∀ c ∈ dropFinalNewline name, c ≠ '.' ∧ c ≠ '[' ∧ c ≠ '*' := by
    unfold isPlainName at h
    split at h
    · cases h
    · next c t hname =>
      rw [hname]
      rw [Bool.and_eq_true] at h
      have hstart : isNamePart c = true := by
        unfold isNamePart
        rw [h.1]
        rfl
      exact List.forall_mem_cons.2 ⟨ne_of_isNamePart hstart, fun d hd => ne_of_isNamePart (List.all_eq_true.1 h.2 d hd)⟩
  constructor
  · rintro rfl
    cases h
  · intro c hc
    unfold dropFinalNewline at hpart
    split at hpart
    · next hlast =>
      -- the only code point that is not looked at is a line feed at the end
      have hsplit := List.dropLast_append_getLast? CodePoint.newline hlast
      rw [← hsplit] at hc
      rcases List.mem_append.1 hc with hc | hc
      · exact hpart c hc
      · rw [List.mem_singleton.1 hc]
        exact hnewline
    · exact hpart c hc

/-- How a code point of a quoted name is written. -/
def NameGlyph.written (c : CodePoint) : NameGlyph CodePoint.apostrophe :=
  if h : c = CodePoint.backslash ∨ c = CodePoint.apostrophe then .escaped c else .plain c (not_or.1 h)

theorem NameGlyph.text_written (c : CodePoint) : (written c).text = escapeInName c := by
  unfold written escapeInName
  by_cases h : c = CodePoint.backslash ∨ c = CodePoint.apostrophe
  · rw [dif_pos h, if_pos (by simpa using h)]
    rfl
  · rw [dif_neg h, if_neg (by simpa using h)]
    rfl

theorem NameGlyph.point_written (c : CodePoint) : (written c).point = c := by
  unfold written
  split <;> rfl

/-- The glyphs of a name are written as the name with its escapes. Only the apostrophe and the backslash have one. -/
theorem NameGlyph.textOf_written (name : Text) : textOf (name.map written) = name.flatMap escapeInName := by
  unfold textOf
  rw [List.flatMap_map]
  exact List.flatMap_congr fun c _ => text_written c

theorem NameGlyph.decode_written (name : Text) : decode (name.map written) = name := by
  unfold decode
  rw [List.map_map]
  exact (List.map_congr_left fun c _ => point_written c).trans (List.map_id name)

/-- A name is read as itself, however it is written. After a dot it goes on to the end or to what begins an item;
between quotes it ends by itself. -/
theorem writes_fieldText (name : Text) : Writes (fieldText name) (.field name) := by
  unfold fieldText
  split
  · next hplain =>
    obtain ⟨ne_nil, hname⟩ := isPlainName_spec hplain
    -- a star would be read as a wildcard, but it is no plain name
    have hstar : name ≠ "*" := by
      rintro rfl
      exact (hname '*' List.mem_cons_self).2.2 rfl
    refine ⟨⟨_, _, rfl, by decide⟩, fun {c t r} h hr => ?_⟩
    obtain ⟨rfl, rfl⟩ := List.cons.inj h
    have hread := readSegment_dotted ne_nil (fun c hc => ⟨(hname c hc).1, (hname c hc).2.1⟩) hr
    rw [if_neg hstar] at hread
    exact hread
  · -- the text is that of an item between apostrophes
    have htext : ("['" : Text) ++ name.flatMap escapeInName ++ ("']" : Text)
        = (Item.quoted CodePoint.apostrophe (Or.inl rfl) (name.map NameGlyph.written)).text := by
      rw [← NameGlyph.textOf_written]
      rfl
    rw [htext]
    refine ⟨Item.opens _, fun {c t r} h _ => ?_⟩
    rw [Item.text_quoted_append] at h
    obtain ⟨rfl, rfl⟩ := List.cons.inj h
    rw [readSegment_quoted (Or.inl rfl), NameGlyph.decode_written]

/-- An index is read as itself if it has not too many digits. No bracket and no blank is written inside, so that the
token is the text of the index. -/
theorem writes_indexText {i : Int} (hi : (Segment.index i).Fits) : Writes (indexText i) (.index i) := by
  -- digits and a hyphen stand between the brackets, so the first closing one ends the token
  have hclose : (']' : CodePoint) ∉ Text.ofInt i := by
    intro hmem
    rcases Text.mem_ofInt hmem with h | h
    · exact absurd h (by decide)
    · exact absurd h (by decide)
  have token : SpellsToken (Text.ofInt i).strip (.index i) := by
    rw [Text.strip_ofInt]
    exact spellsToken_ofInt i
  refine ⟨⟨_, _, rfl, by decide⟩, fun {c t r} h _ => ?_⟩
  have htext : indexText i ++ r = ('[' : CodePoint) :: (Text.ofInt i ++ (']' : CodePoint) :: r) := by
    unfold indexText
    rw [List.append_assoc, List.cons_append]
    rfl
  rw [htext] at h
  obtain ⟨rfl, rfl⟩ := List.cons.inj h
  refine readSegment_bracketed hclose token (fun left => ?_) r
  rw [Text.strip_ofInt]
  exact tokenSegment_of_indexOf (indexOf_ofInt hi) left

theorem writes_wildcard : Writes "[*]" .wildcard := by
  refine ⟨⟨_, _, rfl, by decide⟩, fun {c t r} h _ => ?_⟩
  obtain ⟨rfl, rfl⟩ := List.cons.inj h
  have hclose : (']' : CodePoint) ∉ ("*" : Text) := by decide
  exact readSegment_bracketed hclose .star (fun _ => rfl) r

/-- The normal text of a segment is read as the segment, wherever it stands. An index that is too long is the only
exception, and is left out by `Segment.Fits`. -/
theorem writes_text {s : Segment} (h : s.Fits) : Writes s.text s := by
  cases s with
  | field name => exact writes_fieldText name
  | index i => exact writes_indexText h
  | wildcard => exact writes_wildcard

/-! ## The normal text of a path -/

/-- A path that can be read back is read from its normal text, under every limit that the text keeps. The limit is
one on code points, so a path may be refused in its normal text that was read from a shorter one. -/
theorem read_text_of_fits {p : Path} (h : ∀ s ∈ p.segments, s.Fits) {limit : Int} (hlimit : p.text.length ≤ limit) :
    Path.read limit p.text = .ok p := by
  have hrow : ∀ s ∈ p.segments, Writes s.text (id s) := fun s hs => writes_text (h s hs)
  have hsegments := readSegments_row hrow (Nat.le_refl _)
  rw [List.map_id] at hsegments
  have hread : Path.read limit p.text = readText p.text := if_neg (Int.not_lt.2 hlimit)
  rw [hread]
  unfold readText
  rw [show Text.after? rootText p.text = some (p.segments.flatMap Segment.text) from Text.after?_eq_some_iff.2 rfl]
  dsimp only
  rw [hsegments]

/-- Every path comes from a text, except where an index has too many digits. So nothing that is said of paths that
were read leaves out any names. -/
theorem exists_read_iff {p : Path} : (∃ limit t, Path.read limit t = .ok p) ↔ ∀ s ∈ p.segments, s.Fits := by
  constructor
  · rintro ⟨limit, t, h⟩
    exact fits_of_read h
  · exact fun h => ⟨p.text.length, p.text, read_text_of_fits h (Int.le_refl _)⟩

/-- The normal text of a path that was read is read as the same path under every limit that it keeps. So reading and
writing a normal text gives that text, and two texts have one normal text exactly if they are read as the same
segments. Names and indices are not restricted by this, but for the number of digits. -/
theorem read_normal_text {limit : Int} {t : Text} {p : Path} (h : Path.read limit t = .ok p) :
    (∀ m : Int, p.text.length ≤ m → Path.read m p.text = .ok p ∧ (Path.read m p.text).map Path.text = .ok p.text)
      ∧ (∀ limit' t' p', Path.read limit' t' = .ok p' → (p.text = p'.text ↔ p.segments = p'.segments))
      ∧ ∀ segments : List Segment, (∀ i, .index i ∈ segments → (Text.ofNat i.natAbs).length ≤ 4300) →
          ∃ limit t, Path.read limit t = .ok ⟨segments⟩ := by
  have hback : ∀ {m : Int}, p.text.length ≤ m → Path.read m p.text = .ok p :=
    fun hm => read_text_of_fits (fits_of_read h) hm
  refine ⟨fun m hm => ⟨hback hm, ?_⟩, fun limit' t' p' h' => ⟨fun htext => ?_, fun hsegments => ?_⟩,
    fun segments hfits => ?_⟩
  · rw [hback hm]
    rfl
  · -- the common text is read as both
    have hback' : Path.read p'.text.length p'.text = .ok p' := read_text_of_fits (fits_of_read h') (Int.le_refl _)
    rw [← htext, hback (Int.le_refl _)] at hback'
    rw [Except.ok.inj hback']
  · unfold Path.text
    rw [hsegments]
  · refine exists_read_iff.2 fun s hs => ?_
    cases s with
    | index i => exact hfits i hs
    | field name => trivial
    | wildcard => trivial

/-- Double quotes, an index in Arabic digits between blanks, an empty name and a line feed at the end of a name. -/
theorem read_normal_text_escapes :
    Path.read 41 "$.a-b['it\\'s'][*][-3][''].x\n['.[']['\\\\']"
      = .ok ⟨[.field "a-b", .field "it's", .wildcard, .index (-3), .field "", .field "x\n", .field ".[",
          .field "\\"]⟩ := by
  have hread : Path.read 1024 "$['a-b'][\"it's\"].*[ -٣ ][''].x\n[\".[\"][\"\\\\\"]"
      = .ok ⟨[.field "a-b", .field "it's", .wildcard, .index (-3), .field "", .field "x\n", .field ".[",
          .field "\\"]⟩ :=
    Json.eq_ok_of_toOption (by decide +kernel)
  exact ((read_normal_text hread).1 41 (by decide +kernel)).1

end Path

end BodyScrub
