import BodyScrub.Path
import BodyScrub.Proofs.PropertyFilter.Values

/-!
# The scan of a property filter over tokens

The scan of a property filter tries to begin a member at every quote of the text: at those that open a string, at
those that close one, and at those that are escaped within one. Under names that are `Anchored` it never takes a
closing quote for an opening one, and it takes an escaped quote for one only in a name whose rest is a name of the
filter. So the scan passes over every token as it is, except over the values of the members that fit.

* **`after?_textOf`**: a name is found in a string only if it is all of the string.
* **`memberAt_closing`**: no member begins at a closing quote.
* **`maskFrom_string`**: what the scan makes of a string and of what follows it.
-/

namespace BodyScrub.PropertyFilter

open Json

/-! ## Names in strings

The scan compares a name and a quote with the text. If the name has no quote in it, the quote behind it can only be
the next one of the text, which is escaped or closes the string. -/

/-- The names that the scan finds only where a string of the text begins. Such a name holds no quote and does not end
in a backslash; and it does not begin, after blanks, with what may follow a closing quote. -/
structure Anchored (name : Text) : Prop where
  quoteFree : CodePoint.quote ∉ name
  last : name.getLast? ≠ some CodePoint.backslash
  first : ∀ c ∈ (skipSpace name).head?, isCloser c = false ∧ c ≠ ':'

/-- Letters, digits, underscores and hyphens make an anchored name, as do most of the names that are in use. -/
theorem anchored_of_isNamePart {name : Text} (h : ∀ c ∈ name, isNamePart c = true) : Anchored name := by
  have hne : ∀ {d : CodePoint}, isNamePart d = false → d ∉ name := by
    intro d hd hmem
    rw [h d hmem] at hd
    cases hd
  refine ⟨hne (by decide), ?_, ?_⟩
  · intro hlast
    exact hne (by decide) (List.mem_of_getLast? hlast)
  · intro c hc
    have hmem : c ∈ name := List.dropWhile_subset _ (List.mem_of_head? hc)
    constructor
    · rw [Bool.eq_false_iff]
      intro hcloser
      simp only [isCloser, Bool.or_eq_true, decide_eq_true_eq] at hcloser
      rcases hcloser with (rfl | rfl) | rfl
      all_goals exact hne (by decide) hmem
    · rintro rfl
      exact hne (by decide) hmem

/-- Before the first quote of a text a name is compared with the text alone: the quote behind the name has nothing
to meet there. -/
theorem after?_append_quote {p : Text} (hp : CodePoint.quote ∉ p) (name t : Text) :
    Text.after? (name ++ [CodePoint.quote]) (p ++ t)
      = (Text.after? p name).bind fun rest => Text.after? (rest ++ [CodePoint.quote]) t := by
  induction p generalizing name with
  | nil => rfl
  | cons c p ih =>
    obtain ⟨hc, hp⟩ := List.ne_and_not_mem_of_not_mem_cons hp
    cases name with
    | nil =>
      show Text.after? (CodePoint.quote :: []) (c :: (p ++ t)) = none
      rw [Text.after?, if_neg hc]
    | cons d name =>
      show Text.after? (d :: (name ++ [CodePoint.quote])) (c :: (p ++ t)) = _
      rw [Text.after?, Text.after?, ih hp name]
      -- the name goes on as the text does, or it is not found there
      by_cases hd : d = c
      · rw [if_pos hd, if_pos hd.symm]
      · rw [if_neg hd, if_neg (Ne.symm hd)]
        rfl

/-- The rest of a name without quotes is one too, and it ends as the whole name does. The induction over a name goes
on with such rests. -/
theorem Anchored.of_append {p name : Text} (hquote : CodePoint.quote ∉ p ++ name)
    (hlast : (p ++ name).getLast? ≠ some CodePoint.backslash) :
    CodePoint.quote ∉ name ∧ name.getLast? ≠ some CodePoint.backslash := by
  refine ⟨fun hmem => hquote (List.mem_append_right p hmem), fun h => hlast ?_⟩
  rw [List.getLast?_append, h]
  rfl

/-- Only an escaped quote has a quote in its text. All other glyphs are passed over whole, as no member can begin in
them. -/
theorem quote_not_mem_text {g : Glyph} (hg : ∀ d h, g ≠ .letter CodePoint.quote d h) : CodePoint.quote ∉ g.text := by
  cases g with
  | plain c h => simpa [Glyph.text] using h.1.symm
  | letter e d h =>
    have he : CodePoint.quote ≠ e := by
      rintro rfl
      exact hg d h rfl
    have hslash : CodePoint.quote ≠ CodePoint.backslash := by decide
    simpa [Glyph.text] using ⟨hslash, he⟩
  | number h₁ h₂ h₃ h₄ n h =>
    have hne := ne_of_hex4? h
    simp only [List.mem_cons, List.not_mem_nil, or_false, forall_eq_or_imp, forall_eq] at hne
    have hslash : CodePoint.quote ≠ CodePoint.backslash := by decide
    have hu : CodePoint.quote ≠ CodePoint.ofChar 'u' := by decide
    simpa [Glyph.text] using ⟨hslash, hu, hne.1.1.symm, hne.2.1.1.symm, hne.2.2.1.1.symm, hne.2.2.2.1.symm⟩

/-- A name is found in a string only if it is all of the string. A name that stops at an escaped quote would end in
a backslash, and one that goes beyond the closing quote would hold a quote. -/
theorem after?_textOf {name : Text} (hquote : CodePoint.quote ∉ name)
    (hlast : name.getLast? ≠ some CodePoint.backslash) (gs : List Glyph) (r : Text) :
    Text.after? (name ++ [CodePoint.quote]) (Glyph.textOf gs ++ CodePoint.quote :: r)
      = if name = Glyph.textOf gs then some r else none := by
  induction gs generalizing name with
  | nil =>
    cases name with
    | nil => simp [Glyph.textOf, Text.after?]
    | cons c name =>
      obtain ⟨hc, -⟩ := List.ne_and_not_mem_of_not_mem_cons hquote
      simp [Glyph.textOf, Text.after?, Ne.symm hc]
  | cons g gs ih =>
    rw [Glyph.textOf_cons, List.append_assoc]
    by_cases hg : ∃ d h, g = .letter CodePoint.quote d h
    · -- behind the backslash of an escaped quote the name would have to end
      obtain ⟨d, h, rfl⟩ := hg
      have hname : name ≠ CodePoint.backslash :: CodePoint.quote :: Glyph.textOf gs := by
        rintro rfl
        exact hquote (List.mem_cons_of_mem _ List.mem_cons_self)
      show Text.after? (name ++ [CodePoint.quote])
        ([CodePoint.backslash] ++ CodePoint.quote :: (Glyph.textOf gs ++ CodePoint.quote :: r)) = _
      refine Eq.trans ?_ (if_neg hname).symm
      rw [after?_append_quote (by decide)]
      cases hrest : Text.after? [CodePoint.backslash] name with
      | none => rfl
      | some rest =>
        obtain rfl := Text.after?_eq_some_iff.1 hrest
        cases rest with
        | nil => exact absurd rfl hlast
        | cons c rest =>
          have hc : c ≠ CodePoint.quote := by
            rintro rfl
            exact hquote (List.mem_cons_of_mem _ List.mem_cons_self)
          show Text.after? (c :: (rest ++ [CodePoint.quote])) _ = none
          rw [Text.after?, if_neg hc]
    · have hfree : CodePoint.quote ∉ g.text := quote_not_mem_text fun d h heq => hg ⟨d, h, heq⟩
      rw [after?_append_quote hfree]
      cases hrest : Text.after? g.text name with
      | none =>
        have hname : name ≠ g.text ++ Glyph.textOf gs := by
          rintro rfl
          rw [Text.after?_eq_some_iff.2 rfl] at hrest
          cases hrest
        rw [if_neg hname]
        rfl
      | some rest =>
        obtain rfl := Text.after?_eq_some_iff.1 hrest
        obtain ⟨hquote, hlast⟩ := Anchored.of_append hquote hlast
        show Text.after? (rest ++ [CodePoint.quote]) (Glyph.textOf gs ++ CodePoint.quote :: r) = _
        rw [ih hquote hlast]
        simp only [List.append_cancel_left_eq]

/-- What follows a closing quote does not begin with an anchored name and a quote. A name of blanks is no exception,
as the next code point is no quote. -/
theorem Anchored.after?_closing {name : Text} (h : Anchored name) {r : Text}
    (hr : ∀ c ∈ (skipSpace r).head?, isCloser c = true ∨ c = ':') :
    Text.after? (name ++ [CodePoint.quote]) r = none := by
  rw [Option.eq_none_iff_forall_ne_some]
  intro rest hrest
  obtain rfl := Text.after?_eq_some_iff.1 hrest
  rw [List.append_assoc] at hr
  cases hname : skipSpace name with
  | nil =>
    -- the name is blank, so that the next code point is the quote
    have hspaces : ∀ c ∈ name, isSpace c = true := List.dropWhile_eq_nil_iff.1 hname
    have hskip : skipSpace (name ++ ([CodePoint.quote] ++ rest)) = CodePoint.quote :: rest := by
      unfold skipSpace
      rw [List.dropWhile_append_of_pos hspaces]
      exact skipSpace_cons (by decide) rest
    rw [hskip] at hr
    exact absurd (hr CodePoint.quote rfl) (by decide)
  | cons c t =>
    have hskip : skipSpace (name ++ ([CodePoint.quote] ++ rest)) = c :: (t ++ ([CodePoint.quote] ++ rest)) := by
      have hne : ¬((List.dropWhile isSpace name).isEmpty = true) := by
        rw [show List.dropWhile isSpace name = c :: t from hname]
        simp
      unfold skipSpace
      rw [List.dropWhile_append, if_neg hne, show List.dropWhile isSpace name = c :: t from hname]
      rfl
    obtain ⟨hcloser, hcolon⟩ := h.first c (by rw [hname]; rfl)
    rw [hskip] at hr
    rcases hr c rfl with hc | hc
    · rw [hcloser] at hc
      cases hc
    · exact hcolon hc

/-! ## Members at a quote -/

/-- The value behind the closing quote of a name, if one of the kind stands there. -/
def valueBehind (kind : Kind) (r : Text) : Option Extent :=
  match skipBlanks r with
  | [] => none
  | c :: t => if c = ':' then (kind.after (skipBlanks t)).map fun rest => ⟨skipBlanks t, rest⟩ else none

theorem memberAt_of_ne {c : CodePoint} (h : c ≠ CodePoint.quote) (kind : Kind) (names : List Text) (t : Text) :
    memberAt kind names (c :: t) = none := by
  rw [memberAt, if_neg h]

/-- At a quote the names are tried one after another; the first one with a value behind it makes the member. -/
theorem memberAt_quote (kind : Kind) (names : List Text) (t : Text) :
    memberAt kind names (CodePoint.quote :: t)
      = names.findSome? fun name => (Text.after? (name ++ [CodePoint.quote]) t).bind (valueBehind kind) := by
  rw [memberAt, if_pos rfl]
  congr
  funext name
  unfold afterName
  cases Text.after? (name ++ [CodePoint.quote]) t with
  | none => rfl
  | some r =>
    dsimp only [Option.bind_some, valueBehind]
    cases skipBlanks r with
    | nil => rfl
    | cons c r =>
      by_cases hc : c = CodePoint.ofChar ':'
      · simp [hc]
      · simp [hc]

/-- At a quote within a string a member begins if the rest of the string is a name. Which of the names it is does
not matter, as only one can be the rest. -/
theorem memberAt_textOf (kind : Kind) {names : List Text} (hnames : ∀ n ∈ names, Anchored n) (gs : List Glyph)
    (r : Text) :
    memberAt kind names (CodePoint.quote :: (Glyph.textOf gs ++ CodePoint.quote :: r))
      = if names.contains (Glyph.textOf gs) then valueBehind kind r else none := by
  rw [memberAt_quote]
  induction names with
  | nil => rfl
  | cons name names ih =>
    have hname := hnames name List.mem_cons_self
    have hrest := ih fun n hn => hnames n (List.mem_cons_of_mem _ hn)
    rw [List.findSome?_cons, after?_textOf hname.quoteFree hname.last gs r, hrest, List.contains_cons]
    -- this name is the rest of the string, or one of the others may be
    by_cases heq : Glyph.textOf gs = name
    · rw [if_pos heq.symm, beq_iff_eq.2 heq, Bool.true_or, if_pos rfl, Option.bind_some]
      cases valueBehind kind r with
      | none => exact ite_self none
      | some e => rfl
    · rw [if_neg (Ne.symm heq), beq_eq_false_iff_ne.2 heq, Bool.false_or]
      rfl

/-- No member begins at a closing quote. This is what `Anchored.first` is for. -/
theorem memberAt_closing (kind : Kind) {names : List Text} (hnames : ∀ n ∈ names, Anchored n) {r : Text}
    (hr : ∀ c ∈ (skipSpace r).head?, isCloser c = true ∨ c = ':') :
    memberAt kind names (CodePoint.quote :: r) = none := by
  rw [memberAt_quote, List.findSome?_eq_none_iff]
  intro name hname
  rw [(hnames name hname).after?_closing hr]
  rfl

/-! ## Steps of the scan -/

/-- A value behind a name is a part of the text behind it, and so is what follows the value. -/
theorem isSuffix_of_valueBehind {kind : Kind} {r : Text} {e : Extent} (h : valueBehind kind r = some e) :
    e.start <:+ r ∧ e.rest <:+ e.start := by
  have hskip : ∀ t, skipBlanks t <:+ t := fun t => List.dropWhile_suffix _
  unfold valueBehind at h
  split at h
  · cases h
  · next c t hblanks =>
    split at h
    · obtain ⟨rest, hrest, rfl⟩ := Option.map_eq_some_iff.1 h
      have hcolon : c :: t <:+ r := by
        rw [← hblanks]
        exact hskip r
      exact ⟨((hskip t).trans (List.suffix_cons c t)).trans hcolon, Kind.isSuffix_of_after hrest⟩
    · cases h

/-- What is skipped is no longer looked at. The number that the scan carries is the number of code points that are
still to be passed. -/
theorem maskFrom_append (f : PropertyFilter) (p t : Text) : maskFrom f p.length (p ++ t) = maskFrom f 0 t := by
  induction p with
  | nil => rfl
  | cons c p ih =>
    rw [List.length_cons, List.cons_append, maskFrom]
    exact ih

theorem maskFrom_of_none {f : PropertyFilter} {c : CodePoint} {t : Text} (h : memberAt f.kind f.names (c :: t) = none) :
    maskFrom f 0 (c :: t) = c :: maskFrom f 0 t := by
  rw [maskFrom, h]

theorem maskFrom_of_ne {c : CodePoint} (h : c ≠ CodePoint.quote) (f : PropertyFilter) (t : Text) :
    maskFrom f 0 (c :: t) = c :: maskFrom f 0 t :=
  maskFrom_of_none (memberAt_of_ne h f.kind f.names t)

/-- A run without quotes is passed over, so that blanks, punctuation, numbers and words stay as they are. -/
theorem maskFrom_quoteFree (f : PropertyFilter) {p : Text} (hp : CodePoint.quote ∉ p) (t : Text) :
    maskFrom f 0 (p ++ t) = p ++ maskFrom f 0 t := by
  induction p with
  | nil => rfl
  | cons c p ih =>
    obtain ⟨hc, hp⟩ := List.ne_and_not_mem_of_not_mem_cons hp
    show maskFrom f 0 (c :: (p ++ t)) = c :: (p ++ maskFrom f 0 t)
    rw [maskFrom_of_ne (Ne.symm hc), ih hp]

/-- The step at a member: what stands before the value is kept, and the scan goes on behind the value. -/
theorem maskFrom_member {f : PropertyFilter} {c : CodePoint} {lead value rest : Text}
    (h : memberAt f.kind f.names (c :: (lead ++ (value ++ rest))) = some ⟨value ++ rest, rest⟩) :
    maskFrom f 0 (c :: (lead ++ (value ++ rest)))
      = c :: (lead ++ (Json.writeString false f.replacement ++ maskFrom f 0 rest)) := by
  have htake : (c :: (lead ++ (value ++ rest))).take
      ((c :: (lead ++ (value ++ rest))).length - (value ++ rest).length) = c :: lead := by
    rw [show (c :: (lead ++ (value ++ rest))).length - (value ++ rest).length = (c :: lead).length by simp; omega]
    exact List.take_left
  have hskip : (lead ++ (value ++ rest)).length - rest.length = (lead ++ value).length := by simp; omega
  rw [maskFrom, h]
  dsimp only
  rw [htake, hskip, ← List.append_assoc lead, maskFrom_append]
  simp

/-- What the scan writes behind the closing quote of a name that fits. -/
def maskBehind (f : PropertyFilter) (r : Text) : Text :=
  match valueBehind f.kind r with
  | none => maskFrom f 0 r
  | some e => r.take (r.length - e.start.length) ++ Json.writeString false f.replacement ++ maskFrom f 0 e.rest

/-- A member that begins before the run `p` has its value behind it, which is what `maskBehind` writes. The run is
the rest of a name and its closing quote. -/
theorem maskFrom_of_some {f : PropertyFilter} {c : CodePoint} {p r : Text} {e : Extent}
    (h : memberAt f.kind f.names (c :: (p ++ r)) = some e) (he : valueBehind f.kind r = some e) :
    maskFrom f 0 (c :: (p ++ r)) = c :: (p ++ maskBehind f r) := by
  obtain ⟨⟨lead, hlead⟩, value, hvalue⟩ := isSuffix_of_valueBehind he
  have hstart : e = ⟨value ++ e.rest, e.rest⟩ := by rw [hvalue]
  have htake : r.take (r.length - e.start.length) = lead := by
    rw [← hlead, List.length_append, Nat.add_sub_cancel]
    exact List.take_left
  have htext : p ++ r = (p ++ lead) ++ (value ++ e.rest) := by rw [hvalue, List.append_assoc, hlead]
  rw [htext, hstart] at h
  rw [htext, maskFrom_member h]
  simp only [maskBehind, he, htake, List.append_assoc]

/-! ## Strings under the scan -/

/-- Whether the rest of a name behind one of its escaped quotes is a name of the filter. -/
def tailFits (names : List Text) : List Glyph → Bool
  | [] => false
  | .letter e _ _ :: gs => (e = CodePoint.quote && names.contains (Glyph.textOf gs)) || tailFits names gs
  | _ :: gs => tailFits names gs

/-- Whether the scan takes a name for one of the filter's. -/
def fits (names : List Text) (gs : List Glyph) : Bool := names.contains (Glyph.textOf gs) || tailFits names gs

section Strings

variable {f : PropertyFilter} (hnames : ∀ n ∈ f.names, Anchored n)

include hnames

/-- The step at a quote, when the scan of what stands behind the quote is known. It serves opening quotes and
escaped ones. -/
theorem maskFrom_quote {gs : List Glyph} {r : Text}
    (hglyphs : maskFrom f 0 (Glyph.textOf gs ++ CodePoint.quote :: r)
      = Glyph.textOf gs ++ CodePoint.quote :: if tailFits f.names gs then maskBehind f r else maskFrom f 0 r) :
    maskFrom f 0 (CodePoint.quote :: (Glyph.textOf gs ++ CodePoint.quote :: r))
      = CodePoint.quote :: (Glyph.textOf gs ++ CodePoint.quote
          :: if fits f.names gs then maskBehind f r else maskFrom f 0 r) := by
  have hmember := memberAt_textOf f.kind hnames gs r
  cases hcontains : f.names.contains (Glyph.textOf gs) with
  | false =>
    -- the string is none of the names, and its rest may be one
    rw [hcontains, if_neg (by decide)] at hmember
    rw [maskFrom_of_none hmember, hglyphs, fits, hcontains, Bool.false_or]
  | true =>
    rw [hcontains, if_pos rfl] at hmember
    rw [fits, hcontains, Bool.true_or, if_pos rfl]
    cases he : valueBehind f.kind r with
    | none =>
      -- there is no value to mask, so that both ways of going on are the same
      have hbehind : maskBehind f r = maskFrom f 0 r := by simp only [maskBehind, he]
      rw [he] at hmember
      rw [maskFrom_of_none hmember, hglyphs, hbehind, ite_self]
    | some e =>
      have htext : Glyph.textOf gs ++ CodePoint.quote :: r = Glyph.textOf gs ++ [CodePoint.quote] ++ r := by simp
      rw [he, htext] at hmember
      rw [htext, maskFrom_of_some hmember he, List.append_assoc]
      rfl

/-- What the scan makes of the inside of a string, with its closing quote and what follows. A member may begin at an
escaped quote, with the rest of the string as its name. -/
theorem maskFrom_glyphs (gs : List Glyph) {r : Text} (hr : ∀ c ∈ (skipSpace r).head?, isCloser c = true ∨ c = ':') :
    maskFrom f 0 (Glyph.textOf gs ++ CodePoint.quote :: r)
      = Glyph.textOf gs ++ CodePoint.quote :: if tailFits f.names gs then maskBehind f r else maskFrom f 0 r := by
  induction gs with
  -- only the closing quote is left
  | nil => exact maskFrom_of_none (memberAt_closing f.kind hnames hr)
  | cons g gs ih =>
    rw [Glyph.textOf_cons, List.append_assoc, List.append_assoc]
    by_cases hg : ∃ d h, g = .letter CodePoint.quote d h
    · -- the quote behind the backslash may begin a member with the rest of the string as its name
      obtain ⟨d, h, rfl⟩ := hg
      have htail : tailFits f.names (.letter CodePoint.quote d h :: gs) = fits f.names gs := by
        simp only [tailFits, fits, decide_true, Bool.true_and]
      show maskFrom f 0 (CodePoint.backslash :: CodePoint.quote :: (Glyph.textOf gs ++ CodePoint.quote :: r))
        = CodePoint.backslash :: CodePoint.quote :: (Glyph.textOf gs ++ CodePoint.quote :: _)
      rw [maskFrom_of_ne (by decide), maskFrom_quote hnames ih, htail]
    · have hfree : CodePoint.quote ∉ g.text := quote_not_mem_text fun d h heq => hg ⟨d, h, heq⟩
      have htail : tailFits f.names (g :: gs) = tailFits f.names gs := by
        cases g with
        | letter e d h =>
          have he : e ≠ CodePoint.quote := by
            rintro rfl
            exact hg ⟨d, h, rfl⟩
          simp [tailFits, he]
        | _ => rfl
      rw [maskFrom_quoteFree f hfree, ih, htail]

/-- What the scan makes of a string and of what follows it: a member if the string fits as its name. All tokens but
strings are passed over by `maskFrom_quoteFree`. -/
theorem maskFrom_string (gs : List Glyph) {r : Text} (hr : ∀ c ∈ (skipSpace r).head?, isCloser c = true ∨ c = ':') :
    maskFrom f 0 (CodePoint.quote :: (Glyph.textOf gs ++ CodePoint.quote :: r))
      = CodePoint.quote :: (Glyph.textOf gs ++ CodePoint.quote
          :: if fits f.names gs then maskBehind f r else maskFrom f 0 r) :=
  maskFrom_quote hnames (maskFrom_glyphs hnames gs hr)

end Strings

end BodyScrub.PropertyFilter
