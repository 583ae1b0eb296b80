import BodyScrub.Path.Reader
import BodyScrub.Proofs.Json.Tokens
import BodyScrub.Proofs.Text.Parts

/-!
# Paths as they are spelled

A path is spelled by an item for each segment: a name after a dot, a name between quotes and brackets, where any code
point may stand after a backslash, or an index or `*` between brackets, with blanks around it. The reader takes exactly
these items off a text, each up to where the next one begins. So a text is spelled by one row of items at most, and a
text that is spelled by none is refused at a place in it.

* **`Item`**, **`SpellsToken`**, **`NameGlyph`**: the grammar, with the segment that each item spells.
* **`reads_segment`**: whatever stands first in a text is an item or a stop.
* **`readSegment_item`**: an item is read as its segment, up to what follows it.
* **`exists_items_or_stop`**, **`readSegments_items`**: the same for rows of items.
* **`eq_of_itemsText_eq`**: no two rows spell the same text, since the reader would take the same items off both.
* **`read_spelled`**: all of it for whole paths.

An index may be too long for a number only in a text of more than 4300 code points, so the texts here are shorter.
-/

namespace BodyScrub

/-! ## Runs of digits -/

namespace Text

/-- Every code point of a run of digits has a value as a digit, so that the run as a whole has one. -/
theorem mapM_digit? {t : Text} (h : ∀ c ∈ t, c.isDigit = true) :
    t.mapM CodePoint.digit? = some (t.filterMap CodePoint.digit?) := by
  induction t with
  | nil => rfl
  | cons c t ih =>
    obtain ⟨hc, ht⟩ := List.forall_mem_cons.1 h
    obtain ⟨v, hv⟩ := Option.isSome_iff_exists.1 hc
    rw [List.mapM_cons, hv, ih ht, List.filterMap_cons_some hv]
    rfl

/-- A text that is read as digits consists of digits, of whatever script. -/
theorem isDigit_of_mapM {t : Text} {vs : List Nat} (h : t.mapM CodePoint.digit? = some vs) :
    ∀ c ∈ t, c.isDigit = true := by
  induction t generalizing vs with
  | nil => exact List.forall_mem_nil _
  | cons c t ih =>
    rw [List.mapM_cons] at h
    obtain ⟨v, hv, hrest⟩ := Option.bind_eq_some_iff.1 h
    obtain ⟨us, hus, -⟩ := Option.bind_eq_some_iff.1 hrest
    exact List.forall_mem_cons.2 ⟨Option.isSome_iff_exists.2 ⟨v, hv⟩, ih hus⟩

end Text

namespace Path

/-! ## Quoted names -/

/-- A code point of a name between two quotes `q`, as it is spelled. -/
inductive NameGlyph (q : CodePoint) where
  | plain (c : CodePoint) (h : c ≠ CodePoint.backslash ∧ c ≠ q)
  | escaped (c : CodePoint)

namespace NameGlyph

variable {q : CodePoint}

/-- The code point that is meant. -/
def point : NameGlyph q → CodePoint
  | plain c _ => c
  | escaped c => c

/-- How it is spelled, with the backslash that escapes it. -/
def text : NameGlyph q → Text
  | plain c _ => [c]
  | escaped c => [CodePoint.backslash, c]

/-- The text between the quotes. -/
def textOf (gs : List (NameGlyph q)) : Text := gs.flatMap text

/-- The name that is spelled. -/
def decode (gs : List (NameGlyph q)) : Text := gs.map point

/-- A text between quotes is spelled in one way only. The first code point of a glyph tells whether another one
belongs to it. -/
theorem textOf_injective {gs hs : List (NameGlyph q)} (h : textOf gs = textOf hs) : gs = hs := by
  induction gs generalizing hs with
  | nil =>
    cases hs with
    | nil => rfl
    | cons b hs => cases b <;> cases h
  | cons a gs ih =>
    cases hs with
    | nil => cases a <;> cases h
    | cons b hs =>
      -- the first code point of a glyph tells whether another one belongs to it
      cases a with
      | plain c hc =>
        cases b with
        | plain d hd =>
          obtain ⟨rfl, hrest⟩ := List.cons.inj h
          rw [ih hrest]
        | escaped d => exact absurd (List.cons.inj h).1 hc.1
      | escaped c =>
        cases b with
        | plain d hd => exact absurd (List.cons.inj h).1.symm hd.1
        | escaped d =>
          obtain ⟨rfl, hrest⟩ := List.cons.inj (List.cons.inj h).2
          rw [ih hrest]

end NameGlyph

/-- The reader takes a quoted name off a text, up to its closing quote, which no glyph of the name is. The induction
is on the glyphs, of which an escaped one has two code points. -/
theorem readName_textOf {q : CodePoint} (hq : q ≠ CodePoint.backslash) (gs : List (NameGlyph q)) (r : Text) :
    readName q (NameGlyph.textOf gs ++ q :: r) = some (NameGlyph.decode gs, r) := by
  induction gs with
  | nil =>
    show readName q (q :: r) = _
    unfold readName
    rw [if_neg hq, if_pos rfl]
    rfl
  | cons g gs ih =>
    cases g with
    | plain c hc =>
      -- a code point that is neither the backslash nor the quote stands for itself
      show readName q (c :: (NameGlyph.textOf gs ++ q :: r)) = _
      rw [readName.eq_def]
      dsimp only
      rw [if_neg hc.1, if_neg hc.2, ih]
      rfl
    | escaped c =>
      show readName q (CodePoint.backslash :: c :: (NameGlyph.textOf gs ++ q :: r)) = _
      rw [readName.eq_def]
      dsimp only
      rw [if_pos rfl, ih]
      rfl

/-- Whatever the reader takes for a quoted name is one: the glyphs are those that it has passed. Any code point
behind a backslash stands for itself, and makes one glyph with it. -/
theorem exists_glyphs_of_readName {q : CodePoint} {t name r : Text} (h : readName q t = some (name, r)) :
    ∃ gs : List (NameGlyph q), t = NameGlyph.textOf gs ++ q :: r ∧ NameGlyph.decode gs = name := by
  fun_induction readName q t generalizing name with
  | case1 => cases h
  | case2 => cases h
  | case3 e t ih =>
    -- a backslash with the code point that it escapes
    obtain ⟨⟨n, u⟩, hn, hnu⟩ := Option.map_eq_some_iff.1 h
    obtain ⟨rfl, rfl⟩ := Prod.mk.inj hnu
    obtain ⟨gs, rfl, rfl⟩ := ih hn
    exact ⟨.escaped e :: gs, rfl, rfl⟩
  | case4 t hslash =>
    -- the closing quote
    obtain ⟨rfl, rfl⟩ := Prod.mk.inj (Option.some.inj h)
    exact ⟨[], rfl, rfl⟩
  | case5 c t hslash hquote ih =>
    obtain ⟨⟨n, u⟩, hn, hnu⟩ := Option.map_eq_some_iff.1 h
    obtain ⟨rfl, rfl⟩ := Prod.mk.inj hnu
    obtain ⟨gs, rfl, rfl⟩ := ih hn
    exact ⟨.plain c ⟨hslash, hquote⟩ :: gs, rfl, rfl⟩

/-! ## Tokens -/

/-- One decimal digit or more, of any script. -/
def IsDigits (t : Text) : Prop := t ≠ [] ∧ ∀ c ∈ t, c.isDigit = true

/-- The number that digits spell. -/
def magnitude (digits : Text) : Nat := Text.spelled 10 (digits.filterMap CodePoint.digit?)

/-- What may stand between brackets without quotes, apart from blanks, and the segment that it spells. -/
inductive SpellsToken : Text → Segment → Prop where
  | star : SpellsToken "*" .wildcard
  | index {digits : Text} (h : IsDigits digits) : SpellsToken digits (.index (magnitude digits))
  | negative {digits : Text} (h : IsDigits digits) :
    SpellsToken (('-' : CodePoint) :: digits) (.index (-(magnitude digits : Int)))

theorem IsDigits.head {c : CodePoint} {t : Text} (h : IsDigits (c :: t)) : c.isDigit = true := h.2 c List.mem_cons_self

/-- A text is read as a number exactly if it is a run of digits, and the number is the one that they spell. -/
theorem digitsValue?_eq_some_iff {t : Text} {n : Nat} :
    Text.digitsValue? t = some n ↔ IsDigits t ∧ magnitude t = n := by
  unfold Text.digitsValue? IsDigits magnitude
  constructor
  · intro h
    split at h
    · cases h
    · next hne =>
      obtain ⟨vs, hvs, rfl⟩ := Option.map_eq_some_iff.1 h
      have hdigits := Text.isDigit_of_mapM hvs
      rw [Text.mapM_digit? hdigits] at hvs
      rw [Option.some.inj hvs]
      exact ⟨⟨fun hnil => hne (List.isEmpty_iff.2 hnil), hdigits⟩, rfl⟩
  -- the digits have values, and there is at least one
  · rintro ⟨⟨hne, hdigits⟩, rfl⟩
    rw [if_neg (fun h => hne (List.isEmpty_iff.1 h)), Text.mapM_digit? hdigits]
    rfl

/-- A token between brackets never spells a name, since names are quoted there. -/
theorem SpellsToken.ne_field {t : Text} {s : Segment} (h : SpellsToken t s) (name : Text) : s ≠ .field name := by
  cases h <;> exact fun h => by cases h

/-- The first code point of a token is a star, a hyphen or a digit. In particular it is no quote, by which the
reader knows a quoted name. -/
theorem SpellsToken.head {t : Text} {s : Segment} (h : SpellsToken t s) :
    ∃ c ∈ t.head?, c = '*' ∨ c = '-' ∨ c.isDigit = true := by
  cases h with
  | star => exact ⟨'*', rfl, Or.inl rfl⟩
  | negative _ => exact ⟨'-', rfl, Or.inr (Or.inl rfl)⟩
  | index h =>
    cases t with
    | nil => exact absurd rfl h.1
    | cons c t => exact ⟨c, rfl, Or.inr (Or.inr h.head)⟩

/-- A run of digits is read as an index, unless it is too long for a number. The digits may be of any script, and of
several scripts at once. -/
theorem indexOf_digits {t : Text} (h : IsDigits t) (hlen : t.length ≤ maxIntegerDigits) :
    indexOf t = some (.ok (magnitude t)) := by
  cases t with
  | nil => exact absurd rfl h.1
  | cons c t =>
    have hc : c ≠ '-' := by
      rintro rfl
      exact absurd h.head (by decide)
    unfold indexOf
    dsimp only
    rw [if_neg hc, digitsValue?_eq_some_iff.2 ⟨h, rfl⟩, Option.map_some, if_pos hlen]
    rfl

/-- A run of digits after a hyphen is read as an index that counts from the end. -/
theorem indexOf_negative {t : Text} (h : IsDigits t) (hlen : t.length ≤ maxIntegerDigits) :
    indexOf (('-' : CodePoint) :: t) = some (.ok (-(magnitude t : Int))) := by
  unfold indexOf
  dsimp only
  rw [if_pos rfl, digitsValue?_eq_some_iff.2 ⟨h, rfl⟩, Option.map_some, if_pos hlen]
  rfl

/-- An index that is read is spelled. A token that is not too long has not too many digits, so the reader gives a
number and not the length of the token. -/
theorem spellsToken_of_indexOf {t : Text} (hlen : t.length ≤ maxIntegerDigits) {x : Except Nat Int}
    (h : indexOf t = some x) : ∃ i, x = .ok i ∧ SpellsToken t (.index i) := by
  cases t with
  | nil => cases h
  | cons c t =>
    unfold indexOf at h
    dsimp only at h
    split at h
    · next hc =>
      obtain ⟨y, hy, rfl⟩ := Option.map_eq_some_iff.1 h
      obtain ⟨n, hn, rfl⟩ := Option.map_eq_some_iff.1 hy
      obtain ⟨hdigits, rfl⟩ := digitsValue?_eq_some_iff.1 hn
      rw [if_pos ((Nat.le_succ _).trans hlen), hc]
      exact ⟨_, rfl, .negative hdigits⟩
    · obtain ⟨y, hy, rfl⟩ := Option.map_eq_some_iff.1 h
      obtain ⟨n, hn, rfl⟩ := Option.map_eq_some_iff.1 hy
      obtain ⟨hdigits, rfl⟩ := digitsValue?_eq_some_iff.1 hn
      exact ⟨_, rfl, .index hdigits⟩

/-- A token that is read as an index is no star, and stands for the segment of this index. -/
theorem tokenSegment_of_indexOf {t : Text} {i : Int} (h : indexOf t = some (.ok i)) (left : Nat) :
    tokenSegment left t = .ok (.index i) := by
  have hstar : t ≠ "*" := by
    rintro rfl
    cases h
  unfold tokenSegment
  rw [if_neg hstar, h]

section Tokens

variable {left : Nat} {t : Text} {s : Segment} (hlen : t.length ≤ maxIntegerDigits)

include hlen

/-- A token is read as the segment that it spells, wherever it stands in the path. The place only matters for what
is said when a token is refused. -/
theorem tokenSegment_of_spellsToken (h : SpellsToken t s) : tokenSegment left t = .ok s := by
  cases h with
  | star => exact if_pos rfl
  | index hdigits => exact tokenSegment_of_indexOf (indexOf_digits hdigits hlen) left
  | negative hdigits => exact tokenSegment_of_indexOf (indexOf_negative hdigits ((Nat.le_succ _).trans hlen)) left

/-- The other way round, what is read as a segment is a token that spells it. There are two kinds of tokens, stars
and indices. -/
theorem spellsToken_of_tokenSegment (h : tokenSegment left t = .ok s) : SpellsToken t s := by
  unfold tokenSegment at h
  split at h
  · next hstar =>
    rw [hstar, ← Except.ok.inj h]
    exact .star
  · split at h
    · cases h
    · next hindex =>
      obtain ⟨i, hi, hspells⟩ := spellsToken_of_indexOf hlen hindex
      obtain rfl := Except.ok.inj hi
      rw [← Except.ok.inj h]
      exact hspells
    · cases h

/-- The only fault of a token is that it is none, with the place of its bracket. Too many digits are the other
fault, and there is no room for them. -/
theorem eq_badToken_of_tokenSegment {e : Stop} (h : tokenSegment left t = .error e) :
    e = .reason (.badToken t) left := by
  unfold tokenSegment at h
  split at h
  · cases h
  · split at h
    · exact (Except.error.inj h).symm
    · cases h
    · next hindex =>
      obtain ⟨i, hi, -⟩ := spellsToken_of_indexOf hlen hindex
      cases hi

end Tokens

/-! ## Items -/

/-- A segment as it is spelled. -/
inductive Item where
  /-- A name after a dot. -/
  | dotted (name : Text) (ne_nil : name ≠ []) (h : ∀ c ∈ name, c ≠ '.' ∧ c ≠ '[')
  /-- A name between quotes. -/
  | quoted (q : CodePoint) (hq : q = CodePoint.apostrophe ∨ q = CodePoint.quote) (name : List (NameGlyph q))
  /-- An index or a star with blanks around it. -/
  | bracketed (inside : Text) (s : Segment) (h : (']' : CodePoint) ∉ inside) (token : SpellsToken inside.strip s)

namespace Item

/-- The text of an item, which begins with a dot or an opening bracket. -/
def text : Item → Text
  | dotted name _ _ => ('.' : CodePoint) :: name
  | quoted q _ name => ('[' : CodePoint) :: q :: (NameGlyph.textOf name ++ [q, (']' : CodePoint)])
  | bracketed inside _ _ _ => ('[' : CodePoint) :: (inside ++ [(']' : CodePoint)])

/-- The segment that an item spells; a star after a dot is a wildcard like one between brackets. -/
def segment : Item → Segment
  | dotted name _ _ => if name = "*" then .wildcard else .field name
  | quoted _ _ name => .field (NameGlyph.decode name)
  | bracketed _ s _ _ => s

/-- A quoted item before a text, in the form in which the reader takes it apart: the opening bracket and quote, the
name, and the closing ones. -/
theorem text_quoted_append {q : CodePoint} (hq : q = CodePoint.apostrophe ∨ q = CodePoint.quote)
    (name : List (NameGlyph q)) (r : Text) :
    (quoted q hq name).text ++ r
      = ('[' : CodePoint) :: q :: (NameGlyph.textOf name ++ q :: (']' : CodePoint) :: r) := by
  show ('[' : CodePoint) :: q :: (NameGlyph.textOf name ++ [q, (']' : CodePoint)] ++ r) = _
  rw [List.append_assoc]
  rfl

/-- An item between brackets before a text, with the closing bracket at which the reader cuts the text. -/
theorem text_bracketed_append {inside : Text} {s : Segment} (h : (']' : CodePoint) ∉ inside)
    (token : SpellsToken inside.strip s) (r : Text) :
    (bracketed inside s h token).text ++ r = ('[' : CodePoint) :: (inside ++ (']' : CodePoint) :: r) := by
  show ('[' : CodePoint) :: (inside ++ [(']' : CodePoint)] ++ r) = _
  rw [List.append_assoc]
  rfl

/-- No item is empty, so that a reader gets on with each of them. The fuel of the reader, which is the length of the
text, is enough for this reason. -/
theorem text_ne_nil (i : Item) : i.text ≠ [] := by
  cases i <;> exact List.cons_ne_nil _ _

theorem exists_cons (i : Item) (r : Text) : ∃ c t, i.text ++ r = c :: t :=
  List.exists_cons_of_ne_nil (List.append_ne_nil_of_left_ne_nil i.text_ne_nil r)

end Item

/-- What is read of a text: the segment of an item and what follows the item, or a stop at a place in the text. -/
inductive Reads (t : Text) : Except Stop (Segment × Text) → Prop where
  | item (i : Item) {r : Text} (h : t = i.text ++ r) : Reads t (.ok (i.segment, r))
  | stop (reason : PathFault.Reason) {left : Nat} (h : left ≤ t.length) : Reads t (.error (.reason reason left))

/-- What may follow a name after a dot: the end, or what begins an item. -/
def Follows (r : Text) : Prop := ∀ c ∈ r.head?, endsName c = true

/-- A name after a dot ends before a dot or an opening bracket, and nowhere else. -/
theorem endsName_iff {c : CodePoint} : endsName c = true ↔ c = '.' ∨ c = '[' := by
  unfold endsName
  rw [Bool.or_eq_true, decide_eq_true_eq, decide_eq_true_eq]

/-! ## Names after a dot -/

/-- A name after a dot is read up to what may follow it. A star alone is a wildcard and no name, and a star among
other code points is a part of the name. -/
theorem readDotted_append {name r : Text} (ne_nil : name ≠ []) (h : ∀ c ∈ name, c ≠ '.' ∧ c ≠ '[') (hr : Follows r) :
    readDotted (name ++ r) = .ok (if name = "*" then .wildcard else .field name, r) := by
  have hspan : Text.span (fun c => !endsName c) (name ++ r) = (name, r) := by
    refine Json.span_append_of (fun c hc => ?_) fun c hc => ?_
    · rw [Bool.not_eq_true', Bool.eq_false_iff]
      exact fun hends => (endsName_iff.1 hends).elim (h c hc).1 (h c hc).2
    · rw [hr c hc]
      rfl
  cases name with
  | nil => exact absurd rfl ne_nil
  | cons c name =>
    unfold readDotted
    rw [List.cons_append, List.head?_cons]
    dsimp only
    rw [if_neg (h c List.mem_cons_self).1, ← List.cons_append, hspan]

/-- After a dot there is an item or a stop, whatever the text: two dots, no name at all, and the end are the stops. -/
theorem reads_dotted (t : Text) : Reads (('.' : CodePoint) :: t) (readDotted t) := by
  unfold readDotted
  split
  · split
    · exact .stop _ (Nat.le_succ _)
    · split
      · exact .stop _ (Nat.le_succ _)
      · next name r hne hspan =>
        have happ := Text.span_append (fun c => !endsName c) t
        rw [hspan] at happ
        have hname : ∀ c ∈ name, c ≠ '.' ∧ c ≠ '[' := by
          intro c hc
          have hends := Json.of_mem_span (p := fun c => !endsName c) (t := t) (c := c) (by rw [hspan]; exact hc)
          rw [Bool.not_eq_true', Bool.eq_false_iff, Ne, endsName_iff, not_or] at hends
          exact hends
        exact .item (.dotted name hne hname) (congrArg _ happ.symm)
  -- the text ends with the dot
  · exact .stop _ (Nat.zero_le _)

/-! ## Brackets -/

/-- After an opening bracket a quote begins a name, which has to be closed by the same quote and a bracket. The
three ways in which this can go wrong have reasons of their own. -/
theorem readBracketed_quote {q : CodePoint} (hq : q = CodePoint.apostrophe ∨ q = CodePoint.quote) (t : Text) :
    readBracketed (q :: t) = match readName q t with
      | none => .error (.reason .unterminatedName (t.length + 1))
      | some (_, []) => .error (.reason .unclosedName 0)
      | some (name, c :: r) =>
        if c = ']' then .ok (.field name, r) else .error (.reason .unclosedName (r.length + 1)) := by
  have hquote : (decide (q = CodePoint.apostrophe) || decide (q = CodePoint.quote)) = true := by
    rw [Bool.or_eq_true, decide_eq_true_eq, decide_eq_true_eq]
    exact hq
  unfold readBracketed
  dsimp only
  rw [if_pos hquote]
  rcases readName q t with _ | ⟨name, _ | ⟨c, r⟩⟩ <;> rfl

/-- If no quote stands there, what is up to the next closing bracket is a token, with blanks around it. -/
theorem readBracketed_of_head {t : Text} (ht : ∀ c ∈ t.head?, ¬(c = CodePoint.apostrophe ∨ c = CodePoint.quote)) :
    readBracketed t = match Text.cut? ']' t with
      | none => .error (.reason .unclosedBracket (t.length + 1))
      | some (inside, r) => (tokenSegment (t.length + 1) inside.strip).map (·, r) := by
  unfold readBracketed
  cases t with
  | nil => rfl
  | cons c t =>
    have hquote : ¬(decide (c = CodePoint.apostrophe) || decide (c = CodePoint.quote)) = true := by
      rw [Bool.or_eq_true, decide_eq_true_eq, decide_eq_true_eq]
      exact ht c rfl
    exact if_neg hquote

/-- A token with blanks around it does not begin with a quote, so the reader does not take it for a name. A blank
before a quote makes it a token that spells nothing. -/
theorem ne_quote_of_spellsToken {inside r : Text} {s : Segment} (token : SpellsToken inside.strip s) :
    ∀ c ∈ (inside ++ (']' : CodePoint) :: r).head?, ¬(c = CodePoint.apostrophe ∨ c = CodePoint.quote) := by
  intro c hc
  cases inside with
  | nil =>
    obtain rfl : (']' : CodePoint) = c := Option.some.inj hc
    decide
  | cons d inside =>
    obtain rfl : d = c := Option.some.inj hc
    intro hquote
    -- a quote is no blank, so the token would begin with it
    obtain ⟨c, hc, hhead⟩ := token.head
    rw [Text.head?_strip_cons (by rcases hquote with rfl | rfl <;> decide)] at hc
    obtain rfl : d = c := Option.some.inj hc
    rcases hquote with rfl | rfl <;> exact absurd hhead (by decide)

/-- After a bracket and a quote there is an item or a stop. A stop is at the quote, at the end or behind the name. -/
theorem reads_quoted {q : CodePoint} (hq : q = CodePoint.apostrophe ∨ q = CodePoint.quote) (t : Text) :
    Reads (('[' : CodePoint) :: q :: t) (readBracketed (q :: t)) := by
  rw [readBracketed_quote hq]
  split
  · exact .stop _ (Nat.le_succ _)
  · exact .stop _ (Nat.zero_le _)
  · next name c r hread =>
    obtain ⟨gs, rfl, rfl⟩ := exists_glyphs_of_readName hread
    split
    · next hc =>
      rw [hc]
      exact .item (.quoted q hq gs) (Item.text_quoted_append hq gs r).symm
    · refine .stop _ ?_
      rw [List.length_cons, List.length_cons, List.length_append, List.length_cons, List.length_cons]
      omega

/-- After a bracket there is an item or a stop. If it is a token, the text is short enough for its digits. -/
theorem reads_bracketed {t : Text} (hlen : t.length ≤ maxIntegerDigits) :
    Reads (('[' : CodePoint) :: t) (readBracketed t) := by
  by_cases hquote : ∃ q ∈ t.head?, q = CodePoint.apostrophe ∨ q = CodePoint.quote
  · obtain ⟨q, hhead, hq⟩ := hquote
    obtain ⟨u, rfl⟩ := List.head?_eq_some_iff.1 hhead
    exact reads_quoted hq u
  · rw [readBracketed_of_head fun q hq hqq => hquote ⟨q, hq, hqq⟩]
    split
    · exact .stop _ (Nat.le_refl _)
    · next inside r hcut =>
      obtain ⟨rfl, hclose⟩ := Text.eq_append_of_cut? hcut
      -- the token is a part of the text, so it has not too many digits either
      have htoken : inside.strip.length ≤ maxIntegerDigits := by
        rw [List.length_append] at hlen
        exact (Text.length_strip_le inside).trans ((Nat.le_add_right _ _).trans hlen)
      cases hs : tokenSegment ((inside ++ (']' : CodePoint) :: r).length + 1) inside.strip with
      | error e =>
        rw [eq_badToken_of_tokenSegment htoken hs]
        exact .stop _ (Nat.le_refl _)
      | ok s =>
        have token := spellsToken_of_tokenSegment htoken hs
        exact .item (.bracketed inside s hclose token) (Item.text_bracketed_append hclose token r).symm

/-! ## One item -/

/-- The segment that begins with `c`, and the rest. -/
def readSegment (c : CodePoint) (t : Text) : Except Stop (Segment × Text) :=
  if c = '.' then readDotted t
  else if c = '[' then readBracketed t
  else .error (.reason (.unexpected c) (t.length + 1))

/-- Whatever stands first in a text is an item or a stop. The reader stops at the first code point unless it is a
dot or an opening bracket. -/
theorem reads_segment (c : CodePoint) {t : Text} (hlen : t.length ≤ maxIntegerDigits) :
    Reads (c :: t) (readSegment c t) := by
  unfold readSegment
  split
  · next hc =>
    rw [hc]
    exact reads_dotted t
  · split
    · next hc =>
      rw [hc]
      exact reads_bracketed hlen
    · exact .stop _ (Nat.le_refl _)

/-- An item that begins with a dot is read as a name, up to what follows it. -/
theorem readSegment_dotted {name r : Text} (ne_nil : name ≠ []) (h : ∀ c ∈ name, c ≠ '.' ∧ c ≠ '[') (hr : Follows r) :
    readSegment '.' (name ++ r) = .ok (if name = "*" then .wildcard else .field name, r) := by
  unfold readSegment
  rw [if_pos rfl]
  exact readDotted_append ne_nil h hr

/-- An item with a quoted name is read as this name. What follows it does not matter, as it ends with a bracket. -/
theorem readSegment_quoted {q : CodePoint} (hq : q = CodePoint.apostrophe ∨ q = CodePoint.quote)
    (name : List (NameGlyph q)) (r : Text) :
    readSegment '[' (q :: (NameGlyph.textOf name ++ q :: (']' : CodePoint) :: r))
      = .ok (.field (NameGlyph.decode name), r) := by
  have hslash : q ≠ CodePoint.backslash := by rcases hq with rfl | rfl <;> decide
  unfold readSegment
  rw [if_neg (by decide), if_pos rfl, readBracketed_quote hq, readName_textOf hslash name]
  exact if_pos rfl

/-- An item with a token between brackets is read as the segment of the token; nothing depends on what follows it. -/
theorem readSegment_bracketed {inside : Text} {s : Segment} (hclose : (']' : CodePoint) ∉ inside)
    (token : SpellsToken inside.strip s) (h : ∀ left, tokenSegment left inside.strip = .ok s) (r : Text) :
    readSegment '[' (inside ++ (']' : CodePoint) :: r) = .ok (s, r) := by
  unfold readSegment
  rw [if_neg (by decide), if_pos rfl, readBracketed_of_head (ne_quote_of_spellsToken token), Text.cut?_append hclose]
  dsimp only
  rw [h]
  rfl

/-- An item is read as its segment, up to what follows it. What follows is of importance after a name with a dot
alone, which would go on otherwise. -/
theorem readSegment_item (i : Item) {c : CodePoint} {t r : Text} (h : i.text ++ r = c :: t) (hr : Follows r)
    (hlen : i.text.length ≤ maxIntegerDigits) : readSegment c t = .ok (i.segment, r) := by
  cases i with
  | dotted name ne_nil hname =>
    obtain ⟨rfl, rfl⟩ := List.cons.inj h
    exact readSegment_dotted ne_nil hname hr
  | quoted q hq name =>
    rw [Item.text_quoted_append] at h
    obtain ⟨rfl, rfl⟩ := List.cons.inj h
    exact readSegment_quoted hq name r
  | bracketed inside s hclose token =>
    rw [Item.text_bracketed_append] at h
    obtain ⟨rfl, rfl⟩ := List.cons.inj h
    have htoken : inside.strip.length ≤ maxIntegerDigits := by
      refine (Text.length_strip_le inside).trans (Nat.le_trans ?_ hlen)
      show inside.length ≤ (inside ++ [(']' : CodePoint)]).length + 1
      rw [List.length_append]
      omega
    exact readSegment_bracketed hclose token (fun _ => tokenSegment_of_spellsToken htoken token) r

/-- An item is told by its text together with its segment. The text alone is not enough to tell a quoted name from a
token, as both begin with a bracket, but a token spells no name. -/
theorem Item.eq_of_text_eq {i j : Item} (htext : i.text = j.text) (hsegment : i.segment = j.segment) : i = j := by
  cases i with
  | dotted name _ _ =>
    cases j with
    | dotted other _ _ =>
      obtain rfl : name = other := (List.cons.inj htext).2
      rfl
    | quoted _ _ _ => exact absurd (List.cons.inj htext).1 (by decide)
    | bracketed _ _ _ _ => exact absurd (List.cons.inj htext).1 (by decide)
  | quoted q _ name =>
    cases j with
    | dotted _ _ _ => exact absurd (List.cons.inj htext).1 (by decide)
    | quoted q' _ other =>
      obtain ⟨rfl, hrest⟩ := List.cons.inj (List.cons.inj htext).2
      rw [NameGlyph.textOf_injective (List.append_cancel_right hrest)]
    | bracketed _ _ _ token => exact absurd hsegment.symm (token.ne_field _)
  | bracketed inside s _ token =>
    cases j with
    | dotted _ _ _ => exact absurd (List.cons.inj htext).1 (by decide)
    | quoted _ _ _ => exact absurd hsegment (token.ne_field _)
    | bracketed other s' _ _ =>
      obtain rfl : inside = other := List.append_cancel_right (List.cons.inj htext).2
      obtain rfl : s = s' := hsegment
      rfl

/-! ## Rows of segments -/

/-- A row of segments is read as its first one and the rest, with one unit of fuel less. A stop in either is the
stop of the row. -/
theorem readSegments_cons (fuel : Nat) (c : CodePoint) (t : Text) :
    readSegments (fuel + 1) (c :: t)
      = (readSegment c t).bind fun r => (readSegments fuel r.2).map (r.1 :: ·) := by
  rw [readSegments]
  unfold readSegment
  by_cases hdot : c = '.'
  · rw [if_pos hdot]
    cases readDotted t <;> rfl
  · rw [if_neg hdot]
    by_cases hopen : c = '['
    · rw [if_pos hopen]
      cases readBracketed t <;> rfl
    · rw [if_neg hopen]
      rfl

/-- A text that is read as a segment, up to the end or to what begins another segment. -/
structure Writes (u : Text) (s : Segment) : Prop where
  opens : ∃ c t, u = c :: t ∧ endsName c = true
  reads : ∀ {c t r}, u ++ r = c :: t → Follows r → readSegment c t = .ok (s, r)

section Rows

variable {α : Type} {text : α → Text} {segment : α → Segment} {row : List α}

/-- A row whose texts begin as items do may follow a name after a dot, and so may an empty row. It is stated for any
texts, as items and the steps of a location are both written in such rows. -/
theorem follows_row (h : ∀ a ∈ row, ∃ c t, text a = c :: t ∧ endsName c = true) : Follows (row.flatMap text) := by
  intro c hc
  cases row with
  | nil => cases hc
  | cons a row =>
    obtain ⟨d, t, htext, hd⟩ := h a List.mem_cons_self
    rw [List.flatMap_cons, htext] at hc
    obtain rfl : d = c := Option.some.inj hc
    exact hd

/-- A row of texts that are read as segments is read as the row of the segments. Fuel for each code point is enough,
since no text is empty. -/
theorem readSegments_row (h : ∀ a ∈ row, Writes (text a) (segment a)) {fuel : Nat}
    (hfuel : (row.flatMap text).length ≤ fuel) : readSegments fuel (row.flatMap text) = .ok (row.map segment) := by
  induction row generalizing fuel with
  | nil => exact readSegments.eq_1 fuel
  | cons a row ih =>
    have hrow : ∀ b ∈ row, Writes (text b) (segment b) := fun b hb => h b (List.mem_cons_of_mem _ hb)
    have ha := h a List.mem_cons_self
    obtain ⟨c, t, htext, -⟩ := ha.opens
    rw [List.flatMap_cons, List.length_append, htext, List.length_cons] at hfuel
    obtain ⟨fuel, rfl⟩ : ∃ k, fuel = k + 1 := ⟨fuel - 1, by omega⟩
    have hct : text a ++ row.flatMap text = c :: (t ++ row.flatMap text) := by rw [htext, List.cons_append]
    rw [List.flatMap_cons, hct, readSegments_cons, ha.reads hct (follows_row fun b hb => (hrow b hb).opens)]
    show (readSegments fuel (row.flatMap text)).map _ = _
    rw [ih hrow (by omega)]
    rfl

end Rows

/-! ## Rows of items -/

/-- The text of a row of items. -/
def itemsText (items : List Item) : Text := items.flatMap Item.text

/-- An item begins with a dot or an opening bracket, where a name before it ends. So a row of items is read one by
one, whatever their kinds are. -/
theorem Item.opens (i : Item) : ∃ c t, i.text = c :: t ∧ endsName c = true := by
  cases i with
  | dotted _ _ _ => exact ⟨_, _, rfl, by decide⟩
  | quoted _ _ _ => exact ⟨_, _, rfl, by decide⟩
  | bracketed _ _ _ _ => exact ⟨_, _, rfl, by decide⟩

theorem follows_itemsText (items : List Item) : Follows (itemsText items) := follows_row fun i _ => i.opens

/-- A row of items is read as its segments. That the text is short rules out numbers with too many digits, which are
the only items that a reader could refuse. -/
theorem readSegments_items (items : List Item) {fuel : Nat} (hfuel : (itemsText items).length ≤ fuel)
    (hlen : (itemsText items).length ≤ maxIntegerDigits) :
    readSegments fuel (itemsText items) = .ok (items.map Item.segment) := by
  refine readSegments_row (fun i hi => ⟨i.opens, fun h hr => readSegment_item i h hr ?_⟩) hfuel
  exact (List.infix_of_mem_flatten (List.mem_map_of_mem hi)).length_le.trans hlen

/-- What a reader makes of a text: a row of items, or a stop at a place in the text. The fuel may be anything, as
running out of it would be a stop as well. -/
theorem exists_items_or_stop (fuel : Nat) {t : Text} (hlen : t.length ≤ maxIntegerDigits) :
    (∃ items, t = itemsText items ∧ readSegments fuel t = .ok (items.map Item.segment))
      ∨ ∃ reason left, readSegments fuel t = .error (.reason reason left) ∧ left ≤ t.length := by
  induction fuel generalizing t with
  | zero =>
    cases t with
    | nil => exact Or.inl ⟨[], rfl, rfl⟩
    | cons c t => exact Or.inr ⟨_, _, rfl, Nat.le_refl _⟩
  | succ fuel ih =>
    cases t with
    | nil => exact Or.inl ⟨[], rfl, rfl⟩
    | cons c t =>
      rw [readSegments_cons]
      have hreads := reads_segment c ((Nat.le_succ _).trans hlen)
      generalize readSegment c t = found at hreads
      cases hreads with
      | stop reason h => exact Or.inr ⟨reason, _, rfl, h⟩
      | @item i r h =>
        have hle : r.length ≤ (c :: t).length := by
          rw [h, List.length_append]
          exact Nat.le_add_left _ _
        -- the item goes in front of the row that is read behind it; a stop there is the stop of the whole
        rcases ih (hle.trans hlen) with ⟨items, hitems, hread⟩ | ⟨reason, left, hread, hleft⟩
        · refine Or.inl ⟨i :: items, ?_, ?_⟩
          · rw [h, hitems]
            exact List.flatMap_cons.symm
          · show (readSegments fuel r).map _ = _
            rw [hread]
            rfl
        · refine Or.inr ⟨reason, left, ?_, hleft.trans hle⟩
          show (readSegments fuel r).map _ = _
          rw [hread]
          rfl

/-- A text is spelled by one row of items at most. No case distinction over pairs of items is needed: the reader
takes the same segment off both rows, and leaves the same rest. -/
theorem eq_of_itemsText_eq {items others : List Item} (h : itemsText items = itemsText others)
    (hlen : (itemsText items).length ≤ maxIntegerDigits) : items = others := by
  induction items generalizing others with
  | nil =>
    -- a row that has items spells something
    cases others with
    | nil => rfl
    | cons j others => exact absurd h.symm (List.append_ne_nil_of_left_ne_nil j.text_ne_nil _)
  | cons i items ih =>
    cases others with
    | nil => exact absurd h (List.append_ne_nil_of_left_ne_nil i.text_ne_nil _)
    | cons j others =>
      change i.text ++ itemsText items = j.text ++ itemsText others at h
      change (i.text ++ itemsText items).length ≤ maxIntegerDigits at hlen
      obtain ⟨c, t, hct⟩ := i.exists_cons (itemsText items)
      have hlen' := hlen
      rw [h] at hlen'
      rw [List.length_append] at hlen hlen'
      -- both rows are read in the same way, so they begin with the same segment and go on with the same text
      have hi := readSegment_item i hct (follows_itemsText items) (by omega)
      have hj := readSegment_item j (h.symm.trans hct) (follows_itemsText others) (by omega)
      obtain ⟨hsegment, hrest⟩ := Prod.mk.inj (Except.ok.inj (hi.symm.trans hj))
      rw [hrest] at h
      rw [Item.eq_of_text_eq (List.append_cancel_right h) hsegment, ih hrest (by omega)]

/-! ## Whole paths -/

/-- A text of at most 4300 code points is read as a path exactly if it is the root and a row of items, and the path has
their segments. No two rows spell the same text. Every other text is refused at a place in it, which is its beginning
only if the root is missing. -/
theorem read_spelled {limit : Int} {t : Text} (hlen : t.length ≤ 4300) (hlimit : t.length ≤ limit) :
    (∀ p, Path.read limit t = .ok p
        ↔ ∃ items, t = rootText ++ itemsText items ∧ p.segments = items.map Item.segment)
      ∧ (∀ items others, t = rootText ++ itemsText items → t = rootText ++ itemsText others → items = others)
      ∧ ((¬∃ items, t = rootText ++ itemsText items) →
          ∃ reason place, Path.read limit t = .error (.invalid t reason (some place)) ∧ place ≤ t.length
            ∧ (place = 0 → reason = .noRoot)) := by
  have hread : Path.read limit t = readText t := if_neg (Int.not_lt.2 hlimit)
  rw [hread]
  unfold readText
  cases hroot : Text.after? rootText t with
  | none =>
    have hnone : ∀ items, t ≠ rootText ++ itemsText items := by
      intro items ht
      rw [Text.after?_eq_some_iff.2 ht] at hroot
      cases hroot
    refine ⟨fun p => ?_, fun items _ ht => absurd ht (hnone items), fun _ => ⟨_, 0, rfl, Nat.zero_le _, fun _ => rfl⟩⟩
    exact iff_of_false (fun h => by cases h) fun ⟨items, ht, _⟩ => hnone items ht
  | some r =>
    obtain rfl := Text.after?_eq_some_iff.1 hroot
    have hr : r.length ≤ maxIntegerDigits := (Nat.le_succ _).trans hlen
    -- this is about the grammar alone, so both cases below can use it
    have hunique : ∀ items others, rootText ++ r = rootText ++ itemsText items
        → rootText ++ r = rootText ++ itemsText others → items = others := by
      intro items others hitems hothers
      obtain rfl := List.append_cancel_left hitems
      exact eq_of_itemsText_eq (List.append_cancel_left hothers) hr
    dsimp only
    rcases exists_items_or_stop r.length hr with ⟨items, rfl, hitems⟩ | ⟨reason, left, hstop, hleft⟩
    · rw [hitems]
      refine ⟨fun p => ⟨fun h => ?_, ?_⟩, hunique, fun hnone => absurd ⟨items, rfl⟩ hnone⟩
      · rw [← Except.ok.inj h]
        exact ⟨items, rfl, rfl⟩
      · rintro ⟨others, hothers, hp⟩
        rw [hunique items others rfl hothers, ← hp]
    · have hnone : ∀ items, rootText ++ r ≠ rootText ++ itemsText items := by
        intro items h
        obtain rfl := List.append_cancel_left h
        rw [readSegments_items items (Nat.le_refl _) hr] at hstop
        cases hstop
      rw [hstop]
      refine ⟨fun p => ?_, hunique, fun _ => ⟨reason, (rootText ++ r).length - left, rfl, Nat.sub_le _ _, ?_⟩⟩
      · exact iff_of_false (fun h => by cases h) fun ⟨items, ht, _⟩ => hnone items ht
      · intro hzero
        -- the reader stops behind the root
        have hlength : (rootText ++ r).length = r.length + 1 := rfl
        omega

/-- An escaped quote, an index in Arabic digits between blanks, and a dot and a bracket inside quotes. -/
theorem read_spelled_escapes :
    ∃ items, ("$.a-b['it\\'s'].*[ -٣ ][\".[\"][*]" : Text) = rootText ++ itemsText items
      ∧ [.field "a-b", .field "it's", .wildcard, .index (-3), .field ".[", .wildcard] = items.map Item.segment := by
  have hread : Path.read 1024 "$.a-b['it\\'s'].*[ -٣ ][\".[\"][*]"
      = .ok ⟨[.field "a-b", .field "it's", .wildcard, .index (-3), .field ".[", .wildcard]⟩ :=
    Json.eq_ok_of_toOption (by decide +kernel)
  exact ((read_spelled (by decide) (by decide)).1 _).1 hread

end Path

end BodyScrub
