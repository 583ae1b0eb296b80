import BodyScrub.Proofs.PropertyFilter.Coverage

/-!
# A second scan

On a text that is no JSON there are no tokens to hold on to: the scan of a property filter only sees quotes. But a
string member is a quoted name, a gap with a colon and a string (`memberAt_string_iff`), so whether one begins at a
place is settled by the next three quotes and, if there are more before the next value that is masked, by the end of
the string that the third one opens. The name in front of that value ends such a string at the latest. So what is put
in place of the values decides nothing (`memberAt_eq_none_of_lead`), and a second scan cuts a masked text into the same
pieces as the first scan the text itself (`Cuts.masked`): it finds every member again, and finds no other.

* **`Cuts`**: the pieces that the scan cuts a text into, without its counting.
* **`Cuts.mask`**: a masked text is made of the pieces with the values of members replaced.
-/

namespace BodyScrub

open Json

namespace PropertyFilter

/-! ## Pieces of a text -/

/-- A piece of a text under the scan. -/
inductive Piece where
  /-- A code point that the scan passes over. -/
  | passed (c : CodePoint)
  /-- A member: what stands in front of its value, and the value. -/
  | member (lead value : Text)

namespace Piece

def text : Piece → Text
  | passed c => [c]
  | member lead value => lead ++ value

/-- The piece with its value replaced, if it has one. -/
def masked (replacement : Text) : Piece → Piece
  | passed c => passed c
  | member lead _ => member lead (writeString false replacement)

/-- The text of pieces in a row. -/
def textOf (ps : List Piece) : Text := ps.flatMap text

@[simp] theorem textOf_passed (c : CodePoint) (ps : List Piece) : textOf (passed c :: ps) = c :: textOf ps := rfl

@[simp] theorem textOf_member (lead value : Text) (ps : List Piece) :
    textOf (member lead value :: ps) = lead ++ (value ++ textOf ps) := by
  simp [textOf, text]

/-- The pieces with their values replaced. -/
def maskedAll (replacement : Text) (ps : List Piece) : List Piece := ps.map (masked replacement)

@[simp] theorem maskedAll_passed (replacement : Text) (c : CodePoint) (ps : List Piece) :
    maskedAll replacement (passed c :: ps) = passed c :: maskedAll replacement ps := rfl

@[simp] theorem maskedAll_member (replacement lead value : Text) (ps : List Piece) :
    maskedAll replacement (member lead value :: ps)
      = member lead (writeString false replacement) :: maskedAll replacement ps := rfl

/-- Of two replacements the second is left. The pieces are the same for both, since they tell where the scan masks
and not what it puts there. -/
theorem maskedAll_maskedAll (first second : Text) (ps : List Piece) :
    maskedAll second (maskedAll first ps) = maskedAll second ps := by
  unfold maskedAll
  rw [List.map_map]
  exact List.map_congr_left fun p _ => by cases p <;> rfl

end Piece

/-- The scan cuts a text into these pieces. -/
inductive Cuts (kind : Kind) (names : List Text) : Text → List Piece → Prop where
  | nil : Cuts kind names [] []
  | passed {c : CodePoint} {t : Text} {ps : List Piece} (h : memberAt kind names (c :: t) = none)
      (rest : Cuts kind names t ps) : Cuts kind names (c :: t) (.passed c :: ps)
  | member {c : CodePoint} {lead value t : Text} {ps : List Piece}
      (h : memberAt kind names (c :: (lead ++ (value ++ t))) = some ⟨value ++ t, t⟩) (rest : Cuts kind names t ps) :
      Cuts kind names (c :: (lead ++ (value ++ t))) (.member (c :: lead) value :: ps)

/-- The value of a member, and what follows it, are ends of the text behind the quote. The scan only ever goes
forward. -/
theorem isSuffix_of_memberAt {kind : Kind} {names : List Text} {c : CodePoint} {t : Text} {e : Extent}
    (h : memberAt kind names (c :: t) = some e) : e.start <:+ t ∧ e.rest <:+ e.start := by
  by_cases hc : c = CodePoint.quote
  · subst hc
    rw [memberAt_quote] at h
    obtain ⟨name, -, hname⟩ := List.exists_of_findSome?_eq_some h
    obtain ⟨r, hr, he⟩ := Option.bind_eq_some_iff.1 hname
    obtain ⟨hstart, hrest⟩ := isSuffix_of_valueBehind he
    exact ⟨hstart.trans (isSuffix_of_after? hr), hrest⟩
  · rw [memberAt_of_ne hc] at h
    cases h

/-- Every text is cut into pieces, be it JSON or not. Each step takes off one code point or a member, and goes on
with what is left. -/
theorem exists_cuts (kind : Kind) (names : List Text) (t : Text) : ∃ ps, Cuts kind names t ps := by
  match t with
  | [] => exact ⟨[], .nil⟩
  | c :: t =>
    cases h : memberAt kind names (c :: t) with
    | none =>
      obtain ⟨ps, hps⟩ := exists_cuts kind names t
      exact ⟨_, .passed h hps⟩
    | some e =>
      obtain ⟨start, rest⟩ := e
      obtain ⟨⟨lead, hlead⟩, value, hvalue⟩ := isSuffix_of_memberAt h
      dsimp only at hlead hvalue
      have hlength : rest.length ≤ t.length := by
        rw [← hlead, ← hvalue]
        simp
        omega
      obtain ⟨ps, hps⟩ := exists_cuts kind names rest
      subst hvalue hlead
      exact ⟨_, .member h hps⟩
  termination_by t.length

theorem Cuts.textOf {kind : Kind} {names : List Text} {t : Text} {ps : List Piece} (h : Cuts kind names t ps) :
    Piece.textOf ps = t := by
  induction h with
  | nil => rfl
  | passed _ _ ih => simp [ih]
  | member _ _ ih => simp [ih]

/-- A masked text is made of the pieces with the values of members replaced. From here on the scan is not needed any
more. -/
theorem Cuts.mask {f : PropertyFilter} {t : Text} {ps : List Piece} (h : Cuts f.kind f.names t ps) :
    f.mask t = Piece.textOf (Piece.maskedAll f.replacement ps) := by
  unfold PropertyFilter.mask
  induction h with
  | nil => rfl
  | passed h _ ih => simp [maskFrom_of_none h, ih]
  | member h _ ih => simp [maskFrom_member h, ih]

/-! ## String members -/

/-- What stands between the closing quote of a name and its value. -/
def IsGap (t : Text) : Prop :=
  ∃ before after, (∀ c ∈ before, CodePoint.isBlank c = true) ∧ (∀ c ∈ after, CodePoint.isBlank c = true)
    ∧ t = before ++ CodePoint.ofChar ':' :: after

/-- A run that neither ends a string nor escapes anything in it. -/
def IsBare (t : Text) : Prop := CodePoint.quote ∉ t ∧ CodePoint.backslash ∉ t

/-- Blanks and a colon neither end a string nor escape anything. -/
theorem IsGap.isBare {t : Text} (h : IsGap t) : IsBare t := by
  obtain ⟨before, after, hbefore, hafter, rfl⟩ := h
  have hne : ∀ {d : CodePoint}, d.isBlank = false → d ≠ ':' → d ∉ before ++ CodePoint.ofChar ':' :: after := by
    intro d hd hcolon hmem
    simp only [List.mem_append, List.mem_cons] at hmem
    rcases hmem with hmem | rfl | hmem
    · simp [hbefore d hmem] at hd
    · exact hcolon rfl
    · simp [hafter d hmem] at hd
  exact ⟨hne (by decide) (by decide), hne (by decide) (by decide)⟩

/-- In a gap the scan skips what stands before the colon and finds the colon. What stands behind it is skipped the
same way. -/
theorem skipBlanks_gap {t : Text} (h : IsGap t) (r : Text) :
    ∃ after, (∀ c ∈ after, CodePoint.isBlank c = true) ∧ skipBlanks (t ++ r) = CodePoint.ofChar ':' :: (after ++ r) := by
  obtain ⟨before, after, hbefore, hafter, rfl⟩ := h
  refine ⟨after, hafter, ?_⟩
  unfold skipBlanks
  rw [List.append_assoc, List.dropWhile_append_of_pos hbefore]
  exact skipBlanks_cons (by decide) _

/-- A string stands behind the closing quote of a name if a gap does and then a string. -/
theorem valueBehind_string_iff {r : Text} {e : Extent} :
    valueBehind .string r = some e
      ↔ ∃ gap body, IsGap gap ∧ r = gap ++ CodePoint.quote :: body ∧ e.start = CodePoint.quote :: body
        ∧ afterStringBody body = some e.rest := by
  constructor
  · intro h
    unfold valueBehind at h
    split at h
    · cases h
    · next c t hskip =>
      split at h
      · next hc =>
        subst hc
        obtain ⟨rest, hrest, rfl⟩ := Option.map_eq_some_iff.1 h
        change afterString (skipBlanks t) = some rest at hrest
        have htext : r = r.takeWhile CodePoint.isBlank ++ CodePoint.ofChar ':'
            :: (t.takeWhile CodePoint.isBlank ++ skipBlanks t) := by
          unfold skipBlanks at hskip ⊢
          rw [List.takeWhile_append_dropWhile, ← hskip, List.takeWhile_append_dropWhile]
        unfold afterString at hrest
        split at hrest
        · cases hrest
        · next d body hvalue =>
          split at hrest
          · next hd =>
            subst hd
            refine ⟨r.takeWhile CodePoint.isBlank ++ CodePoint.ofChar ':' :: t.takeWhile CodePoint.isBlank, body,
              ⟨_, _, fun c hc => List.mem_takeWhile_imp hc, fun c hc => List.mem_takeWhile_imp hc, rfl⟩, ?_, hvalue,
              hrest⟩
            rw [hvalue] at htext
            simpa using htext
          · cases hrest
      · cases h
  · rintro ⟨gap, body, hgap, rfl, hstart, hrest⟩
    obtain ⟨after, hafter, hskip⟩ := skipBlanks_gap hgap (CodePoint.quote :: body)
    have hvalue : skipBlanks (after ++ CodePoint.quote :: body) = CodePoint.quote :: body := by
      unfold skipBlanks
      rw [List.dropWhile_append_of_pos hafter]
      exact skipBlanks_cons (by decide) body
    have hafterString : Kind.string.after (CodePoint.quote :: body) = some e.rest := hrest
    unfold valueBehind
    rw [hskip]
    dsimp only
    rw [if_pos rfl, hvalue, hafterString, Option.map_some, ← hstart]

/-- Two texts whose first quote is told agree up to there, or the first one goes on behind it. Names, gaps and
values are compared by their quotes with this. -/
theorem eq_or_of_append_quote {u a y z : Text} (ha : CodePoint.quote ∉ a)
    (h : u ++ CodePoint.quote :: y = a ++ CodePoint.quote :: z) :
    (u = a ∧ y = z) ∨ ∃ w, u = a ++ CodePoint.quote :: w ∧ z = w ++ CodePoint.quote :: y := by
  rcases List.append_eq_append_iff.1 h with ⟨w, rfl, hw⟩ | ⟨w, rfl, hw⟩
  · cases w with
    | nil => exact Or.inl ⟨by simp, by simpa using hw⟩
    | cons c w =>
      obtain ⟨rfl, -⟩ := List.cons.inj hw
      exact absurd (by simp) ha
  · cases w with
    | nil => exact Or.inl ⟨by simp, by simpa using hw.symm⟩
    | cons c w =>
      obtain ⟨rfl, rfl⟩ := List.cons.inj hw
      exact Or.inr ⟨w, rfl, rfl⟩

/-- A string member begins where a quoted name, a gap and a string do. A name without quotes ends at the next quote,
so there is one way to read a member. -/
theorem memberAt_string_iff {names : List Text} (hnames : ∀ n ∈ names, CodePoint.quote ∉ n) {t : Text} {e : Extent} :
    memberAt .string names t = some e
      ↔ ∃ name gap body, name ∈ names ∧ IsGap gap
        ∧ t = CodePoint.quote :: (name ++ CodePoint.quote :: (gap ++ CodePoint.quote :: body))
        ∧ e.start = CodePoint.quote :: body ∧ afterStringBody body = some e.rest := by
  constructor
  · intro h
    cases t with
    | nil => cases h
    | cons c t =>
      by_cases hc : c = CodePoint.quote
      · subst hc
        rw [memberAt_quote] at h
        obtain ⟨name, hname, hvalue⟩ := List.exists_of_findSome?_eq_some h
        obtain ⟨r, hr, hbehind⟩ := Option.bind_eq_some_iff.1 hvalue
        obtain ⟨gap, body, hgap, rfl, hstart, hrest⟩ := valueBehind_string_iff.1 hbehind
        exact ⟨name, gap, body, hname, hgap, by simp [Text.after?_eq_some_iff.1 hr], hstart, hrest⟩
      · rw [memberAt_of_ne hc] at h
        cases h
  · rintro ⟨name, gap, body, hname, hgap, rfl, hstart, hrest⟩
    rw [memberAt_quote]
    -- a name without quotes ends at the next quote, so it can only be this one
    have hfound : ∀ n ∈ names, (Text.after? (n ++ [CodePoint.quote])
        (name ++ CodePoint.quote :: (gap ++ CodePoint.quote :: body))).bind (valueBehind .string)
          = if n = name then some e else none := by
      intro n hn
      cases hr : Text.after? (n ++ [CodePoint.quote])
          (name ++ CodePoint.quote :: (gap ++ CodePoint.quote :: body)) with
      | none =>
        have hne : n ≠ name := by
          rintro rfl
          rw [Text.after?_eq_some_iff.2 (show _ = n ++ [CodePoint.quote] ++ _ by simp; rfl)] at hr
          cases hr
        simp [hne]
      | some r =>
        have htext := Text.after?_eq_some_iff.1 hr
        rw [List.append_assoc, List.singleton_append] at htext
        rcases eq_or_of_append_quote (hnames n hn) htext with ⟨rfl, rfl⟩ | ⟨w, rfl, -⟩
        · simpa using valueBehind_string_iff.2 ⟨gap, body, hgap, rfl, hstart, hrest⟩
        · exact absurd (by simp) (hnames _ hname)
    -- the name is among those that are tried, so one of them is found
    cases hsome : names.findSome? fun n => (Text.after? (n ++ [CodePoint.quote])
        (name ++ CodePoint.quote :: (gap ++ CodePoint.quote :: body))).bind (valueBehind .string) with
    | none =>
      have hnone := List.findSome?_eq_none_iff.1 hsome name hname
      simp [hfound name hname] at hnone
    | some e' =>
      obtain ⟨n, hn, hvalue⟩ := List.exists_of_findSome?_eq_some hsome
      rw [hfound n hn] at hvalue
      split at hvalue
      · exact hvalue.symm
      · cases hvalue

/-! ## What is settled in front of a value -/

/-- A bare run does not matter for where a string ends. -/
theorem afterStringBody_append {p : Text} (hp : IsBare p) (t : Text) : afterStringBody (p ++ t) = afterStringBody t := by
  induction p with
  | nil => rfl
  | cons c p ih =>
    obtain ⟨hquote, hslash⟩ := hp
    rw [List.mem_cons, not_or] at hquote hslash
    rw [List.cons_append, afterStringBody_plain (Ne.symm hquote.1) (Ne.symm hslash.1)]
    exact ih ⟨hquote.2, hslash.2⟩

/-- A string that is closed is closed by what it is made of, whatever follows it. The same string can be put in
front of another text. -/
theorem exists_of_afterStringBody {t r : Text} (h : afterStringBody t = some r) :
    ∃ v, t = v ++ r ∧ ∀ w, afterStringBody (v ++ w) = some w := by
  fun_induction afterStringBody t with
  | case1 => cases h
  | case2 t =>
    obtain rfl := Option.some.inj h
    exact ⟨[CodePoint.quote], rfl, afterStringBody_quote⟩
  | case3 => cases h
  | case4 => cases h
  | case5 e t he _ ih =>
    obtain ⟨v, rfl, hv⟩ := ih h
    exact ⟨CodePoint.backslash :: e :: v, rfl, fun w => (afterStringBody_escape he _).trans (hv w)⟩
  | case6 c t hquote hslash ih =>
    obtain ⟨v, rfl, hv⟩ := ih h
    exact ⟨c :: v, rfl, fun w => (afterStringBody_plain hquote hslash _).trans (hv w)⟩

/-- A string that is open before a quoted name ends in front of the name or behind it, or not at all: what follows
does not matter. If the opening quote of the name is escaped, the closing one is not. -/
theorem isSome_afterStringBody {name : Text} (hname : IsBare name) (w x x' : Text)
    (h : (afterStringBody (w ++ CodePoint.quote :: (name ++ CodePoint.quote :: x))).isSome = true) :
    (afterStringBody (w ++ CodePoint.quote :: (name ++ CodePoint.quote :: x'))).isSome = true := by
  match w with
  | [] => simp [afterStringBody_quote]
  | c :: w =>
    rw [List.cons_append] at h ⊢
    -- a quote ends the string here, before the name
    by_cases hquote : c = CodePoint.quote
    · subst hquote
      simp [afterStringBody_quote]
    · by_cases hslash : c = CodePoint.backslash
      · subst hslash
        cases w with
        | nil =>
          -- the opening quote of the name is escaped, so the closing one ends the string
          rw [List.nil_append, afterStringBody_escape (by decide), afterStringBody_append hname, afterStringBody_quote]
          rfl
        | cons e w =>
          rw [List.cons_append] at h ⊢
          by_cases hline : e = CodePoint.newline
          · subst hline
            rw [afterStringBody.eq_def] at h
            simp [CodePoint.newline, CodePoint.quote, CodePoint.backslash, CodePoint.ofChar] at h
          · rw [afterStringBody_escape hline] at h ⊢
            exact isSome_afterStringBody hname w x x' h
      · rw [afterStringBody_plain hquote hslash] at h ⊢
        exact isSome_afterStringBody hname w x x' h

/-- Whether a quoted name, a gap and a string stand at a place before a member does not hang on the value of the
member. The three quotes may be those of the member itself, or some of them stand before it. -/
theorem exists_body {u name gap n g x body : Text} (hname : IsBare name) (hgap : IsBare gap) (hn : IsBare n)
    (hg : IsBare g)
    (htext : u ++ CodePoint.quote :: (name ++ CodePoint.quote :: (gap ++ CodePoint.quote :: x))
      = n ++ CodePoint.quote :: (g ++ CodePoint.quote :: body))
    (hbody : (afterStringBody body).isSome = true) (x' : Text) :
    ∃ body', u ++ CodePoint.quote :: (name ++ CodePoint.quote :: (gap ++ CodePoint.quote :: x'))
        = n ++ CodePoint.quote :: (g ++ CodePoint.quote :: body')
      ∧ (afterStringBody body').isSome = true := by
  rcases eq_or_of_append_quote hn.1 htext with ⟨rfl, hrest⟩ | ⟨w, rfl, hrest⟩
  · -- the name ends where the member begins, so the name of the member is the gap, and the string is the member's gap
    rcases eq_or_of_append_quote hg.1 hrest with ⟨rfl, -⟩ | ⟨w, rfl, -⟩
    · refine ⟨gap ++ CodePoint.quote :: x', rfl, ?_⟩
      rw [afterStringBody_append hgap, afterStringBody_quote]
      rfl
    · exact absurd (by simp) hname.1
  · rcases eq_or_of_append_quote hg.1 hrest.symm with ⟨rfl, -⟩ | ⟨v, rfl, rfl⟩
    · -- the string is the name of the member
      refine ⟨name ++ CodePoint.quote :: (gap ++ CodePoint.quote :: x'), by simp, ?_⟩
      rw [afterStringBody_append hname, afterStringBody_quote]
      rfl
    · exact ⟨v ++ CodePoint.quote :: (name ++ CodePoint.quote :: (gap ++ CodePoint.quote :: x')), by simp,
        isSome_afterStringBody hname v _ _ hbody⟩

theorem writeString_eq (s : Text) :
    writeString false s = CodePoint.quote :: (Glyph.textOf (Glyph.written false s) ++ [CodePoint.quote]) := by
  rw [Glyph.textOf_written]
  rfl

section Names

variable {names : List Text} (hnames : ∀ n ∈ names, IsBare n)

include hnames

/-- In front of a member no other begins, whatever the value of the member is. So putting a replacement in its place
cannot make one. -/
theorem memberAt_eq_none_of_lead {c : CodePoint} {u name gap x : Text} (hname : IsBare name) (hgap : IsGap gap)
    (h : memberAt .string names
      (c :: (u ++ CodePoint.quote :: (name ++ CodePoint.quote :: (gap ++ CodePoint.quote :: x)))) = none) (x' : Text) :
    memberAt .string names
      (c :: (u ++ CodePoint.quote :: (name ++ CodePoint.quote :: (gap ++ CodePoint.quote :: x')))) = none := by
  have hquotes : ∀ n ∈ names, CodePoint.quote ∉ n := fun n hn => (hnames n hn).1
  rw [Option.eq_none_iff_forall_ne_some]
  intro e he
  obtain ⟨n, g, body, hn, hg, hcons, -, hbody⟩ := (memberAt_string_iff hquotes).1 he
  obtain ⟨rfl, htext⟩ := List.cons.inj hcons
  obtain ⟨body', htext', hbody'⟩ := exists_body hname hgap.isBare (hnames n hn) hg.isBare htext
    (by rw [hbody]; rfl) x
  obtain ⟨rest, hrest⟩ := Option.isSome_iff_exists.1 hbody'
  have hmember : memberAt .string names _ = some ⟨CodePoint.quote :: body', rest⟩ :=
    (memberAt_string_iff hquotes).2 ⟨n, g, body', hn, hg, congrArg _ htext', rfl, hrest⟩
  rw [h] at hmember
  cases hmember

/-- What a member is made of: its name and the gap in front of the value, and a string. The string is closed,
whatever comes behind it. -/
theorem lead_of_memberAt {c : CodePoint} {lead value t : Text}
    (h : memberAt .string names (c :: (lead ++ (value ++ t))) = some ⟨value ++ t, t⟩) :
    ∃ name gap v, name ∈ names ∧ IsGap gap ∧ c = CodePoint.quote ∧ lead = name ++ CodePoint.quote :: gap
      ∧ value = CodePoint.quote :: v ∧ ∀ r, afterStringBody (v ++ r) = some r := by
  obtain ⟨name, gap, body, hname, hgap, htext, hstart, hrest⟩ :=
    (memberAt_string_iff fun n hn => (hnames n hn).1).1 h
  obtain ⟨v, rfl, hv⟩ := exists_of_afterStringBody hrest
  dsimp only at hstart htext
  obtain ⟨rfl, htext⟩ := List.cons.inj htext
  have hvalue : value = CodePoint.quote :: v := List.append_cancel_right hstart
  subst hvalue
  exact ⟨name, gap, v, hname, hgap, rfl, List.append_cancel_right (by simpa using htext), rfl, hv⟩

/-- A text and its masked text are the same up to the value of the first member. All that can stand in front of the
value is in the statement, so that `memberAt_eq_none_of_lead` can be used of it. -/
theorem Cuts.eq_or_lead {t : Text} {ps : List Piece} (h : Cuts .string names t ps) (replacement : Text) :
    Piece.textOf (Piece.maskedAll replacement ps) = t
      ∨ ∃ u name gap x x', IsBare name ∧ IsGap gap
        ∧ t = u ++ CodePoint.quote :: (name ++ CodePoint.quote :: (gap ++ CodePoint.quote :: x))
        ∧ Piece.textOf (Piece.maskedAll replacement ps)
          = u ++ CodePoint.quote :: (name ++ CodePoint.quote :: (gap ++ CodePoint.quote :: x')) := by
  induction h with
  | nil => exact Or.inl rfl
  | @passed c t ps _ _ ih =>
    rcases ih with hsame | ⟨u, name, gap, x, x', hname, hgap, htext, hmasked⟩
    · exact Or.inl (by simp [hsame])
    · exact Or.inr ⟨c :: u, name, gap, x, x', hname, hgap, by simp [htext], by simp [hmasked]⟩
  | @member c lead value t ps h _ _ =>
    obtain ⟨name, gap, v, hname, hgap, rfl, rfl, rfl, -⟩ := lead_of_memberAt hnames h
    refine Or.inr ⟨[], name, gap, v ++ t, Glyph.textOf (Glyph.written false replacement) ++ CodePoint.quote
      :: Piece.textOf (Piece.maskedAll replacement ps), hnames name hname, hgap, ?_, ?_⟩
    · simp
    · simp [writeString_eq]

/-- The scan cuts a masked text into the pieces of the text itself, masked. By induction on the pieces: where none
began none begins, and where one began it begins again. -/
theorem Cuts.masked {t : Text} {ps : List Piece} (h : Cuts .string names t ps) (replacement : Text) :
    Cuts .string names (Piece.textOf (Piece.maskedAll replacement ps)) (Piece.maskedAll replacement ps) := by
  induction h with
  | nil => exact .nil
  | passed h rest ih =>
    -- what follows is the same, or it is so up to the value of the next member
    rw [Piece.maskedAll_passed, Piece.textOf_passed]
    refine .passed ?_ ih
    rcases rest.eq_or_lead hnames replacement with hsame | ⟨u, name, gap, x, x', hname, hgap, rfl, hmasked⟩
    · rw [hsame]
      exact h
    · rw [hmasked]
      exact memberAt_eq_none_of_lead hnames hname hgap h x'
  | @member c lead value t ps h _ ih =>
    obtain ⟨name, gap, v, hname, hgap, rfl, rfl, rfl, -⟩ := lead_of_memberAt hnames h
    rw [Piece.maskedAll_member, Piece.textOf_member]
    -- the replacement is one string, so what follows the member is what followed it before
    have hend := afterString_glyphs (Glyph.written false replacement) (Piece.textOf (Piece.maskedAll replacement ps))
    refine .member ((memberAt_string_iff fun n hn => (hnames n hn).1).2 ?_) ih
    refine ⟨name, gap, Glyph.textOf (Glyph.written false replacement) ++ CodePoint.quote
      :: Piece.textOf (Piece.maskedAll replacement ps), hname, hgap, ?_, ?_, hend⟩
    · simp [writeString_eq]
    · simp [writeString_eq]

end Names

end PropertyFilter

/-! ## Masking again -/

namespace Filter

open PropertyFilter (Cuts Piece IsBare)

/-- A filter for strings whose names hold neither quotes nor backslashes changes nothing that it has masked, whatever
the text is. The masked text has the members of the text in the same places, and each has the replacement. -/
theorem apply_property_again {names : List Text} (hnames : ∀ n ∈ names, CodePoint.quote ∉ n ∧ CodePoint.backslash ∉ n)
    (replacement : Text) {mediaType : Option Text} (hjson : MediaType.isJson mediaType = true) (body : Text) :
    ∃ out, (Filter.property (.ofNames .string names replacement)).apply mediaType body = .ok out
      ∧ (Filter.property (.ofNames .string names replacement)).apply mediaType out = .ok out
      ∧ ∃ pieces, Cuts .string (PropertyFilter.normalNames names) body pieces
        ∧ Cuts .string (PropertyFilter.normalNames names) out (Piece.maskedAll replacement pieces) := by
  have hbare : ∀ n ∈ PropertyFilter.normalNames names, IsBare n := fun n hn =>
    hnames n (PropertyFilter.mem_normalNames.1 hn)
  obtain ⟨pieces, hcuts⟩ := PropertyFilter.exists_cuts .string (PropertyFilter.normalNames names) body
  have hagain := hcuts.masked hbare replacement
  have hmask : (PropertyFilter.ofNames .string names replacement).mask body
      = Piece.textOf (Piece.maskedAll replacement pieces) := hcuts.mask
  have hmask' : (PropertyFilter.ofNames .string names replacement).mask
      (Piece.textOf (Piece.maskedAll replacement pieces))
        = Piece.textOf (Piece.maskedAll replacement (Piece.maskedAll replacement pieces)) := hagain.mask
  refine ⟨Piece.textOf (Piece.maskedAll replacement pieces), ?_, ?_, pieces, hcuts, hagain⟩
  · rw [apply_property hjson, hmask]
  · rw [apply_property hjson, hmask', Piece.maskedAll_maskedAll]

/-- The text breaks off in a string, and in the value of its first member begins what looks like another one. -/
theorem apply_property_again_broken :
    (Filter.property (.ofNames .string [" ", "id"] "a\"b")).apply (some "application/json")
        "\"id\" :\"x\\\" \":\"y\",\"id\":\"z" = .ok "\"id\" :\"a\\\"b\":\"y\",\"id\":\"z"
      ∧ (Filter.property (.ofNames .string [" ", "id"] "a\"b")).apply (some "application/json")
        "\"id\" :\"a\\\"b\":\"y\",\"id\":\"z" = .ok "\"id\" :\"a\\\"b\":\"y\",\"id\":\"z" := by
  obtain ⟨out, hout, hagain, -⟩ := @apply_property_again [" ", "id"] (by decide) "a\"b" (some "application/json")
    (by decide) "\"id\" :\"x\\\" \":\"y\",\"id\":\"z"
  have htext : ((Filter.property (.ofNames .string [" ", "id"] "a\"b")).apply (some "application/json")
        "\"id\" :\"x\\\" \":\"y\",\"id\":\"z").toOption
      = some ("\"id\" :\"a\\\"b\":\"y\",\"id\":\"z" : Text) := by
    rw [PropertyFilter.ofNames_of_sorted (by decide) (by decide)]
    decide +kernel
  obtain rfl := Except.ok.inj (hout.symm.trans (Json.eq_ok_of_toOption htext))
  exact ⟨hout, hagain⟩

end Filter

end BodyScrub
