import BodyScrub.Proofs.PropertyFilter.Rescan

/-!
# Bodies that are cut off

A property filter does not need the end of a body. Where a text is cut off, the scan cuts it into the pieces of the
whole text that are left whole: a member whose value is broken is no longer one, and nothing in what is left of it is
(`Cuts.take`). That holds of any text. Of a JSON text the pieces are known from its tree (`cuts_source`): they are the
string members under the names of the filter, and every other code point for itself.

* **`Piece.upTo`**: the pieces that are left of a text that is cut off.
* **`Cuts.unclosed`**: in a string that is not closed no member begins.
* **`cuts_spelling`**: the pieces of the text of a tree, and of whatever may follow it.
-/

namespace BodyScrub

open Json

namespace PropertyFilter

/-! ## Pieces that are left -/

namespace Piece

/-- Code points that the scan passes over, in a row. -/
def passedAll (t : Text) : List Piece := t.map passed

@[simp] theorem passedAll_nil : passedAll [] = [] := rfl

@[simp] theorem passedAll_cons (c : CodePoint) (t : Text) : passedAll (c :: t) = passed c :: passedAll t := rfl

@[simp] theorem passedAll_append (t u : Text) : passedAll (t ++ u) = passedAll t ++ passedAll u := List.map_append

@[simp] theorem textOf_passedAll (t : Text) : textOf (passedAll t) = t := by
  induction t with
  | nil => rfl
  | cons c t ih => simp [ih]

@[simp] theorem maskedAll_passedAll (replacement t : Text) : maskedAll replacement (passedAll t) = passedAll t := by
  induction t with
  | nil => rfl
  | cons c t ih => simp [ih]

/-- The pieces of a text that is cut off after `c` code points: those that are whole, and what is left of the next one,
which is passed over. -/
def upTo (c : Nat) : List Piece → List Piece
  | [] => []
  | p :: ps => if p.text.length ≤ c then p :: upTo (c - p.text.length) ps else passedAll (p.text.take c)

theorem textOf_upTo (c : Nat) (ps : List Piece) : textOf (upTo c ps) = (textOf ps).take c := by
  induction ps generalizing c with
  | nil => simp [upTo, textOf]
  | cons p ps ih =>
    have htext : ∀ qs, textOf (p :: qs) = p.text ++ textOf qs := fun _ => List.flatMap_cons
    rw [upTo, htext, List.take_append]
    split
    · next hwhole => rw [htext, ih, List.take_of_length_le hwhole]
    · next hbroken =>
      have hzero : c - p.text.length = 0 := by omega
      simp [hzero]

end Piece

/-! ## Putting pieces in front -/

section Pieces

variable {kind : Kind} {names : List Text}

/-- A run without quotes in front is passed over, code point by code point. -/
theorem Cuts.quoteFree {p t : Text} {ps : List Piece} (hp : CodePoint.quote ∉ p) (h : Cuts kind names t ps) :
    Cuts kind names (p ++ t) (Piece.passedAll p ++ ps) := by
  induction p with
  | nil => exact h
  | cons c p ih =>
    obtain ⟨hc, hp⟩ := List.ne_and_not_mem_of_not_mem_cons hp
    exact .passed (memberAt_of_ne (Ne.symm hc) kind names _) (ih hp)

/-- A quoted name, a gap and a closed string in front are a member. No condition is put on what follows, since a
closed string ends by itself. -/
theorem Cuts.stringMember (hnames : ∀ n ∈ names, CodePoint.quote ∉ n) {name gap v r : Text} {ps : List Piece}
    (hname : name ∈ names) (hgap : IsGap gap) (hv : ∀ r, afterStringBody (v ++ r) = some r)
    (h : Cuts .string names r ps) :
    Cuts .string names (CodePoint.quote :: (name ++ CodePoint.quote :: (gap ++ CodePoint.quote :: (v ++ r))))
      (.member (CodePoint.quote :: (name ++ CodePoint.quote :: gap)) (CodePoint.quote :: v) :: ps) := by
  have hmember : memberAt .string names
      (CodePoint.quote :: ((name ++ CodePoint.quote :: gap) ++ (CodePoint.quote :: v ++ r)))
        = some ⟨CodePoint.quote :: v ++ r, r⟩ :=
    (memberAt_string_iff hnames).2 ⟨name, gap, v ++ r, hname, hgap, by simp, rfl, hv r⟩
  simpa using Cuts.member hmember h

end Pieces

/-! ## Strings that are not closed -/

/-- A run without quotes and escapes does not close a string. -/
theorem IsBare.unclosed {p : Text} (hp : IsBare p) : afterStringBody p = none := by
  have h := afterStringBody_append hp []
  rw [List.append_nil] at h
  exact h

theorem IsBare.of_append {p q : Text} (h : IsBare (p ++ q)) : IsBare p :=
  ⟨fun hmem => h.1 (List.mem_append_left _ hmem), fun hmem => h.2 (List.mem_append_left _ hmem)⟩

/-- What a closed string is cut off from is not closed: a string ends at one place only. So a member that is cut in
its value is no member any more. -/
theorem unclosed_of_append {p w : Text} (hw : w ≠ []) (h : ∀ r, afterStringBody (p ++ w ++ r) = some r) :
    afterStringBody p = none := by
  rw [Option.eq_none_iff_forall_ne_some]
  intro x hx
  obtain ⟨v, rfl, hv⟩ := exists_of_afterStringBody hx
  have hlonger : some [] = some (x ++ w) := by
    rw [← h [], ← hv (x ++ w)]
    simp
  simp only [Option.some.injEq, List.nil_eq, List.append_eq_nil_iff] at hlonger
  exact hw hlonger.2

section Names

variable {names : List Text} (hnames : ∀ n ∈ names, IsBare n)

include hnames

/-- A member goes on being one, whatever is put behind it. So where a text that is cut off has a member, the whole
text has one. -/
theorem memberAt_append {t : Text} {e : Extent} (h : memberAt .string names t = some e) (w : Text) :
    memberAt .string names (t ++ w) = some ⟨e.start ++ w, e.rest ++ w⟩ := by
  have hquotes : ∀ n ∈ names, CodePoint.quote ∉ n := fun n hn => (hnames n hn).1
  obtain ⟨name, gap, body, hname, hgap, rfl, hstart, hrest⟩ := (memberAt_string_iff hquotes).1 h
  obtain ⟨v, rfl, hv⟩ := exists_of_afterStringBody hrest
  refine (memberAt_string_iff hquotes).2 ⟨name, gap, v ++ e.rest ++ w, hname, hgap, by simp, by simp [hstart], ?_⟩
  rw [List.append_assoc]
  exact hv _

/-- No member begins where every third quote, behind a name and a gap, opens a string that is not closed. The three
lemmas below tell where the quotes are. -/
theorem memberAt_eq_none {t : Text}
    (h : ∀ name gap body, IsBare name → IsBare gap →
      t = CodePoint.quote :: (name ++ CodePoint.quote :: (gap ++ CodePoint.quote :: body)) →
      afterStringBody body = none) :
    memberAt .string names t = none := by
  rw [Option.eq_none_iff_forall_ne_some]
  intro e he
  obtain ⟨name, gap, body, hname, hgap, htext, -, hbody⟩ := (memberAt_string_iff fun n hn => (hnames n hn).1).1 he
  rw [h name gap body (hnames name hname) hgap.isBare htext] at hbody
  cases hbody

/-! The ways in which there may be fewer quotes than three, or in which the third one opens such a string. -/

/-- Behind the quote is a string that is not closed, so that there is no second quote, or an escaped one. -/
theorem memberAt_unclosed {p : Text} (hp : afterStringBody p = none) :
    memberAt .string names (CodePoint.quote :: p) = none := by
  refine memberAt_eq_none hnames fun name gap body hname _ htext => ?_
  obtain rfl := (List.cons.inj htext).2
  rw [afterStringBody_append hname, afterStringBody_quote] at hp
  cases hp

/-- There is a second quote, and the string behind it is not closed. -/
theorem memberAt_bare_unclosed {a p : Text} (ha : IsBare a) (hp : afterStringBody p = none) :
    memberAt .string names (CodePoint.quote :: (a ++ CodePoint.quote :: p)) = none := by
  refine memberAt_eq_none hnames fun name gap body hname hgap htext => ?_
  rcases eq_or_of_append_quote hname.1 (List.cons.inj htext).2 with ⟨-, rfl⟩ | ⟨w, rfl, -⟩
  · rw [afterStringBody_append hgap, afterStringBody_quote] at hp
    cases hp
  · exact absurd (by simp) ha.1

/-- There is a third quote, and the string behind it is not closed. -/
theorem memberAt_bare_bare_unclosed {a b p : Text} (ha : IsBare a) (hb : IsBare b) (hp : afterStringBody p = none) :
    memberAt .string names (CodePoint.quote :: (a ++ CodePoint.quote :: (b ++ CodePoint.quote :: p))) = none := by
  refine memberAt_eq_none hnames fun name gap body hname hgap htext => ?_
  rcases eq_or_of_append_quote hname.1 (List.cons.inj htext).2 with ⟨-, hrest⟩ | ⟨w, rfl, -⟩
  · rcases eq_or_of_append_quote hgap.1 hrest with ⟨-, rfl⟩ | ⟨w, rfl, -⟩
    · exact hp
    · exact absurd (by simp) hb.1
  · exact absurd (by simp) ha.1

/-- In a string that is not closed, because it is cut off, no member begins. A quote in it is escaped, and so is
every quote behind that. -/
theorem Cuts.unclosed {p w r : Text} (hp : afterStringBody p = none) (h : afterStringBody (p ++ w) = some r) :
    Cuts .string names p (Piece.passedAll p) := by
  match p with
  | [] => exact .nil
  | c :: p =>
    have hquote : c ≠ CodePoint.quote := by
      rintro rfl
      rw [afterStringBody_quote] at hp
      cases hp
    by_cases hslash : c = CodePoint.backslash
    · subst hslash
      refine .passed (memberAt_of_ne hquote _ _ _) ?_
      match p with
      | [] => exact .nil
      | e :: p =>
        have hline : e ≠ CodePoint.newline := by
          rintro rfl
          rw [List.cons_append, List.cons_append, afterStringBody.eq_def] at h
          simp [CodePoint.newline, CodePoint.quote, CodePoint.backslash, CodePoint.ofChar] at h
        rw [List.cons_append, List.cons_append, afterStringBody_escape hline] at h
        rw [afterStringBody_escape hline] at hp
        refine .passed ?_ (Cuts.unclosed hp h)
        -- the escaped code point may be a quote, but the next quote behind it is escaped as well
        by_cases he : e = CodePoint.quote
        · rw [he]
          exact memberAt_unclosed hnames hp
        · exact memberAt_of_ne he _ _ _
    · rw [List.cons_append, afterStringBody_plain hquote hslash] at h
      rw [afterStringBody_plain hquote hslash] at hp
      exact .passed (memberAt_of_ne hquote _ _ _) (Cuts.unclosed hp h)

/-! ## Texts that are cut off -/

omit hnames in
/-- A text is cut off in front of a code point or behind it. The cases of a cut member are made by this, one quote
after the other. -/
theorem cut_cases {a x p w : Text} {c : CodePoint} (h : a ++ c :: x = p ++ w) :
    (∃ b, a = p ++ b) ∨ ∃ q, p = a ++ c :: q ∧ x = q ++ w := by
  rcases List.append_eq_append_iff.1 h with ⟨q, rfl, hq⟩ | ⟨b, rfl, -⟩
  · cases q with
    | nil => exact Or.inl ⟨[], by simp⟩
    | cons d q =>
      obtain ⟨rfl, rfl⟩ := List.cons.inj hq
      exact Or.inr ⟨q, rfl, rfl⟩
  · exact Or.inl ⟨b, rfl⟩

/-- In what is left of a member no other begins, wherever the member is cut. -/
theorem Cuts.broken {name gap v p w : Text} (hname : IsBare name) (hgap : IsBare gap)
    (hv : ∀ r, afterStringBody (v ++ r) = some r) (hw : w ≠ [])
    (h : CodePoint.quote :: (name ++ CodePoint.quote :: (gap ++ CodePoint.quote :: v)) = p ++ w) :
    Cuts .string names p (Piece.passedAll p) := by
  have hrun : ∀ {q : Text}, IsBare q → Cuts .string names q (Piece.passedAll q) := fun hq => by
    simpa using Cuts.quoteFree hq.1 .nil
  -- the cut is in front of one of the three quotes, or in the string behind the last of them
  rcases cut_cases (a := []) h with ⟨b, hb⟩ | ⟨p, rfl, hname'⟩
  · obtain ⟨rfl, -⟩ := List.append_eq_nil_iff.1 hb.symm
    exact .nil
  rcases cut_cases hname' with ⟨b, rfl⟩ | ⟨p, rfl, hgap'⟩
  · have hp := hname.of_append
    exact .passed (memberAt_unclosed hnames hp.unclosed) (hrun hp)
  simp only [List.nil_append, Piece.passedAll_cons, Piece.passedAll_append]
  rcases cut_cases hgap' with ⟨b, rfl⟩ | ⟨p, rfl, rfl⟩
  · have hp := hgap.of_append
    refine .passed (memberAt_bare_unclosed hnames hname hp.unclosed) (.quoteFree hname.1 ?_)
    exact .passed (memberAt_unclosed hnames hp.unclosed) (hrun hp)
  have hp := unclosed_of_append hw hv
  simp only [Piece.passedAll_cons, Piece.passedAll_append]
  refine .passed (memberAt_bare_bare_unclosed hnames hname hgap hp) (.quoteFree hname.1 ?_)
  refine .passed (memberAt_bare_unclosed hnames hgap hp) (.quoteFree hgap.1 ?_)
  exact .passed (memberAt_unclosed hnames hp) (Cuts.unclosed hnames hp (by simpa using hv []))

/-- A text that is cut off is cut into the pieces that are left of the whole text. The induction is on the pieces,
for every place of the cut. -/
theorem Cuts.take {t : Text} {ps : List Piece} (h : Cuts .string names t ps) (n : Nat) :
    Cuts .string names (t.take n) (Piece.upTo n ps) := by
  induction h generalizing n with
  | nil => simpa [Piece.upTo] using Cuts.nil
  | @passed c t ps h _ ih =>
    -- a member of the shorter text would be one of the whole text
    cases n with
    | zero => exact .nil
    | succ n =>
      have hnone : memberAt .string names (c :: t.take n) = none := by
        rw [Option.eq_none_iff_forall_ne_some]
        intro e he
        have hwhole := memberAt_append hnames he (t.drop n)
        rw [List.cons_append, List.take_append_drop, h] at hwhole
        cases hwhole
      simpa [Piece.upTo, Piece.text] using Cuts.passed hnone (ih n)
  | @member c lead value t ps h _ ih =>
    obtain ⟨name, gap, v, hname, hgap, rfl, rfl, rfl, hv⟩ := lead_of_memberAt hnames h
    obtain ⟨p, hp⟩ :
        ∃ p, p = Piece.member (CodePoint.quote :: (name ++ CodePoint.quote :: gap)) (CodePoint.quote :: v) := ⟨_, rfl⟩
    have hpiece : p.text = CodePoint.quote :: (name ++ CodePoint.quote :: (gap ++ CodePoint.quote :: v)) := by
      simp [hp, Piece.text]
    have htext : CodePoint.quote :: ((name ++ CodePoint.quote :: gap) ++ (CodePoint.quote :: v ++ t)) = p.text ++ t := by
      simp [hpiece]
    rw [htext, List.take_append, ← hp, Piece.upTo]
    split
    -- the cut is behind the member, which is found as before
    · next hwhole =>
      have hmember := Cuts.stringMember (fun n hn => (hnames n hn).1) hname hgap hv (ih (n - p.text.length))
      rw [List.take_of_length_le hwhole, hpiece, hp]
      rw [hpiece] at hmember
      simpa using hmember
    -- the cut is in the member, and nothing is left of what follows it
    · next hbroken =>
      have hrest : n - p.text.length = 0 := by omega
      rw [hrest, List.take_zero, List.append_nil]
      refine Cuts.broken hnames (hnames name hname) hgap.isBare hv (w := p.text.drop n) ?_ ?_
      · simpa using hbroken
      · rw [List.take_append_drop, hpiece]

end Names

/-! ## The pieces of a tree -/

section Trees

variable (named : Text → Bool)

/-- The pieces of a member, if those of its value are known. A string under one of the names is one piece with its
name. -/
def leadPieces (lead : Lead) (s : Spelling) (pieces : List Piece) : List Piece :=
  Piece.passedAll lead.before.text
    ++ if named (Glyph.decode lead.name) && Kind.string.takes s then
      [.member (CodePoint.quote :: (Glyph.textOf lead.name ++ CodePoint.quote :: lead.colonText)) s.text]
    else Piece.passedAll (CodePoint.quote :: (Glyph.textOf lead.name ++ CodePoint.quote :: lead.colonText)) ++ pieces

mutual

/-- The pieces of a tree: the string members under the names that are meant, and what stands around them. -/
def spellingPieces : Spelling → List Piece
  | .atom a => Piece.passedAll a.text
  | .emptyArray b => Piece.passedAll (Spelling.emptyArray b).text
  | .emptyObject b => Piece.passedAll (Spelling.emptyObject b).text
  | .array items => .passed '[' :: itemPieces items ++ [.passed ']']
  | .object members => .passed CodePoint.openBrace :: memberPieces members ++ [.passed CodePoint.closeBrace]

def itemPieces : Items → List Piece
  | .last before s after => Piece.passedAll before.text ++ spellingPieces s ++ Piece.passedAll after.text
  | .cons before s after rest =>
    Piece.passedAll before.text ++ spellingPieces s ++ Piece.passedAll after.text ++ .passed ',' :: itemPieces rest

def memberPieces : Members → List Piece
  | .last lead s after => leadPieces named lead s (spellingPieces s) ++ Piece.passedAll after.text
  | .cons lead s after rest =>
    leadPieces named lead s (spellingPieces s) ++ Piece.passedAll after.text ++ .passed ',' :: memberPieces rest

end

/-- The pieces of a body. -/
def sourcePieces (src : Source) : List Piece :=
  Piece.passedAll src.before.text ++ spellingPieces named src.root ++ Piece.passedAll src.after.text

end Trees

section Strings

variable {names : List Text} (hnames : ∀ n ∈ names, Anchored n)

include hnames

/-- A string with no value of a member behind it is passed over, up to its closing quote. The induction is on the
glyphs, and an escaped quote is the only one at which a name could begin. -/
theorem Cuts.glyphs {gs : List Glyph} {r : Text} {ps : List Piece}
    (hr : ∀ c ∈ (skipSpace r).head?, isCloser c = true ∨ c = ':')
    (hnone : tailFits names gs = true → valueBehind .string r = none) (h : Cuts .string names r ps) :
    Cuts .string names (Glyph.textOf gs ++ CodePoint.quote :: r)
      (Piece.passedAll (Glyph.textOf gs) ++ .passed CodePoint.quote :: ps) := by
  induction gs with
  | nil => exact .passed (memberAt_closing .string hnames hr) h
  | cons g gs ih =>
    rw [Glyph.textOf_cons, List.append_assoc, Piece.passedAll_append, List.append_assoc]
    by_cases hg : ∃ d h, g = .letter CodePoint.quote d h
    · obtain ⟨d, hd, rfl⟩ := hg
      simp only [tailFits, decide_true, Bool.true_and, Bool.or_eq_true] at hnone
      refine .passed (memberAt_of_ne (by decide) _ _ _) (.passed ?_ (ih fun htail => hnone (Or.inr htail)))
      show memberAt .string names (CodePoint.quote :: (Glyph.textOf gs ++ CodePoint.quote :: r)) = none
      rw [memberAt_textOf .string hnames]
      split
      · next hcontains => exact hnone (Or.inl hcontains)
      · rfl
    · refine .quoteFree (quote_not_mem_text fun d h heq => hg ⟨d, h, heq⟩) (ih fun htail => hnone ?_)
      cases g with
      | letter e d hd => simp [tailFits, htail]
      | _ => exact htail

/-- A string with no value of a member behind it is passed over, with its quotes. -/
theorem Cuts.string (gs : List Glyph) {r : Text} {ps : List Piece}
    (hr : ∀ c ∈ (skipSpace r).head?, isCloser c = true ∨ c = ':')
    (hnone : fits names gs = true → valueBehind .string r = none) (h : Cuts .string names r ps) :
    Cuts .string names (CodePoint.quote :: (Glyph.textOf gs ++ CodePoint.quote :: r))
      (Piece.passedAll (CodePoint.quote :: (Glyph.textOf gs ++ [CodePoint.quote])) ++ ps) := by
  simp only [fits, Bool.or_eq_true] at hnone
  have hopening : memberAt .string names (CodePoint.quote :: (Glyph.textOf gs ++ CodePoint.quote :: r)) = none := by
    rw [memberAt_textOf .string hnames]
    split
    · next hcontains => exact hnone (Or.inl hcontains)
    · rfl
  have hglyphs := Cuts.glyphs hnames hr (fun htail => hnone (Or.inr htail)) h
  simpa [Piece.passedAll] using Cuts.passed hopening hglyphs

/-- A value without others in it is passed over, as behind it no value of a member begins. Only strings have quotes,
so only these need more than being skipped. -/
theorem cuts_atom (a : Atom) {r : Text} (hr : Follows r) {ps : List Piece} (h : Cuts .string names r ps) :
    Cuts .string names (a.text ++ r) (Piece.passedAll a.text ++ ps) := by
  rcases a.string_or with ⟨gs, rfl⟩ | ha
  · have hstring := Cuts.string hnames gs (fun c hc => Or.inl (hr c hc))
      (fun _ => valueBehind_of_follows .string hr) h
    simpa [Atom.text] using hstring
  · exact .quoteFree (quote_not_mem_atom ha) h

end Strings

theorem quote_not_mem_enclosed {o c : CodePoint} (ho : CodePoint.quote ≠ o) (hc : CodePoint.quote ≠ c) (b : Blanks) :
    CodePoint.quote ∉ o :: b.text ++ [c] := by
  simp [ho, hc, quote_not_mem_blanks b]

theorem isGap_colonText (lead : Lead) : IsGap lead.colonText :=
  ⟨lead.beforeColon.text, lead.afterColon.text, fun c hc => isBlank_of_isSpace (lead.beforeColon.spaces c hc),
    fun c hc => isBlank_of_isSpace (lead.afterColon.spaces c hc), rfl⟩

theorem exists_glyphs_of_takes {s : Spelling} (h : Kind.string.takes s = true) : ∃ gs, s = .atom (.string gs) := by
  cases s with
  | atom a =>
    cases a with
    | string gs => exact ⟨gs, rfl⟩
    | _ => cases h
  | _ => cases h

section Trees

variable {names : List Text}

/-- A member in front, when the pieces of its value are known. If it is a string under one of the names it is one
piece, and else the pieces of the value follow its name. -/
theorem cuts_lead (hnames : ∀ n ∈ names, Anchored n) {lead : Lead}
    (hkey : CodePoint.backslash ∉ Glyph.textOf lead.name) {s : Spelling} {r : Text} (hr : Follows r)
    {pieces ps : List Piece} (hs : Cuts .string names (s.text ++ r) (pieces ++ ps))
    (h : Cuts .string names r ps) :
    Cuts .string names (lead.text ++ (s.text ++ r)) (leadPieces names.contains lead s pieces ++ ps) := by
  have htext : lead.text ++ (s.text ++ r) = lead.before.text
      ++ CodePoint.quote :: (Glyph.textOf lead.name ++ CodePoint.quote :: (lead.colonText ++ (s.text ++ r))) := by
    simp [Lead.text]
  rw [htext, leadPieces, List.append_assoc]
  refine .quoteFree (quote_not_mem_blanks lead.before) ?_
  split
  -- the member is a string under one of the names
  · next hmember =>
    rw [Bool.and_eq_true, List.contains_iff_mem, decode_of_not_mem hkey] at hmember
    obtain ⟨gs, rfl⟩ := exists_glyphs_of_takes hmember.2
    have hclosed : ∀ t, afterStringBody (Glyph.textOf gs ++ [CodePoint.quote] ++ t) = some t := by
      intro t
      rw [List.append_assoc]
      exact afterString_glyphs gs t
    have hcuts := Cuts.stringMember (fun n hn => (hnames n hn).quoteFree) hmember.1 (isGap_colonText lead) hclosed h
    simpa [Spelling.text, Atom.text] using hcuts
  -- its name is none of those, or its value is no string
  · next hmember =>
    have hcolon : ∀ c ∈ (skipSpace (lead.colonText ++ (s.text ++ r))).head?, isCloser c = true ∨ c = ':' := by
      intro c hc
      unfold Lead.colonText at hc
      rw [List.append_assoc, Blanks.skipSpace_append, List.cons_append, skipSpace_cons (by decide)] at hc
      exact Or.inr (Option.some.inj hc).symm
    have hnone : fits names lead.name = true → valueBehind .string (lead.colonText ++ (s.text ++ r)) = none := by
      intro hfits
      rw [fits_of_not_mem names hkey] at hfits
      rw [hfits, Bool.true_and] at hmember
      rw [valueBehind_colonText .string lead s hr, if_neg hmember]
    have hcuts := Cuts.string hnames lead.name hcolon hnone (.quoteFree (quote_not_mem_colonText lead) hs)
    simpa using hcuts

mutual

/-- The scan cuts the text of a tree as the tree tells, and goes on behind it. That no name holds an escape is
needed here: it makes the names that fit those that are meant. -/
theorem cuts_spelling (hnames : ∀ n ∈ names, Anchored n) (s : Spelling)
    (hkeys : ∀ n ∈ s.names, CodePoint.backslash ∉ Glyph.textOf n) {r : Text} (hr : Follows r) {ps : List Piece}
    (h : Cuts .string names r ps) :
    Cuts .string names (s.text ++ r) (spellingPieces names.contains s ++ ps) := by
  cases s with
  | atom a => exact cuts_atom hnames a hr h
  | emptyArray b => exact .quoteFree (quote_not_mem_enclosed (by decide) (by decide) b) h
  | emptyObject b => exact .quoteFree (quote_not_mem_enclosed (by decide) (by decide) b) h
  | array items =>
    have hclose := Cuts.passed (memberAt_of_ne (c := ']') (by decide) .string names r) h
    have hitems := cuts_items hnames items hkeys (Follows.closer (by decide) r) hclose
    simpa [Spelling.text, spellingPieces] using
      Cuts.passed (memberAt_of_ne (c := '[') (by decide) .string names _) hitems
  | object members =>
    have hclose := Cuts.passed (memberAt_of_ne (c := CodePoint.closeBrace) (by decide) .string names r) h
    have hmembers := cuts_members hnames members hkeys (Follows.closer (by decide) r) hclose
    simpa [Spelling.text, spellingPieces] using
      Cuts.passed (memberAt_of_ne (c := CodePoint.openBrace) (by decide) .string names _) hmembers

theorem cuts_items (hnames : ∀ n ∈ names, Anchored n) (items : Items)
    (hkeys : ∀ n ∈ items.names, CodePoint.backslash ∉ Glyph.textOf n) {r : Text} (hr : Follows r) {ps : List Piece}
    (h : Cuts .string names r ps) :
    Cuts .string names (items.text ++ r) (itemPieces names.contains items ++ ps) := by
  cases items with
  | last before s after =>
    have hafter := Cuts.quoteFree (quote_not_mem_blanks after) h
    have hs := cuts_spelling hnames s hkeys (hr.blanks after) hafter
    simpa [Items.text, itemPieces] using Cuts.quoteFree (quote_not_mem_blanks before) hs
  | cons before s after rest =>
    have hrest := cuts_items hnames rest (fun n hn => hkeys n (List.mem_append_right _ hn)) hr h
    have hcomma := Cuts.passed (memberAt_of_ne (c := ',') (by decide) .string names _) hrest
    have hs := cuts_spelling hnames s (fun n hn => hkeys n (List.mem_append_left _ hn)) (follows_comma after _)
      (.quoteFree (quote_not_mem_blanks after) hcomma)
    simpa [Items.text, itemPieces] using Cuts.quoteFree (quote_not_mem_blanks before) hs

theorem cuts_members (hnames : ∀ n ∈ names, Anchored n) (members : Members)
    (hkeys : ∀ n ∈ members.names, CodePoint.backslash ∉ Glyph.textOf n) {r : Text} (hr : Follows r) {ps : List Piece}
    (h : Cuts .string names r ps) :
    Cuts .string names (members.text ++ r) (memberPieces names.contains members ++ ps) := by
  cases members with
  | last lead s after =>
    have hafter := Cuts.quoteFree (quote_not_mem_blanks after) h
    have hs := cuts_spelling hnames s (fun n hn => hkeys n (List.mem_cons_of_mem _ hn)) (hr.blanks after) hafter
    simpa [Members.text, memberPieces] using
      cuts_lead hnames (hkeys lead.name List.mem_cons_self) (hr.blanks after) hs hafter
  | cons lead s after rest =>
    have hrest := cuts_members hnames rest
      (fun n hn => hkeys n (List.mem_cons_of_mem _ (List.mem_append_right _ hn))) hr h
    have hafter := Cuts.quoteFree (quote_not_mem_blanks after)
      (Cuts.passed (memberAt_of_ne (c := ',') (by decide) .string names _) hrest)
    have hfollows := follows_comma after (rest.text ++ r)
    have hs := cuts_spelling hnames s
      (fun n hn => hkeys n (List.mem_cons_of_mem _ (List.mem_append_left _ hn))) hfollows hafter
    simpa [Members.text, memberPieces] using
      cuts_lead hnames (hkeys lead.name List.mem_cons_self) hfollows hs hafter

end

/-- The scan cuts a JSON text as its tree tells, with the blanks around it. A text that breaks off is compared with
these pieces. -/
theorem cuts_source (hnames : ∀ n ∈ names, Anchored n) (src : Source)
    (hkeys : ∀ n ∈ src.root.names, CodePoint.backslash ∉ Glyph.textOf n) :
    Cuts .string names src.text (sourcePieces names.contains src) := by
  have hnil : Cuts .string names [] [] := .nil
  have hend := Cuts.quoteFree (quote_not_mem_blanks src.after) hnil
  have hroot := cuts_spelling hnames src.root hkeys (Follows.nil.blanks src.after) hend
  simpa [Source.text, sourcePieces] using Cuts.quoteFree (quote_not_mem_blanks src.before) hroot

end Trees

end PropertyFilter

namespace Filter

open PropertyFilter (Piece sourcePieces)

/-- A filter for strings with plain names masks a JSON text that is cut off as far as it goes, if none of its names
holds an escape. The strings under the names of the filter that are closed before the cut are replaced, and every other
code point in front of the cut stays as it is. -/
theorem apply_property_take {names : List Text} (hnames : ∀ n ∈ names, ∀ c ∈ n, isNamePart c = true)
    (replacement : Text) {mediaType : Option Text} (hjson : MediaType.isJson mediaType = true) (src : Source)
    (hkeys : ∀ n ∈ src.root.names, CodePoint.backslash ∉ Glyph.textOf n) (c : Nat) :
    Piece.textOf (Piece.upTo c (sourcePieces names.contains src)) = src.text.take c
      ∧ (Filter.property (.ofNames .string names replacement)).apply mediaType (src.text.take c)
        = .ok (Piece.textOf (Piece.maskedAll replacement (Piece.upTo c (sourcePieces names.contains src)))) := by
  have hpart : ∀ n ∈ PropertyFilter.normalNames names, ∀ c ∈ n, isNamePart c = true := fun n hn =>
    hnames n (PropertyFilter.mem_normalNames.1 hn)
  have hbare : ∀ n ∈ PropertyFilter.normalNames names, PropertyFilter.IsBare n := by
    intro n hn
    constructor
    · intro hmem
      exact absurd (hpart n hn _ hmem) (by decide)
    · intro hmem
      exact absurd (hpart n hn _ hmem) (by decide)
  have hcuts := PropertyFilter.cuts_source (fun n hn => PropertyFilter.anchored_of_isNamePart (hpart n hn)) src hkeys
  have hcontains : (PropertyFilter.normalNames names).contains = names.contains :=
    funext (PropertyFilter.contains_normalNames names)
  rw [hcontains] at hcuts
  have hmask : (PropertyFilter.ofNames .string names replacement).mask (src.text.take c)
      = Piece.textOf (Piece.maskedAll replacement (Piece.upTo c (sourcePieces names.contains src))) :=
    (hcuts.take hbare c).mask
  constructor
  · rw [Piece.textOf_upTo, hcuts.textOf]
  · rw [apply_property hjson, hmask]

/-- The text is cut off in the second of two strings under the name. -/
theorem apply_property_take_second :
    (Filter.property (.ofNames .string ["id"] "XXX")).apply (some "application/json")
        "\x7b\"id\": \"a\",\"id\":\"b" = .ok "\x7b\"id\": \"XXX\",\"id\":\"b" := by
  exact (@apply_property_take ["id"] (by decide) "XXX" (some "application/json") (by decide)
    ⟨.empty, .object (.cons ⟨.empty, Glyph.written false "id", .empty, ⟨" ", by decide⟩⟩
        (.atom (.string (Glyph.written false "a"))) .empty
      (.last ⟨.empty, Glyph.written false "id", .empty, .empty⟩
        (.atom (.string (Glyph.written false "bc"))) .empty)), .empty⟩ (by decide) 18).2

end Filter

end BodyScrub
