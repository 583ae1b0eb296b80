import BodyScrub.Proofs.Json.Strings
import BodyScrub.Proofs.PropertyFilter.Scan

/-!
# Masked trees

What a property filter does to the text of a JSON value is what a function on its syntax tree does: the values of the
members that fit are exchanged for the replacement, and every other token stays (`mask_text`). The function knows names
as they are spelled; what it means for names as they are read is left to `Proofs.PropertyFilter.Masking`.

* **`maskSpelling`**: the tree with members masked.
* **`maskFrom_spelling`**: the scan over the text of a tree, and over whatever may follow it.
-/

namespace BodyScrub.PropertyFilter

open Json

/-! ## The function on trees -/

/-- The replacement as it is spelled. -/
def masked (f : PropertyFilter) : Spelling := .atom (.string (Glyph.written false f.replacement))

mutual

/-- A tree with the values of the members that fit replaced. A replaced value is not looked into. -/
def maskSpelling (f : PropertyFilter) : Spelling → Spelling
  | .atom a => .atom a
  | .emptyArray b => .emptyArray b
  | .emptyObject b => .emptyObject b
  | .array items => .array (f.maskItems items)
  | .object members => .object (f.maskMembers members)

def maskItems (f : PropertyFilter) : Items → Items
  | .last before s after => .last before (f.maskSpelling s) after
  | .cons before s after rest => .cons before (f.maskSpelling s) after (f.maskItems rest)

def maskMembers (f : PropertyFilter) : Members → Members
  | .last lead s after =>
    .last lead (if fits f.names lead.name && f.kind.takes s then f.masked else f.maskSpelling s) after
  | .cons lead s after rest =>
    .cons lead (if fits f.names lead.name && f.kind.takes s then f.masked else f.maskSpelling s) after
      (f.maskMembers rest)

end

/-- A body with the values of the members that fit replaced. -/
def maskSource (f : PropertyFilter) (src : Source) : Source := ⟨src.before, f.maskSpelling src.root, src.after⟩

theorem text_masked (f : PropertyFilter) : f.masked.text = writeString false f.replacement := by
  show CodePoint.quote :: Glyph.textOf (Glyph.written false f.replacement) ++ [CodePoint.quote] = _
  rw [Glyph.textOf_written]
  rfl

/-! ## What stands behind a string -/

theorem skipBlanks_append (b : Blanks) (t : Text) : skipBlanks (b.text ++ t) = skipBlanks t :=
  List.dropWhile_append_of_pos fun c hc => isBlank_of_isSpace (b.spaces c hc)

theorem skipBlanks_cons {c : CodePoint} (h : c.isBlank = false) (t : Text) : skipBlanks (c :: t) = c :: t := by
  unfold skipBlanks
  rw [List.dropWhile_cons, h]
  rfl

theorem skipBlanks_text (s : Spelling) (r : Text) : skipBlanks (s.text ++ r) = s.text ++ r := by
  obtain ⟨c, t, htext, hc⟩ := s.text_cons
  rw [htext]
  exact skipBlanks_cons (isBlank_of_opensValue hc) _

/-- Behind a value no other begins: there is a comma or a closing bracket, and no colon. -/
theorem valueBehind_of_follows (kind : Kind) {r : Text} (hr : Follows r) : valueBehind kind r = none := by
  have hskip : skipBlanks r = skipBlanks (skipSpace r) := by
    rw [← Blanks.leading_append r, skipBlanks_append, Blanks.leading_append]
  unfold valueBehind
  rw [hskip]
  cases hclose : skipSpace r with
  | nil => rfl
  | cons c t =>
    have hcloser : isCloser c = true := hr c (by rw [hclose]; rfl)
    simp only [isCloser, Bool.or_eq_true, decide_eq_true_eq] at hcloser
    rcases hcloser with (rfl | rfl) | rfl
    all_goals
      rw [skipBlanks_cons (by decide)]
      rfl

/-- Behind a colon stands the value of a member, if it is of the kind, and all of it. The blanks around the colon
are skipped by the scan, all of those that JSON has. -/
theorem valueBehind_colonText (kind : Kind) (lead : Lead) (s : Spelling) {r : Text} (hr : Follows r) :
    valueBehind kind (lead.colonText ++ (s.text ++ r)) = if kind.takes s then some ⟨s.text ++ r, r⟩ else none := by
  have hskip : skipBlanks (lead.colonText ++ (s.text ++ r))
      = CodePoint.ofChar ':' :: (lead.afterColon.text ++ (s.text ++ r)) := by
    unfold Lead.colonText
    rw [List.append_assoc, skipBlanks_append]
    exact skipBlanks_cons (by decide) _
  unfold valueBehind
  rw [hskip]
  dsimp only
  rw [if_pos rfl, skipBlanks_append, skipBlanks_text, kind.after_text s hr]
  cases kind.takes s with
  | false => rfl
  | true => rfl

/-- Where a string is no name of a member, its fitting does not matter. A string that is an item of an array is
never replaced. -/
theorem maskBehind_of_follows (f : PropertyFilter) {r : Text} (hr : Follows r) : maskBehind f r = maskFrom f 0 r := by
  unfold maskBehind
  rw [valueBehind_of_follows f.kind hr]

/-- A member that fits keeps its colon and the blanks around it, and has the replacement for its value. -/
theorem maskBehind_colonText {f : PropertyFilter} (lead : Lead) {s : Spelling} (hs : f.kind.takes s = true) {r : Text}
    (hr : Follows r) :
    maskBehind f (lead.colonText ++ (s.text ++ r)) = lead.colonText ++ (f.masked.text ++ maskFrom f 0 r) := by
  have htake : (lead.colonText ++ (s.text ++ r)).take
      ((lead.colonText ++ (s.text ++ r)).length - (s.text ++ r).length) = lead.colonText := by
    rw [List.length_append, Nat.add_sub_cancel]
    exact List.take_left
  unfold maskBehind
  rw [valueBehind_colonText f.kind lead s hr, hs, if_pos rfl]
  dsimp only
  rw [htake, text_masked, List.append_assoc]

/-! ## Tokens without quotes -/

theorem quote_not_mem_blanks (b : Blanks) : CodePoint.quote ∉ b.text := by
  intro hmem
  exact absurd (b.spaces _ hmem) (by decide)

theorem quote_not_mem_colonText (lead : Lead) : CodePoint.quote ∉ lead.colonText := by
  unfold Lead.colonText
  rw [List.mem_append, List.mem_cons]
  rintro (hmem | heq | hmem)
  · exact quote_not_mem_blanks _ hmem
  · exact absurd heq (by decide)
  · exact quote_not_mem_blanks _ hmem

theorem quote_not_mem_digits {ds : Text} (h : AllDigits ds) : CodePoint.quote ∉ ds := by
  intro hmem
  exact absurd (h _ hmem) (by decide)

theorem quote_not_mem_exponent (e : Exponent) : CodePoint.quote ∉ e.text := by
  unfold Exponent.text
  rw [List.cons_append, List.mem_cons, List.mem_append]
  rintro (heq | hmem | hmem)
  · rcases e.letter_eq with h | h
    all_goals
      rw [h] at heq
      exact absurd heq (by decide)
  · cases hsign : e.sign
    all_goals
      rw [hsign] at hmem
      exact absurd hmem (by decide)
  · exact quote_not_mem_digits e.allDigits hmem

theorem quote_not_mem_numeral (n : Numeral) : CodePoint.quote ∉ n.text := by
  -- digits, a point, and an exponent with its letter and sign
  have hmagnitude : CodePoint.quote ∉ n.magnitudeText := by
    unfold Numeral.magnitudeText
    rw [List.mem_append, List.mem_append]
    rintro ((hmem | hmem) | hmem)
    · exact quote_not_mem_digits n.isWhole.allDigits hmem
    · cases hf : n.fraction with
      | none =>
        rw [hf] at hmem
        exact absurd hmem List.not_mem_nil
      | some ds =>
        rw [hf, Numeral.fractionText, List.mem_cons] at hmem
        rcases hmem with heq | hmem
        · exact absurd heq (by decide)
        · exact quote_not_mem_digits (n.isFraction ds hf).2 hmem
    · cases he : n.exponent with
      | none =>
        rw [he] at hmem
        exact absurd hmem List.not_mem_nil
      | some e =>
        rw [he] at hmem
        exact quote_not_mem_exponent e hmem
  unfold Numeral.text
  split
  · rw [List.mem_cons]
    rintro (heq | hmem)
    · exact absurd heq (by decide)
    · exact hmagnitude hmem
  · exact hmagnitude

/-- Words and numbers hold no quotes, so the scan passes over them. -/
theorem quote_not_mem_atom {a : Atom} (ha : ∀ gs, a ≠ .string gs) : CodePoint.quote ∉ a.text := by
  cases a with
  | word w v h =>
    rcases mem_wordValues.1 h with ⟨rfl, -⟩ | ⟨rfl, -⟩ | ⟨rfl, -⟩
    all_goals
      rw [Atom.text]
      decide
  | nonFinite w x h =>
    rcases mem_nonFiniteWords.1 h with ⟨rfl, -⟩ | ⟨rfl, -⟩ | ⟨rfl, -⟩
    all_goals
      rw [Atom.text]
      decide
  | number n => exact quote_not_mem_numeral n
  | string gs => exact absurd rfl (ha gs)

/-! ## The scan over a tree -/

section Scan

variable {f : PropertyFilter} (hnames : ∀ n ∈ f.names, Anchored n)

include hnames

/-- A value without others in it stays as it is where no colon follows. Only the value of a member is ever replaced,
and this is done at its name. -/
theorem maskFrom_atom (a : Atom) {r : Text} (hr : Follows r) :
    maskFrom f 0 (a.text ++ r) = a.text ++ maskFrom f 0 r := by
  rcases a.string_or with ⟨gs, rfl⟩ | ha
  · have htext : ∀ t, (Atom.string gs).text ++ t = CodePoint.quote :: (Glyph.textOf gs ++ CodePoint.quote :: t) := by
      intro t
      simp [Atom.text]
    rw [htext, htext, maskFrom_string hnames gs fun c hc => Or.inl (hr c hc), maskBehind_of_follows f hr, ite_self]
  · exact maskFrom_quoteFree f (quote_not_mem_atom ha) r

/-- The scan of a member, when that of its value is known. The value is masked whole if name and kind fit, and else
it is looked into. -/
theorem maskFrom_lead (lead : Lead) {s : Spelling} {r : Text} (hr : Follows r)
    (hs : maskFrom f 0 (s.text ++ r) = (f.maskSpelling s).text ++ maskFrom f 0 r) :
    maskFrom f 0 (lead.text ++ (s.text ++ r))
      = lead.text ++ ((if fits f.names lead.name && f.kind.takes s then f.masked else f.maskSpelling s).text
          ++ maskFrom f 0 r) := by
  -- a lead is blanks, a quoted name and the colon, and only the quote of the name may begin a member
  have htext : ∀ t, lead.text ++ t = lead.before.text
      ++ CodePoint.quote :: (Glyph.textOf lead.name ++ CodePoint.quote :: (lead.colonText ++ t)) := by
    intro t
    simp [Lead.text]
  have hcolon : ∀ c ∈ (skipSpace (lead.colonText ++ (s.text ++ r))).head?, isCloser c = true ∨ c = ':' := by
    intro c hc
    unfold Lead.colonText at hc
    rw [List.append_assoc, Blanks.skipSpace_append, List.cons_append, skipSpace_cons (by decide)] at hc
    exact Or.inr (Option.some.inj hc).symm
  have hpassed : maskFrom f 0 (lead.colonText ++ (s.text ++ r))
      = lead.colonText ++ ((f.maskSpelling s).text ++ maskFrom f 0 r) := by
    rw [maskFrom_quoteFree f (quote_not_mem_colonText lead), hs]
  -- the blanks are passed over, and the string is the name
  rw [htext, htext, maskFrom_quoteFree f (quote_not_mem_blanks lead.before),
    maskFrom_string hnames lead.name hcolon, hpassed]
  cases hfits : fits f.names lead.name with
  | false => rw [if_neg (by decide), Bool.false_and, if_neg (by decide)]
  | true =>
    -- the name fits, so the kind of the value decides
    rw [if_pos rfl, Bool.true_and]
    cases htakes : f.kind.takes s with
    | true => rw [if_pos rfl, maskBehind_colonText lead htakes hr]
    | false =>
      have hnone : valueBehind f.kind (lead.colonText ++ (s.text ++ r)) = none := by
        rw [valueBehind_colonText f.kind lead s hr, htakes]
        rfl
      rw [if_neg (by decide), maskBehind, hnone]
      exact congrArg (fun t => lead.before.text ++ CodePoint.quote :: (Glyph.textOf lead.name
        ++ CodePoint.quote :: t)) hpassed

end Scan

/-- The scan of what stands between two brackets, which are passed over. Arrays and objects are scanned by this one
lemma. -/
theorem maskFrom_enclosed {f : PropertyFilter} {o c : CodePoint} (ho : o ≠ CodePoint.quote) (hc : c ≠ CodePoint.quote)
    {t u r : Text} (h : maskFrom f 0 (t ++ c :: r) = u ++ maskFrom f 0 (c :: r)) :
    maskFrom f 0 (o :: t ++ [c] ++ r) = o :: u ++ [c] ++ maskFrom f 0 r := by
  have htext : ∀ t w : Text, o :: t ++ [c] ++ w = o :: (t ++ c :: w) := by
    intro t w
    simp
  rw [htext, htext, maskFrom_of_ne ho, h, maskFrom_of_ne hc]

mutual

/-- The scan masks the text of a tree as the tree is masked, and goes on behind it. The induction is on the tree,
with the text that follows left open, together with items and members. -/
theorem maskFrom_spelling {f : PropertyFilter} (hnames : ∀ n ∈ f.names, Anchored n) (s : Spelling) {r : Text}
    (hr : Follows r) : maskFrom f 0 (s.text ++ r) = (f.maskSpelling s).text ++ maskFrom f 0 r := by
  cases s with
  | atom a => exact maskFrom_atom hnames a hr
  | emptyArray b =>
    exact maskFrom_enclosed (by decide) (by decide) (maskFrom_quoteFree f (quote_not_mem_blanks b) _)
  | emptyObject b =>
    exact maskFrom_enclosed (by decide) (by decide) (maskFrom_quoteFree f (quote_not_mem_blanks b) _)
  | array items =>
    exact maskFrom_enclosed (by decide) (by decide) (maskFrom_items hnames items (Follows.closer (by decide) r))
  | object members =>
    exact maskFrom_enclosed (by decide) (by decide) (maskFrom_members hnames members (Follows.closer (by decide) r))

theorem maskFrom_items {f : PropertyFilter} (hnames : ∀ n ∈ f.names, Anchored n) (items : Items) {r : Text}
    (hr : Follows r) : maskFrom f 0 (items.text ++ r) = (f.maskItems items).text ++ maskFrom f 0 r := by
  cases items with
  | last before s after =>
    rw [Items.text, List.append_assoc, List.append_assoc, maskFrom_quoteFree f (quote_not_mem_blanks before),
      maskFrom_spelling hnames s (hr.blanks after), maskFrom_quoteFree f (quote_not_mem_blanks after), maskItems,
      Items.text]
    simp only [List.append_assoc]
  | cons before s after rest =>
    have hs := maskFrom_spelling hnames s (follows_comma after (rest.text ++ r))
    rw [Items.text, List.append_assoc, List.append_assoc, List.append_assoc, List.cons_append,
      maskFrom_quoteFree f (quote_not_mem_blanks before), hs, maskFrom_quoteFree f (quote_not_mem_blanks after),
      maskFrom_of_ne (by decide), maskFrom_items hnames rest hr, maskItems, Items.text]
    simp only [List.append_assoc, List.cons_append]

/-- The members of an object: each is one name, which may fit, and one value. A value that is replaced is not looked
into, and any other one is. -/
theorem maskFrom_members {f : PropertyFilter} (hnames : ∀ n ∈ f.names, Anchored n) (members : Members) {r : Text}
    (hr : Follows r) : maskFrom f 0 (members.text ++ r) = (f.maskMembers members).text ++ maskFrom f 0 r := by
  cases members with
  | last lead s after =>
    have hs := maskFrom_spelling hnames s (hr.blanks after)
    rw [Members.text, List.append_assoc, List.append_assoc, maskFrom_lead hnames lead (hr.blanks after) hs,
      maskFrom_quoteFree f (quote_not_mem_blanks after), maskMembers, Members.text]
    simp only [List.append_assoc]
  | cons lead s after rest =>
    have hcomma := follows_comma after (rest.text ++ r)
    have hs := maskFrom_spelling hnames s hcomma
    rw [Members.text, List.append_assoc, List.append_assoc, List.append_assoc, List.cons_append,
      maskFrom_lead hnames lead hcomma hs, maskFrom_quoteFree f (quote_not_mem_blanks after),
      maskFrom_of_ne (by decide), maskFrom_members hnames rest hr, maskMembers, Members.text]
    simp only [List.append_assoc, List.cons_append]

end

/-- A JSON text is masked as its tree is masked. So what a filter does to JSON can be told without the scan. -/
theorem mask_text {f : PropertyFilter} (hnames : ∀ n ∈ f.names, Anchored n) (src : Source) :
    f.mask src.text = (f.maskSource src).text := by
  have hend : Follows (src.after.text ++ []) := Follows.nil.blanks src.after
  have hroot := maskFrom_spelling hnames src.root hend
  have hafter := maskFrom_quoteFree f (quote_not_mem_blanks src.after) []
  rw [List.append_nil] at hroot hafter
  unfold mask Source.text
  rw [List.append_assoc, maskFrom_quoteFree f (quote_not_mem_blanks src.before), hroot, hafter]
  simp [maskSource, maskFrom]

end BodyScrub.PropertyFilter
